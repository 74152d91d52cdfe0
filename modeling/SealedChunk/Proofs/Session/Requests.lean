import SealedChunk.Proofs.Broker.Records
import SealedChunk.Proofs.Engine.Decryption
import SealedChunk.Session.Session

/-!
# Operations with the broker in memory

The broker in memory answers at once, so an operation ends with its answer unless it was called off
before it began.  An order changes the broker, a request to fetch keys does not.  The keys that an
operation notes or returns are always keys of the broker.

* `MemoryBroker.Has` — a key of the broker.
* `carry_fetch` — a request for keys.
* `has_of_decryptAs`, `has_of_keysByExternalId` — where the keys come from.
* `encrypt_of_order`, `encrypt_cases` — what an encryption does to the session.
* `mintedIds` — the keys that are minted for it.
-/

namespace SealedChunk

open Broker Crypto Engine Envelope

/-- The key is one of the broker's: there is a record with its id and its secret. -/
def Broker.MemoryBroker.Has (b : MemoryBroker) (key : Key) : Prop :=
  ∃ record, b.records.find? key.id = some record ∧ Secret.ofBase64 record.secret = .ok key.secret

namespace Engine

variable {b : MemoryBroker} {v : Variant} {e : Engine}

lemma has_of_openKey (hb : b.Orderly) {request : FetchRequest} {record : KeyRecord}
    {opened : OpenedKey} (hmem : record ∈ (b.fetch request).keys)
    (hopened : openKey v record = .ok opened) : b.Has opened.key := by
  obtain ⟨stored, hfind, rfl⟩ := MemoryBroker.mem_keys_fetch hb hmem
  obtain ⟨hsecret, hid, -⟩ := openKey_eq_ok hopened
  rw [MemoryBroker.Has, hid]
  exact ⟨stored, hfind, hsecret⟩

/-- Keys are opened from records, one from each. -/
lemma exists_record_of_openAll {records : List KeyRecord} {fetched : List FetchedKey}
    (h : (openAll v records).1 = .ok fetched) {f : FetchedKey} (hf : f ∈ fetched) :
    ∃ record ∈ records, ∃ opened, openKey v record = .ok opened ∧ opened.key = f.key := by
  induction records generalizing fetched with
  | nil =>
    cases h
    cases hf
  | cons record rest ih =>
    rw [openAll] at h
    cases hopened : openKey v record with
    | error failure =>
      rw [hopened] at h
      cases h
    | ok opened =>
      rw [hopened] at h
      obtain ⟨others, hothers, rfl⟩ := map_eq_ok_iff.1 h
      rcases List.mem_cons.1 hf with rfl | hf
      · exact ⟨record, List.mem_cons_self, opened, hopened, rfl⟩
      · obtain ⟨found, hfound, hkey⟩ := ih hothers hf
        exact ⟨found, List.mem_cons_of_mem _ hfound, hkey⟩

end Engine

namespace Session

variable {s : Session} {b : MemoryBroker} {e : Engine} {cancellation : Cancellation}

/-- A request to fetch keys leaves the session as it is. -/
lemma carry_fetch {α : Type} (hs : s.backend = .memory b) (e : Engine) (cancellation : Cancellation)
    (request : FetchRequest) (resume : Reply → Report α) :
    let ended := s.carry e cancellation (.awaiting (.fetch request) resume)
    ended.2 = s ∧ ended.1.report
      = resume (if cancellation = .before then .cancelled else .response (b.fetch request)) := by
  obtain ⟨backend, nonces⟩ := s
  obtain rfl : backend = .memory b := hs
  rw [carry, exchange]
  split_ifs
  · exact ⟨rfl, rfl⟩
  · exact ⟨rfl, rfl⟩

/-- A decryption changes nothing, and what it notes is a key of the broker, whatever comes of it. -/
lemma has_of_decryptAs (hs : s.backend = .memory b) (hb : b.Orderly) (e : Engine) (v : Variant)
    (envelope : String) (metadata : Metadata) (cancellation : Cancellation) :
    let ended := s.carry e cancellation (e.decryptAs v envelope metadata {})
    ended.2 = s ∧ ∀ key, ended.1.report.capture.key = some key → b.Has key := by
  cases hparts : Envelope.decode v envelope with
  | error error =>
    rw [decryptAs, hparts]
    exact ⟨rfl, by rintro _ ⟨⟩⟩
  | ok parts =>
    cases hbody : Base64.decode? parts.base64 with
    | none =>
      simp only [decryptAs, hparts, hbody]
      exact ⟨rfl, by rintro _ ⟨⟩⟩
    | some body =>
      rw [decryptAs_eq_awaiting hparts hbody]
      obtain ⟨hsame, hreport⟩ := carry_fetch hs e cancellation { metadata, keyIds := [parts.keyId] }
        (e.finishDecrypt v parts.keyId body {})
      refine ⟨hsame, ?_⟩
      rw [hreport]
      intro key hkey
      split_ifs at hkey
      · cases hkey
      · rcases capture_finishDecrypt e v parts.keyId body {} _ with
          ⟨hnone, -⟩ | ⟨record, rest, opened, hkeys, -, hopened, hnoted, -⟩
        · cases hnone.symm.trans hkey
        · obtain rfl := Option.some.inj (hnoted.symm.trans hkey)
          exact has_of_openKey hb (hkeys ▸ List.mem_cons_self) hopened

/-- Neither does a request by an external id, and what it returns are keys of the broker. -/
lemma has_of_keysByExternalId (hs : s.backend = .memory b) (hb : b.Orderly) (e : Engine)
    (externalId : String) (metadata : Metadata) (cancellation : Cancellation) :
    let ended := s.keysByExternalId e externalId metadata cancellation
    ended.2 = s ∧ ∀ fetched, ended.1.report.result = .ok fetched → ∀ f ∈ fetched, b.Has f.key := by
  rw [Session.keysByExternalId, Engine.keysByExternalId]
  split_ifs
  · exact ⟨rfl, by rintro _ ⟨⟩⟩
  · obtain ⟨hsame, hreport⟩ := carry_fetch hs e cancellation
      { metadata, externalIds := [externalId] } (e.finishFetch externalId {})
    refine ⟨hsame, ?_⟩
    rw [hreport]
    intro fetched hfetched f hf
    split_ifs at hfetched
    · cases hfetched
    · rw [finishFetch, receive] at hfetched
      dsimp only at hfetched
      rcases hall : openAll e.variant (b.fetch { metadata, externalIds := [externalId] }).keys with
        ⟨failure | keys, events⟩
      · rw [hall] at hfetched
        cases hfetched
      · rw [hall] at hfetched
        obtain rfl := Except.ok.inj hfetched
        obtain ⟨record, hmem, opened, hopened, hkey⟩ := exists_record_of_openAll (by rw [hall]) hf
        exact hkey ▸ has_of_openKey hb hmem hopened

/-- The ids of the keys that the broker mints for an encryption. -/
def mintedIds (s : Session) (e : Engine) (plaintext : Bytes) (inputs : EncryptInputs)
    (cancellation : Cancellation) : List String :=
  match s.backend, e.encrypt plaintext inputs {} s.nonces with
  | .memory b, (.awaiting (.create request) _, nonces) =>
    if cancellation = .before then [] else (b.create request nonces).1.keys.map (·.id)
  | _, _ => []

variable {plaintext : Bytes} {inputs : EncryptInputs} {request : CreateRequest} {between : Nonces}

/-- An encryption ends with what the broker answers to the order. -/
lemma encrypt_of_order (hs : s.backend = .memory b) (hplaintext : plaintext ≠ [])
    (horder : (e.order inputs).run s.nonces = (.ok request, between))
    (hcancellation : cancellation ≠ .before) :
    let ended := s.encrypt e plaintext inputs cancellation
    let answered := b.create request between
    ended.1.report = (e.finishEncrypt plaintext {} (.response answered.1) answered.2.2).1
      ∧ ended.2.backend = .memory answered.2.1
      ∧ s.mintedIds e plaintext inputs cancellation = answered.1.keys.map (·.id) := by
  intro ended answered
  have hempty : plaintext.isEmpty = false := by simpa using hplaintext
  simp only [ended, Session.encrypt, Engine.encrypt, mintedIds, hs, hempty, horder, exchange,
    hcancellation]
  exact ⟨rfl, rfl, rfl⟩

/-- Otherwise there is no answer and nothing is noted. -/
lemma encrypt_cases (hs : s.backend = .memory b) (e : Engine) (plaintext : Bytes)
    (inputs : EncryptInputs) (cancellation : Cancellation) :
    let ended := s.encrypt e plaintext inputs cancellation
    ((∃ failure, ended.1.report.result = .error failure) ∧ ended.1.report.capture.key = none
        ∧ ended.2.backend = .memory b ∧ s.mintedIds e plaintext inputs cancellation = [])
      ∨ ∃ request between, (e.order inputs).run s.nonces = (.ok request, between)
        ∧ plaintext ≠ [] ∧ cancellation ≠ .before := by
  intro ended
  by_cases hplaintext : plaintext = []
  · subst hplaintext
    simp only [ended, Session.encrypt, Engine.encrypt, mintedIds, hs]
    exact .inl ⟨⟨_, rfl⟩, rfl, rfl, rfl⟩
  · have hempty : plaintext.isEmpty = false := by simpa using hplaintext
    rcases horder : (e.order inputs).run s.nonces with ⟨failure | request, between⟩
    · simp only [ended, Session.encrypt, Engine.encrypt, mintedIds, hs, hempty, horder]
      exact .inl ⟨⟨_, rfl⟩, rfl, rfl, rfl⟩
    · by_cases hcancellation : cancellation = .before
      · simp only [ended, Session.encrypt, Engine.encrypt, mintedIds, hs, hempty, horder, exchange,
          hcancellation]
        exact .inl ⟨⟨_, rfl⟩, rfl, rfl, rfl⟩
      · exact .inr ⟨request, between, rfl, hplaintext, hcancellation⟩

end Session

end SealedChunk
