import SealedChunk.Proofs.Broker.Changes
import SealedChunk.Proofs.Engine.Overwrite
import SealedChunk.Session.Session

/-!
# Updates that were prepared from the same key

An update names the signature that it saw, and without force it is carried out only while the
broker still has that one: a compare-and-swap.  The update is signed for that signature and for
whether it is by force, and the broker checks it for just these.  What the broker puts in place is
signed anew, for no signature that it replaces.

So **no update is lost without notice**.  If two clients prepare updates from the same key and one
of them goes through, then the other is refused, no matter what anyone asks of the broker in
between, until the broker happens to have the signature again that both of them saw.

* `storedSignature` — the signature that an update is compared with.
* `run_update_eq_stale_iff` — the updates that are too late.
* `admits_iff` — what the broker asks of an update, without the slot that it decodes.
* **`compare_and_swap`** — when an update goes through, what it changes, and which ones it excludes.
-/

namespace SealedChunk.Broker.MemoryBroker

open Attribute Crypto

variable {b : MemoryBroker} {spec : UpdateSpec} {record : KeyRecord} {nonces later : Nonces}

/-- The signature of the mutable attributes of a key, if there is such a key. -/
def storedSignature (b : MemoryBroker) (id : String) : Option (Option String) :=
  (b.records.find? id).map (·.mutableAttributes.signature)

/-! ## Updates that are too late -/

lemma run_replacement_eq_stale_iff :
    (replacement record spec).run nonces = (.error .stale, later) ↔
      spec.force = false ∧ spec.previous ≠ record.mutableAttributes.signature ∧ later = nonces := by
  rw [← and_assoc, ← late_iff, replacement]
  constructor
  · intro h
    split_ifs at h with hlate
    · exact ⟨hlate, (Prod.ext_iff.1 h).2.symm⟩
    · split at h
      · cases h
      · split at h
        · cases h
        · split_ifs at h
          · obtain ⟨e, -, he⟩ := Drawing.run_mapError_eq_error_iff.1 h
            cases he
          · cases h
  · rintro ⟨hlate, rfl⟩
    rw [if_pos hlate]
    rfl

/-- An update of a key that is there is refused as too late only for the signature that it names. -/
lemma run_update_eq_stale_iff (hfind : b.records.find? spec.keyId = some record) :
    (b.update spec).run nonces = (.error .stale, later) ↔
      spec.force = false ∧ spec.previous ≠ record.mutableAttributes.signature ∧ later = nonces := by
  rw [← run_replacement_eq_stale_iff, update, hfind]
  constructor
  · intro h
    rcases Drawing.run_bind_eq_error_iff.1 h with h | ⟨signed, between, -, h⟩
    · exact h
    · cases h
  · exact fun h => Drawing.run_bind_eq_error_iff.2 (.inl h)

/-! ## Updates that are admitted -/

/-- What the broker asks of an update. -/
lemma admits_iff {secret : Secret} {decoded : DecodedSlot} :
    b.Admits spec record secret decoded ↔
      b.records.find? spec.keyId = some record
        ∧ (spec.force = true ∨ spec.previous = record.mutableAttributes.signature)
        ∧ Secret.ofBase64 record.secret = .ok secret
        ∧ ∃ signature closed, spec.mutableAttributes.signature = some signature
          ∧ verify (updateContext spec) spec.mutableAttributes.text secret.bytes signature
            = .ok true
          ∧ AttributeMap.parse spec.mutableAttributes.text = .ok closed
          ∧ decoded = { attributes := (openMap closed secret.bytes spec.keyId).attributes
                        signature := some signature
                        status := .valid
                        unopened := (openMap closed secret.bytes spec.keyId).unopened } := by
  constructor
  · rintro ⟨hfind, htimely, hsecret, hdecodes, hvalid⟩
    obtain ⟨hstatus, hsame, closed, hclosed, hopen⟩ := decodeSlot_eq_ok_iff.1 hdecodes
    rw [hvalid] at hstatus
    obtain ⟨signature, hsignature, hverify⟩ := signatureStatus_eq_valid_iff.1 hstatus
    refine ⟨hfind, htimely, hsecret, signature, closed, hsignature, hverify, hclosed, ?_⟩
    have hid : (updateContext spec).id = spec.keyId := rfl
    rw [hid] at hopen
    rw [hopen, ← hsignature, ← hsame, ← hvalid]
  · rintro ⟨hfind, htimely, hsecret, signature, closed, hsignature, hverify, hclosed, rfl⟩
    have hstatus := signatureStatus_eq_valid_iff.2 ⟨signature, hsignature, hverify⟩
    exact ⟨hfind, htimely, hsecret,
      decodeSlot_eq_ok_iff.2 ⟨hstatus, hsignature.symm, closed, hclosed, rfl⟩, rfl⟩

/-- What an update puts in place of mutable attributes: what it opens as, signed anew.  Nothing else
changes. -/
lemma exists_replaced_of_update {after : MemoryBroker}
    (h : (b.update spec).run nonces = (.ok after, later)) :
    ∃ record secret closed signed, b.records.find? spec.keyId = some record
      ∧ Secret.ofBase64 record.secret = .ok secret
      ∧ AttributeMap.parse spec.mutableAttributes.text = .ok closed
      ∧ signed.Reads secret.bytes (.ofSlot .mutable spec.keyId)
          (openMap closed secret.bytes spec.keyId).attributes
      ∧ after = { b with
          records := b.records.insert spec.keyId { record with mutableAttributes := signed } }
      ∧ ∀ id, id ≠ spec.keyId → after.records.find? id = b.records.find? id := by
  obtain ⟨record, secret, decoded, signed, hadmits, hsigned, rfl⟩ := run_update_eq_ok_iff.1 h
  obtain ⟨hfind, -, hsecret, signature, closed, -, -, hclosed, rfl⟩ := admits_iff.1 hadmits
  refine ⟨record, secret, closed, signed, hfind, hsecret, hclosed, reads_of_encodeSlot hsigned,
    rfl, ?_⟩
  intro id hid
  rw [OrderedMap.find?_insert, if_neg hid.symm]

/-! ## Updates from the same key -/

/-- An update that was prepared without force for a key that is there is too late exactly while the
broker has another signature than the key. -/
lemma stale_iff_of_prepareUpdate {key : Key} {m : AttributeMap} {u : UpdateSpec}
    {drawn left : Nonces} (hu : (Engine.prepareUpdate key m false).run drawn = (.ok u, left))
    (hthere : (b.records.find? key.id).isSome = true) :
    (b.update u).run nonces = (.error .stale, nonces)
      ↔ b.storedSignature key.id ≠ some key.mutableSignature := by
  obtain ⟨hid, hprevious, hforce, -⟩ := Engine.prepareUpdate_eq_ok hu
  obtain ⟨record, hfind⟩ := Option.isSome_iff_exists.1 hthere
  have hfound : b.records.find? u.keyId = some record := hid ▸ hfind
  rw [run_update_eq_stale_iff hfound, storedSignature, hfind, hprevious, hforce]
  simp [eq_comm]

/-- **A compare-and-swap.**  Of any broker and any update:

* it goes through exactly if there is such a key, if it is by force or names the signature that is
  there, if its own signature holds under the secret of the key for just the signature and the force
  that it names, if its text can be read, and if there is room to close again what it opens as;
* then that takes the place of the mutable attributes, signed anew for no other signature, and every
  other record is as it was;
* if it does not go through, the broker of the session is as it was.

Of two updates that were prepared without force from the same key, let one go through.  Then
whatever is asked of the broker by anyone, in whatever order, the other is refused as too late
exactly while the broker has another signature for the key than both of them saw. -/
theorem compare_and_swap (b : MemoryBroker) :
    (∀ (spec : UpdateSpec) (nonces : Nonces),
        (∃ after later, (b.update spec).run nonces = (.ok after, later)) ↔
          ∃ record secret signature closed, b.records.find? spec.keyId = some record
            ∧ (spec.force = true ∨ spec.previous = record.mutableAttributes.signature)
            ∧ Secret.ofBase64 record.secret = .ok secret
            ∧ spec.mutableAttributes.signature = some signature
            ∧ verify
                { id := spec.keyId, mutable := true, previous := spec.previous,
                  force := spec.force }
                spec.mutableAttributes.text secret.bytes signature = .ok true
            ∧ AttributeMap.parse spec.mutableAttributes.text = .ok closed
            ∧ Sealable (openMap closed secret.bytes spec.keyId).attributes spec.keyId)
      ∧ (∀ (spec : UpdateSpec) (nonces later : Nonces) (after : MemoryBroker),
          (b.update spec).run nonces = (.ok after, later) →
            ∃ record secret closed signed, b.records.find? spec.keyId = some record
              ∧ Secret.ofBase64 record.secret = .ok secret
              ∧ AttributeMap.parse spec.mutableAttributes.text = .ok closed
              ∧ signed.Reads secret.bytes (.ofSlot .mutable spec.keyId)
                  (openMap closed secret.bytes spec.keyId).attributes
              ∧ after = { b with records :=
                  b.records.insert spec.keyId { record with mutableAttributes := signed } }
              ∧ ∀ id, id ≠ spec.keyId → after.records.find? id = b.records.find? id)
      ∧ (∀ (s : Session) (spec : UpdateSpec) (error : UpdateError), s.backend = .memory b →
          (s.applyUpdate b spec).1 = .error error →
            (s.applyUpdate b spec).2.backend = .memory b)
      ∧ ∀ (key : Key) (m₁ m₂ : AttributeMap) (u₁ u₂ : UpdateSpec),
          (∃ nonces later, (Engine.prepareUpdate key m₁ false).run nonces = (.ok u₁, later)) →
          (∃ nonces later, (Engine.prepareUpdate key m₂ false).run nonces = (.ok u₂, later)) →
            ∀ (nonces later : Nonces) (after : MemoryBroker),
              (b.update u₁).run nonces = (.ok after, later) →
                ∀ (demands : List Demand) (nonces : Nonces),
                  let now := after.meetAll demands
                  (now.update u₂).run nonces = (.error .stale, nonces)
                    ↔ now.storedSignature key.id ≠ some key.mutableSignature := by
  refine ⟨?_, fun spec nonces later after => exists_replaced_of_update, ?_, ?_⟩
  · intro spec nonces
    rw [update_isOk_iff]
    constructor
    · rintro ⟨record, secret, decoded, hadmits, hm⟩
      obtain ⟨hfind, htimely, hsecret, signature, closed, hsignature, hverify, hclosed, rfl⟩ :=
        admits_iff.1 hadmits
      exact ⟨record, secret, signature, closed, hfind, htimely, hsecret, hsignature, hverify,
        hclosed, hm⟩
    · rintro ⟨record, secret, signature, closed, hfind, htimely, hsecret, hsignature, hverify,
        hclosed, hm⟩
      have hadmits := admits_iff.2
        ⟨hfind, htimely, hsecret, signature, closed, hsignature, hverify, hclosed, rfl⟩
      exact ⟨record, secret, _, hadmits, hm⟩
  · intro s spec error hbackend herror
    rw [Session.applyUpdate] at herror ⊢
    split at herror
    · cases herror
    · exact hbackend
  · rintro key m₁ m₂ u₁ u₂ ⟨drawn₁, left₁, hu₁⟩ ⟨drawn₂, left₂, hu₂⟩ nonces later after haccepted
      demands nonces now
    obtain ⟨hid, -⟩ := Engine.prepareUpdate_eq_ok hu₁
    obtain ⟨record, -, -, signed, -, -, -, -, rfl, -⟩ := exists_replaced_of_update haccepted
    refine stale_iff_of_prepareUpdate hu₂ (contains_meetAll ?_ demands)
    rw [OrderedMap.find?_insert, if_pos hid]
    rfl

/-! ## An example -/

/-- A broker with a draft. -/
def draftBroker : MemoryBroker :=
  { clientSecret := .ofByte 5
    records := OrderedMap.empty.insert "abc.def" (Engine.stateRecord "draft" "AAAA") }

/-- Any update of attributes that are not protected is accepted for the draft, if it was prepared
from it. -/
lemma exists_update_draftBroker {key : Key} {m : AttributeMap} {u : UpdateSpec}
    {drawn left : Nonces}
    (hid : key.id = "abc.def") (hsecret : key.secret = .ofByte 1)
    (hprevious : key.mutableSignature = some "AAAA") (hm : Sealable m "abc.def")
    (hu : (Engine.prepareUpdate key m false).run drawn = (.ok u, left)) (nonces : Nonces) :
    ∃ after later, (draftBroker.update u).run nonces = (.ok after, later)
      ∧ after.storedSignature "abc.def" ≠ some (some "AAAA") := by
  obtain ⟨hkey, hsame, -⟩ := Engine.prepareUpdate_eq_ok hu
  obtain ⟨-, hreads⟩ := Engine.reads_of_prepareUpdate hu
  rw [hid] at hkey
  rw [hsecret] at hreads
  have hfind : draftBroker.records.find? u.keyId = some (Engine.stateRecord "draft" "AAAA") := by
    rw [hkey]
    rfl
  have hadmits := (admits_iff_of_reads hfind (Secret.ofBase64_toBase64 _) hreads).2
    ⟨.inr (hsame.trans hprevious), rfl, rfl, rfl⟩
  obtain ⟨after, later, haccepted⟩ :=
    (update_isOk_iff nonces).2 ⟨_, _, _, hadmits, hkey ▸ hm⟩
  refine ⟨after, later, haccepted, ?_⟩
  obtain ⟨record, secret, decoded, signed, -, hsigned, rfl⟩ := run_update_eq_ok_iff.1 haccepted
  obtain ⟨closed, signature, hsign, rfl⟩ := encodeSlot_eq_ok hsigned
  rw [storedSignature, OrderedMap.find?_insert, if_pos hkey]
  intro hdraft
  obtain rfl : signature = "AAAA" := Option.some.inj (Option.some.inj hdraft)
  -- The signature of the draft is too short for one that was made.
  obtain ⟨tag, htag, hlength⟩ := exists_decode?_of_sign hsign
  obtain rfl : [0, 0, 0] = tag := Option.some.inj htag
  cases hlength

/-- Two updates of the draft, of which the first goes through. -/
theorem compare_and_swap_draft : ∃ opened u₁ u₂ after later,
    Engine.openKey .v2 (Engine.stateRecord "draft" "AAAA") = .ok opened
      ∧ (Engine.prepareUpdate opened.key Engine.archived false).run (.ofBytes [])
          = (.ok u₁, .ofBytes [])
      ∧ (Engine.prepareUpdate opened.key .empty false).run (.ofBytes []) = (.ok u₂, .ofBytes [])
      ∧ (draftBroker.update u₁).run (.ofBytes []) = (.ok after, later)
      ∧ (after.update u₂).run (.ofBytes []) = (.error .stale, .ofBytes []) := by
  obtain ⟨opened, u₁, hopened, hu₁⟩ := Engine.exists_update_stateRecord "draft" "AAAA"
  obtain ⟨u₂, hu₂⟩ := Engine.exists_prepareUpdate opened.key .empty
    (List.forall_mem_nil _) false (.ofBytes [])
  obtain ⟨hsecret, hid, hsignature, -⟩ := Engine.openKey_eq_ok hopened
  have hsame : opened.key.secret = .ofByte 1 :=
    Except.ok.inj (hsecret.symm.trans (Secret.ofBase64_toBase64 (.ofByte 1)))
  obtain ⟨after, later, haccepted, hchanged⟩ :=
    exists_update_draftBroker hid hsame hsignature (by decide) hu₁ (.ofBytes [])
  obtain ⟨-, -, -, hrace⟩ := compare_and_swap draftBroker
  have hstale :=
    hrace opened.key _ _ u₁ u₂ ⟨_, _, hu₁⟩ ⟨_, _, hu₂⟩ _ _ after haccepted [] (.ofBytes [])
  rw [hid, hsignature] at hstale
  exact ⟨opened, u₁, u₂, after, later, hopened, hu₁, hu₂, haccepted, hstale.2 hchanged⟩

end SealedChunk.Broker.MemoryBroker
