import SealedChunk.Proofs.Engine.Overwrite
import SealedChunk.Proofs.Session.Keeping

/-!
# What was encrypted in a session is decrypted in it

Every action leaves the records of the broker in order, so any number of actions does, and at the
end of it each envelope is decrypted from the record of its key.

* `exists_keeps_perform`, `exists_keeps_play` — one action, and any number of them.
* `exists_perform_encrypt`, `exists_perform_prepare`, `exists_perform_apply` — what goes through.
* **`decrypt_play`** — what becomes of every envelope in the end.
-/

namespace SealedChunk

open Attribute Broker Crypto Engine Envelope Session

namespace Course

variable {c : Course} {secret : Secret} {b : MemoryBroker}

/-! ## One action -/

lemma Keeps.noteDecryption (h : c.Keeps secret b) {ended : Transcript Bytes × Session}
    (hended : ended.2 = c.session ∧ ∀ key, ended.1.report.capture.key = some key → b.Has key) :
    (c.noteDecryption ended).Keeps secret b := by
  obtain ⟨hsame, hkey⟩ := hended
  have hs : ended.2.backend = .memory b := by rw [hsame, h.backend]
  exact h.note hs (fun key hmem => hkey key (Option.mem_toList.1 hmem)) (List.forall_mem_nil _)

lemma keeps_decryptAuto (h : c.Keeps secret b) (e : Engine) (envelope : String)
    (metadata : Metadata) (cancellation : Cancellation) :
    (c.perform (.decryptAuto e envelope metadata cancellation)).Keeps secret b := by
  refine h.noteDecryption ?_
  rw [Session.decryptAuto, Engine.decryptAuto]
  split
  · exact has_of_decryptAs h.backend h.orderly e _ envelope metadata cancellation
  · exact ⟨rfl, by rintro _ ⟨⟩⟩

lemma keeps_keysByExternalId (h : c.Keeps secret b) (e : Engine) (externalId : String)
    (metadata : Metadata) (cancellation : Cancellation) :
    (c.perform (.keysByExternalId e externalId metadata cancellation)).Keeps secret b := by
  obtain ⟨hsame, hfetched⟩ :=
    has_of_keysByExternalId h.backend h.orderly e externalId metadata cancellation
  have hs := (congrArg Session.backend hsame).trans h.backend
  refine h.note hs ?_ (List.forall_mem_nil _)
  intro key hmem
  obtain ⟨f, hf, rfl⟩ := List.mem_map.1 hmem
  rcases hresult :
    (c.session.keysByExternalId e externalId metadata cancellation).1.report.result with
    failure | fetched
  · rw [hresult] at hf
    cases hf
  · rw [hresult] at hf
    exact hfetched fetched hresult f hf

lemma keeps_prepare (h : c.Keeps secret b) (key : Nat) (attributes : AttributeMap) (force : Bool) :
    (c.perform (.prepare key attributes force)).Keeps secret b := by
  rw [perform]
  cases hkey : c.keys[key]? with
  | none => exact h
  | some key =>
    dsimp only
    rw [Session.prepareUpdate]
    rcases hrun : (Engine.prepareUpdate key attributes force).run c.session.nonces with
      ⟨failure | u, later⟩
    · exact { h with }
    · obtain ⟨hid, hreads⟩ := reads_of_prepareUpdate hrun
      obtain ⟨record, hfind, hsecret⟩ := h.keys key (List.mem_of_getElem? hkey)
      have hupdate : b.Reads u attributes :=
        ⟨record, key.secret, hid ▸ hfind, hsecret, hreads⟩
      exact { h with prepared := List.forall_mem_cons.2 ⟨hupdate, h.prepared⟩ }

lemma exists_keeps_apply (h : c.Keeps secret b) (update : Nat) :
    ∃ after, (c.perform (.apply update)).Keeps secret after := by
  have hmemory : c.session.memory? = some b := by rw [memory?, h.backend]
  rw [perform, hmemory]
  cases hprepared : c.prepared[update]? with
  | none => exact ⟨b, h⟩
  | some order =>
    obtain ⟨u, m⟩ := order
    dsimp only
    obtain ⟨record, keySecret, hfind, hsecret, hreads⟩ :=
      h.prepared _ (List.mem_of_getElem? hprepared)
    rw [applyUpdate]
    rcases hupdate : (b.update u).run c.session.nonces with ⟨error | after, later⟩
    · exact ⟨b, { h with }⟩
    · obtain ⟨_, _, _, signed, hadmits, hsigned, rfl⟩ :=
        MemoryBroker.run_update_eq_ok_iff.1 hupdate
      obtain ⟨-, rfl, rfl, rfl⟩ :=
        (MemoryBroker.admits_iff_of_reads hfind hsecret hreads).1 hadmits
      exact ⟨_, h.replace hfind hsecret (reads_of_encodeSlot hsigned) rfl⟩

/-- An encryption notes a key that the broker has, and writes what that key opens. -/
lemma kept_finishEncrypt (e : Engine) (plaintext : Bytes) {inputs : EncryptInputs}
    {response : KeysResponse} {current : String → AttributeMap → AttributeMap}
    (hkeys : ∀ record ∈ response.keys, ∃ id keySecret, b.records.find? id = some record
      ∧ record.Holds id keySecret inputs.attributes (current id inputs.mutableAttributes))
    (nonces : Nonces) :
    let report := (e.finishEncrypt plaintext {} (.response response) nonces).1
    (∀ key, report.capture.key = some key → b.Has key)
      ∧ ∀ envelope, report.result = .ok envelope →
        (⟨e.variant, envelope, report.capture.key.map (·.id), plaintext, inputs⟩ : Written).Kept b
          current := by
  intro report
  rcases finishEncrypt_cases e plaintext {} (.response response) nonces with
    ⟨⟨failure, hfailed⟩, hkey⟩ |
      ⟨_, record, _, opened, nonce, body, ⟨⟩, hfirst, hopened, hkey, hbody, hencode⟩
  · constructor
    · intro key hnoted
      cases hkey.symm.trans hnoted
    · intro envelope hresult
      cases hfailed.symm.trans hresult
  · obtain ⟨id, keySecret, hfind, hholds⟩ := hkeys record (hfirst ▸ List.mem_cons_self)
    obtain ⟨other, hother, rfl, rfl, -⟩ := hholds.exists_openKey e.variant
    obtain rfl : opened = other := Except.ok.inj (hopened.symm.trans hother)
    constructor
    · intro key hnoted
      obtain rfl := Option.some.inj (hkey.symm.trans hnoted)
      exact ⟨record, hfind, hholds.secret_eq⟩
    · intro envelope hresult
      obtain ⟨hvalid, -⟩ := validateAlongside_eq_ok_iff.1 e.fit
      have hdecode :=
        decode_encode hvalid (Base64.decode?_encode body) ((hencode envelope).1 hresult)
      have hsealed := openSealed_sealWith opened.key.secret.length_eq hbody
      have hid : report.capture.key.map (·.id) = some opened.key.id := congrArg _ hkey
      exact ⟨opened.key.id, opened.key.secret, record, body, hid, hdecode, hsealed, hfind, hholds⟩

/-- What was ordered for an encryption is what the broker has a record of, unless it has none. -/
lemma exists_keeps_encrypt (h : c.Keeps secret b) {e : Engine} (he : e.clientSecret = secret)
    (plaintext : Bytes) (inputs : EncryptInputs) (cancellation : Cancellation)
    (hminted : (c.perform (.encrypt e plaintext inputs cancellation)).minted.Nodup) :
    ∃ after, (c.perform (.encrypt e plaintext inputs cancellation)).Keeps secret after := by
  rcases encrypt_cases h.backend e plaintext inputs cancellation with
    ⟨⟨failure, hfailed⟩, hkey, hbackend, hids⟩ |
      ⟨request, between, horder, hplaintext, hcancellation⟩
  · -- the broker was not even asked
    simp only [perform, hfailed, hkey, hids]
    exact ⟨b, { h with backend := hbackend }⟩
  · obtain ⟨hreport, hbackend, hids⟩ := encrypt_of_order h.backend hplaintext horder hcancellation
    simp only [perform, hreport, hids] at hminted ⊢
    obtain ⟨spec, hkeys, hquantity, hfixed, hcurrent⟩ := order_eq_ok horder
    rw [he] at hfixed hcurrent
    obtain ⟨hcreated, hholds⟩ :=
      h.create hkeys hquantity hfixed hcurrent between hbackend hminted
    obtain ⟨hnoted, hwritten⟩ :=
      kept_finishEncrypt e plaintext hholds (b.create request between).2.2
    refine ⟨_, hcreated.note hbackend ?_ ?_⟩
    · intro key hkey
      exact hnoted key (Option.mem_toList.1 hkey)
    · intro w hw
      rw [Option.mem_toList, Option.map_eq_some_iff] at hw
      obtain ⟨envelope, henvelope, rfl⟩ := hw
      exact hwritten envelope (toOption_eq_some_iff.1 henvelope)

/-- **What one action preserves.** -/
theorem exists_keeps_perform (h : c.Keeps secret b) {action : Action} (ha : action.Shares secret)
    (hminted : (c.perform action).minted.Nodup) :
    ∃ after, (c.perform action).Keeps secret after := by
  cases action with
  | encrypt e plaintext inputs cancellation =>
    exact exists_keeps_encrypt h ha plaintext inputs cancellation hminted
  | decrypt e envelope metadata cancellation =>
    exact ⟨b, h.noteDecryption
      (has_of_decryptAs h.backend h.orderly e e.variant envelope metadata cancellation)⟩
  | decryptAuto e envelope metadata cancellation =>
    exact ⟨b, keeps_decryptAuto h e envelope metadata cancellation⟩
  | keysByExternalId e externalId metadata cancellation =>
    exact ⟨b, keeps_keysByExternalId h e externalId metadata cancellation⟩
  | prepare key attributes force => exact ⟨b, keeps_prepare h key attributes force⟩
  | apply update => exact exists_keeps_apply h update

/-! ## Any number of actions -/

/-- **What a whole course preserves.** -/
theorem exists_keeps_play (h : c.Keeps secret b) {actions : List Action}
    (hsecret : ∀ action ∈ actions, action.Shares secret)
    (hminted : (c.play actions).minted.Nodup) : ∃ after, (c.play actions).Keeps secret after := by
  refine play_induction (P := fun c _ => ∃ b, c.Keeps secret b) ?_ [] ⟨b, h⟩ hsecret hminted
  rintro c - action ⟨b, hb⟩ ha hminted
  exact exists_keeps_perform hb ha hminted

/-! ## What goes through -/

/-- What is not empty, not too long, and fits the id of the next key is encrypted. -/
lemma exists_perform_encrypt (h : c.Keeps secret b) {e : Engine} (he : e.clientSecret = secret)
    {plaintext : Bytes} {inputs : EncryptInputs} {cancellation : Cancellation} {id : String}
    (hnext : b.nextKey.1.1 = id) (hcancellation : cancellation ≠ .before)
    (hnonempty : plaintext ≠ []) (hplaintext : plaintext.length ≤ GcmSiv.maxLength)
    (haad : (e.variant.payloadAad id).length ≤ GcmSiv.maxLength) (hid : e.variant.Admits id.toList)
    (hattributes : Sealable inputs.attributes e.variant.id ∧ Sealable inputs.attributes id)
    (hmutable :
      Sealable inputs.mutableAttributes e.variant.id ∧ Sealable inputs.mutableAttributes id) :
    ∃ session key envelope, key.id = id ∧ c.perform (.encrypt e plaintext inputs cancellation)
      = { c with
          session
          keys := key :: c.keys
          written := ⟨e.variant, envelope, some key.id, plaintext, inputs⟩ :: c.written
          minted := key.id :: c.minted } := by
  obtain ⟨request, between, horder⟩ := exists_order hattributes.1 hmutable.1 c.session.nonces
  obtain ⟨hreport, -, hids⟩ := encrypt_of_order h.backend hnonempty horder hcancellation
  obtain ⟨spec, hkeys, hquantity, hfixed, hcurrent⟩ := order_eq_ok horder
  rw [he, ← h.clientSecret] at hfixed hcurrent
  rcases hkey : b.nextKey with ⟨⟨next, keySecret⟩, after⟩
  obtain rfl : next = id := by rw [← hnext, hkey]
  rcases MemoryBroker.create_cases h.orderly.deny hkey hkeys hquantity hfixed hcurrent between with
    ⟨hlong, -⟩ | ⟨record, hone, hholds, -⟩
  · exact absurd ⟨hattributes.2, hmutable.2⟩ hlong
  · obtain ⟨opened, hopened, rfl, -⟩ := hholds.exists_openKey e.variant
    obtain ⟨envelope, henvelope, hnoted⟩ :=
      exists_finishEncrypt hplaintext hone hopened hid haad {} (b.create request between).2.2
    rw [hone, List.map_singleton, hholds.id_eq] at hids
    simp only [perform, hreport, hids, henvelope, hnoted]
    exact ⟨_, opened.key, envelope, rfl, rfl⟩

/-- An update of attributes that are not protected can be prepared for every key that came up. -/
lemma exists_perform_prepare {index : Nat} {key : Key} (hkey : c.keys[index]? = some key)
    {m : AttributeMap} (hm : ∀ entry ∈ m.entries, isProtected entry.1 = false) (force : Bool) :
    ∃ session u, u.keyId = key.id ∧ u.force = force ∧ c.perform (.prepare index m force)
      = { c with session, prepared := (u, m) :: c.prepared } := by
  obtain ⟨u, hu⟩ := exists_prepareUpdate key m hm force c.session.nonces
  obtain ⟨hid, -, hforce, -⟩ := prepareUpdate_eq_ok hu
  simp only [perform, hkey, Session.prepareUpdate, hu]
  exact ⟨_, u, hid, hforce, rfl⟩

/-- An update by force goes through, unless its map is too long to be sealed for the key. -/
lemma exists_perform_apply (h : c.Keeps secret b) {update : Nat} {u : UpdateSpec} {m : AttributeMap}
    (hu : c.prepared[update]? = some (u, m)) (hforce : u.force = true) (hm : Sealable m u.keyId) :
    ∃ session, c.perform (.apply update)
      = { c with session, accepted := (u.keyId, m) :: c.accepted } := by
  obtain ⟨record, keySecret, hfind, hsecret, hreads⟩ := h.prepared _ (List.mem_of_getElem? hu)
  have hadmits :=
    (MemoryBroker.admits_iff_of_reads hfind hsecret hreads).2 ⟨.inl hforce, rfl, rfl, rfl⟩
  obtain ⟨after, later, hupdate⟩ :=
    (MemoryBroker.update_isOk_iff c.session.nonces).2 ⟨record, keySecret, _, hadmits, hm⟩
  have hmemory : c.session.memory? = some b := by rw [memory?, h.backend]
  simp only [perform, hmemory, hu, applyUpdate, hupdate]
  exact ⟨_, rfl⟩

/-! ## The end of a session -/

/-- **A session keeps what was encrypted.**  Let a broker in memory begin without records, and let
engines that share its secret encrypt, decrypt, and fetch keys, in any order and as often as they
like, while updates are prepared from the keys that come up and carried out at any time.  If no id
is minted twice, then in the end every envelope that was returned is decrypted by any engine of its
variant, strict or not.  The plaintext is what was encrypted, nothing is found, and the key is the
one that was noted with the envelope.  Its attributes are those that were given, in their order, and
its mutable attributes are those of the last update that was accepted for it, or those that were
given if there was none.

The counter of the broker may even come round, as long as it does not repeat an id. -/
theorem decrypt_play {nonces : Nonces} {actions : List Action} (hempty : b.records = .empty)
    (hdeny : b.deny = false) (hanswerAs : b.answerAs = none)
    (hsecret : ∀ action ∈ actions, action.Shares b.clientSecret)
    (hminted : ((start b nonces).play actions).minted.Nodup) :
    let course := (start b nonces).play actions
    ∀ w ∈ course.written, ∀ (d : Engine) (metadata : Metadata) (cancellation : Cancellation),
      d.variant = w.variant → cancellation ≠ .before →
        let report := (course.session.decrypt d w.envelope metadata cancellation).1.report
        ∃ key, report.result = .ok w.plaintext ∧ report.capture.key = some key
          ∧ report.capture.findings = {} ∧ w.keyId = some key.id
          ∧ key.attributes = w.inputs.attributes
          ∧ key.mutableAttributes
            = (course.accepted.lookup key.id).getD w.inputs.mutableAttributes := by
  intro course w hw d metadata cancellation hd hcancellation
  obtain ⟨after, hafter⟩ :=
    exists_keeps_play (keeps_start hempty hdeny hanswerAs nonces) hsecret hminted
  exact (hafter.written w hw).decrypt hafter.backend hafter.orderly hd metadata hcancellation

/-- A broker that has an id for one key. -/
def someBroker : MemoryBroker :=
  { clientSecret := .ofByte 5, queue := [("abc.def", .ofByte 1)] }

/-- Attributes of either kind, one of them protected. -/
def someInputs : EncryptInputs :=
  { attributes := .ofList [("owner", ["né"]), ("protected-ssn", ["1", "2"])]
    mutableAttributes := .ofList [("state", ["draft"])] }

/-- One byte is encrypted, and then its state is replaced by force. -/
def someCourse : Course :=
  (start someBroker (.ofBytes [])).play
    [.encrypt someEngine [104] someInputs .never, .prepare 0 archived true, .apply 0]

/-- One byte is encrypted, with any attributes that can be sealed. -/
lemma exists_perform_byte {inputs : EncryptInputs}
    (hattributes : Sealable inputs.attributes someEngine.variant.id
      ∧ Sealable inputs.attributes "abc.def")
    (hmutable : Sealable inputs.mutableAttributes someEngine.variant.id
      ∧ Sealable inputs.mutableAttributes "abc.def") :
    ∃ session key envelope, key.id = "abc.def"
      ∧ (start someBroker (.ofBytes [])).perform (.encrypt someEngine [104] inputs .never)
        = { session, keys := [key], minted := [key.id],
            written := [⟨.v2, envelope, some key.id, [104], inputs⟩] } := by
  have hstart : (start someBroker (.ofBytes [])).Keeps (.ofByte 5) someBroker :=
    keeps_start rfl rfl rfl (.ofBytes [])
  have hempty : Envelope.encode .v2 "abc.def" "" = .ok "~!2!abc.def!2!!2!~" := rfl
  exact exists_perform_encrypt hstart rfl rfl (by decide) (by simp) (by decide) (by decide)
    (encode_eq_ok_iff.1 hempty).1 hattributes hmutable

lemma exists_someCourse : ∃ session key envelope u, someCourse =
    { session, keys := [key], prepared := [(u, archived)], minted := [key.id],
      written := [⟨.v2, envelope, some key.id, [104], someInputs⟩]
      accepted := [(key.id, archived)] } := by
  have hstart : (start someBroker (.ofBytes [])).Keeps (.ofByte 5) someBroker :=
    keeps_start rfl rfl rfl (.ofBytes [])
  obtain ⟨session, key, envelope, -, hencrypted⟩ :=
    @exists_perform_byte someInputs (by decide) (by decide)
  have hsecret : someEngine.clientSecret = .ofByte 5 := rfl
  obtain ⟨after, hafter⟩ :=
    exists_keeps_encrypt hstart hsecret [104] someInputs .never (by simp [hencrypted])
  have hunprotected : ∀ entry ∈ archived.entries, isProtected entry.1 = false := by decide
  have hkey : ((start someBroker (.ofBytes [])).perform
      (.encrypt someEngine [104] someInputs .never)).keys[0]? = some key := by
    rw [hencrypted]
    exact List.getElem?_cons_zero
  obtain ⟨later, u, hid, hforce, hprepared⟩ := exists_perform_prepare hkey hunprotected true
  have hsealable : Sealable archived u.keyId := fun entry hentry hprotected =>
    absurd (hunprotected entry hentry) (by simp [hprotected])
  have hkeeps := keeps_prepare hafter 0 archived true
  rw [hprepared] at hkeeps
  obtain ⟨last, happlied⟩ := exists_perform_apply hkeeps List.getElem?_cons_zero hforce hsealable
  rw [someCourse, play_cons, play_cons, play_cons, play_nil, hprepared, happlied, hencrypted, hid]
  exact ⟨last, key, envelope, u, rfl⟩

/-- A state that is replaced by force, beside attributes that are not. -/
theorem decrypt_play_replaced : someCourse.minted.Nodup ∧ ∃ w ∈ someCourse.written, ∃ key,
    let report := (someCourse.session.decrypt someEngine w.envelope .empty .never).1.report
    report.result = .ok [104] ∧ report.capture.key = some key
      ∧ key.attributes = someInputs.attributes ∧ key.mutableAttributes = archived := by
  obtain ⟨session, first, envelope, u, hcourse⟩ := exists_someCourse
  have hminted : someCourse.minted.Nodup := by
    rw [hcourse]
    simp
  have hwritten : ⟨.v2, envelope, some first.id, [104], someInputs⟩ ∈ someCourse.written := by
    rw [hcourse]
    simp
  have hshared : ∀ action ∈ ([.encrypt someEngine [104] someInputs .never,
      .prepare 0 archived true, .apply 0] : List Action), action.Shares (.ofByte 5) := by
    rw [List.forall_mem_cons, List.forall_mem_cons, List.forall_mem_singleton]
    exact ⟨rfl, ⟨⟩, ⟨⟩⟩
  obtain ⟨key, hresult, hcapture, -, hsame, hfixed, hcurrent⟩ :=
    decrypt_play (b := someBroker) rfl rfl rfl hshared hminted _ hwritten someEngine .empty .never
      rfl (by simp)
  refine ⟨hminted, _, hwritten, key, hresult, hcapture, hfixed, ?_⟩
  have hlookup :
      (someCourse.accepted.lookup key.id).getD someInputs.mutableAttributes = archived := by
    rw [hcourse, ← Option.some.inj hsame, List.lookup_cons_self]
    rfl
  exact hcurrent.trans hlookup

end Course

end SealedChunk
