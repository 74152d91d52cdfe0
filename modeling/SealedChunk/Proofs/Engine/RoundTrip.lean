import SealedChunk.Proofs.Attribute.SlotRoundTrip
import SealedChunk.Proofs.Engine.Endings
import SealedChunk.Proofs.Envelope.RoundTrip

/-!
# What was encrypted is decrypted

An envelope holds all that decrypting needs but the key: the id to ask for, and the sealed payload.
Whatever the broker answered when the key was made, an envelope was written only if the id fits the
variant, so both are read back.  What is fetched later has to carry the same id and the same secret;
its signatures and protected values may be anything, since a lenient engine only notes them.

An engine that tries several variants finds the right one, because no text of one is recognised
under another that it accepts.

* `KeyRecord.Carries` — what has to be fetched.
* `exists_encrypt` — when there is an envelope at all.
* `finishEncrypt_eq_ok` — what there is besides the envelope.
* `decryptAuto_eq_decryptAs` — trying several variants is as good as knowing the right one.
* **`decrypt_encrypt`** — the way there and back.
-/

namespace SealedChunk

open Broker Attribute Envelope Crypto

/-- A record from which a key with the same id and the same secret is opened. -/
structure Broker.KeyRecord.Carries (record : KeyRecord) (key : Key) : Prop where
  id : record.id = key.id
  secret : Secret.ofBase64 record.secret = .ok key.secret
  attributes : AttributeMap.Readable record.attributes.text
  mutableAttributes : AttributeMap.Readable record.mutableAttributes.text

/-- What carries a key is opened as a key with that id and secret. -/
lemma Broker.KeyRecord.Carries.exists_openKey {record : KeyRecord} {key : Key}
    (h : record.Carries key) (v : Variant) : ∃ opened, Engine.openKey v record = .ok opened
      ∧ opened.key.secret = key.secret ∧ opened.key.id = key.id := by
  obtain ⟨opened, hopened⟩ := (Engine.openKey_isOk_iff (v := v)).2
    ⟨⟨_, h.secret⟩, h.attributes, h.mutableAttributes⟩
  obtain ⟨hsecret, hid, -⟩ := Engine.openKey_eq_ok hopened
  rw [h.secret] at hsecret
  exact ⟨opened, hopened, (Except.ok.inj hsecret).symm, hid.trans h.id⟩

namespace Engine

/-- The operation asks for one key, and gives the plaintext if the answer begins with a record that
carries that key. -/
def Opens (exchange : Exchange (Report Bytes)) (metadata : Metadata) (key : Key)
    (plaintext : Bytes) : Prop :=
  ∃ resume, exchange = .awaiting (.fetch { metadata, keyIds := [key.id] }) resume
    ∧ ∀ response record rest, response.keys = record :: rest → record.Carries key →
        (resume (.response response)).result = .ok plaintext

variable {e d : Engine} {v : Variant} {plaintext body : Bytes} {envelope : String}

/-! ## Encrypting -/

/-- No key is noted and there is no envelope, or the key of the first record is noted, and there is
the envelope of a payload that was sealed under it, if the id fits. -/
lemma finishEncrypt_cases (e : Engine) (plaintext : Bytes) (capture : Capture) (reply : Reply)
    (nonces : Nonces) :
    let report := (e.finishEncrypt plaintext capture reply nonces).1
    ((∃ failure, report.result = .error failure) ∧ report.capture.key = capture.key)
      ∨ ∃ response record rest opened nonce body, reply = .response response
        ∧ response.keys = record :: rest ∧ openKey e.variant record = .ok opened
        ∧ report.capture.key = some opened.key
        ∧ sealWith nonce plaintext opened.key.secret.bytes (e.variant.payloadAad opened.key.id)
          = .ok body
        ∧ ∀ envelope, report.result = .ok envelope ↔
            Envelope.encode e.variant opened.key.id (Base64.encode body) = .ok envelope := by
  intro report
  rcases reply.response_or_failure e.timeout with ⟨response, rfl⟩ | ⟨failure, hfailure⟩
  · rcases finishEncrypt_response e plaintext response nonces with
      ⟨failure, -, hends⟩ | ⟨record, rest, opened, nonce, body, hkeys, hopened, hbody, hends⟩
    · obtain ⟨hresult, hcapture⟩ := hends capture
      have hkey : report.capture.key = _ := congrArg Capture.key hcapture
      exact .inl ⟨⟨failure, hresult⟩, hkey⟩
    · obtain ⟨hresult, hcapture⟩ := hends capture
      have hkey : report.capture.key = _ := congrArg Capture.key hcapture
      refine .inr ⟨response, record, rest, opened, nonce, body, rfl, hkeys, hopened, hkey, hbody,
        fun envelope => ?_⟩
      rw [hresult, mapError_eq_ok_iff]
  · obtain ⟨event, hevent⟩ := receive_of_failure hfailure
    have hreport : report = .failed failure capture [event] := by
      simp only [report, finishEncrypt, hevent]
    rw [hreport]
    exact .inl ⟨⟨failure, rfl⟩, rfl⟩

/-- What there is if an envelope was written: a key, and a payload that was sealed under it. -/
lemma finishEncrypt_eq_ok {capture : Capture} {reply : Reply} {nonces : Nonces}
    (h : (e.finishEncrypt plaintext capture reply nonces).1.result = .ok envelope) :
    ∃ key nonce body,
      (e.finishEncrypt plaintext capture reply nonces).1.capture.key = some key
        ∧ sealWith nonce plaintext key.secret.bytes (e.variant.payloadAad key.id) = .ok body
        ∧ Envelope.encode e.variant key.id (Base64.encode body) = .ok envelope := by
  rcases finishEncrypt_cases e plaintext capture reply nonces with
    ⟨⟨failure, hfailed⟩, -⟩ | ⟨_, _, _, opened, nonce, body, -, -, -, hkey, hbody, hencode⟩
  · cases hfailed.symm.trans h
  · exact ⟨opened.key, nonce, body, hkey, hbody, (hencode envelope).1 h⟩

/-- An encryption that succeeds was finished with what the broker answered. -/
lemma answered_encrypt {inputs : EncryptInputs} {capture : Capture} {reply : Reply}
    {nonces later : Nonces}
    (h : (((e.encrypt plaintext inputs capture nonces).1.answered reply) later).1.result
      = .ok envelope) :
    ((e.encrypt plaintext inputs capture nonces).1.answered reply) later
      = e.finishEncrypt plaintext capture reply later := by
  rw [encrypt] at h ⊢
  split_ifs at h ⊢ with hempty
  · cases h
  · rcases hordered : (e.order inputs).run nonces with ⟨failure | request, between⟩
    · rw [hordered] at h
      cases h
    · rfl

lemma exists_signOutbound {m : AttributeMap} (hm : Sealable m e.variant.id) (slot : Slot)
    (nonces : Nonces) :
    ∃ signed later, (e.signOutbound m slot).run nonces = (.ok signed, later) := by
  have hid : Sealable m (SigningContext.ofSlot slot e.variant.id).id := hm
  obtain ⟨signed, later, hsigned⟩ := (encodeSlot_isOk_iff e.clientSecret.length_eq nonces).2 hid
  exact ⟨signed, later, Drawing.run_mapError_eq_ok_iff.2 hsigned⟩

lemma exists_order {inputs : EncryptInputs} (hattributes : Sealable inputs.attributes e.variant.id)
    (hmutable : Sealable inputs.mutableAttributes e.variant.id) (nonces : Nonces) :
    ∃ request later, (e.order inputs).run nonces = (.ok request, later) := by
  obtain ⟨fixed, between, hfixed⟩ := exists_signOutbound hattributes .immutable nonces
  obtain ⟨current, later, hcurrent⟩ := exists_signOutbound hmutable .mutable between
  rw [order, Drawing.run_bind_ok hfixed, Drawing.run_bind_ok hcurrent]
  exact ⟨_, later, rfl⟩

/-- Under a key whose id fits the variant, anything is encrypted that is not too long. -/
lemma exists_finishEncrypt {response : KeysResponse} {record : KeyRecord} {rest : List KeyRecord}
    {opened : OpenedKey} (hplaintext : plaintext.length ≤ GcmSiv.maxLength)
    (hkeys : response.keys = record :: rest) (hopened : openKey e.variant record = .ok opened)
    (hid : e.variant.Admits opened.key.id.toList)
    (haad : (e.variant.payloadAad opened.key.id).length ≤ GcmSiv.maxLength) (capture : Capture)
    (nonces : Nonces) :
    ∃ envelope, (e.finishEncrypt plaintext capture (.response response) nonces).1.result
        = .ok envelope
      ∧ (e.finishEncrypt plaintext capture (.response response) nonces).1.capture.key
        = some opened.key := by
  obtain ⟨body, between, hsealed⟩ :=
    (sealBytes_isOk_iff opened.key.secret.length_eq nonces).2 ⟨hplaintext, haad⟩
  have hencode : Envelope.encode e.variant opened.key.id (Base64.encode body) = .ok _ :=
    encode_eq_ok_iff.2 ⟨hid, rfl⟩
  simp only [finishEncrypt, receive, hkeys, hopened, hsealed, hencode]
  exact ⟨_, rfl, trivial⟩

/-- **When something is encrypted.**  The plaintext is not empty, nothing is too long, and the
broker answers with a key whose id fits the variant. -/
theorem exists_encrypt {inputs : EncryptInputs} {response : KeysResponse} {record : KeyRecord}
    {rest : List KeyRecord} {key : Key} (hnonempty : plaintext ≠ [])
    (hplaintext : plaintext.length ≤ GcmSiv.maxLength)
    (hattributes : Sealable inputs.attributes e.variant.id)
    (hmutable : Sealable inputs.mutableAttributes e.variant.id)
    (hkeys : response.keys = record :: rest) (hrecord : record.Carries key)
    (hid : e.variant.Admits record.id.toList)
    (haad : (e.variant.payloadAad record.id).length ≤ GcmSiv.maxLength) (capture : Capture)
    (nonces later : Nonces) :
    ∃ envelope, (((e.encrypt plaintext inputs capture nonces).1.answered (.response response))
      later).1.result = .ok envelope := by
  obtain ⟨request, between, hordered⟩ := exists_order hattributes hmutable nonces
  obtain ⟨opened, hopened, -, hsame⟩ := hrecord.exists_openKey e.variant
  rw [hrecord.id, ← hsame] at hid haad
  obtain ⟨envelope, henvelope, -⟩ :=
    exists_finishEncrypt hplaintext hkeys hopened hid haad capture later
  rw [encrypt, if_neg (by simpa using hnonempty), hordered]
  exact ⟨envelope, henvelope⟩

/-! ## Decrypting -/

/-- A lenient engine opens a payload under whatever carries the key that it was sealed under. -/
lemma result_finishDecrypt {key : Key} (hlenient : d.strict = false)
    (hbody : openSealed body key.secret.bytes (v.payloadAad key.id) = .ok plaintext)
    {response : KeysResponse} {record : KeyRecord} {rest : List KeyRecord}
    (hkeys : response.keys = record :: rest) (hrecord : record.Carries key) (capture : Capture) :
    (d.finishDecrypt v key.id body capture (.response response)).result = .ok plaintext := by
  obtain ⟨opened, hopened, hsecret, -⟩ := hrecord.exists_openKey v
  rw [finishDecrypt, receive]
  dsimp only
  rw [hkeys]
  dsimp only
  rw [if_pos hrecord.id, openPayload, hopened]
  dsimp only
  rw [hsecret, hbody, hlenient]

lemma opens_decryptAs {key : Key} {nonce : Nonce} (hlenient : d.strict = false)
    (hsealed : sealWith nonce plaintext key.secret.bytes (v.payloadAad key.id) = .ok body)
    (hdecode : Envelope.decode v envelope = .ok ⟨key.id, Base64.encode body⟩) (metadata : Metadata)
    (capture : Capture) :
    Opens (d.decryptAs v envelope metadata capture) metadata key plaintext := by
  refine ⟨_, decryptAs_eq_awaiting hdecode (Base64.decode?_encode body) metadata capture, ?_⟩
  intro response record rest hkeys hrecord
  exact result_finishDecrypt hlenient (openSealed_sealWith key.secret.length_eq hsealed) hkeys
    hrecord capture

/-! ## Finding the variant -/

/-- No engine takes an envelope of its own variant, or of a built-in one, for another. -/
lemma distinguishable_of_fit (hv : v ∈ d.variant :: Variant.builtIn) {w : Variant}
    (hw : w ∈ d.variant :: Variant.builtIn) (hne : w ≠ v) : v.distinguishable w = true := by
  obtain ⟨-, hfit⟩ := validateAlongside_eq_ok_iff.1 d.fit
  rcases List.mem_cons.1 hv with rfl | hv
  · exact (hfit w (List.mem_of_ne_of_mem hne hw) hne).2
  · rcases List.mem_cons.1 hw with rfl | hw
    · rw [distinguishable_comm]
      exact (hfit v hv hne.symm).2
    · exact builtIn_distinguishable v hv w hw hne

/-- No two of the variants that an engine tries recognise the same text. -/
lemma classify_eq_none_of_mem (hv : v ∈ d.variant :: Variant.builtIn) {w : Variant}
    (hw : w ∈ d.variant :: Variant.builtIn) (hne : w ≠ v) {info : ChunkInfo}
    (hinfo : classify v envelope = some info) : classify w envelope = none := by
  obtain ⟨keyId, body, hspells, -, -⟩ := classify_eq_some_iff.1 hinfo
  exact classify_eq_none hspells (distinguishable_of_fit hv hw hne)

/-- A text that is recognised under one of the variants is decrypted as an envelope of that variant,
as if the engine had been told. -/
lemma decryptAuto_eq_decryptAs (hv : v ∈ d.variant :: Variant.builtIn) {info : ChunkInfo}
    (hinfo : classify v envelope = some info) (metadata : Metadata) (capture : Capture) :
    d.decryptAuto envelope metadata capture = d.decryptAs v envelope metadata capture := by
  have hany := classifyAny_eq_some hv hinfo fun w hw hne =>
    classify_eq_none_of_mem hv hw hne hinfo
  obtain ⟨_, _, _, _, rfl⟩ := classify_eq_some_iff.1 hinfo
  rw [decryptAuto, hany]

/-- **What was encrypted is decrypted.**  Whatever the broker answered: if there is an envelope,
then the key that was noted opens it, however that key is fetched later.  An engine of the same
variant decrypts it, whether it knows the variant or finds it, and if the variant is built in, any
engine finds it. -/
theorem decrypt_encrypt {inputs : EncryptInputs} {capture : Capture} {reply : Reply}
    {nonces later : Nonces}
    (h : (((e.encrypt plaintext inputs capture nonces).1.answered reply) later).1.result
      = .ok envelope) :
    ∃ key, (((e.encrypt plaintext inputs capture nonces).1.answered reply) later).1.capture.key
        = some key
      ∧ ∀ (d : Engine) (metadata : Metadata) (before : Capture), d.strict = false →
          (d.variant = e.variant →
              Opens (d.decrypt envelope metadata before) metadata key plaintext)
          ∧ (d.variant = e.variant ∨ e.variant ∈ Variant.builtIn →
              Opens (d.decryptAuto envelope metadata before) metadata key plaintext) := by
  have hfinish := answered_encrypt h
  rw [hfinish] at h ⊢
  obtain ⟨key, nonce, body, hkey, hsealed, hencode⟩ := finishEncrypt_eq_ok h
  obtain ⟨hvalid, -⟩ := validateAlongside_eq_ok_iff.1 e.fit
  have hdecode := decode_encode hvalid (Base64.decode?_encode body) hencode
  refine ⟨key, hkey, fun d metadata before hlenient => ⟨fun hvariant => ?_, fun hvariant => ?_⟩⟩
  · rw [decrypt, hvariant]
    exact opens_decryptAs hlenient hsealed hdecode metadata before
  · have hmem : e.variant ∈ d.variant :: Variant.builtIn :=
      List.mem_cons.2 (hvariant.imp_left Eq.symm)
    rw [decryptAuto_eq_decryptAs hmem
      (classify_encode hvalid (Base64.decode?_encode body) hencode)]
    exact opens_decryptAs hlenient hsealed hdecode metadata before

/-- An engine with a built-in variant. -/
def someEngine : Engine :=
  { variant := .v2, clientSecret := .ofByte 5, fit := rfl }

/-- An answer with one key, without any attributes. -/
def someResponse : KeysResponse :=
  { keys := [{ id := "abc.def", secret := (Secret.ofByte 1).toBase64 }] }

/-- One byte, back and forth. -/
theorem decrypt_encrypt_byte : ∃ envelope key,
    (((someEngine.encrypt [104] {} {} (.ofBytes [])).1.answered (.response someResponse))
        (.ofBytes [])).1.result = .ok envelope
      ∧ Opens (someEngine.decrypt envelope .empty {}) .empty key [104]
      ∧ Opens (someEngine.decryptAuto envelope .empty {}) .empty key [104] := by
  have hrecord : KeyRecord.Carries
      { id := "abc.def", secret := (Secret.ofByte 1).toBase64 }
      { id := "abc.def", secret := .ofByte 1 } :=
    ⟨rfl, Secret.ofBase64_toBase64 _, ⟨_, rfl⟩, ⟨_, rfl⟩⟩
  have hwritten : Envelope.encode .v2 "abc.def" "" = .ok "~!2!abc.def!2!!2!~" := rfl
  obtain ⟨envelope, h⟩ : ∃ envelope, (((someEngine.encrypt [104] {} {} (.ofBytes [])).1.answered
      (.response someResponse)) (.ofBytes [])).1.result = .ok envelope :=
    exists_encrypt (by simp) (by decide) (by rintro _ ⟨⟩) (by rintro _ ⟨⟩) rfl hrecord
      (encode_eq_ok_iff.1 hwritten).1 (by decide) {} (.ofBytes []) (.ofBytes [])
  obtain ⟨key, -, hopens⟩ := decrypt_encrypt h
  obtain ⟨hdecrypt, hauto⟩ := hopens someEngine .empty {} rfl
  exact ⟨envelope, key, h, hdecrypt rfl, hauto (.inl rfl)⟩

end Engine

end SealedChunk
