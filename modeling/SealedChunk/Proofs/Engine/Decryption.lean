import SealedChunk.Proofs.Engine.RoundTrip

/-!
# What a decryption trusts

A broker may answer anything: keys that nobody asked for, secrets that are none, attributes that
cannot be read.  A lenient decryption goes through six checks, in a fixed order, and each has its
failure.  `Refusal` lists them: a failure is due if its check fails and those before it do not.
Together with the one way to succeed they cover everything that can come of an answer, and each
settles the result, so the result is known from envelope and answer alone.

Whatever the answer, a key is noted only after its id was compared with the one in the envelope.

* `Refusal`, `Opening` — the six failures, and the success.
* `opening_or_refusal` — they cover everything.
* `capture_finishDecrypt` — what is noted.
* **`decrypt_trusts`** — all of it together.
-/

namespace SealedChunk

open Broker Attribute AttributeMap Envelope Crypto

namespace Engine

/-! ## The checks -/

variable (v : Variant) (envelope : String) (response : KeysResponse)

/-- The failure that is due: its own check fails, and those before it do not. -/
inductive Refusal : Failure → Prop where
  | malformedEnvelope {error : EnvelopeError} (h : Envelope.decode v envelope = .error error) :
    Refusal (.malformedEnvelope v.id error.message)
  | bodyNotBase64 {parts : Parts} (hparts : Envelope.decode v envelope = .ok parts)
    (h : Base64.decode? parts.base64 = none) :
    Refusal (.decryptionFailed v.id parts.keyId)
  | keyDenied {parts : Parts} {body : Bytes} (hparts : Envelope.decode v envelope = .ok parts)
    (hbody : Base64.decode? parts.base64 = some body) (h : response.keys = []) :
    Refusal (.keyDenied v.id (some parts.keyId) (response.conditionFor (some parts.keyId)))
  | protocolViolation {parts : Parts} {body : Bytes} {record : KeyRecord} {rest : List KeyRecord}
    (hparts : Envelope.decode v envelope = .ok parts)
    (hbody : Base64.decode? parts.base64 = some body) (hkeys : response.keys = record :: rest)
    (h : record.id ≠ parts.keyId) :
    Refusal (.protocolViolation v.id parts.keyId record.id)
  | malformedResponse {parts : Parts} {body : Bytes} {record : KeyRecord} {rest : List KeyRecord}
    {reason : String} (hparts : Envelope.decode v envelope = .ok parts)
    (hbody : Base64.decode? parts.base64 = some body) (hkeys : response.keys = record :: rest)
    (hid : record.id = parts.keyId) (h : record.Useless reason) :
    Refusal (.malformedResponse v.id parts.keyId reason)
  | bodyNotAuthentic {parts : Parts} {body : Bytes} {record : KeyRecord} {rest : List KeyRecord}
    {secret : Secret} {error : SealError} (hparts : Envelope.decode v envelope = .ok parts)
    (hbody : Base64.decode? parts.base64 = some body) (hkeys : response.keys = record :: rest)
    (hid : record.id = parts.keyId) (hsecret : Secret.ofBase64 record.secret = .ok secret)
    (hattributes : Readable record.attributes.text)
    (hmutable : Readable record.mutableAttributes.text)
    (h : openSealed body secret.bytes (v.payloadAad parts.keyId) = .error error) :
    Refusal (.decryptionFailed v.id parts.keyId)

/-- All six checks pass, the last of them with a plaintext. -/
def Opening (plaintext : Bytes) : Prop :=
  ∃ parts body record rest secret, Envelope.decode v envelope = .ok parts
    ∧ Base64.decode? parts.base64 = some body ∧ response.keys = record :: rest
    ∧ record.id = parts.keyId ∧ Secret.ofBase64 record.secret = .ok secret
    ∧ Readable record.attributes.text ∧ Readable record.mutableAttributes.text
    ∧ openSealed body secret.bytes (v.payloadAad parts.keyId) = .ok plaintext

/-- Nothing else can come of an answer. -/
lemma opening_or_refusal : (∃ plaintext, Opening v envelope response plaintext)
    ∨ ∃ failure, Refusal v envelope response failure := by
  cases hparts : Envelope.decode v envelope with
  | error error => exact .inr ⟨_, .malformedEnvelope hparts⟩
  | ok parts =>
    cases hbody : Base64.decode? parts.base64 with
    | none => exact .inr ⟨_, .bodyNotBase64 hparts hbody⟩
    | some body =>
      cases hkeys : response.keys with
      | nil => exact .inr ⟨_, .keyDenied hparts hbody hkeys⟩
      | cons record rest =>
        by_cases hid : record.id = parts.keyId
        · rcases useless_or_useful record with ⟨reason, h⟩ | ⟨secret, hsecret, hfixed, hcurrent⟩
          · exact .inr ⟨_, .malformedResponse hparts hbody hkeys hid h⟩
          · cases h : openSealed body secret.bytes (v.payloadAad parts.keyId) with
            | error error =>
              exact .inr ⟨_, .bodyNotAuthentic hparts hbody hkeys hid hsecret hfixed hcurrent h⟩
            | ok plaintext =>
              exact .inl ⟨plaintext, parts, body, record, rest, secret, hparts, hbody, hkeys, hid,
                hsecret, hfixed, hcurrent, h⟩
        · exact .inr ⟨_, .protocolViolation hparts hbody hkeys hid⟩

/-! ## The result -/

variable {v envelope response} {e : Engine} {metadata : Metadata} {capture : Capture}
  {keyId : String} {body : Bytes} {record : KeyRecord} {rest : List KeyRecord} {opened : OpenedKey}

lemma answered_decryptAs {parts : Parts} (hparts : Envelope.decode v envelope = .ok parts)
    (hbody : Base64.decode? parts.base64 = some body) :
    (e.decryptAs v envelope metadata capture).answered (.response response)
      = e.finishDecrypt v parts.keyId body capture (.response response) := by
  rw [decryptAs_eq_awaiting hparts hbody]
  rfl

lemma result_openPayload (hlenient : e.strict = false) (hopened : openKey v record = .ok opened)
    (noted : List Event) : (e.openPayload v keyId body record capture noted).result
      = (openSealed body opened.key.secret.bytes (v.payloadAad keyId)).mapError
          fun _ => .decryptionFailed v.id keyId := by
  rw [openPayload, hopened]
  dsimp only
  cases openSealed body opened.key.secret.bytes (v.payloadAad keyId) with
  | error error => rfl
  | ok plaintext =>
    dsimp only
    rw [hlenient]
    rfl

/-- If there are no findings, a strict engine opens what a lenient one does. -/
lemma result_openPayload_of_clean (hopened : openKey v record = .ok opened)
    (hclean : opened.findings = {}) {plaintext : Bytes}
    (hbody : openSealed body opened.key.secret.bytes (v.payloadAad keyId) = .ok plaintext)
    (noted : List Event) :
    (e.openPayload v keyId body record capture noted).result = .ok plaintext := by
  rw [openPayload, hopened]
  dsimp only
  rw [hbody, hclean]
  cases capture.cipherId <;> cases e.strict <;> rfl

/-- The secret of a record is what its body is opened under. -/
lemma result_decryptAs (hlenient : e.strict = false) {parts : Parts}
    (hparts : Envelope.decode v envelope = .ok parts)
    (hbody : Base64.decode? parts.base64 = some body) (hkeys : response.keys = record :: rest)
    (hid : record.id = parts.keyId) {secret : Secret}
    (hsecret : Secret.ofBase64 record.secret = .ok secret)
    (hattributes : Readable record.attributes.text)
    (hmutable : Readable record.mutableAttributes.text) :
    ((e.decryptAs v envelope metadata capture).answered (.response response)).result
      = (openSealed body secret.bytes (v.payloadAad parts.keyId)).mapError
          fun _ => .decryptionFailed v.id parts.keyId := by
  obtain ⟨opened, hopened⟩ :=
    (openKey_isOk_iff (v := v)).2 ⟨⟨secret, hsecret⟩, hattributes, hmutable⟩
  obtain ⟨hsame, -⟩ := openKey_eq_ok hopened
  rw [hsecret] at hsame
  obtain rfl := Except.ok.inj hsame
  rw [answered_decryptAs hparts hbody, finishDecrypt_of_id hkeys hid,
    result_openPayload hlenient hopened]

/-- A failure that is due is the result. -/
lemma result_of_refusal (hlenient : e.strict = false) {failure : Failure}
    (h : Refusal v envelope response failure) :
    ((e.decryptAs v envelope metadata capture).answered (.response response)).result
      = .error failure := by
  cases h with
  | malformedEnvelope h =>
    rw [decryptAs, h]
    rfl
  | bodyNotBase64 hparts h =>
    rw [decryptAs, hparts]
    dsimp only
    rw [h]
    rfl
  | keyDenied hparts hbody h =>
    rw [answered_decryptAs hparts hbody, finishDecrypt, receive, ← conditionOf_fst v]
    dsimp only
    rw [h]
    rfl
  | protocolViolation hparts hbody hkeys h =>
    rw [answered_decryptAs hparts hbody, finishDecrypt, receive]
    dsimp only
    rw [hkeys]
    dsimp only
    rw [if_neg h]
    rfl
  | malformedResponse hparts hbody hkeys hid h =>
    rw [answered_decryptAs hparts hbody, finishDecrypt_of_id hkeys hid, openPayload,
      openKey_of_useless h, hid]
    rfl
  | bodyNotAuthentic hparts hbody hkeys hid hsecret hattributes hmutable h =>
    rw [result_decryptAs hlenient hparts hbody hkeys hid hsecret hattributes hmutable, h]
    rfl

lemma result_of_opening (hlenient : e.strict = false) {plaintext : Bytes}
    (h : Opening v envelope response plaintext) :
    ((e.decryptAs v envelope metadata capture).answered (.response response)).result
      = .ok plaintext := by
  obtain ⟨parts, body, record, rest, secret, hparts, hbody, hkeys, hid, hsecret, hattributes,
    hmutable, h⟩ := h
  rw [result_decryptAs hlenient hparts hbody hkeys hid hsecret hattributes hmutable, h]
  rfl

/-! ## What is noted -/

/-- A key is noted with its findings if it was opened from a record with the id that was asked for,
and otherwise neither is. -/
lemma capture_finishDecrypt (e : Engine) (v : Variant) (keyId : String) (body : Bytes)
    (capture : Capture) (response : KeysResponse) :
    let report := e.finishDecrypt v keyId body capture (.response response)
    (report.capture.key = capture.key ∧ report.capture.findings = capture.findings)
      ∨ ∃ record rest opened, response.keys = record :: rest ∧ record.id = keyId
        ∧ openKey v record = .ok opened ∧ report.capture.key = some opened.key
        ∧ report.capture.findings = opened.findings := by
  intro report
  rcases finishDecrypt_cases v keyId body response with
    ⟨failure, -, hends⟩ | ⟨record, rest, opened, hkeys, hid, hopened, hends⟩
  · have hcapture : report.capture = _ := (hends e capture).2
    rw [hcapture]
    exact .inl ⟨rfl, rfl⟩
  · have hcapture : report.capture = _ := (hends e capture).2
    rw [hcapture]
    exact .inr ⟨record, rest, opened, hkeys, hid, hopened, rfl, rfl⟩

/-- **What a decryption trusts.**  A lenient decryption gives a plaintext exactly if all six checks
pass, and it fails exactly with the failure of the first that does not, whatever the broker answers.
A key is noted only if it has the id in the envelope. -/
theorem decrypt_trusts (hlenient : e.strict = false) (envelope : String) (metadata : Metadata)
    (capture : Capture) (response : KeysResponse) :
    let report := (e.decrypt envelope metadata capture).answered (.response response)
    (∀ plaintext, report.result = .ok plaintext ↔
        ∃ parts body record rest secret, Envelope.decode e.variant envelope = .ok parts
          ∧ Base64.decode? parts.base64 = some body ∧ response.keys = record :: rest
          ∧ record.id = parts.keyId ∧ Secret.ofBase64 record.secret = .ok secret
          ∧ Readable record.attributes.text ∧ Readable record.mutableAttributes.text
          ∧ openSealed body secret.bytes (e.variant.payloadAad parts.keyId) = .ok plaintext)
      ∧ (∀ failure, report.result = .error failure ↔ Refusal e.variant envelope response failure)
      ∧ ((report.capture.key = capture.key ∧ report.capture.findings = capture.findings)
        ∨ ∃ parts key, Envelope.decode e.variant envelope = .ok parts
          ∧ report.capture.key = some key ∧ key.id = parts.keyId) := by
  intro report
  refine ⟨?_, ?_, ?_⟩
  · intro plaintext
    refine ⟨fun h => ?_, result_of_opening hlenient⟩
    rcases opening_or_refusal e.variant envelope response with ⟨other, hother⟩ | ⟨failure, hfailure⟩
    · have hsame := (result_of_opening hlenient hother).symm.trans h
      exact Except.ok.inj hsame ▸ hother
    · cases (result_of_refusal hlenient hfailure).symm.trans h
  · intro failure
    refine ⟨fun h => ?_, result_of_refusal hlenient⟩
    rcases opening_or_refusal e.variant envelope response with
      ⟨plaintext, hopening⟩ | ⟨other, hother⟩
    · cases (result_of_opening hlenient hopening).symm.trans h
    · have hsame := (result_of_refusal hlenient hother).symm.trans h
      exact Except.error.inj hsame ▸ hother
  · cases hparts : Envelope.decode e.variant envelope with
    | error error =>
      refine .inl ?_
      simp only [report, decrypt, decryptAs, hparts]
      exact ⟨rfl, rfl⟩
    | ok parts =>
      cases hbody : Base64.decode? parts.base64 with
      | none =>
        refine .inl ?_
        simp only [report, decrypt, decryptAs, hparts, hbody]
        exact ⟨rfl, rfl⟩
      | some body =>
        have hreport : report = _ := answered_decryptAs hparts hbody
        rw [hreport]
        rcases capture_finishDecrypt e e.variant parts.keyId body capture response with
          hkept | ⟨record, rest, opened, -, hid, hopened, hkey, -⟩
        · exact .inl hkept
        · exact .inr ⟨parts, opened.key, rfl, hkey, (openKey_eq_ok hopened).2.1.trans hid⟩

/-- With the key in front the plaintext is got back; behind another key it is of no use. -/
theorem decrypt_trusts_first : someEngine.strict = false ∧ ∃ envelope,
    ((someEngine.decrypt envelope .empty {}).answered (.response someResponse)).result = .ok [104]
      ∧ ((someEngine.decrypt envelope .empty {}).answered
            (.response { keys := { id := "abc.xyz" } :: someResponse.keys })).result
          = .error (.protocolViolation "chunk-v2" "abc.def" "abc.xyz") := by
  have hlenient : someEngine.strict = false := rfl
  obtain ⟨body, hsealed⟩ : ∃ body, sealWith (Nonces.ofBytes []).draw.1 [104] (Secret.ofByte 1).bytes
      (Variant.v2.payloadAad "abc.def") = .ok body := (sealWith_isOk_iff _).2 (by decide)
  have hwritten : Envelope.encode .v2 "abc.def" "" = .ok "~!2!abc.def!2!!2!~" := rfl
  have hencode : Envelope.encode .v2 "abc.def" (Base64.encode body) = .ok _ :=
    encode_eq_ok_iff.2 ⟨(encode_eq_ok_iff.1 hwritten).1, rfl⟩
  have hparts := decode_encode rfl (Base64.decode?_encode body) hencode
  obtain ⟨hopens, -⟩ := decrypt_trusts hlenient _ .empty {} someResponse
  obtain ⟨-, hrefuses, -⟩ := decrypt_trusts hlenient _ .empty {}
    { keys := { id := "abc.xyz" } :: someResponse.keys }
  have hother : ({ id := "abc.xyz" } : KeyRecord).id ≠ "abc.def" := by decide
  refine ⟨hlenient, _, (hopens [104]).2 ⟨_, body, _, [], .ofByte 1, hparts,
    Base64.decode?_encode body, rfl, rfl, Secret.ofBase64_toBase64 _, ⟨_, rfl⟩, ⟨_, rfl⟩,
    openSealed_sealWith (Secret.ofByte 1).length_eq hsealed⟩, ?_⟩
  exact (hrefuses _).2 (Refusal.protocolViolation (v := .v2) hparts (Base64.decode?_encode body)
    rfl hother)

end Engine

end SealedChunk
