import SealedChunk.Proofs.Engine.RoundTrip
import SealedChunk.Proofs.Engine.Strictness

/-!
# What calls leave behind

Notes are handed from call to call, so what a call leaves of them matters most when it fails.  A
call about one key has three exits.  Without a response it leaves all notes alone.  With a response
that leads to no key, it changes the variant and the condition.  With a key, it changes all four
notes, key and findings from the same record, and can then still fail, in a few ways of its own.

The exits are the same from whatever notes a call sets out, so notes never find their way into a
request or a result.

* `Unordered` — how encryptions fail without a response.
* `Unfit`, `Upset` — how encryptions and decryptions fail with a key.
* `Exits` — the three exits; `encrypt_exits`, `decryptAs_exits` — there are no others.
* `Leaves`, `Exits.leaves` — what follows for the notes.
* **`calls_leave`** — all operations with a broker.
-/

namespace SealedChunk.Engine

open Broker Attribute Envelope Crypto

/-! ## Failures -/

/-- The failures of an encryption that has no response. -/
inductive Unordered (e : Engine) (plaintext : Bytes) (inputs : EncryptInputs) (reply : Reply) :
    Failure → Prop where
  | emptyPlaintext (h : plaintext = []) :
    Unordered e plaintext inputs reply (.invalidInput "plaintext must not be empty")
  | unencodable {slot : Slot} {error : SlotError}
    (h : ¬ (Sealable inputs.attributes e.variant.id
      ∧ Sealable inputs.mutableAttributes e.variant.id)) :
    Unordered e plaintext inputs reply
      (.invalidInput ("cannot encode " ++ slot.label ++ ": " ++ error.message))
  | noResponse {failure : Failure} (h : reply.failure? e.timeout = some failure) :
    Unordered e plaintext inputs reply failure

/-- The failure of an encryption under a key whose id does not fit the variant. -/
inductive Unfit (v : Variant) (opened : OpenedKey) : Failure → Prop where
  | keyId {base64 : String} {error : EnvelopeError}
    (h : Envelope.encode v opened.key.id base64 = .error error) :
    Unfit v opened (.malformedResponse v.id opened.key.id error.message)

/-- The failures of a decryption under a key: the payload does not open, or the engine is strict and
there are findings. -/
inductive Upset (e : Engine) (v : Variant) (envelope : String) (opened : OpenedKey) :
    Failure → Prop where
  | notAuthentic {parts : Parts} {body : Bytes} {error : SealError}
    (hparts : Envelope.decode v envelope = .ok parts)
    (hbody : Base64.decode? parts.base64 = some body)
    (h : openSealed body opened.key.secret.bytes (v.payloadAad parts.keyId) = .error error) :
    Upset e v envelope opened (.decryptionFailed v.id parts.keyId)
  | finding {parts : Parts} {failure : Failure} (hparts : Envelope.decode v envelope = .ok parts)
    (hstrict : e.strict = true) (h : opened.findings.Foremost v.id parts.keyId failure) :
    Upset e v envelope opened failure

/-- The failures that say that a response leads to no key. -/
inductive Keyless (response : KeysResponse) : Failure → Prop where
  | denied {variant : String} {keyId : Option String} {condition : Option Condition} :
    Keyless response (.keyDenied variant keyId condition)
  | otherKey {variant requested returned : String} :
    Keyless response (.protocolViolation variant requested returned)
  | unreadable {record : KeyRecord} {rest : List KeyRecord} {variant keyId reason : String}
    (hkeys : response.keys = record :: rest) (h : record.Useless reason) :
    Keyless response (.malformedResponse variant keyId reason)

variable {e : Engine} {v : Variant} {response : KeysResponse} {record : KeyRecord}
  {rest : List KeyRecord} {opened : OpenedKey} {failure : Failure}

lemma not_useless_of_openKey (h : openKey v record = .ok opened) (reason : String) :
    ¬ record.Useless reason := by
  intro huseless
  cases h.symm.trans (openKey_of_useless huseless)

lemma not_keyless_of_unfit (hkeys : response.keys = record :: rest)
    (hopened : openKey v record = .ok opened) (h : Unfit v opened failure) :
    ¬ Keyless response failure := by
  intro hkeyless
  cases h with
  | keyId =>
    cases hkeyless with
    | unreadable hsame huseless =>
      obtain ⟨rfl, -⟩ := List.cons.inj (hkeys.symm.trans hsame)
      exact not_useless_of_openKey hopened _ huseless

lemma not_keyless_of_upset {envelope : String} (h : Upset e v envelope opened failure) :
    ¬ Keyless response failure := by
  cases h with
  | notAuthentic => rintro ⟨⟩
  | finding _ _ h => cases h <;> rintro ⟨⟩

/-! ## Exits -/

/-- The exits of a call about one key, from whatever notes it sets out.  Without a response it fails
early, and with a key it may fail late. -/
inductive Exits {α : Type} (call : Capture → Exchange (Report α)) (reply : Reply) (v : Variant)
    (keyId : Option String) (early : Failure → Prop) (refused : KeysResponse → Failure → Prop)
    (late : OpenedKey → Failure → Prop) : Prop where
  | unanswered {failure : Failure} (h : early failure)
    (hends : ∀ capture, (call capture).Ends reply none (.error failure) capture)
  | refused {response : KeysResponse} {failure : Failure} (h : refused response failure)
    (hends : ∀ capture, (call capture).Ends reply (some response) (.error failure)
      (capture.responded v keyId response))
  | opened {response : KeysResponse} {record : KeyRecord} {rest : List KeyRecord}
    {opened : OpenedKey} {result : Except Failure α} (hkeys : response.keys = record :: rest)
    (hopened : openKey v record = .ok opened)
    (hlate : ∀ failure, result = .error failure → late opened failure)
    (hends : ∀ capture, (call capture).Ends reply (some response) result
      ((capture.responded v keyId response).withKey opened))

/-- What a call about one key leaves behind. -/
structure Leaves {α : Type} (exchange : Exchange (Report α)) (reply : Reply) (v : Variant)
    (keyId : Option String) (before : Capture) (early : Failure → Prop)
    (refused : KeysResponse → Failure → Prop) (late : OpenedKey → Failure → Prop) : Prop where
  /-- Without a response the call fails, and nothing is noted. -/
  unanswered (h : exchange.response? reply = none) :
    ∃ failure, early failure ∧ (exchange.answered reply).result = .error failure
      ∧ (exchange.answered reply).capture = before
  /-- With a failure for want of a key, only the variant and the condition are noted. -/
  keyless {response : KeysResponse} {failure : Failure}
    (h : exchange.response? reply = some response)
    (hresult : (exchange.answered reply).result = .error failure)
    (hfailure : Keyless response failure) :
    (exchange.answered reply).capture = before.responded v keyId response
  /-- Key and findings are noted together, from the same record, on success and on late failures. -/
  together {response : KeysResponse} (h : exchange.response? reply = some response) :
    (∃ failure, refused response failure ∧ (exchange.answered reply).result = .error failure
        ∧ (exchange.answered reply).capture = before.responded v keyId response)
      ∨ ∃ record rest opened, response.keys = record :: rest ∧ openKey v record = .ok opened
        ∧ (exchange.answered reply).capture = (before.responded v keyId response).withKey opened
        ∧ ∀ failure, (exchange.answered reply).result = .error failure → late opened failure

section Exits

variable {α : Type} {call : Capture → Exchange (Report α)} {reply : Reply} {keyId : Option String}
  {early : Failure → Prop} {refused : KeysResponse → Failure → Prop}
  {late : OpenedKey → Failure → Prop}

lemma Exits.leaves (h : Exits call reply v keyId early refused late)
    (hlate : ∀ {response record rest opened failure}, response.keys = record :: rest →
      openKey v record = .ok opened → late opened failure → ¬ Keyless response failure)
    (before : Capture) : Leaves (call before) reply v keyId before early refused late := by
  cases h with
  | unanswered hfailure hends =>
    obtain ⟨hresponse, hresult, hcapture⟩ := hends before
    refine ⟨fun _ => ⟨_, hfailure, hresult, hcapture⟩, fun h => ?_, fun h => ?_⟩ <;>
      cases hresponse.symm.trans h
  | refused hfailure hends =>
    obtain ⟨hresponse, hresult, hcapture⟩ := hends before
    refine ⟨fun h => ?_, fun h _ _ => ?_, fun h => ?_⟩ <;> cases hresponse.symm.trans h
    · exact hcapture
    · exact .inl ⟨_, hfailure, hresult, hcapture⟩
  | opened hkeys hopened hfails hends =>
    obtain ⟨hresponse, rfl, hcapture⟩ := hends before
    refine ⟨fun h => ?_, fun h hresult hfailure => ?_, fun h => ?_⟩ <;> cases hresponse.symm.trans h
    · exact absurd hfailure (hlate hkeys hopened (hfails _ hresult))
    · exact .inr ⟨_, _, _, hkeys, hopened, hcapture, hfails⟩

lemma Exits.result_eq (h : Exits call reply v keyId early refused late) (before after : Capture) :
    ((call before).answered reply).result = ((call after).answered reply).result := by
  cases h with
  | unanswered _ hends => rw [(hends before).result_eq, (hends after).result_eq]
  | refused _ hends => rw [(hends before).result_eq, (hends after).result_eq]
  | opened _ _ _ hends => rw [(hends before).result_eq, (hends after).result_eq]

end Exits

/-! ## Decryptions -/

/-- The key id in an envelope, if it can be read. -/
def requestedId (v : Variant) (envelope : String) : Option String :=
  (Envelope.decode v envelope).toOption.map Parts.keyId

lemma requestedId_eq_some {envelope : String} {parts : Parts}
    (hparts : Envelope.decode v envelope = .ok parts) :
    requestedId v envelope = some parts.keyId := by
  rw [requestedId, hparts]
  rfl

/-- A plaintext under a key is given up for the first finding only. -/
lemma upset_of_judge {envelope : String} {parts : Parts} {plaintext : Bytes}
    (hparts : Envelope.decode v envelope = .ok parts) (hopened : openKey v record = .ok opened)
    (h : e.judge v parts.keyId opened.findings plaintext = .error failure) :
    Upset e v envelope opened failure := by
  cases hstrict : e.strict with
  | false => cases (judge_of_lenient hstrict v parts.keyId opened.findings plaintext).symm.trans h
  | true =>
    cases hclean : opened.findings.isClean with
    | true => cases (judge_of_clean hclean plaintext).symm.trans h
    | false =>
      obtain ⟨foremost, hforemost, hjudge⟩ :=
        judge_of_unclean hstrict hopened hclean parts.keyId plaintext
      cases hjudge.symm.trans h
      exact .finding hparts hstrict hforemost

lemma decryptAs_exits (e : Engine) (v : Variant) (envelope : String) (metadata : Metadata)
    (reply : Reply) :
    Exits (e.decryptAs v envelope metadata) reply v (requestedId v envelope)
      (Unanswered v envelope e.timeout reply) (Refused v (requestedId v envelope))
      (Upset e v envelope) := by
  rcases decryptAs_cases v envelope e.timeout reply with
    ⟨failure, hfailure, hends⟩ | ⟨parts, body, response, hparts, hbody, -,
      ⟨failure, hrefused, hends⟩ | ⟨record, rest, opened, hkeys, -, hopened, hends⟩⟩
  · exact .unanswered hfailure fun capture => hends e metadata capture rfl
  · rw [requestedId_eq_some hparts]
    exact .refused hrefused fun capture => hends e metadata capture
  · rw [requestedId_eq_some hparts]
    refine .opened hkeys hopened (fun failure h => ?_) fun capture => hends e metadata capture
    cases hpayload : openSealed body opened.key.secret.bytes (v.payloadAad parts.keyId) with
    | error error =>
      rw [hpayload] at h
      cases h
      exact .notAuthentic hparts hbody hpayload
    | ok plaintext =>
      rw [hpayload] at h
      exact upset_of_judge hparts hopened h

lemma leaves_decryptAs (e : Engine) (v : Variant) (envelope : String) (metadata : Metadata)
    (before : Capture) (reply : Reply) :
    Leaves (e.decryptAs v envelope metadata before) reply v (requestedId v envelope) before
      (Unanswered v envelope e.timeout reply) (Refused v (requestedId v envelope))
      (Upset e v envelope) :=
  (decryptAs_exits e v envelope metadata reply).leaves (fun _ _ h => not_keyless_of_upset h) before

lemma agrees_decryptAs (e : Engine) (v : Variant) (envelope : String) (metadata : Metadata)
    (other before : Capture) :
    (e.decryptAs v envelope metadata other).Agrees (e.decryptAs v envelope metadata before) where
  request_eq := request?_decryptAs e e v envelope metadata other before
  result_eq reply := (decryptAs_exits e v envelope metadata reply).result_eq other before

/-! ## Encryptions -/

lemma signOutbound_eq_error {m : AttributeMap} {slot : Slot} {nonces later : Nonces}
    (h : (e.signOutbound m slot).run nonces = (.error failure, later)) :
    ∃ error : SlotError,
      failure = .invalidInput ("cannot encode " ++ slot.label ++ ": " ++ error.message) := by
  obtain ⟨hfailure, -⟩ := Prod.ext_iff.1 h
  obtain ⟨error, -, hfailure⟩ := mapError_eq_error_iff.1 hfailure
  exact ⟨error, hfailure.symm⟩

/-- An order fails if one of the maps is too long to be sealed. -/
lemma unordered_of_order {plaintext : Bytes} {inputs : EncryptInputs} {nonces later : Nonces}
    (h : (e.order inputs).run nonces = (.error failure, later)) (reply : Reply) :
    Unordered e plaintext inputs reply failure := by
  have hsealable : ¬ (Sealable inputs.attributes e.variant.id
      ∧ Sealable inputs.mutableAttributes e.variant.id) := by
    rintro ⟨hfixed, hcurrent⟩
    obtain ⟨request, after, hordered⟩ := exists_order hfixed hcurrent nonces
    cases hordered.symm.trans h
  have hslot : ∃ (slot : Slot) (error : SlotError),
      failure = .invalidInput ("cannot encode " ++ slot.label ++ ": " ++ error.message) := by
    rcases hfixed : (e.signOutbound inputs.attributes .immutable).run nonces with
      ⟨early | fixed, between⟩
    · rw [order, Drawing.run_bind_error hfixed] at h
      cases h
      exact ⟨.immutable, signOutbound_eq_error hfixed⟩
    · rcases hcurrent : (e.signOutbound inputs.mutableAttributes .mutable).run between with
        ⟨early | current, after⟩
      · rw [order, Drawing.run_bind_ok hfixed, Drawing.run_bind_error hcurrent] at h
        cases h
        exact ⟨.mutable, signOutbound_eq_error hcurrent⟩
      · rw [order, Drawing.run_bind_ok hfixed, Drawing.run_bind_ok hcurrent] at h
        cases h
  obtain ⟨slot, error, rfl⟩ := hslot
  exact .unencodable hsealable

lemma encrypt_exits (e : Engine) (plaintext : Bytes) (inputs : EncryptInputs)
    (nonces later : Nonces) (reply : Reply) :
    Exits (fun capture => (e.encrypt plaintext inputs capture nonces).1.under later) reply
      e.variant none (Unordered e plaintext inputs reply) (Unsealed e.variant plaintext)
      (Unfit e.variant) := by
  by_cases hplaintext : plaintext = []
  · subst hplaintext
    exact .unanswered (.emptyPlaintext rfl) fun capture => ⟨rfl, rfl, rfl⟩
  · have hnonempty : ¬ plaintext.isEmpty = true := by simpa using hplaintext
    simp only [encrypt, if_neg hnonempty]
    rcases hordered : (e.order inputs).run nonces with ⟨failure | request, between⟩
    · exact .unanswered (unordered_of_order hordered reply) fun capture => ⟨rfl, rfl, rfl⟩
    · rcases reply.response_or_failure e.timeout with ⟨response, rfl⟩ | ⟨failure, hfailure⟩
      · rcases finishEncrypt_response e plaintext response later with
          ⟨failure, hunsealed, hends⟩
          | ⟨record, rest, opened, nonce, body, hkeys, hopened, -, hends⟩
        · exact .refused hunsealed fun capture => ⟨rfl, (hends capture).1, (hends capture).2⟩
        · refine .opened hkeys hopened (fun failure h => ?_) fun capture =>
            ⟨rfl, (hends capture).1, (hends capture).2⟩
          obtain ⟨error, hencode, rfl⟩ := mapError_eq_error_iff.1 h
          exact .keyId hencode
      · obtain ⟨event, hevent⟩ := receive_of_failure hfailure
        have hfinish (capture : Capture) : e.finishEncrypt plaintext capture reply later
            = (.failed failure capture [event], later) := by rw [finishEncrypt, hevent]
        exact .unanswered (.noResponse hfailure) fun capture =>
          ⟨response?_of_failure hfailure _, congrArg (·.1.result) (hfinish capture),
            congrArg (·.1.capture) (hfinish capture)⟩

lemma agrees_encrypt (e : Engine) (plaintext : Bytes) (inputs : EncryptInputs)
    (nonces later : Nonces) (other before : Capture) :
    ((e.encrypt plaintext inputs other nonces).1.under later).Agrees
      ((e.encrypt plaintext inputs before nonces).1.under later) where
  request_eq := by
    rw [encrypt, encrypt]
    split_ifs
    · rfl
    · rcases (e.order inputs).run nonces with ⟨failure | request, between⟩ <;> rfl
  result_eq reply := (encrypt_exits e plaintext inputs nonces later reply).result_eq other before

/-! ## Fetching keys -/

lemma finishFetch_response (e : Engine) (externalId : String) (capture : Capture)
    (response : KeysResponse) :
    (e.finishFetch externalId capture (.response response)).capture
        = { capture with condition := response.conditionFor none }
      ∧ (e.finishFetch externalId capture (.response response)).result
        = (openAll e.variant response.keys).1 := by
  rw [finishFetch, receive, ← conditionOf_fst e.variant]
  dsimp only
  rcases openAll e.variant response.keys with ⟨failure | keys, events⟩ <;> exact ⟨rfl, rfl⟩

/-- A call for keys by an external id notes the condition in the response, and nothing else. -/
lemma keysByExternalId_cases (e : Engine) (externalId : String) (metadata : Metadata)
    (reply : Reply) :
    (∃ failure, ∀ capture, (e.keysByExternalId externalId metadata capture).Ends reply none
        (.error failure) capture)
      ∨ ∃ response, ∀ capture, (e.keysByExternalId externalId metadata capture).Ends reply
        (some response) (openAll e.variant response.keys).1
        { capture with condition := response.conditionFor none } := by
  by_cases hempty : externalId.isEmpty
  · simp only [keysByExternalId, if_pos hempty]
    exact .inl ⟨_, fun capture => ⟨rfl, rfl, rfl⟩⟩
  · simp only [keysByExternalId, if_neg hempty]
    rcases reply.response_or_failure e.timeout with ⟨response, rfl⟩ | ⟨failure, hfailure⟩
    · exact .inr ⟨response, fun capture => ⟨rfl,
        (finishFetch_response e externalId capture response).2,
        (finishFetch_response e externalId capture response).1⟩⟩
    · obtain ⟨event, hevent⟩ := receive_of_failure hfailure
      have hfinish (capture : Capture) : e.finishFetch externalId capture reply
          = .failed failure capture [event] := by rw [finishFetch, hevent]
      exact .inl ⟨failure, fun capture => ⟨response?_of_failure hfailure _,
        congrArg Report.result (hfinish capture), congrArg Report.capture (hfinish capture)⟩⟩

lemma agrees_keysByExternalId (e : Engine) (externalId : String) (metadata : Metadata)
    (other before : Capture) :
    (e.keysByExternalId externalId metadata other).Agrees
      (e.keysByExternalId externalId metadata before) where
  request_eq := by
    rw [keysByExternalId, keysByExternalId]
    split_ifs <;> rfl
  result_eq reply := by
    rcases keysByExternalId_cases e externalId metadata reply with
      ⟨failure, hends⟩ | ⟨response, hends⟩ <;>
      rw [(hends other).result_eq, (hends before).result_eq]

/-! ## All calls -/

/-- **What calls leave behind.**  Whatever was noted before, encryptions and decryptions leave of it
what `Leaves` says, and a call for keys by an external id notes a condition, if there is a response,
and nothing else.  What the caller supplies is none of the notes.  It serves for a call after others
as for the first: the same is asked for, with the same metadata and attributes, and the same comes
of it. -/
theorem calls_leave (e : Engine) (before other : Capture) :
    (∀ (plaintext : Bytes) (inputs : EncryptInputs) (nonces later : Nonces),
        let call (capture : Capture) := (e.encrypt plaintext inputs capture nonces).1.under later
        (call other).Agrees (call before)
          ∧ ∀ reply, Leaves (call before) reply e.variant none before
            (Unordered e plaintext inputs reply) (Unsealed e.variant plaintext) (Unfit e.variant))
      ∧ (∀ (envelope : String) (metadata : Metadata),
        let call (capture : Capture) := e.decrypt envelope metadata capture
        (call other).Agrees (call before)
          ∧ ∀ reply, Leaves (call before) reply e.variant (requestedId e.variant envelope) before
            (Unanswered e.variant envelope e.timeout reply)
            (Refused e.variant (requestedId e.variant envelope)) (Upset e e.variant envelope))
      ∧ (∀ (envelope : String) (metadata : Metadata),
        let call (capture : Capture) := e.decryptAuto envelope metadata capture
        (call other).Agrees (call before)
          ∧ ((∃ v ∈ e.variant :: Variant.builtIn, ∀ reply,
              Leaves (call before) reply v (requestedId v envelope) before
                (Unanswered v envelope e.timeout reply) (Refused v (requestedId v envelope))
                (Upset e v envelope))
            ∨ call before = .finished (.failed (.malformedEnvelope e.variant.id
                "no known cipher variant recognises the envelope") before [])))
      ∧ ∀ (externalId : String) (metadata : Metadata),
        let call (capture : Capture) := e.keysByExternalId externalId metadata capture
        (call other).Agrees (call before)
          ∧ ∀ reply, ((call before).response? reply = none →
              (∃ failure, ((call before).answered reply).result = .error failure)
                ∧ ((call before).answered reply).capture = before)
            ∧ ∀ response, (call before).response? reply = some response →
              ((call before).answered reply).capture
                = { before with condition := response.conditionFor none } := by
  refine ⟨fun plaintext inputs nonces later => ⟨?_, fun reply => ?_⟩,
    fun envelope metadata => ⟨?_, fun reply => ?_⟩, fun envelope metadata => ?_,
    fun externalId metadata => ⟨?_, fun reply => ?_⟩⟩
  · exact agrees_encrypt e plaintext inputs nonces later other before
  · exact (encrypt_exits e plaintext inputs nonces later reply).leaves not_keyless_of_unfit before
  · exact agrees_decryptAs e e.variant envelope metadata other before
  · exact leaves_decryptAs e e.variant envelope metadata before reply
  · rcases decryptAuto_cases e.variant envelope with ⟨v, hv, hauto⟩ | ⟨-, hauto⟩
    · simp only [hauto e metadata _ rfl]
      exact ⟨agrees_decryptAs e v envelope metadata other before,
        .inl ⟨v, hv, leaves_decryptAs e v envelope metadata before⟩⟩
    · simp only [hauto e metadata _ rfl]
      exact ⟨⟨rfl, fun _ => rfl⟩, .inr trivial⟩
  · exact agrees_keysByExternalId e externalId metadata other before
  · rcases keysByExternalId_cases e externalId metadata reply with
      ⟨failure, hends⟩ | ⟨response, hends⟩ <;> obtain ⟨hresponse, hresult, hcapture⟩ := hends before
    · exact ⟨fun _ => ⟨⟨failure, hresult⟩, hcapture⟩, fun _ h => by cases hresponse.symm.trans h⟩
    · refine ⟨fun h => ?_, fun _ h => ?_⟩ <;> cases hresponse.symm.trans h
      exact hcapture

end SealedChunk.Engine
