import SealedChunk.Engine.Engine
import SealedChunk.Proofs.Crypto.Sealing
import SealedChunk.Proofs.Engine.Opening
import SealedChunk.Proofs.Envelope.SideBySide

/-!
# How far a call comes

A call may end before there is a response, with a response that leads to no key, or with a key that
was opened.  How far a decryption comes is a matter of the envelope and of what comes of the
request.  The engine has a say in two things only: how long it waits, and whether it is strict,
which matters once a payload is opened.  What was noted before has none.

So one statement serves all engines and all notes at once: `decryptAs_cases`.  An encryption takes
the same ways once there is a response, and the key is noted as soon as the payload is sealed.

* `Exchange.request?`, `Exchange.response?` — what a call asks for, and the response it gets.
* `Exchange.answered` — what comes of it.
* `Capture.responded`, `Capture.withKey` — what is noted with a response, and with a key.
* `Exchange.Ends`, `Exchange.Agrees` — how an operation ends, and operations that end alike.
* `Unanswered`, `Refused`, `Unsealed` — the failures without a response, and with one but no key.
* `judge` — what an engine makes of a plaintext under a key with findings.
* **`decryptAs_cases`**, `decryptAuto_cases` — how decryptions end.
* `finishEncrypt_response` — how encryptions end that have a response.
-/

namespace SealedChunk.Engine

open Broker Attribute Envelope Crypto

/-! ## Requests and responses -/

/-- What a call asks for. -/
def Exchange.request? {α : Type} : Exchange α → Option Request
  | .finished _ => none
  | .awaiting request _ => some request

/-- The response that a call gets: it makes a request, and what comes of that is a response. -/
def Exchange.response? {α : Type} (exchange : Exchange α) (reply : Reply) : Option KeysResponse :=
  match exchange, reply with
  | .awaiting _ _, .response response => some response
  | _, _ => none

/-- How a call fails whose request has no response. -/
def Reply.failure? (bound : Duration) : Reply → Option Failure
  | .response _ => none
  | .unavailable reason => some (.brokerUnavailable reason)
  | .timedOut => some (.timeout bound)
  | .cancelled => some .cancelled

/-- A request has a response, or there is a failure. -/
lemma Reply.response_or_failure (bound : Duration) (reply : Reply) :
    (∃ response, reply = .response response) ∨ ∃ failure, reply.failure? bound = some failure := by
  cases reply with
  | response response => exact .inl ⟨response, rfl⟩
  | unavailable reason => exact .inr ⟨_, rfl⟩
  | timedOut => exact .inr ⟨_, rfl⟩
  | cancelled => exact .inr ⟨_, rfl⟩

lemma response?_of_failure {α : Type} {bound : Duration} {reply : Reply} {failure : Failure}
    (h : reply.failure? bound = some failure) (exchange : Exchange α) :
    exchange.response? reply = none := by
  cases reply <;> cases h <;> cases exchange <;> rfl

lemma receive_of_failure {e : Engine} {reply : Reply} {failure : Failure}
    (h : reply.failure? e.timeout = some failure) :
    ∃ event, e.receive reply = .error (failure, event) := by
  cases reply <;> cases h <;> exact ⟨_, rfl⟩

/-- What the operation gives if the request, should there be one, is answered so. -/
def Exchange.answered {α : Type} (exchange : Exchange α) (reply : Reply) : α :=
  match exchange with
  | .finished result => result
  | .awaiting _ resume => resume reply

/-- An operation that draws nonces at its end, with a supply of them. -/
def Exchange.under {α : Type} (exchange : Exchange (Nonces → Report α × Nonces)) (later : Nonces) :
    Exchange (Report α) :=
  match exchange with
  | .finished finish => .finished (finish later).1
  | .awaiting request resume => .awaiting request fun reply => (resume reply later).1

/-! ## Notes -/

/-- What is noted once there is a response. -/
def Capture.responded (c : Capture) (v : Variant) (keyId : Option String)
    (response : KeysResponse) : Capture :=
  { c with cipherId := some v.id, condition := response.conditionFor keyId }

/-- What is noted once a key is opened. -/
def Capture.withKey (c : Capture) (opened : OpenedKey) : Capture :=
  { c with key := some opened.key, findings := opened.findings }

/-- An operation gets this response, or none, and ends with this result and these notes. -/
structure Exchange.Ends {α : Type} (exchange : Exchange (Report α)) (reply : Reply)
    (response : Option KeysResponse) (result : Except Failure α) (capture : Capture) : Prop where
  response_eq : exchange.response? reply = response
  result_eq : (exchange.answered reply).result = result
  capture_eq : (exchange.answered reply).capture = capture

/-- The operations ask for the same, and whatever comes of it, their results are the same. -/
structure Exchange.Agrees {α : Type} (x y : Exchange (Report α)) : Prop where
  request_eq : x.request? = y.request?
  result_eq (reply : Reply) : (x.answered reply).result = (y.answered reply).result

/-! ## Failures -/

/-- The failures of a decryption that has no response. -/
inductive Unanswered (v : Variant) (envelope : String) (bound : Duration) (reply : Reply) :
    Failure → Prop where
  | malformedEnvelope {error : EnvelopeError} (h : Envelope.decode v envelope = .error error) :
    Unanswered v envelope bound reply (.malformedEnvelope v.id error.message)
  | bodyNotBase64 {parts : Parts} (hparts : Envelope.decode v envelope = .ok parts)
    (h : Base64.decode? parts.base64 = none) :
    Unanswered v envelope bound reply (.decryptionFailed v.id parts.keyId)
  | noResponse {failure : Failure} (h : reply.failure? bound = some failure) :
    Unanswered v envelope bound reply failure

/-- The failures of a response that leads to no key: there is none in it, or the first is not the
one that was asked for, or that one is of no use. -/
inductive Refused (v : Variant) (keyId : Option String) (response : KeysResponse) :
    Failure → Prop where
  | denied (h : response.keys = []) :
    Refused v keyId response (.keyDenied v.id keyId (response.conditionFor keyId))
  | otherKey {requested : String} {record : KeyRecord} {rest : List KeyRecord}
    (hkeyId : keyId = some requested) (hkeys : response.keys = record :: rest)
    (h : record.id ≠ requested) :
    Refused v keyId response (.protocolViolation v.id requested record.id)
  | useless {record : KeyRecord} {rest : List KeyRecord} {reason : String}
    (hkeys : response.keys = record :: rest) (h : record.Useless reason) :
    Refused v keyId response (.malformedResponse v.id record.id reason)

/-- The failures of an encryption that has a response and notes no key: the response leads to none,
or the payload cannot be sealed. -/
inductive Unsealed (v : Variant) (plaintext : Bytes) (response : KeysResponse) :
    Failure → Prop where
  | refused {failure : Failure} (h : Refused v none response failure) :
    Unsealed v plaintext response failure
  | tooLong {record : KeyRecord} {rest : List KeyRecord} (hkeys : response.keys = record :: rest)
    (h : GcmSiv.maxLength < plaintext.length
      ∨ GcmSiv.maxLength < (v.payloadAad record.id).length) :
    Unsealed v plaintext response (.malformedResponse v.id record.id SealError.refused.message)

/-! ## Decryptions -/

/-- What an engine makes of a plaintext: a strict one gives the first failure of the findings
instead. -/
def judge (e : Engine) (v : Variant) (keyId : String) (findings : Findings) (plaintext : Bytes) :
    Except Failure Bytes :=
  match e.strict, findings.integrityFailures v.id keyId ++ findings.protectedFailures keyId with
  | true, failure :: _ => .error failure
  | _, _ => .ok plaintext

variable {e : Engine} {v : Variant} {keyId : String} {body : Bytes} {capture : Capture}
  {response : KeysResponse} {record : KeyRecord} {rest : List KeyRecord} {opened : OpenedKey}

/-- The condition that is noted is the one that matters to the key that was asked for. -/
lemma conditionOf_fst (v : Variant) (keyId : Option String) (response : KeysResponse) :
    (conditionOf v keyId response).1 = response.conditionFor keyId := by
  rw [conditionOf]
  split_ifs with hok
  · rw [KeysResponse.isOk, Bool.and_eq_true, Option.isNone_iff_eq_none, List.isEmpty_iff] at hok
    cases keyId <;> simp [KeysResponse.conditionFor, hok]
  · cases response.conditionFor keyId <;> rfl

lemma finishDecrypt_of_id (hkeys : response.keys = record :: rest) (hid : record.id = keyId) :
    e.finishDecrypt v keyId body capture (.response response)
      = e.openPayload v keyId body record
          { capture with cipherId := some v.id, condition := response.conditionFor (some keyId) }
          (conditionOf v (some keyId) response).2 := by
  rw [finishDecrypt, receive, ← conditionOf_fst v]
  dsimp only
  rw [hkeys]
  dsimp only
  rw [if_pos hid]

lemma capture_openPayload (hopened : openKey v record = .ok opened) (noted : List Event) :
    (e.openPayload v keyId body record capture noted).capture
      = { capture with key := some opened.key, findings := opened.findings } := by
  rw [openPayload, hopened]
  dsimp only
  cases openSealed body opened.key.secret.bytes (v.payloadAad keyId) with
  | error error => rfl
  | ok plaintext =>
    dsimp only
    split <;> rfl

lemma openPayload_of_useless {reason : String} (h : record.Useless reason) (capture : Capture)
    (noted : List Event) : e.openPayload v keyId body record capture noted
      = .failed (.malformedResponse v.id record.id reason) capture noted := by
  rw [openPayload, openKey_of_useless h]
  rfl

/-- The result of a decryption under a key with the id that was asked for. -/
lemma result_openPayload_of_id (hopened : openKey v record = .ok opened) (hid : record.id = keyId)
    {capture : Capture} (hcipher : capture.cipherId = some v.id) (noted : List Event) :
    (e.openPayload v keyId body record capture noted).result
      = (openSealed body opened.key.secret.bytes (v.payloadAad keyId)).mapError
          (fun _ => .decryptionFailed v.id keyId) >>= e.judge v keyId opened.findings := by
  have hkeyId : opened.key.id = keyId := (openKey_eq_ok hopened).2.1.trans hid
  rw [openPayload, hopened]
  dsimp only
  cases openSealed body opened.key.secret.bytes (v.payloadAad keyId) with
  | error error => rfl
  | ok plaintext =>
    simp only [Capture.integrityFailures, hcipher, hkeyId]
    show _ = e.judge v keyId opened.findings plaintext
    rw [judge]
    generalize opened.findings.integrityFailures v.id keyId
      ++ opened.findings.protectedFailures keyId = failures
    cases e.strict <;> cases failures <;> rfl

/-- What comes of a response to a decryption: it leads to no key, whatever the engine, or a key is
opened, and the payload is opened under it. -/
lemma finishDecrypt_cases (v : Variant) (keyId : String) (body : Bytes) (response : KeysResponse) :
    (∃ failure, Refused v (some keyId) response failure ∧ ∀ (e : Engine) (capture : Capture),
        (e.finishDecrypt v keyId body capture (.response response)).result = .error failure
          ∧ (e.finishDecrypt v keyId body capture (.response response)).capture
            = capture.responded v (some keyId) response)
      ∨ ∃ record rest opened, response.keys = record :: rest ∧ record.id = keyId
        ∧ openKey v record = .ok opened ∧ ∀ (e : Engine) (capture : Capture),
          (e.finishDecrypt v keyId body capture (.response response)).result
            = (openSealed body opened.key.secret.bytes (v.payloadAad keyId)).mapError
                (fun _ => .decryptionFailed v.id keyId) >>= e.judge v keyId opened.findings
          ∧ (e.finishDecrypt v keyId body capture (.response response)).capture
            = (capture.responded v (some keyId) response).withKey opened := by
  cases hkeys : response.keys with
  | nil =>
    refine .inl ⟨_, .denied hkeys, fun e capture => ?_⟩
    rw [finishDecrypt, receive, Capture.responded, ← conditionOf_fst v]
    dsimp only
    rw [hkeys]
    exact ⟨rfl, rfl⟩
  | cons record rest =>
    by_cases hid : record.id = keyId
    · rcases useless_or_useful record with ⟨reason, h⟩ | ⟨secret, hsecret, hfixed, hcurrent⟩
      · refine .inl ⟨_, .useless hkeys h, fun e capture => ?_⟩
        rw [finishDecrypt_of_id hkeys hid, openPayload_of_useless h]
        exact ⟨rfl, rfl⟩
      · obtain ⟨opened, hopened⟩ :=
          (openKey_isOk_iff (v := v)).2 ⟨⟨secret, hsecret⟩, hfixed, hcurrent⟩
        refine .inr ⟨record, rest, opened, rfl, hid, hopened, fun e capture => ?_⟩
        rw [finishDecrypt_of_id hkeys hid, capture_openPayload hopened]
        exact ⟨result_openPayload_of_id hopened hid rfl _, rfl⟩
    · refine .inl ⟨_, .otherKey rfl hkeys hid, fun e capture => ?_⟩
      rw [finishDecrypt, receive, Capture.responded, ← conditionOf_fst v]
      dsimp only
      rw [hkeys]
      dsimp only
      rw [if_neg hid]
      exact ⟨rfl, rfl⟩

/-- An envelope that is read leads to a request for its key. -/
lemma decryptAs_eq_awaiting {envelope base64 : String}
    (hdecode : Envelope.decode v envelope = .ok ⟨keyId, base64⟩)
    (hbody : Base64.decode? base64 = some body) (metadata : Metadata) (capture : Capture) :
    e.decryptAs v envelope metadata capture = .awaiting (.fetch { metadata, keyIds := [keyId] })
      (e.finishDecrypt v keyId body capture) := by
  rw [decryptAs, hdecode]
  dsimp only
  rw [hbody]

/-- What a decryption asks for is a matter of the envelope and the metadata. -/
lemma request?_decryptAs (d e : Engine) (v : Variant) (envelope : String) (metadata : Metadata)
    (capture capture' : Capture) :
    (d.decryptAs v envelope metadata capture).request?
      = (e.decryptAs v envelope metadata capture').request? := by
  rw [decryptAs, decryptAs]
  cases Envelope.decode v envelope with
  | error error => rfl
  | ok parts =>
    dsimp only
    cases Base64.decode? parts.base64 <;> rfl

/-- **How decryptions end.**  Without a response, with a failure of its own and without a note; with
a response that leads to no key; or with a key, and then with what the payload under it comes to. -/
theorem decryptAs_cases (v : Variant) (envelope : String) (bound : Duration) (reply : Reply) :
    (∃ failure, Unanswered v envelope bound reply failure
        ∧ ∀ (e : Engine) (metadata : Metadata) (capture : Capture), e.timeout = bound →
          (e.decryptAs v envelope metadata capture).Ends reply none (.error failure) capture)
      ∨ ∃ parts body response, Envelope.decode v envelope = .ok parts
        ∧ Base64.decode? parts.base64 = some body ∧ reply = .response response
        ∧ ((∃ failure, Refused v (some parts.keyId) response failure
              ∧ ∀ (e : Engine) (metadata : Metadata) (capture : Capture),
                (e.decryptAs v envelope metadata capture).Ends reply (some response)
                  (.error failure) (capture.responded v (some parts.keyId) response))
          ∨ ∃ record rest opened, response.keys = record :: rest ∧ record.id = parts.keyId
            ∧ openKey v record = .ok opened
            ∧ ∀ (e : Engine) (metadata : Metadata) (capture : Capture),
              (e.decryptAs v envelope metadata capture).Ends reply (some response)
                ((openSealed body opened.key.secret.bytes (v.payloadAad parts.keyId)).mapError
                  (fun _ => .decryptionFailed v.id parts.keyId)
                    >>= e.judge v parts.keyId opened.findings)
                ((capture.responded v (some parts.keyId) response).withKey opened)) := by
  cases hparts : Envelope.decode v envelope with
  | error error =>
    refine .inl ⟨_, .malformedEnvelope hparts, fun e metadata capture _ => ?_⟩
    rw [decryptAs, hparts]
    exact ⟨rfl, rfl, rfl⟩
  | ok parts =>
    cases hbody : Base64.decode? parts.base64 with
    | none =>
      refine .inl ⟨_, .bodyNotBase64 hparts hbody, fun e metadata capture _ => ?_⟩
      rw [decryptAs, hparts]
      dsimp only
      rw [hbody]
      exact ⟨rfl, rfl, rfl⟩
    | some body =>
      rcases reply.response_or_failure bound with ⟨response, rfl⟩ | ⟨failure, hfailure⟩
      · refine .inr ⟨parts, body, response, rfl, hbody, rfl, ?_⟩
        rcases finishDecrypt_cases v parts.keyId body response with
          ⟨failure, hrefused, hends⟩ | ⟨record, rest, opened, hkeys, hid, hopened, hends⟩
        · refine .inl ⟨failure, hrefused, fun e metadata capture => ?_⟩
          rw [decryptAs_eq_awaiting hparts hbody]
          exact ⟨rfl, (hends e capture).1, (hends e capture).2⟩
        · refine .inr ⟨record, rest, opened, hkeys, hid, hopened, fun e metadata capture => ?_⟩
          rw [decryptAs_eq_awaiting hparts hbody]
          exact ⟨rfl, (hends e capture).1, (hends e capture).2⟩
      · refine .inl ⟨failure, .noResponse hfailure, fun e metadata capture hbound => ?_⟩
        obtain ⟨event, hevent⟩ := receive_of_failure (hbound ▸ hfailure)
        have hfinish : e.finishDecrypt v parts.keyId body capture reply
            = .failed failure capture [event] := by
          rw [finishDecrypt, hevent]
        rw [decryptAs_eq_awaiting hparts hbody]
        exact ⟨response?_of_failure hfailure _, congrArg Report.result hfinish,
          congrArg Report.capture hfinish⟩

/-- An engine that is not told the variant decrypts an envelope as one of a variant that it knows,
or none of these recognises it.  Which of the two is a matter of the engine's own variant alone. -/
lemma decryptAuto_cases (own : Variant) (envelope : String) :
    (∃ v ∈ own :: Variant.builtIn, ∀ (e : Engine) (metadata : Metadata) (capture : Capture),
        e.variant = own →
          e.decryptAuto envelope metadata capture = e.decryptAs v envelope metadata capture)
      ∨ (∀ v ∈ own :: Variant.builtIn, classify v envelope = none)
        ∧ ∀ (e : Engine) (metadata : Metadata) (capture : Capture), e.variant = own →
          e.decryptAuto envelope metadata capture = .finished (.failed (.malformedEnvelope own.id
            "no known cipher variant recognises the envelope") capture []) := by
  cases hany : classifyAny (own :: Variant.builtIn) envelope with
  | none =>
    refine .inr ⟨List.findSome?_eq_none_iff.1 hany, ?_⟩
    rintro e metadata capture rfl
    rw [decryptAuto, hany]
  | some info =>
    refine .inl ⟨info.variant, (classify_of_classifyAny hany).1, ?_⟩
    rintro e metadata capture rfl
    rw [decryptAuto, hany]

/-! ## Encryptions -/

/-- What comes of a response to an encryption.  A key is noted once the payload is sealed, and then
only the id of the key can be in the way. -/
lemma finishEncrypt_response (e : Engine) (plaintext : Bytes) (response : KeysResponse)
    (later : Nonces) :
    (∃ failure, Unsealed e.variant plaintext response failure ∧ ∀ capture,
        (e.finishEncrypt plaintext capture (.response response) later).1.result = .error failure
          ∧ (e.finishEncrypt plaintext capture (.response response) later).1.capture
            = capture.responded e.variant none response)
      ∨ ∃ record rest opened nonce body, response.keys = record :: rest
        ∧ openKey e.variant record = .ok opened
        ∧ sealWith nonce plaintext opened.key.secret.bytes (e.variant.payloadAad opened.key.id)
          = .ok body
        ∧ ∀ capture,
          (e.finishEncrypt plaintext capture (.response response) later).1.result
              = (Envelope.encode e.variant opened.key.id (Base64.encode body)).mapError
                  (fun error => malformed e.variant opened.key.id error.message)
            ∧ (e.finishEncrypt plaintext capture (.response response) later).1.capture
              = (capture.responded e.variant none response).withKey opened := by
  simp only [finishEncrypt, receive, conditionOf_fst]
  cases hkeys : response.keys with
  | nil => exact .inl ⟨_, .refused (.denied hkeys), fun capture => ⟨rfl, rfl⟩⟩
  | cons record rest =>
    dsimp only
    rcases useless_or_useful record with ⟨reason, h⟩ | ⟨secret, hsecret, hfixed, hcurrent⟩
    · rw [openKey_of_useless h]
      exact .inl ⟨_, .refused (.useless hkeys h), fun capture => ⟨rfl, rfl⟩⟩
    · obtain ⟨opened, hopened⟩ :=
        (openKey_isOk_iff (v := e.variant)).2 ⟨⟨secret, hsecret⟩, hfixed, hcurrent⟩
      simp only [hopened]
      rcases hsealed : (sealBytes plaintext opened.key.secret.bytes
        (e.variant.payloadAad opened.key.id)).run later with ⟨error | body, after⟩
      · obtain ⟨rfl, hlong⟩ := sealBytes_eq_error opened.key.secret.length_eq hsealed
        rw [(openKey_eq_ok hopened).2.1] at hlong ⊢
        exact .inl ⟨_, .tooLong hkeys hlong, fun capture => ⟨rfl, rfl⟩⟩
      · obtain ⟨nonce, hbody⟩ := sealBytes_eq_ok hsealed
        refine .inr ⟨record, rest, opened, nonce, body, rfl, hopened, hbody, fun capture => ?_⟩
        dsimp only
        cases Envelope.encode e.variant opened.key.id (Base64.encode body) <;> exact ⟨rfl, rfl⟩

end SealedChunk.Engine
