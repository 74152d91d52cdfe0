import SealedChunk.Engine.Exchange
import SealedChunk.Engine.Opening
import SealedChunk.Envelope.Format

/-!
# The engine

An engine writes and reads envelopes of one variant.  To encrypt, it orders a key from the broker,
with the caller's attributes sealed and signed under the client secret, and seals the plaintext
under the key that comes back.  To decrypt, it takes the key id from the envelope, fetches that key,
and opens the payload.  Keys are never kept from one call to the next.

What a call learns besides its result goes into a `Capture`: the variant, the key, the condition
that the broker reported, and the findings on the key.  Findings do not stop a call, unless the
engine is strict and a payload is to be opened.

* `Engine` — the settings.  An engine exists only for a variant that is fit to be used beside the
  built-in ones.
* `encrypt`, `decrypt`, `decryptAuto`, `keysByExternalId` — the operations with a broker.
* `chunkInfo`, `prepareUpdate` — the operations without one.
-/

namespace SealedChunk

open Broker Attribute Envelope Crypto

/-- The settings of an engine. -/
structure Engine where
  variant : Variant
  /-- Shared with the broker. -/
  clientSecret : Secret
  /-- How long the broker may take to answer. -/
  timeout : Duration := .ofMillis 30000
  /-- Whether findings on a key stop a decryption. -/
  strict : Bool := false
  /-- No envelope of the variant can be taken for one of a built-in variant. -/
  fit : variant.validateAlongside Variant.builtIn = .ok ()

namespace Engine

/-- An engine for a variant, if the variant is fit. -/
def make (variant : Variant) (clientSecret : Secret) : Except Failure Engine :=
  match h : variant.validateAlongside Variant.builtIn with
  | .ok () => .ok { variant, clientSecret, fit := h }
  | .error e => .error (.invalidInput e.message)

/-! ## What a call learns -/

/-- What a call learned besides its result. -/
structure Capture where
  /-- The variant of the envelope. -/
  cipherId : Option String := none
  key : Option Key := none
  /-- The condition that the broker reported, even if a key came with it. -/
  condition : Option Condition := none
  findings : Findings := {}

/-- A failure for each slot of the captured key whose signature does not hold. -/
def Capture.integrityFailures (c : Capture) : List Failure :=
  match c.key, c.cipherId with
  | some key, some variant => c.findings.integrityFailures variant key.id
  | _, _ => []

/-- How a call ended. -/
structure Report (α : Type) where
  result : Except Failure α
  capture : Capture
  events : List Event

/-- A call that failed. -/
def Report.failed {α : Type} (failure : Failure) (capture : Capture) (events : List Event) :
    Report α :=
  ⟨.error failure, capture, events⟩

/-- The response in a reply, or how a call without response fails. -/
def receive (e : Engine) : Reply → Except (Failure × Event) KeysResponse
  | .response response => .ok response
  | .unavailable reason =>
    .error (.brokerUnavailable reason, .callFailed e.variant.id reason)
  | .timedOut => .error (.timeout e.timeout, .callTimedOut e.variant.id e.timeout)
  | .cancelled => .error (.cancelled, .callCancelled e.variant.id)

/-! ## Encrypting -/

/-- What the caller of an encryption supplies besides the plaintext. -/
structure EncryptInputs where
  metadata : Metadata := .empty
  attributes : AttributeMap := .empty
  mutableAttributes : AttributeMap := .empty

/-- Seals and signs attributes for an order.  Until the key has an id, the variant's stands for
it. -/
def signOutbound (e : Engine) (attributes : AttributeMap) (slot : Slot) :
    Drawing Failure SignedAttributes :=
  (encodeSlot attributes e.clientSecret.bytes e.clientSecret.bytes
    (.ofSlot slot e.variant.id)).mapError fun error =>
      .invalidInput ("cannot encode " ++ slot.label ++ ": " ++ error.message)

/-- The order for one key with the caller's attributes. -/
def order (e : Engine) (inputs : EncryptInputs) : Drawing Failure CreateRequest := do
  let attributes ← e.signOutbound inputs.attributes .immutable
  let mutableAttributes ← e.signOutbound inputs.mutableAttributes .mutable
  pure { metadata := inputs.metadata,
         keys := [{ ref := e.variant.id, quantity := 1, attributes, mutableAttributes }] }

/-- Encrypts under the first key of the reply. -/
def finishEncrypt (e : Engine) (plaintext : Bytes) (capture : Capture) (reply : Reply)
    (nonces : Nonces) : Report String × Nonces :=
  match e.receive reply with
  | .error (failure, event) => (.failed failure capture [event], nonces)
  | .ok response =>
    let v := e.variant
    let (condition, noted) := conditionOf v none response
    let capture := { capture with cipherId := some v.id, condition }
    match response.keys with
    | [] =>
      (.failed (.keyDenied v.id none condition) capture (noted ++ [.noKeysReturned v.id none]),
        nonces)
    | record :: _ =>
      match openKey v record with
      | .error failure => (.failed failure capture noted, nonces)
      | .ok opened =>
        let key := opened.key
        let events := noted ++ opened.events
        match (sealBytes plaintext key.secret.bytes (v.payloadAad key.id)).run nonces with
        | (.error error, nonces) =>
          (.failed (malformed v key.id error.message) capture events, nonces)
        | (.ok body, nonces) =>
          let capture := { capture with key := some key, findings := opened.findings }
          match Envelope.encode v key.id (Base64.encode body) with
          | .error error => (.failed (malformed v key.id error.message) capture events, nonces)
          | .ok envelope =>
            (⟨.ok envelope, capture, events ++ [.chunkEncrypted v.id key.id]⟩, nonces)

/-- Encrypts a plaintext under a new key.  Nonces are drawn before the request, perhaps by the
broker, and after it. -/
def encrypt (e : Engine) (plaintext : Bytes) (inputs : EncryptInputs) (capture : Capture)
    (nonces : Nonces) : Exchange (Nonces → Report String × Nonces) × Nonces :=
  if plaintext.isEmpty then
    let failure := .invalidInput "plaintext must not be empty"
    (.finished fun nonces => (.failed failure capture [], nonces), nonces)
  else
    match (e.order inputs).run nonces with
    | (.error failure, nonces) =>
      (.finished fun nonces => (.failed failure capture [], nonces), nonces)
    | (.ok request, nonces) =>
      (.awaiting (.create request) (e.finishEncrypt plaintext capture), nonces)

/-! ## Decrypting -/

/-- Opens a payload under the key that a record holds. -/
def openPayload (e : Engine) (v : Variant) (keyId : String) (body : Bytes) (record : KeyRecord)
    (capture : Capture) (noted : List Event) : Report Bytes :=
  match openKey v record with
  | .error failure => .failed failure capture noted
  | .ok opened =>
    let capture := { capture with key := some opened.key, findings := opened.findings }
    let events := noted ++ opened.events
    match openSealed body opened.key.secret.bytes (v.payloadAad keyId) with
    | .error _ =>
      .failed (.decryptionFailed v.id keyId) capture (events ++ [.chunkRefused v.id keyId])
    | .ok plaintext =>
      let failures := capture.integrityFailures ++ capture.findings.protectedFailures keyId
      match e.strict, failures with
      | true, failure :: _ => .failed failure capture events
      | _, _ => ⟨.ok plaintext, capture, events ++ [.chunkDecrypted v.id keyId]⟩

/-- Decrypts under the first key of the reply, which must be the one that was requested. -/
def finishDecrypt (e : Engine) (v : Variant) (keyId : String) (body : Bytes) (capture : Capture)
    (reply : Reply) : Report Bytes :=
  match e.receive reply with
  | .error (failure, event) => .failed failure capture [event]
  | .ok response =>
    let (condition, noted) := conditionOf v (some keyId) response
    let capture := { capture with cipherId := some v.id, condition }
    match response.keys with
    | [] =>
      .failed (.keyDenied v.id (some keyId) condition) capture
        (noted ++ [.noKeysReturned v.id (some keyId)])
    | record :: _ =>
      if record.id = keyId then e.openPayload v keyId body record capture noted
      else
        .failed (.protocolViolation v.id keyId record.id) capture
          (noted ++ [.otherKeyReturned v.id keyId record.id])

/-- Decrypts an envelope of a given variant. -/
def decryptAs (e : Engine) (v : Variant) (envelope : String) (metadata : Metadata)
    (capture : Capture) : Exchange (Report Bytes) :=
  match Envelope.decode v envelope with
  | .error error => .finished (.failed (.malformedEnvelope v.id error.message) capture [])
  | .ok parts =>
    match Base64.decode? parts.base64 with
    | none =>
      .finished (.failed (.decryptionFailed v.id parts.keyId) capture
        [.bodyNotBase64 v.id parts.keyId])
    | some body =>
      .awaiting (.fetch { metadata, keyIds := [parts.keyId] })
        (e.finishDecrypt v parts.keyId body capture)

/-- Decrypts an envelope of the engine's variant. -/
def decrypt (e : Engine) (envelope : String) (metadata : Metadata) (capture : Capture) :
    Exchange (Report Bytes) :=
  e.decryptAs e.variant envelope metadata capture

/-- Decrypts an envelope of the engine's variant or a built-in one. -/
def decryptAuto (e : Engine) (envelope : String) (metadata : Metadata) (capture : Capture) :
    Exchange (Report Bytes) :=
  match classifyAny (e.variant :: Variant.builtIn) envelope with
  | some info => e.decryptAs info.variant envelope metadata capture
  | none =>
    let reason := "no known cipher variant recognises the envelope"
    .finished (.failed (.malformedEnvelope e.variant.id reason) capture [])

/-! ## Keys by external id -/

/-- Opens all keys of the reply. -/
def finishFetch (e : Engine) (externalId : String) (capture : Capture) (reply : Reply) :
    Report (List FetchedKey) :=
  match e.receive reply with
  | .error (failure, event) => .failed failure capture [event]
  | .ok response =>
    let (condition, noted) := conditionOf e.variant none response
    let capture := { capture with condition }
    match openAll e.variant response.keys with
    | (.error failure, events) => .failed failure capture (noted ++ events)
    | (.ok keys, events) =>
      ⟨.ok keys, capture, noted ++ events ++ [.keysFetched e.variant.id externalId keys.length]⟩

/-- Fetches every key with an external id.  None at all is no failure. -/
def keysByExternalId (e : Engine) (externalId : String) (metadata : Metadata) (capture : Capture) :
    Exchange (Report (List FetchedKey)) :=
  if externalId.isEmpty then
    .finished (.failed (.invalidInput "external id must not be empty") capture [])
  else
    .awaiting (.fetch { metadata, externalIds := [externalId] })
      (e.finishFetch externalId capture)

/-! ## Without a broker -/

/-- Where an envelope of the engine's variant keeps its parts. -/
def chunkInfo (e : Engine) (data : String) : Option ChunkInfo := classify e.variant data

/-- Prepares an order to replace the mutable attributes of a key.  The new signature covers the one
it replaces, so that the broker can refuse an order made from an old view of the key. -/
def prepareUpdate (key : Key) (attributes : AttributeMap) (force : Bool) :
    Drawing Failure UpdateSpec := do
  let ctx : SigningContext :=
    { id := key.id, mutable := true, previous := key.mutableSignature, force }
  let mutableAttributes ← (encodeSlot attributes key.secret.bytes key.secret.bytes ctx).mapError
    fun error =>
      Failure.invalidInput
        ("cannot encode mutable attributes for key " ++ key.id ++ ": " ++ error.message)
  pure { keyId := key.id, mutableAttributes, previous := key.mutableSignature, force }

end Engine

end SealedChunk
