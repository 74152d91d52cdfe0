import SealedChunk.Engine.Engine
import SealedChunk.Session.Clock

/-!
# Sessions

A session is a broker and a supply of nonces that several engines share.  It carries the requests of
their operations to the broker, one operation after the other, and notes which requests were made.

* `Session` — what is shared.
* `Session.exchange` — carries the request of an operation, if there is one.
* `Session.encrypt`, `Session.decrypt`, `Session.decryptAuto`, `Session.keysByExternalId` — whole
  operations.
-/

namespace SealedChunk

open Broker Crypto Engine Session

/-- A broker and a supply of nonces. -/
structure Session where
  backend : Backend
  nonces : Nonces

namespace Session

/-- How an operation ended, and the request that was made for it. -/
structure Transcript (α : Type) where
  report : Report α
  request : Option Request

/-- Carries the request of an operation.  If the operation was called off before it began, there is
none. -/
def exchange {α : Type} (s : Session) (bound : Duration) (cancellation : Cancellation) :
    Exchange α → (α × Option Request) × Session
  | .finished result => ((result, none), s)
  | .awaiting request resume =>
    if cancellation = .before then ((resume .cancelled, none), s)
    else
      let answered := s.backend.answer request s.nonces
      ((resume (settle answered.answer bound cancellation), some request),
       { backend := answered.backend, nonces := answered.nonces })

/-- Encrypts with one of the engines. -/
def encrypt (s : Session) (e : Engine) (plaintext : Bytes) (inputs : EncryptInputs)
    (cancellation : Cancellation) : Transcript String × Session :=
  let (exchange, nonces) := e.encrypt plaintext inputs {} s.nonces
  let ((finish, request), s) := Session.exchange { s with nonces } e.timeout cancellation exchange
  let (report, nonces) := finish s.nonces
  (⟨report, request⟩, { s with nonces })

/-- Carries the request of an operation that draws no nonces. -/
def carry {α : Type} (s : Session) (e : Engine) (cancellation : Cancellation)
    (operation : Exchange (Report α)) : Transcript α × Session :=
  let ((report, request), s) := s.exchange e.timeout cancellation operation
  (⟨report, request⟩, s)

/-- Decrypts an envelope of the engine's variant. -/
def decrypt (s : Session) (e : Engine) (envelope : String) (metadata : Metadata)
    (cancellation : Cancellation) : Transcript Bytes × Session :=
  s.carry e cancellation (e.decrypt envelope metadata {})

/-- Decrypts an envelope of the engine's variant or a built-in one. -/
def decryptAuto (s : Session) (e : Engine) (envelope : String) (metadata : Metadata)
    (cancellation : Cancellation) : Transcript Bytes × Session :=
  s.carry e cancellation (e.decryptAuto envelope metadata {})

/-- Fetches every key with an external id. -/
def keysByExternalId (s : Session) (e : Engine) (externalId : String) (metadata : Metadata)
    (cancellation : Cancellation) : Transcript (List FetchedKey) × Session :=
  s.carry e cancellation (e.keysByExternalId externalId metadata {})

/-- Prepares an order to replace the mutable attributes of a key. -/
def prepareUpdate (s : Session) (key : Key) (attributes : AttributeMap) (force : Bool) :
    Except Failure UpdateSpec × Session :=
  let (result, nonces) := (Engine.prepareUpdate key attributes force).run s.nonces
  (result, { s with nonces })

/-! ## The broker in memory, spoken to directly -/

/-- The broker, if it is one in memory. -/
def memory? (s : Session) : Option MemoryBroker :=
  match s.backend with
  | .memory b => some b
  | .script _ => none

/-- Has a broker in memory carry out an order to replace mutable attributes. -/
def applyUpdate (s : Session) (b : MemoryBroker) (spec : UpdateSpec) :
    Except MemoryBroker.UpdateError Unit × Session :=
  match (b.update spec).run s.nonces with
  | (.ok b, nonces) => (.ok (), { backend := .memory b, nonces })
  | (.error error, nonces) => (.error error, { s with nonces })

end Session

end SealedChunk
