import SealedChunk.Engine.Event

/-!
# One request at most

An operation of the engine is local work, then at most one request to the broker, then local work on
what came of it.  `Exchange` has that shape: it is finished, or it awaits the answer to its one
request.  Who carries the request, and how time passes meanwhile, is not the engine's business.
-/

namespace SealedChunk.Engine

open Broker

/-- What an engine asks its broker. -/
inductive Request where
  | create (request : CreateRequest)
  | fetch (request : FetchRequest)

/-- What came of a request. -/
inductive Reply where
  | response (response : KeysResponse)
  /-- The broker could not be reached. -/
  | unavailable (reason : String)
  /-- There was no answer in time. -/
  | timedOut
  /-- The caller called it off. -/
  | cancelled

/-- An operation with at most one request. -/
inductive Exchange (α : Type) where
  | finished (result : α)
  | awaiting (request : Request) (resume : Reply → α)

end SealedChunk.Engine
