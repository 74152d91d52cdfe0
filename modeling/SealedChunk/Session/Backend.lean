import SealedChunk.Broker.Memory
import SealedChunk.Engine.Exchange

/-!
# Brokers behind a session

A session talks to a broker in memory, or to a script: a list of answers that are given one after
the other, whatever is asked, each after a delay.  An answer is used up as soon as the request is
made, even if nobody waits for it in the end.  A script that is used up cannot be reached.

* `Backend` — either kind.
* `Backend.answer` — what comes of a request, and when.
-/

namespace SealedChunk.Session

open Broker Crypto Engine

/-- What comes of a request: a response, or the reason why there is none. -/
abbrev Outcome := Except String KeysResponse

/-- An answer of a script. -/
structure Scripted where
  outcome : Outcome
  /-- How many milliseconds it takes. -/
  delay : Nat := 0

/-- A broker behind a session. -/
inductive Backend where
  | memory (broker : MemoryBroker)
  | script (answers : List Scripted)

/-- An answer with its delay, the broker after it, and the nonces that are left. -/
structure Answered where
  answer : Scripted
  backend : Backend
  nonces : Nonces

/-- What comes of a request. -/
def Backend.answer (backend : Backend) (request : Request) (nonces : Nonces) : Answered :=
  match backend, request with
  | .memory b, .create request =>
    let (response, b, nonces) := b.create request nonces
    ⟨{ outcome := .ok response }, .memory b, nonces⟩
  | .memory b, .fetch request => ⟨{ outcome := .ok (b.fetch request) }, .memory b, nonces⟩
  | .script (answer :: rest), _ => ⟨answer, .script rest, nonces⟩
  | .script [], _ => ⟨{ outcome := .error "script exhausted" }, .script [], nonces⟩

end SealedChunk.Session
