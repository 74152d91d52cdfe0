import SealedChunk.Session.Backend

/-!
# Which comes first

A request ends with what comes first: the answer, the end of the time that the engine grants, or the
moment when the caller calls the operation off.  An answer without delay comes before everything
else.  Should two moments coincide, calling off counts before the answer, and the answer before the
end of the time.
-/

namespace SealedChunk.Session

open Broker Engine

/-- When the caller calls an operation off. -/
inductive Cancellation where
  | never
  /-- Before it begins: no request is made. -/
  | before
  /-- A number of milliseconds after it began. -/
  | after (milliseconds : Nat)
deriving DecidableEq

/-- Whether the operation is called off by a moment after its beginning. -/
def Cancellation.by (c : Cancellation) (moment : Duration) : Bool :=
  match c with
  | .never => false
  | .before => true
  | .after milliseconds => (Duration.ofMillis milliseconds).nanoseconds ≤ moment.nanoseconds

/-- What the caller of a request gets. -/
def Outcome.toReply : Outcome → Reply
  | .ok response => .response response
  | .error reason => .unavailable reason

/-- What comes first. -/
def settle (answer : Scripted) (bound : Duration) (cancellation : Cancellation) : Reply :=
  let arrival := Duration.ofMillis answer.delay
  if answer.delay = 0 then Outcome.toReply answer.outcome
  else if arrival.nanoseconds ≤ bound.nanoseconds then
    if cancellation.by arrival then .cancelled else Outcome.toReply answer.outcome
  else if cancellation.by bound then .cancelled
  else .timedOut

end SealedChunk.Session
