import SealedChunk.Decimal.Digits

/-!
# Spans of time

A broker call is bounded by a span of time, and messages say how long that was.  A span is written
in the largest of the units seconds, milliseconds, microseconds and nanoseconds that gives it an
integer part, with as many decimals as it needs and no more: `30s`, `1.5s`, `20ms`, `1.5µs`, `0ns`.
-/

namespace SealedChunk

/-- A span of time, counted in nanoseconds. -/
structure Duration where
  nanoseconds : Nat
deriving DecidableEq, Repr

namespace Duration

/-- A span of whole seconds and the nanoseconds beyond them. -/
def ofParts (seconds nanoseconds : Nat) : Duration := ⟨seconds * 1000000000 + nanoseconds⟩

/-- A span of milliseconds. -/
def ofMillis (milliseconds : Nat) : Duration := ⟨milliseconds * 1000000⟩

/-- The decimals of `part / 10 ^ places`, without trailing zeros. -/
def decimals : (places part : Nat) → List Char
  | 0, _ => []
  | places + 1, part =>
    if part = 0 then []
    else Decimal.digitChar (part / Nat.pow 10 places) :: decimals places (part % Nat.pow 10 places)

/-- The amount `nanoseconds / 10 ^ places`, with its decimals if it has any. -/
def amount (nanoseconds places : Nat) : String :=
  let whole := Decimal.text (nanoseconds / Nat.pow 10 places : Nat)
  match decimals places (nanoseconds % Nat.pow 10 places) with
  | [] => whole
  | digits => whole ++ "." ++ String.ofList digits

/-- A span in the largest unit that gives it an integer part. -/
def render (d : Duration) : String :=
  if 1000000000 ≤ d.nanoseconds then amount d.nanoseconds 9 ++ "s"
  else if 1000000 ≤ d.nanoseconds then amount d.nanoseconds 6 ++ "ms"
  else if 1000 ≤ d.nanoseconds then amount d.nanoseconds 3 ++ "µs"
  else amount d.nanoseconds 0 ++ "ns"

end Duration

end SealedChunk
