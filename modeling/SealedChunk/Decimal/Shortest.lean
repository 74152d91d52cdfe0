/-!
# The shortest decimal for a double

A double stands for all the real numbers that round to it: those between the midpoints to its two
neighbours, the midpoints included exactly when its significand is even.  To write it with as few
digits as possible is to find the coarsest power-of-ten grid that has a point in that interval, and
to take the grid point nearest to the value.

Everything is exact arithmetic on natural numbers.  Value and midpoints are kept over one common
denominator, and a grid point `d · 10 ^ e` is compared with them by cross-multiplication.

* `Binary.ofBits` — a finite double as `significand · 2 ^ exponent`.
* `Interval` — a value with its midpoints over a common denominator.
* `shortest` — the digits and the power of ten that identify the value.
-/

namespace SealedChunk.Decimal

/-- A finite double without its sign, `significand · 2 ^ exponent`.  Below a power of two the
neighbour is only half as far away as above it. -/
structure Binary where
  significand : Nat
  exponent : Int
  closeBelow : Bool

/-- The finite double that the 64 bits hold, without its sign. -/
def Binary.ofBits (bits : UInt64) : Binary :=
  let biased : Nat := (bits.toNat >>> 52) % 2048
  let fraction : Nat := bits.toNat % (1 <<< 52)
  if biased = 0 then ⟨fraction, -1074, false⟩
  else ⟨(1 <<< 52) + fraction, (biased : Int) - 1075, fraction == 0 && 1 < biased⟩

/-- A positive value and the ends of the interval that rounds to it, all over `denominator`. -/
structure Interval where
  value : Nat
  low : Nat
  high : Nat
  denominator : Nat
  endsIncluded : Bool

/-- The interval of the reals that round to a double. -/
def Binary.interval (x : Binary) : Interval :=
  let scale := 1 <<< (x.exponent - 2).toNat
  { value := 4 * x.significand * scale
    low := (if x.closeBelow then 4 * x.significand - 1 else 4 * x.significand - 2) * scale
    high := (4 * x.significand + 2) * scale
    denominator := 1 <<< (2 - x.exponent).toNat
    endsIncluded := x.significand % 2 == 0 }

/-- A number `digits · 10 ^ exponent`. -/
structure Scaled where
  digits : Nat
  exponent : Int
deriving DecidableEq, Repr

/-- Whether a decimal rounds to the value: it lies between the midpoints, or on one that counts. -/
def Interval.holds (i : Interval) (d : Scaled) : Bool :=
  let point := d.digits * Nat.pow 10 d.exponent.toNat * i.denominator
  let unit := Nat.pow 10 (-d.exponent).toNat
  if i.endsIncluded then i.low * unit ≤ point && point ≤ i.high * unit
  else i.low * unit < point && point < i.high * unit

/-- Which of two decimals equally near to the value is taken. -/
inductive Tie where
  /-- The one whose last digit is even. -/
  | even
  /-- The greater one. -/
  | up
deriving DecidableEq, Repr

/-- The point of the grid `10 ^ exponent` that identifies the value and is nearest to it, if the
grid has one.  Only the two neighbours of the value on the grid can be nearest. -/
def Interval.onGrid? (i : Interval) (tie : Tie) (exponent : Int) : Option Scaled :=
  let num := i.value * Nat.pow 10 (-exponent).toNat
  let den := i.denominator * Nat.pow 10 exponent.toNat
  let below : Scaled := ⟨num / den, exponent⟩
  let above : Scaled := ⟨num / den + 1, exponent⟩
  match i.holds below, i.holds above with
  | false, false => none
  | true, false => some below
  | false, true => some above
  | true, true =>
    match compare (2 * (num % den)) den, tie with
    | .lt, _ => some below
    | .gt, _ => some above
    | .eq, .up => some above
    | .eq, .even => if below.digits % 2 = 0 then some below else some above

/-- The decimal with the fewest digits that identifies a positive double: the nearest one on the
coarsest grid that has any.  Should no grid down to the finest have one, the exact value stands. -/
def Binary.shortest (x : Binary) (tie : Tie) : Scaled :=
  let i := x.interval
  match (List.range 660).findSome? fun (step : Nat) => i.onGrid? tie (310 - (step : Int)) with
  | some d => d
  | none => 
    ⟨x.significand * Nat.pow 5 (-x.exponent).toNat * (1 <<< x.exponent.toNat), min x.exponent 0⟩

end SealedChunk.Decimal
