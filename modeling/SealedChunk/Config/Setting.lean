import SealedChunk.Decimal.Layout
import SealedChunk.Duration

/-!
# Settings from the environment

The environment holds texts only.  A text that spells a truth value, a whole number or a decimal
number is taken for one, and each field of the configuration then takes what it was given as far as
that makes sense: a number field takes `on`, and a text field takes `1.0` and holds `1`.  What has
parts of its own no field takes.

* `Setting.ofText` — what a text is taken for.
* `Setting.toText?`, `Setting.toCount?`, `Setting.toFlag?` — what a field makes of it.
-/

namespace SealedChunk.Config

open Decimal (isDigit)

/-- What the environment holds for a field. -/
inductive Setting where
  | flag (b : Bool)
  | integer (n : Int)
  | real (x : Float)
  | text (s : String)
  /-- Members or elements, each from a variable of its own. -/
  | composite

/-- The character in lower case, if it is a letter from A to Z. -/
def lower (c : Char) : Char := if 65 ≤ c.toNat ∧ c.toNat ≤ 90 then Char.ofNat (c.toNat + 32) else c

/-- A text with the letters from A to Z in lower case. -/
def lowered (s : String) : String := String.ofList (s.toList.map lower)

/-! ## Reading numbers -/

/-- A sign, if there is one, and what follows; `true` stands for minus. -/
def splitSign : List Char → Bool × List Char
  | '-' :: rest => (true, rest)
  | '+' :: rest => (false, rest)
  | s => (false, s)

/-- A row of digits, at least one. -/
def digits? (s : List Char) : Option Nat :=
  if s.isEmpty || !s.all isDigit then none else some (Decimal.value s)

/-- A whole number that 64 bits can hold, with or without a sign. -/
def integer? (s : List Char) : Option Int := do
  let (negative, rest) := splitSign s
  let n ← digits? rest
  let value : Int := if negative then -n else n
  if -0x8000000000000000 ≤ value ∧ value < 0x8000000000000000 then some value else none

/-- The exponent behind a number; none at all is zero. -/
def exponent? : List Char → Option Int
  | [] => some 0
  | c :: rest =>
    if c = 'e' || c = 'E' then
      let (negative, rest) := splitSign rest
      (digits? rest).map fun n => if negative then -n else n
    else none

/-- The double nearest to `n · 10 ^ e`.  Beyond these bounds nothing but zero or infinity is
near. -/
def nearest (n : Nat) (e : Int) : Float :=
  let leading : Int := (Decimal.digits n).length + e
  if n = 0 || leading < -400 then 0
  else if 400 < leading then 1 / 0
  else if 0 ≤ e then Float.ofScientific n false e.toNat
  else Float.ofScientific n true (-e).toNat

/-- A decimal number without a sign: digits on at least one side of a point, or without a point, and
perhaps an exponent. -/
def decimal? (s : List Char) : Option Float := do
  let whole := s.takeWhile isDigit
  let rest := s.dropWhile isDigit
  let (fraction, rest) := match rest with
    | '.' :: rest => (rest.takeWhile isDigit, rest.dropWhile isDigit)
    | rest => ([], rest)
  if whole.isEmpty && fraction.isEmpty then none
  else do
    let e ← exponent? rest
    some (nearest (Decimal.value (whole ++ fraction)) (e - fraction.length))

/-- A decimal number with or without a sign, or the name of a double that is none. -/
def real? (s : List Char) : Option Float := do
  let (negative, rest) := splitSign s
  let name := lowered (String.ofList rest)
  let magnitude ←
    if name = "inf" || name = "infinity" then some (1 / 0 : Float)
    else if name = "nan" then some (0 / 0)
    else decimal? rest
  some (if negative then -magnitude else magnitude)

/-! ## What a text is taken for -/

/-- What a text is taken for: a truth value before a whole number before a decimal number. -/
def Setting.ofText (s : String) : Setting :=
  if lowered s = "true" then .flag true
  else if lowered s = "false" then .flag false
  else
    match integer? s.toList with
    | some n => .integer n
    | none =>
      match real? s.toList with
      | some x => .real x
      | none => .text s

/-! ## What a field makes of it -/

/-- Numbers in a text field are written without exponent, and whole ones without a point. -/
def realLayout : Decimal.Layout := ⟨none, false, false, .up⟩

/-- The meaning of the words for a truth value. -/
def word? (s : String) : Option Bool :=
  if ["true", "on", "yes"].contains (lowered s) then some true
  else if ["false", "off", "no"].contains (lowered s) then some false
  else none

namespace Setting

/-- A text field takes everything that has no parts. -/
def toText? : Setting → Option String
  | flag b => some (if b then "true" else "false")
  | integer n => some (Decimal.text n)
  | real x => some (String.ofList (realLayout.render x))
  | text s => some s
  | composite => none

/-- A field for a count takes whole numbers that are not negative, truth values, words for a truth
value, and decimal numbers, which are rounded, a half away from zero, and brought into range. -/
def toCount? : Setting → Option UInt64
  | flag b => some (if b then 1 else 0)
  | integer n => if 0 ≤ n then some (UInt64.ofNat n.toNat) else none
  | real x => some x.round.toUInt64
  | text s => (word? s).map fun b => if b then 1 else 0
  | composite => none

/-- A field for a truth value takes truth values, words for them, and numbers, of which only zero is
false. -/
def toFlag? : Setting → Option Bool
  | flag b => some b
  | integer n => some (n != 0)
  | real x => some (x != 0)
  | text s => word? s
  | composite => none

end Setting

end SealedChunk.Config
