import SealedChunk.Decimal.Layout
import SealedChunk.Json.Fault

/-!
# Numbers in JSON

A number is first read as it is written (`Numeral`): a sign, digits, perhaps a fraction and an
exponent.  Only then does it get a value.  Whole numbers that 64 bits can hold, signed or unsigned,
stay whole; every other number, and minus zero, becomes a double.

The double is computed the quick way: as many digits as fit into 64 bits form a whole number, which
is rounded to a double and then multiplied or divided by a power of ten.  So the last place may be
off by a little, and that is part of the format.  A number beyond the doubles is malformed.

* `readNumeral`, `readNumber` — reading.
* `Numeral.value?` — the value of a numeral, if a double can hold it.
* `Number.write` — writing; doubles in shortest form.
* **`readNumber_integer`** — a whole number is read back.
-/

namespace SealedChunk.Json

open Decimal (isDigit digitValue)

/-- A number as it is written. -/
structure Numeral where
  negative : Bool
  /-- The digits before the point. -/
  whole : List Char
  /-- The digits behind the point; none, if there is no point. -/
  fraction : List Char
  exponent : Option Int

/-- The value of a number. -/
inductive Number where
  | integer (n : Int)
  | double (x : Float)

/-! ## The text of a number -/

/-- The digits at the front of a text; there must be one. -/
def readDigits : List Char → Except Fault (List Char × List Char)
  | [] => .error .cutShort
  | c :: rest =>
    if isDigit c then .ok (c :: rest.takeWhile isDigit, rest.dropWhile isDigit)
    else .error .malformed

/-- The digits before the point.  A zero in front has to be the only one. -/
def readWhole (s : List Char) : Except Fault (List Char × List Char) :=
  match readDigits s with
  | .ok ('0' :: _ :: _, _) => .error .malformed
  | outcome => outcome

/-- The digits behind the point, if there is a point. -/
def readFraction : List Char → Except Fault (List Char × List Char)
  | '.' :: rest => readDigits rest
  | s => .ok ([], s)

/-- The exponent, if there is one. -/
def readExponent : List Char → Except Fault (Option Int × List Char)
  | [] => .ok (none, [])
  | c :: rest =>
    if c = 'e' || c = 'E' then
      match rest with
      | '-' :: rest => (readDigits rest).map fun p => (some (-(Decimal.value p.1 : Int)), p.2)
      | '+' :: rest => (readDigits rest).map fun p => (some (Decimal.value p.1 : Int), p.2)
      | rest => (readDigits rest).map fun p => (some (Decimal.value p.1 : Int), p.2)
    else .ok (none, c :: rest)

/-- A minus sign, if there is one; a plus sign belongs to no number. -/
def readSign : List Char → Bool × List Char
  | '-' :: rest => (true, rest)
  | s => (false, s)

/-- A number at the front of a text. -/
def readNumeral (s : List Char) : Except Fault (Numeral × List Char) := do
  let (negative, s) := readSign s
  let (whole, s) ← readWhole s
  let (fraction, s) ← readFraction s
  let (exponent, s) ← readExponent s
  .ok (⟨negative, whole, fraction, exponent⟩, s)

/-! ## Its value -/

/-- Appends digits to a number as long as it stays below `2 ^ 64`, and returns the digits left. -/
def takeDigits : (n : Nat) → List Char → Nat × List Char
  | n, [] => (n, [])
  | n, d :: ds =>
    let longer := 10 * n + digitValue d
    if longer < 1 <<< 64 then takeDigits longer ds else (n, d :: ds)

/-- The power of ten as a double. -/
def powerOfTen (e : Nat) : Float := Float.ofScientific 1 false e

/-- A double times a power of ten, unless that is beyond the doubles.  Division goes by steps of at
most `10 ^ 308`; two steps take every 64-bit number to zero. -/
def scale? (x : Float) (e : Int) : Option Float :=
  if x == 0 then some x
  else if 308 < e then none
  else if 0 ≤ e then
    let y := x * powerOfTen e.toNat
    if y.isInf then none else some y
  else if -308 ≤ e then some (x / powerOfTen (-e).toNat)
  else if -616 ≤ e then some (x / powerOfTen 308 / powerOfTen (-e - 308).toNat)
  else some 0

/-- The double that a numeral stands for. -/
def Numeral.double? (n : Numeral) : Option Float :=
  let (leading, dropped) := takeDigits 0 n.whole
  let (significand, ignored) := takeDigits leading n.fraction
  let e : Int := dropped.length - (n.fraction.length - ignored.length : Nat) + n.exponent.getD 0
  (scale? (UInt64.ofNat significand).toFloat e).map fun x => if n.negative then -x else x

/-- The value of a numeral, if there is one. -/
def Numeral.value? (n : Numeral) : Option Number :=
  let magnitude := Decimal.value n.whole
  if n.fraction.isEmpty && n.exponent.isNone && !n.negative && magnitude < 1 <<< 64 then
    some (.integer magnitude)
  else if n.fraction.isEmpty && n.exponent.isNone && n.negative && 0 < magnitude
      && magnitude ≤ 1 <<< 63 then
    some (.integer (-magnitude))
  else n.double?.map .double

/-- The value of a number at the front of a text. -/
def readNumber (s : List Char) : Except Fault (Number × List Char) :=
  match readNumeral s with
  | .error fault => .error fault
  | .ok (n, rest) =>
    match n.value? with
    | some value => .ok (value, rest)
    | none => .error .malformed

/-! ## Writing -/

/-- Doubles are written positionally from `1e-5` to below `1e+16`, whole ones with `.0`; beyond that
the exponent has a sign. -/
def doubleLayout : Decimal.Layout := ⟨some (-5, 16), true, true, .even⟩

/-- The text of a number. -/
def Number.write : Number → List Char
  | .integer n => Decimal.integer n
  | .double x => doubleLayout.render x

/-! ## What is written is read back -/

/-- Whether a text cannot be taken for more of a whole number in front of it. -/
def endsNumber : List Char → Bool
  | [] => true
  | c :: _ => !isDigit c && c ≠ '.' && c ≠ 'e' && c ≠ 'E'

theorem readDigits_digits (n : Nat) {rest : List Char} (h : endsNumber rest = true) :
    readDigits (Decimal.digits n ++ rest) = .ok (Decimal.digits n, rest) := by
  have hend : rest.takeWhile isDigit = [] ∧ rest.dropWhile isDigit = rest := by
    cases rest with
    | nil => simp
    | cons x rest => simp_all [endsNumber]
  obtain ⟨c, ds, hds, -⟩ := Decimal.exists_digits_eq_cons n
  have hall : ∀ d ∈ c :: ds, isDigit d = true := fun d hd =>
    Decimal.isDigit_of_mem_digits (hds ▸ hd)
  have htail : ∀ d ∈ ds, isDigit d = true := fun d hd => hall d (List.mem_cons_of_mem c hd)
  rw [hds, List.cons_append, readDigits, if_pos (hall c List.mem_cons_self),
    List.takeWhile_append_of_pos htail, List.dropWhile_append_of_pos htail, hend.1, hend.2,
    List.append_nil]

theorem readWhole_digits (n : Nat) {rest : List Char} (h : endsNumber rest = true) :
    readWhole (Decimal.digits n ++ rest) = .ok (Decimal.digits n, rest) := by
  rw [readWhole, readDigits_digits n h]
  obtain ⟨c, ds, hds, hc⟩ := Decimal.exists_digits_eq_cons n
  rw [hds]
  split
  · rename_i heq
    simp only [Except.ok.injEq, Prod.mk.injEq, List.cons.injEq] at heq
    have hn := hc heq.1.1
    subst hn
    rw [Decimal.digits, if_pos (by decide)] at hds
    simp_all
  · rfl

theorem readFraction_of_endsNumber {rest : List Char} (h : endsNumber rest = true) :
    readFraction rest = .ok ([], rest) := by
  unfold readFraction
  split
  · simp [endsNumber] at h
  · rfl

theorem readExponent_of_endsNumber {rest : List Char} (h : endsNumber rest = true) :
    readExponent rest = .ok (none, rest) := by
  cases rest with
  | nil => rfl
  | cons c rest =>
    simp only [endsNumber, Bool.and_eq_true, decide_eq_true_eq] at h
    simp [readExponent, h.1.2, h.2]

theorem readSign_digits (n : Nat) (rest : List Char) :
    readSign (Decimal.digits n ++ rest) = (false, Decimal.digits n ++ rest) := by
  unfold readSign
  split
  · rename_i tail heq
    obtain ⟨c, ds, hds, -⟩ := Decimal.exists_digits_eq_cons n
    have hdigit : isDigit c = true := Decimal.isDigit_of_mem_digits (hds ▸ List.mem_cons_self)
    rw [hds, List.cons_append, List.cons.injEq] at heq
    rw [heq.1] at hdigit
    exact absurd hdigit (by decide)
  · rfl

/-- The numeral that a whole number is written as. -/
def numeralOf : Int → Numeral
  | .ofNat n => ⟨false, Decimal.digits n, [], none⟩
  | .negSucc n => ⟨true, Decimal.digits (n + 1), [], none⟩

theorem readNumeral_integer (n : Int) {rest : List Char} (h : endsNumber rest = true) :
    readNumeral (Decimal.integer n ++ rest) = .ok (numeralOf n, rest) := by
  cases n with
  | ofNat n =>
    simp only [Decimal.integer, readNumeral, readSign_digits, readWhole_digits n h,
      readFraction_of_endsNumber h, readExponent_of_endsNumber h, bind, Except.bind]
    rfl
  | negSucc n =>
    simp only [Decimal.integer, List.cons_append, readNumeral, readSign, readWhole_digits (n + 1) h,
      readFraction_of_endsNumber h, readExponent_of_endsNumber h, bind, Except.bind]
    rfl

theorem value?_numeralOf {n : Int} (hlow : -0x8000000000000000 ≤ n)
    (hhigh : n < 0x10000000000000000) : (numeralOf n).value? = some (.integer n) := by
  cases n with
  | ofNat n =>
    have hn : n < 18446744073709551616 := by
      rw [Int.ofNat_eq_natCast] at hhigh
      omega
    simp [numeralOf, Numeral.value?, Decimal.value_digits, hn]
  | negSucc n =>
    have hn : n + 1 ≤ 9223372036854775808 := by omega
    have hvalue : (numeralOf (.negSucc n)).value? = some (.integer (-(n + 1 : Nat))) := by
      simp only [numeralOf, Numeral.value?, Decimal.value_digits]
      rw [if_neg (by simp), if_pos (by simp [hn])]
    exact hvalue

/-- A whole number that 64 bits can hold is read back, whatever follows it that is not more of
it. -/
theorem readNumber_integer {n : Int} (hlow : -0x8000000000000000 ≤ n)
    (hhigh : n < 0x10000000000000000) {rest : List Char} (h : endsNumber rest = true) :
    readNumber (Decimal.integer n ++ rest) = .ok (.integer n, rest) := by
  simp only [readNumber, readNumeral_integer n h, value?_numeralOf hlow hhigh]

end SealedChunk.Json
