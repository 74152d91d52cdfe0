import SealedChunk.Decimal.Digits
import SealedChunk.Decimal.Shortest

/-!
# Layout of doubles

`Shortest` settles which digits identify a double.  How they are laid out is decided by the text
they are written into, so it is a value of the record `Layout`: where positional notation ends,
whether a whole number keeps a `.0`, whether an exponent has a plus sign, and how a tie between two
candidates goes.
-/

namespace SealedChunk.Decimal

/-- The decisions about how a double is written. -/
structure Layout where
  /-- The exponents `e` of the leading digit, from the first to below the second, for which the
  number is written positionally; all of them, if there are no bounds. -/
  positional : Option (Int × Int)
  /-- Whether a whole number in positional notation ends in `.0`. -/
  pointZero : Bool
  /-- Whether an exponent that is not negative has a plus sign. -/
  plusSign : Bool
  /-- Which of two equally near decimals is written. -/
  tie : Tie

namespace Layout

/-- The digits with the point where it belongs, for a leading digit of the given exponent. -/
def positionalChars (layout : Layout) (ds : List Char) (leading : Int) : List Char :=
  if leading < 0 then
    ['0', '.'] ++ List.replicate (-leading - 1).toNat '0' ++ ds
  else
    let whole := leading.toNat + 1
    if whole < ds.length then ds.take whole ++ '.' :: ds.drop whole
    else
      ds ++ List.replicate (whole - ds.length) '0' ++ (if layout.pointZero then ['.', '0'] else [])

/-- The digits with a point after the first and the exponent behind them. -/
def scientificChars (layout : Layout) (ds : List Char) (leading : Int) : List Char :=
  let mantissa := match ds with
    | d :: rest => if rest.isEmpty then [d] else d :: '.' :: rest
    | [] => []
  let sign := if layout.plusSign && 0 ≤ leading then ['+'] else []
  mantissa ++ 'e' :: sign ++ integer leading

/-- A finite double without its sign. -/
def magnitude (layout : Layout) (x : Binary) : List Char :=
  if x.significand = 0 then layout.positionalChars ['0'] 0
  else
    let d := x.shortest layout.tie
    let ds := digits d.digits
    let leading := d.exponent + ds.length - 1
    match layout.positional with
    | none => layout.positionalChars ds leading
    | some (first, last) =>
      if first ≤ leading && leading < last then layout.positionalChars ds leading
      else layout.scientificChars ds leading

/-- A double, with a minus sign if its sign bit is set; `NaN` has no sign. -/
def render (layout : Layout) (x : Float) : List Char :=
  let bits := x.toBits
  let sign := if bits.toNat >>> 63 = 1 then ['-'] else []
  if (bits.toNat >>> 52) % 2048 = 2047 then
    if bits.toNat % (1 <<< 52) = 0 then sign ++ ['i', 'n', 'f'] else ['N', 'a', 'N']
  else sign ++ layout.magnitude (Binary.ofBits bits)

end Layout

end SealedChunk.Decimal
