import SealedChunk.Crypto.Aes

/-!
# The universal hash of GCM-SIV

Blocks are read as polynomials of degree below 128 over two elements: bit `i` of the number that the
bytes spell, least significant first, is the coefficient of `xⁱ`.  They are multiplied modulo
`x¹²⁸ + x¹²⁷ + x¹²⁶ + x¹²¹ + 1`, and each product is divided by `x¹²⁸`.

* `Polyval.dot` — the product of two polynomials, divided by `x¹²⁸`.
* `polyval` — the hash of some blocks under a hash key.
-/

namespace SealedChunk.Crypto

namespace Polyval

/-- The modulus, with its coefficients as bits. -/
def modulus : Nat := 1 <<< 128 ||| 1 <<< 127 ||| 1 <<< 126 ||| 1 <<< 121 ||| 1

/-- The quotient by `x`.  A polynomial with a constant term is made divisible by adding the
modulus. -/
def halve (p : Nat) : Nat := (if p % 2 = 1 then p ^^^ modulus else p) / 2

/-- The product of two polynomials, divided by `x¹²⁸`: each coefficient of the first adds the second
and every step divides by `x`. -/
def dot (p q : Nat) : Nat :=
  (List.range 128).foldl (fun sum i => halve (if p.testBit i then sum ^^^ q else sum)) 0

end Polyval

/-- The hash of some blocks: each is added, and the sum multiplied by the key. -/
def polyval (key : Nat) (blocks : List Nat) : Nat :=
  blocks.foldl (fun sum block => Polyval.dot (sum ^^^ block) key) 0

end SealedChunk.Crypto
