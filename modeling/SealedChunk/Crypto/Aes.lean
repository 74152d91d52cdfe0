import SealedChunk.Bytes

/-!
# AES with a key of 256 bits

A block is a square of 16 bytes, column by column.  A byte is also a polynomial over two elements,
modulo `x⁸ + x⁴ + x³ + x + 1`; the substitution of bytes is inversion there, followed by an affine
map.

* `Block` — 16 bytes.
* `roundKeys` — the 15 keys of a key.
* `encryptBlock` — the cipher.
-/

namespace SealedChunk.Crypto

/-- A block of 16 bytes. -/
abbrev Block := Vector UInt8 16

namespace Block

/-- The first 16 bytes, filled up with zeros. -/
def ofBytes (bytes : Bytes) : Block :=
  let cells := bytes.toArray
  Vector.ofFn fun i => cells.getD i 0

/-- The byte at a place. -/
def cell (block : Block) (i : Nat) : UInt8 := block.toArray.getD i 0

/-- Byte by byte exclusive or. -/
def xor (a b : Block) : Block := Vector.zipWith (· ^^^ ·) a b

/-- The block as bytes. -/
def toBytes (block : Block) : Bytes := block.toList

theorem length_toBytes (block : Block) : block.toBytes.length = 16 := by simp [toBytes]

/-- A block is determined by its bytes. -/
theorem ofBytes_toBytes (block : Block) : ofBytes block.toBytes = block := by
  ext i h
  simp [ofBytes, toBytes]

/-- Sixteen bytes are the bytes of their block. -/
theorem toBytes_ofBytes {bytes : Bytes} (h : bytes.length = 16) :
    (ofBytes bytes).toBytes = bytes := by
  apply List.ext_getElem
  · simp [length_toBytes, h]
  · intro i h₁ h₂
    simp [ofBytes, toBytes, h₂]

end Block

namespace Aes

/-! ## Bytes as polynomials -/

/-- The product with `x`. -/
def double (b : UInt8) : UInt8 := if b &&& 0x80 = 0 then b <<< 1 else (b <<< 1) ^^^ 0x1b

/-- The product of two bytes, summed over the bits of the first. -/
def multiply (a b : UInt8) : UInt8 :=
  ((List.range 8).foldl
    (fun (sum, power) i => (if a.toNat.testBit i then sum ^^^ power else sum, double power))
    ((0 : UInt8), b)).1

/-- The byte whose product with `a` is one, and zero for zero: the power 254. -/
def inverse (a : UInt8) : UInt8 :=
  let square := multiply a a
  ((List.range 7).foldl (fun (product, power) _ => (multiply product power, multiply power power))
    ((1 : UInt8), square)).1

/-- A byte, rotated to the left. -/
def rotateLeft (b n : UInt8) : UInt8 := (b <<< n) ||| (b >>> (8 - n))

/-- What a byte is substituted by. -/
def substituteByte (a : UInt8) : UInt8 :=
  let b := inverse a
  b ^^^ rotateLeft b 1 ^^^ rotateLeft b 2 ^^^ rotateLeft b 3 ^^^ rotateLeft b 4 ^^^ 0x63

/-- All substitutions, in the order of the bytes. -/
def substitutions : Array UInt8 :=
  ((List.range 256).map fun n => substituteByte (UInt8.ofNat n)).toArray

/-- Looks up what a byte is substituted by. -/
def substitute (a : UInt8) : UInt8 := substitutions.getD a.toNat 0

/-! ## Rounds -/

/-- Moves the rows of the square to the left, each by its number. -/
def shiftRows (block : Block) : Block :=
  Vector.ofFn fun i => block.cell ((i.val + 4 * (i.val % 4)) % 16)

/-- Multiplies every column by the polynomial with the coefficients 2, 1, 1, 3. -/
def mixColumns (block : Block) : Block :=
  Vector.ofFn fun i =>
    let byte (k : Nat) : UInt8 := block.cell (4 * (i.val / 4) + (i.val + k) % 4)
    double (byte 0) ^^^ double (byte 1) ^^^ byte 1 ^^^ byte 2 ^^^ byte 3

/-- The key after `older`: its columns summed up from the left, beginning with a column `seed`. -/
def nextKey (older : Block) (seed : Nat → UInt8) : Block :=
  Vector.ofFn fun i =>
    (List.range (i.val / 4 + 1)).foldl
      (fun sum column => sum ^^^ older.cell (4 * column + i.val % 4)) (seed (i.val % 4))

/-- The round keys from `older` and `newer` on, `2 * n + 1` of them. -/
def roundKeysFrom : (n : Nat) → (constant : UInt8) → (older newer : Block) → List Block
  | 0, _, older, _ => [older]
  | n + 1, constant, older, newer =>
    let third := nextKey older fun row =>
      substitute (newer.cell (12 + (row + 1) % 4)) ^^^ (if row = 0 then constant else 0)
    let fourth := nextKey newer fun row => substitute (third.cell (12 + row))
    older :: newer :: roundKeysFrom n (double constant) third fourth

/-- The 15 round keys of a key of 32 bytes. -/
def roundKeys (key : Bytes) : List Block :=
  roundKeysFrom 7 1 (Block.ofBytes (key.take 16)) (Block.ofBytes (key.drop 16))

/-- The rounds with the given keys; the last one mixes no columns. -/
def rounds : List Block → Block → Block
  | [], block => block
  | [last], block => (shiftRows (block.map substitute)).xor last
  | key :: keys, block => rounds keys ((mixColumns (shiftRows (block.map substitute))).xor key)

/-- Enciphers a block under round keys. -/
def encryptBlock (keys : List Block) (block : Block) : Block :=
  match keys with
  | [] => block
  | first :: keys => rounds keys (block.xor first)

end Aes

end SealedChunk.Crypto
