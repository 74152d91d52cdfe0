/-!
# Bytes and the text they spell

Keys, plaintexts, associated data, sealed values and tags are all strings of bytes, and the whole
development treats them as lists: lengths add up under `++`, and every definition on them is a
plain recursion.  Text enters the byte world in exactly one way, through its UTF-8 form.

* `Bytes.ofText` — the UTF-8 bytes of a text.
* `Bytes.toText?` — the text that some bytes spell, if they spell one.
* **`Bytes.toText?_ofText`** — the bytes of a text spell that text, so `ofText` loses nothing.
-/

namespace SealedChunk

/-- A string of bytes. -/
abbrev Bytes := List UInt8

namespace Bytes

/-- The UTF-8 bytes of a text. -/
def ofText (text : String) : Bytes := text.toByteArray.data.toList

/-- The text that the bytes spell in UTF-8, if they are the UTF-8 form of one. -/
def toText? (bytes : Bytes) : Option String := String.fromUTF8? ⟨bytes.toArray⟩

/-- The bytes of a text spell that text. -/
theorem toText?_ofText (text : String) : toText? (ofText text) = some text := by
  have h : (⟨(ofText text).toArray⟩ : ByteArray) = text.toByteArray := by simp [ofText]
  rw [toText?, h, String.fromUTF8?, dif_pos text.isValidUTF8]
  rfl

/-- As many bytes as the text measures. -/
theorem length_ofText (text : String) : (ofText text).length = text.utf8ByteSize := by
  rw [ofText, Array.length_toList, ← String.size_toByteArray]
  rfl

/-- Byte by byte exclusive or, as long as the shorter of the two. -/
def xor (a b : Bytes) : Bytes := List.zipWith (· ^^^ ·) a b

theorem length_xor_of_le {a k : Bytes} (h : a.length ≤ k.length) : (xor a k).length = a.length := by
  simp [xor, Nat.min_eq_left h]

/-- Adding the same bytes twice changes nothing. -/
theorem xor_xor_of_le {a k : Bytes} (h : a.length ≤ k.length) : xor (xor a k) k = a := by
  induction a generalizing k with
  | nil => rfl
  | cons x a ih =>
    cases k with
    | nil => simp at h
    | cons y k =>
      have hcancel : x ^^^ y ^^^ y = x := by rw [UInt8.xor_assoc, UInt8.xor_self, UInt8.xor_zero]
      have htail : xor (xor a k) k = a := ih (by simpa using h)
      rw [xor, xor, List.zipWith_cons_cons, List.zipWith_cons_cons, hcancel]
      exact congrArg (x :: ·) htail

/-- The first `n` bytes of a number, least significant first. -/
def ofNatLE : (n : Nat) → Nat → Bytes
  | 0, _ => []
  | n + 1, value => UInt8.ofNat (value % 256) :: ofNatLE n (value / 256)

/-- The number that the bytes spell, least significant first. -/
def toNatLE : Bytes → Nat
  | [] => 0
  | b :: rest => b.toNat + 256 * toNatLE rest

/-- The last `n` bytes of a number, most significant first. -/
def ofNatBE (n value : Nat) : Bytes := (ofNatLE n value).reverse

/-- The number that the bytes spell, most significant first. -/
def toNatBE (bytes : Bytes) : Nat := toNatLE bytes.reverse

theorem length_ofNatLE (n value : Nat) : (ofNatLE n value).length = n := by
  induction n generalizing value with
  | zero => rfl
  | succ n ih => simp [ofNatLE, ih]

/-- The bytes in rows of `size`; the last row may be shorter. -/
def rows (size : Nat) (bytes : Bytes) : List Bytes :=
  if _h : bytes = [] ∨ size = 0 then [] else bytes.take size :: rows size (bytes.drop size)
termination_by bytes.length
decreasing_by
  have : bytes.length ≠ 0 := by simp_all
  simp only [List.length_drop]
  omega

end Bytes

end SealedChunk
