import Mathlib.Tactic.Lemma
import Mathlib.Tactic.SplitIfs
import SealedChunk.Bytes

/-!
# The order of texts and of their bytes

Texts are compared character by character, and bytes byte by byte.  In UTF-8 that comes to the same:
of two characters the smaller one has the smaller bytes, and their bytes part before either of them
ends, so nothing behind them matters.

* `utf8EncodeChar_lt` — two characters, whatever stands behind them.
* **`ofText_lt`** — two texts.
-/

namespace SealedChunk.Bytes

/-- The bytes of a text are those of its characters. -/
lemma ofText_eq_flatMap (text : String) :
    ofText text = text.toList.flatMap String.utf8EncodeChar := by
  have htext : text.toByteArray = text.toList.utf8Encode := by
    rw [← String.toByteArray_ofList, String.ofList_toList]
  rw [ofText, htext, List.utf8Encode, List.data_toByteArray]

lemma toNat_lt (c : Char) : c.val.toNat < 0x110000 := by
  have h := c.valid
  simp only [UInt32.isValidChar, Nat.isValidChar] at h
  omega

/-- The bytes of the smaller of two characters are smaller, whatever stands behind them. -/
lemma utf8EncodeChar_lt {c d : Char} (h : c < d) (s t : Bytes) :
    String.utf8EncodeChar c ++ s < String.utf8EncodeChar d ++ t := by
  have hlt : c.val.toNat < d.val.toNat := h
  have hc := toNat_lt c
  have hd := toNat_lt d
  generalize hm : c.val.toNat = m at *
  generalize hn : d.val.toNat = n at *
  simp only [String.utf8EncodeChar, hm, hn]
  -- by the lengths, one to four on either side; where they differ, the first bytes decide
  split_ifs
  all_goals simp only [List.cons_append, List.nil_append, List.cons_lt_cons_iff,
    UInt8.lt_iff_toNat_lt, ← UInt8.toNat_inj, UInt8.toNat_ofNat']
  all_goals simp (disch := omega) only [Nat.reducePow, Nat.mod_eq_of_lt]
  all_goals omega

lemma flatMap_utf8EncodeChar_lt {cs ds : List Char} (h : cs < ds) :
    cs.flatMap String.utf8EncodeChar < ds.flatMap String.utf8EncodeChar := by
  -- by induction on where the two part
  induction h with
  | @nil d ds =>
    obtain ⟨byte, rest, hbytes⟩ :=
      List.exists_cons_of_ne_nil (String.utf8EncodeChar_ne_nil (c := d))
    rw [List.flatMap_nil, List.flatMap_cons, hbytes]
    exact .nil
  | rel hlt => exact utf8EncodeChar_lt hlt _ _
  | cons hrest ih => exact List.append_left_lt ih

/-- **The bytes of the smaller of two texts are smaller.** -/
theorem ofText_lt {s t : String} (h : s < t) : ofText s < ofText t := by
  rw [ofText_eq_flatMap, ofText_eq_flatMap]
  exact flatMap_utf8EncodeChar_lt h

end SealedChunk.Bytes
