import Mathlib.Data.List.DropRight
import SealedChunk.Base64
import SealedChunk.Envelope.Padding

/-!
# What a spelling loses with its padding

A Base64 spelling is digits and then at most three `=`, a multiple of four characters in all.  Every
character of it is a single byte, so the length that `restorePadding` looks at is the number of
characters, and the digits alone tell how many `=` there were.

* `Base64.encodeChars_eq_append` — the shape of a spelling.
* `stripPadding_append`, `restorePadding_eq_append` — what the two operations do to such a text.
* **`restorePadding_stripPadding`** — restoring undoes stripping on every spelling.
-/

namespace SealedChunk

namespace Base64

lemma isSome_digitValue?_digit {v : Nat} (h : v < 64) : (digitValue? (digit v)).isSome = true := by
  rw [digitValue?_digit v h]
  rfl

/-- A spelling is digits and then padding, in groups of four. -/
lemma encodeChars_eq_append (bytes : Bytes) :
    ∃ digits n, encodeChars bytes = digits ++ List.replicate n '='
      ∧ (∀ c ∈ digits, (digitValue? c).isSome = true) ∧ n < 4 ∧ (digits.length + n) % 4 = 0 := by
  fun_induction encodeChars bytes with
  | case1 => exact ⟨[], 0, rfl, by simp, by omega, rfl⟩
  | case2 a =>
    have ha := a.toNat_lt
    refine ⟨[digit (a.toNat / 4), digit (a.toNat % 4 * 16)], 2, rfl, ?_, by omega, by simp⟩
    simp only [List.forall_mem_cons, List.not_mem_nil, false_implies, implies_true, and_true]
    exact ⟨isSome_digitValue?_digit (by omega), isSome_digitValue?_digit (by omega)⟩
  | case3 a b =>
    have ha := a.toNat_lt
    have hb := b.toNat_lt
    refine ⟨[digit (a.toNat / 4), digit (a.toNat % 4 * 16 + b.toNat / 16),
      digit (b.toNat % 16 * 4)], 1, rfl, ?_, by omega, by simp⟩
    simp only [List.forall_mem_cons, List.not_mem_nil, false_implies, implies_true, and_true]
    exact ⟨isSome_digitValue?_digit (by omega), isSome_digitValue?_digit (by omega),
      isSome_digitValue?_digit (by omega)⟩
  | case4 a b c rest ih =>
    have ha := a.toNat_lt
    have hb := b.toNat_lt
    have hc := c.toNat_lt
    obtain ⟨digits, n, hrest, hdigits, hn, hlength⟩ := ih
    refine ⟨digit (a.toNat / 4) :: digit (a.toNat % 4 * 16 + b.toNat / 16)
      :: digit (b.toNat % 16 * 4 + c.toNat / 64) :: digit (c.toNat % 64) :: digits,
      n, ?_, ?_, hn, ?_⟩
    · rw [hrest]
      rfl
    · simp only [List.forall_mem_cons]
      exact ⟨isSome_digitValue?_digit (by omega), isSome_digitValue?_digit (by omega),
        isSome_digitValue?_digit (by omega), isSome_digitValue?_digit (by omega), hdigits⟩
    · simp only [List.length_cons]
      omega

lemma isBase64Char_of_mem_encodeChars {bytes : Bytes} {c : Char} (h : c ∈ encodeChars bytes) :
    isBase64Char c = true := by
  obtain ⟨digits, n, heq, hdigits, -, -⟩ := encodeChars_eq_append bytes
  rw [heq, List.mem_append] at h
  rcases h with h | h
  · simp [isBase64Char, hdigits c h]
  · simp [isBase64Char, List.eq_of_mem_replicate h]

lemma utf8Size_digit : ∀ v, v < 64 → (digit v).utf8Size = 1 := by decide

/-- Digits take one byte each. -/
lemma utf8Length_digits {s : List Char} (h : ∀ c ∈ s, (digitValue? c).isSome = true) :
    Text.utf8Length s = s.length := by
  induction s with
  | nil => rfl
  | cons c s ih =>
    obtain ⟨v, hv⟩ := Option.isSome_iff_exists.1 (h c (by simp))
    obtain ⟨rfl, hlt⟩ := digit_of_digitValue? hv
    rw [Text.utf8Length, utf8Size_digit v hlt, ih fun d hd => h d (by simp [hd]), List.length_cons,
      Nat.add_comm]

/-- No digit is a `=`. -/
lemma pad_notMem_of_digits {s : List Char} (h : ∀ c ∈ s, (digitValue? c).isSome = true) :
    '=' ∉ s := by
  intro hpad
  have := h _ hpad
  rw [digitValue?_pad] at this
  exact absurd this (by simp)

lemma utf8Length_replicate_pad (n : Nat) : Text.utf8Length (List.replicate n '=') = n := by
  induction n with
  | zero => rfl
  | succ n ih =>
    rw [List.replicate_succ, Text.utf8Length, ih, Nat.add_comm]
    rfl

end Base64

namespace Envelope

open Base64

lemma stripPadding_eq_rdropWhile (s : List Char) : stripPadding s = s.rdropWhile (· = '=') := rfl

/-- Padding behind a text that does not end in padding is what is stripped. -/
lemma stripPadding_append {s : List Char} (h : ∀ hs : s ≠ [], s.getLast hs ≠ '=') (n : Nat) :
    stripPadding (s ++ List.replicate n '=') = s := by
  rw [stripPadding_eq_rdropWhile]
  induction n with
  | zero =>
    rw [List.replicate_zero, List.append_nil, List.rdropWhile_eq_self_iff]
    intro hs
    simpa using h hs
  | succ n ih =>
    rw [List.replicate_succ', ← List.append_assoc, List.rdropWhile_concat_pos _ _ _ (by simp), ih]

/-- Padding that fills a text up to a multiple of four bytes is what is restored. -/
lemma restorePadding_eq_append {s : List Char} {n : Nat} (hn : n < 4)
    (h : (Text.utf8Length s + n) % 4 = 0) : restorePadding s = s ++ List.replicate n '=' := by
  have hmissing : (4 - Text.utf8Length s % 4) % 4 = n := by omega
  rw [restorePadding, hmissing]

lemma mem_of_mem_stripPadding {s : List Char} {c : Char} (h : c ∈ stripPadding s) : c ∈ s :=
  (List.rdropWhile_prefix (· = '=') s).mem h

/-- **Restoring undoes stripping on every spelling.** -/
theorem restorePadding_stripPadding (bytes : Bytes) :
    restorePadding (stripPadding (encodeChars bytes)) = encodeChars bytes := by
  obtain ⟨digits, n, heq, hdigits, hn, hlength⟩ := encodeChars_eq_append bytes
  have hlast : ∀ hs : digits ≠ [], digits.getLast hs ≠ '=' := fun hs hpad =>
    pad_notMem_of_digits hdigits (hpad ▸ List.getLast_mem hs)
  rw [heq, stripPadding_append hlast]
  exact restorePadding_eq_append hn (by rw [utf8Length_digits hdigits, hlength])

end Envelope

end SealedChunk
