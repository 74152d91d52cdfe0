import Mathlib.Data.List.TakeWhile
import SealedChunk.Proofs.Attribute.Canonical
import SealedChunk.Proofs.Json.Locality

/-!
# Texts that can be read as attributes

A text that is read as an attribute map is blank or a JSON object with blanks around it.  Two things
follow that whoever puts such a text between others relies on.  It begins with a blank or with the
bracket of the object, so it cannot be taken for a word or begin with a colon.  And it cannot be
continued: the object ends at its bracket, and behind that, or behind blank text, only blanks are
accepted.

* `AttributeMap.Readable` — the texts; canonical text is one of them by `parse_canonical`.
* `AttributeMap.head_of_readable` — how they begin.
* **`AttributeMap.not_readable_colon`** — no such text goes on behind a colon to be another one.
-/

namespace SealedChunk

namespace AttributeMap

open Json

/-- The text can be read as an attribute map. -/
def Readable (text : String) : Prop := ∃ m, parse text = .ok m

/-! ## Blanks -/

/-- The blanks of JSON are white space. -/
lemma isBlank_of_isJsonBlank {c : Char} (h : isJsonBlank c = true) : Text.isBlank c = true := by
  simp only [isJsonBlank, Bool.or_eq_true, decide_eq_true_eq] at h
  rcases h with ((rfl | rfl) | rfl) | rfl <;> rfl

lemma forall_isJsonBlank_of_skipBlanks {s : List Char} (h : skipBlanks s = []) :
    ∀ c ∈ s, isJsonBlank c = true := by
  simpa [skipBlanks, List.dropWhile_eq_nil_iff] using h

/-- The first character that is no blank of JSON, behind white space and a colon, is no bracket. -/
lemma ne_bracket_of_skipBlanks {s t r : List Char} {c : Char}
    (hs : ∀ d ∈ s, Text.isBlank d = true) (h : skipBlanks (s ++ ':' :: t) = c :: r) :
    c ≠ '\x7b' := by
  induction s with
  | nil =>
    have hcolon : skipBlanks (':' :: t) = ':' :: t := rfl
    rw [List.nil_append, hcolon] at h
    cases h
    decide
  | cons d s ih =>
    rw [List.cons_append, skipBlanks, List.dropWhile_cons] at h
    split at h
    · exact ih (fun e he => hs e (by simp [he])) h
    · cases h
      rintro rfl
      exact absurd (hs _ List.mem_cons_self) (by decide)

/-! ## Reading -/

/-- What is read from a whole text: a value with nothing but blanks around it. -/
lemma parse?_eq_ok_iff {α : Type} {value : List Char → Except Fault (α × List Char)} {s : List Char}
    {x : α} : parse? value s = .ok x ↔
      ∃ rest, value (skipBlanks s) = .ok (x, rest) ∧ skipBlanks rest = [] := by
  rw [parse?]
  split
  · rename_i fault hvalue
    simp [hvalue]
  · rename_i y rest hvalue
    simp only [hvalue, Except.ok.injEq, Prod.mk.injEq]
    split
    · rename_i hrest
      rw [List.isEmpty_iff] at hrest
      constructor
      · rintro ⟨⟩
        exact ⟨rest, ⟨rfl, rfl⟩, hrest⟩
      · rintro ⟨_, ⟨rfl, -⟩, -⟩
        rfl
    · rename_i hrest
      rw [List.isEmpty_iff] at hrest
      constructor
      · rintro ⟨⟩
      · rintro ⟨_, ⟨-, rfl⟩, h⟩
        exact absurd h hrest

/-- A text is readable if it is blank, or if it holds an object. -/
lemma readable_iff {text : String} : Readable text ↔
    (∀ c ∈ text.toList, Text.isBlank c = true)
      ∨ ∃ m rest, codec.read Codec.maxLevels (skipBlanks text.toList) = .ok (m, rest)
        ∧ skipBlanks rest = [] := by
  have hblank : Text.isBlankText text = true ↔ ∀ c ∈ text.toList, Text.isBlank c = true := by
    rw [Text.isBlankText, List.all_eq_true]
  rw [Readable, ← hblank]
  by_cases h : Text.isBlankText text = true
  · simp [parse, h]
  · simp only [parse, h, if_false, false_or, Codec.decode, parse?_eq_ok_iff, Bool.false_eq_true]

/-- An object begins with its bracket. -/
lemma eq_cons_of_read {levels : Nat} {s rest : List Char} {m : AttributeMap}
    (h : codec.read levels s = .ok (m, rest)) : ∃ r, s = '\x7b' :: r := by
  obtain ⟨r, -, hs, -, -⟩ := Codec.behindBracket_eq_ok h
  exact ⟨r, hs⟩

lemma selfDelimiting_codec (levels : Nat) : codec.SelfDelimiting levels :=
  Codec.selfDelimiting_ordered (Codec.selfDelimiting_list Codec.selfDelimiting_text) levels

/-- A readable text begins with a blank or with the bracket of the object. -/
theorem head_of_readable {text : String} (h : Readable text) {c : Char} {s : List Char}
    (htext : text.toList = c :: s) : Text.isBlank c = true ∨ c = '\x7b' := by
  rcases readable_iff.1 h with hblank | ⟨m, rest, hread, -⟩
  · exact .inl (hblank c (by simp [htext]))
  · obtain ⟨r, hr⟩ := eq_cons_of_read hread
    rw [htext, skipBlanks, List.dropWhile_cons] at hr
    split at hr
    · rename_i hc
      exact .inl (isBlank_of_isJsonBlank hc)
    · cases hr
      exact .inr rfl

/-- **A readable text cannot be continued behind a colon.**  Of a blank text that is plain: the
colon is no blank and no bracket.  An object is read to its own end, whatever follows, and then the
colon is in the way. -/
theorem not_readable_colon {text : String} (h : Readable text) (t : String) :
    ¬ Readable (text ++ ":" ++ t) := by
  have hlist : (text ++ ":" ++ t).toList = text.toList ++ ':' :: t.toList := by simp
  intro hmore
  rw [readable_iff, hlist] at hmore
  have hcolon : ¬ ∀ c ∈ text.toList ++ ':' :: t.toList, Text.isBlank c = true := by
    intro hall
    exact absurd (hall ':' (by simp)) (by decide)
  obtain ⟨m', rest', hread', hrest'⟩ := hmore.resolve_left hcolon
  rcases readable_iff.1 h with hblank | ⟨m, rest, hread, -⟩
  · obtain ⟨r, hr⟩ := eq_cons_of_read hread'
    exact ne_bracket_of_skipBlanks hblank hr rfl
  · obtain ⟨r, hr⟩ := eq_cons_of_read hread
    have hgoesOn := (selfDelimiting_codec Codec.maxLevels).goesOn _ _ _ (':' :: t.toList) hread
    rw [skipBlanks_append hr] at hread'
    rw [hr, List.cons_append, hread'] at hgoesOn
    cases hgoesOn
    exact absurd (forall_isJsonBlank_of_skipBlanks hrest' ':' (by simp)) (by decide)

end AttributeMap

end SealedChunk
