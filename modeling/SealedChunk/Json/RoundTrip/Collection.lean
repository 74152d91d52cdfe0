import SealedChunk.Json.Collection

/-!
# Arrays and objects are read back

If a reader gets every part back from the text that was written for it, whatever follows that text,
then the whole array or object is got back.  What follows a part is a comma or a closing bracket, so
a reader of parts may ask that nothing follows that could be more of a number.

For an object the reader is a fold, and what it does with a member may depend on the members before.
So the statement speaks of any condition `fits` on the members still to come and on what has been
gathered; members may repeat a name.

* **`readArray_writeArray`** — arrays.
* **`readObject_writeObject`** — objects.
-/

namespace SealedChunk.Json

/-- Whether a text can begin a part of an array. -/
def beginsElement : List Char → Bool
  | [] => false
  | c :: _ => !isJsonBlank c && c ≠ ']'

theorem beginsElement_append {s : List Char} (t : List Char) (h : beginsElement s = true) :
    beginsElement (s ++ t) = true := by
  cases s with
  | nil => simp [beginsElement] at h
  | cons c s => exact h

theorem skipBlanks_of_beginsElement {s : List Char} (h : beginsElement s = true) :
    skipBlanks s = s := by
  cases s with
  | nil => rfl
  | cons c s =>
    simp only [beginsElement, Bool.and_eq_true, Bool.not_eq_true'] at h
    simp [skipBlanks, h.1]

section Arrays

variable {α : Type} {element : List Char → Except Fault (α × List Char)} {write : α → List Char}

theorem moreElements_of_close {s rest : List Char} {x : α} (fuel : Nat)
    (h : element s = .ok (x, ']' :: rest)) :
    moreElements element (fuel + 1) s = .ok ([x], rest) := by
  simp [moreElements, h, skipBlanks, isJsonBlank]

theorem moreElements_of_comma {s t : List Char} {x : α} (fuel : Nat)
    (h : element s = .ok (x, ',' :: t)) (ht : beginsElement t = true) :
    moreElements element (fuel + 1) s
      = (moreElements element fuel t).map fun p => (x :: p.1, p.2) := by
  have hcomma : skipBlanks (',' :: t) = ',' :: t := by simp [skipBlanks, isJsonBlank]
  simp only [moreElements, h, hcomma, skipBlanks_of_beginsElement ht]
  split
  · simp [beginsElement] at ht
  · simp [beginsElement] at ht
  · rfl

theorem separated_cons_cons (part other : List Char) (more : List (List Char)) :
    separated (part :: other :: more) = part ++ ',' :: separated (other :: more) := rfl

theorem beginsElement_separated {part : List Char} (more : List (List Char))
    (h : beginsElement part = true) : beginsElement (separated (part :: more)) = true := by
  cases more with
  | nil => exact h
  | cons other more => exact beginsElement_append _ h

/-- Elements are read back by a reader that reads back each of them. -/
theorem moreElements_separated (x : α) (xs : List α) (fuel : Nat) (hfuel : xs.length < fuel)
    (hbegin : ∀ y ∈ xs, beginsElement (write y) = true)
    (hread : ∀ y ∈ x :: xs, ∀ rest, endsNumber rest = true →
      element (write y ++ rest) = .ok (y, rest)) (rest : List Char) :
    moreElements element fuel (separated ((x :: xs).map write) ++ ']' :: rest)
      = .ok (x :: xs, rest) := by
  induction xs generalizing x fuel with
  | nil =>
    obtain ⟨fuel, rfl⟩ := Nat.exists_eq_add_one.2 hfuel
    exact moreElements_of_close fuel (hread x (by simp) (']' :: rest) rfl)
  | cons y ys ih =>
    obtain ⟨fuel, rfl⟩ := Nat.exists_eq_add_one.2 (Nat.zero_lt_of_lt hfuel)
    have hmore := ih y fuel (by simpa using hfuel)
      (fun z hz => hbegin z (List.mem_cons_of_mem y hz))
      (fun z hz => hread z (List.mem_cons_of_mem x hz))
    have ht : beginsElement (separated ((y :: ys).map write) ++ ']' :: rest) = true :=
      beginsElement_append _ (beginsElement_separated _ (hbegin y (by simp)))
    have hx := hread x (by simp) (',' :: (separated ((y :: ys).map write) ++ ']' :: rest)) rfl
    have hseparated : separated ((x :: y :: ys).map write)
        = write x ++ ',' :: separated ((y :: ys).map write) := rfl
    rw [hseparated, List.append_assoc, List.cons_append, moreElements_of_comma fuel hx ht, hmore]
    rfl

theorem length_le_length_separated (parts : List (List Char))
    (h : ∀ part ∈ parts, part ≠ []) : parts.length ≤ (separated parts).length := by
  induction parts with
  | nil => simp
  | cons part more ih =>
    have hpart : 0 < part.length := List.length_pos_iff.2 (h part (by simp))
    cases more with
    | nil => exact hpart
    | cons other more =>
      have := ih fun part hp => h part (List.mem_cons_of_mem _ hp)
      simp only [separated_cons_cons, List.length_append, List.length_cons] at this ⊢
      omega

variable (element write) in
/-- An array is read back by a reader that reads back each of its elements. -/
theorem readArray_writeArray {xs : List α} (hbegin : ∀ x ∈ xs, beginsElement (write x) = true)
    (hread : ∀ x ∈ xs, ∀ rest, endsNumber rest = true → element (write x ++ rest) = .ok (x, rest))
    (rest : List Char) :
    ∃ s, writeArray (xs.map write) ++ rest = '[' :: s ∧ readArray element s = .ok (xs, rest) := by
  refine ⟨separated (xs.map write) ++ ']' :: rest, by simp [writeArray], ?_⟩
  cases xs with
  | nil => simp [separated, readArray, skipBlanks, isJsonBlank]
  | cons x xs =>
    have hb : beginsElement (separated ((x :: xs).map write) ++ ']' :: rest) = true :=
      beginsElement_append _ (beginsElement_separated _ (hbegin x (by simp)))
    have hlen : ((x :: xs).map write).length ≤ (separated ((x :: xs).map write)).length := by
      refine length_le_length_separated _ fun part hp => ?_
      obtain ⟨y, hy, rfl⟩ := List.mem_map.1 hp
      intro hnil
      have := hbegin y hy
      simp [hnil, beginsElement] at this
    have hmore := moreElements_separated x xs
      (separated ((x :: xs).map write) ++ ']' :: rest).length
      (by simp only [List.length_map, List.length_cons, List.length_append] at hlen ⊢; omega)
      (fun y hy => hbegin y (List.mem_cons_of_mem x hy)) hread rest
    rw [readArray, skipBlanks_of_beginsElement hb]
    generalize separated ((x :: xs).map write) ++ ']' :: rest = t at hb hmore
    split
    · simp [beginsElement] at hb
    · simp [beginsElement] at hb
    · exact hmore

end Arrays

section Objects

theorem skipColon_of_beginsElement {s : List Char} (h : beginsElement s = true) :
    skipColon (':' :: s) = .ok s := by
  have hcolon : skipBlanks (':' :: s) = ':' :: s := by simp [skipBlanks, isJsonBlank]
  simp only [skipColon, hcolon, skipBlanks_of_beginsElement h]

/-- The members of an object begin with the quote of the first name. -/
theorem separated_members_eq_cons {ε : Type _} (e : ε) (es : List ε) (name : ε → String)
    (write : ε → List Char) (tail : List Char) :
    ∃ t, separated ((e :: es).map fun e => writeMember (name e) (write e)) ++ tail = '"' :: t := by
  cases es <;> simp [separated, writeMember, writeText]

theorem skipBlanks_separated {ε : Type _} (e : ε) (es : List ε) (name : ε → String)
    (write : ε → List Char) (tail : List Char) :
    skipBlanks (separated ((e :: es).map fun e => writeMember (name e) (write e)) ++ tail)
      = separated ((e :: es).map fun e => writeMember (name e) (write e)) ++ tail := by
  obtain ⟨t, ht⟩ := separated_members_eq_cons e es name write tail
  rw [ht]
  rfl

variable {σ : Type} {ε : Type _} {member : σ → String → List Char → Except Fault (σ × List Char)}
  {name : ε → String} {write : ε → List Char} {step : σ → ε → σ} {fits : List ε → σ → Prop}

/-- The members of an object are gathered by a reader that gathers each of them.  What can be said
of the gathered so far may depend on the members still to come. -/
theorem moreMembers_separated (e : ε) (es : List ε) (gathered : σ) (fuel : Nat)
    (hfuel : es.length < fuel) (hfits : fits (e :: es) gathered)
    (hread : ∀ e es gathered, fits (e :: es) gathered → fits es (step gathered e)
      ∧ ∀ rest, endsNumber rest = true →
        member gathered (name e) (':' :: write e ++ rest) = .ok (step gathered e, rest))
    (rest : List Char) :
    moreMembers member fuel gathered
        (separated ((e :: es).map fun e => writeMember (name e) (write e)) ++ '\x7d' :: rest)
      = .ok ((e :: es).foldl step gathered, rest) := by
  have hquote (e : ε) (tail : List Char) : ∃ t,
      writeMember (name e) (write e) ++ tail = '"' :: t
        ∧ readText t = .ok (name e, ':' :: write e ++ tail) := by
    obtain ⟨t, ht, hr⟩ := readText_writeText (name e) (':' :: write e ++ tail)
    exact ⟨t, by rw [writeMember, List.append_assoc, ht], hr⟩
  induction es generalizing e gathered fuel with
  | nil =>
    obtain ⟨fuel, rfl⟩ := Nat.exists_eq_add_one.2 hfuel
    obtain ⟨t, ht, hr⟩ := hquote e ('\x7d' :: rest)
    have hm := (hread e [] gathered hfits).2 ('\x7d' :: rest) rfl
    have hblank : skipBlanks ('\x7d' :: rest) = '\x7d' :: rest := by simp [skipBlanks, isJsonBlank]
    rw [List.map_cons, List.map_nil, separated, ht]
    simp only [moreMembers, hr, hm, hblank, if_pos, List.foldl_cons, List.foldl_nil]
  | cons d ds ih =>
    obtain ⟨fuel, rfl⟩ := Nat.exists_eq_add_one.2 (Nat.zero_lt_of_lt hfuel)
    obtain ⟨hfits, hm⟩ := hread e (d :: ds) gathered hfits
    have hmore := ih d (step gathered e) fuel (by simpa using hfuel) hfits
    have hseparated : separated ((e :: d :: ds).map fun e => writeMember (name e) (write e))
        = writeMember (name e) (write e)
          ++ ',' :: separated ((d :: ds).map fun e => writeMember (name e) (write e)) := rfl
    obtain ⟨t, ht, hr⟩ := hquote e
      (',' :: (separated ((d :: ds).map fun e => writeMember (name e) (write e)) ++ '\x7d' :: rest))
    have hm := hm
      (',' :: (separated ((d :: ds).map fun e => writeMember (name e) (write e)) ++ '\x7d' :: rest))
      rfl
    have hcomma (s : List Char) : skipBlanks (',' :: s) = ',' :: s := by
      simp [skipBlanks, isJsonBlank]
    rw [hseparated, List.append_assoc, List.cons_append, ht]
    simp only [moreMembers, hr, hm, hcomma, if_pos, skipBlanks_separated, hmore, List.foldl_cons]

variable (member name write step fits) in
/-- An object is gathered by a reader that gathers each of its members. -/
theorem readObject_writeObject (es : List ε) (start : σ) (hfits : fits es start)
    (hread : ∀ e es gathered, fits (e :: es) gathered → fits es (step gathered e)
      ∧ ∀ rest, endsNumber rest = true →
        member gathered (name e) (':' :: write e ++ rest) = .ok (step gathered e, rest))
    (rest : List Char) :
    ∃ s, writeObject (es.map fun e => writeMember (name e) (write e)) ++ rest = '\x7b' :: s
      ∧ readObject member start s = .ok (es.foldl step start, rest) := by
  refine ⟨separated (es.map fun e => writeMember (name e) (write e)) ++ '\x7d' :: rest,
    by simp [writeObject], ?_⟩
  cases es with
  | nil => simp [separated, readObject, skipBlanks, isJsonBlank]
  | cons e es =>
    have hlen := length_le_length_separated
      ((e :: es).map fun e => writeMember (name e) (write e)) fun part hp => by
        obtain ⟨d, -, rfl⟩ := List.mem_map.1 hp
        simp [writeMember, writeText]
    have hmore := moreMembers_separated e es start
      (separated ((e :: es).map fun e => writeMember (name e) (write e))
        ++ '\x7d' :: rest).length
      (by simp only [List.length_map, List.length_cons, List.length_append] at hlen ⊢; omega)
      hfits hread rest
    obtain ⟨t, ht⟩ := separated_members_eq_cons e es name write ('\x7d' :: rest)
    rw [readObject, skipBlanks_separated]
    rw [ht] at hmore ⊢
    exact hmore

end Objects

end SealedChunk.Json
