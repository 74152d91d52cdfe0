import Mathlib.Tactic.Lemma
import Mathlib.Tactic.SplitIfs
import SealedChunk.Bytes
import SealedChunk.Proofs.Text.ByteOrder
import SealedChunk.Proofs.Text.FirstMatch

/-!
# Places of a text, in bytes

A text can be searched and taken apart by characters, as `cut` does, or by the numbers of bytes.
The second way is the riskier one.  A token is then looked for at every byte, those inside a
character included, and what is taken out must begin and end between characters, for nothing else
is text.

Both ways come to the same, because UTF-8 tells the first byte of a character from the others: a
token that is not empty begins with a first byte, so it stands nowhere but between characters
(`standsAt_iff`).  The empty token stands everywhere, but a search for it ends where it begins.

* `StandsAt`, `FirstAt` — a token stands at a byte, and for the first time from some byte on.
* `IsEdge` — a byte at which a text can be cut.
* `slice?`, `findFrom?` — taking out and searching by bytes, with no answer where the bytes are not
  edges.
* **`standsAt_iff`** — a token stands only between characters.
* **`cut_eq_some_iff_firstAt`**, `cut_eq_none_iff_standsAt` — a search by characters in bytes.
* `findFrom?_of_cut`, `slice?_eq_some` — searches and slices that cannot fail.
-/

namespace SealedChunk.Text

open Bytes

variable {token text rest before after : String} {i start stop : Nat}

/-! ## Bytes of characters -/

lemma ofText_append (s t : String) : ofText (s ++ t) = ofText s ++ ofText t := by
  rw [ofText, ofText, ofText, String.toByteArray_append, ByteArray.data_append, Array.toList_append]

lemma utf8Length_toList (s : String) : utf8Length s.toList = s.utf8ByteSize := by
  rw [← length_ofText, ofText_eq_flatMap]
  induction s.toList with
  | nil => rfl
  | cons c rest ih =>
    rw [utf8Length, ih, List.flatMap_cons, List.length_append, String.length_utf8EncodeChar]

lemma utf8Length_pos {s : List Char} (h : s ≠ []) : 0 < utf8Length s := by
  cases s with
  | nil => exact absurd rfl h
  | cons c s =>
    rw [utf8Length]
    exact Nat.add_pos_left c.utf8Size_pos _

/-- Every list of characters is that of a text. -/
lemma exists_toList (s : List Char) : ∃ t : String, t.toList = s :=
  ⟨String.ofList s, String.toList_ofList⟩

/-! ## Edges -/

/-- No character of the text spans the byte `i`: the text can be cut there. -/
abbrev IsEdge (text : String) (i : Nat) : Prop := (⟨i⟩ : String.Pos.Raw).IsValid text

lemma isEdge_iff :
    IsEdge text i ↔ ∃ before after, text = before ++ after ∧ i = before.utf8ByteSize := by
  rw [IsEdge, String.Pos.Raw.isValid_iff_exists_append]
  simp only [String.Pos.Raw.ext_iff, String.byteIdx_rawEndPos]

/-! ## Where tokens stand -/

/-- The token stands at the byte `i` of the text. -/
def StandsAt (token text : String) (i : Nat) : Prop := ofText token <+: (ofText text).drop i

instance (token text : String) (i : Nat) : Decidable (StandsAt token text i) :=
  inferInstanceAs (Decidable (ofText token <+: (ofText text).drop i))

/-- From the byte `start` on, the token stands at the byte `stop` for the first time. -/
structure FirstAt (token text : String) (start stop : Nat) : Prop where
  le : start ≤ stop
  here : StandsAt token text stop
  first : ∀ i, start ≤ i → i < stop → ¬ StandsAt token text i

/-- There is one first time. -/
lemma FirstAt.eq {other : Nat} (h : FirstAt token text start stop)
    (h' : FirstAt token text start other) : stop = other := by
  rcases Nat.lt_trichotomy stop other with hlt | heq | hlt
  · exact absurd h.here (h'.first stop h.le hlt)
  · exact heq
  · exact absurd h'.here (h.first other h'.le hlt)

lemma standsAt_append (before token after : String) :
    StandsAt token (before ++ token ++ after) before.utf8ByteSize := by
  rw [StandsAt, ofText_append, ofText_append, List.append_assoc, ← length_ofText before,
    List.drop_left]
  exact List.prefix_append _ _

/-- Behind some text, a token stands where it stands in the rest. -/
lemma standsAt_behind (front : String) :
    StandsAt token (front ++ rest) (front.utf8ByteSize + i) ↔ StandsAt token rest i := by
  rw [StandsAt, StandsAt, ofText_append, ← length_ofText front, ← List.drop_drop, List.drop_left]

/-- If its bytes come first, so does the token. -/
lemma exists_append_of_prefix (h : ofText token <+: ofText text) :
    ∃ after, text = token ++ after := by
  obtain ⟨more, hmore⟩ := h
  have hencode : token.toList.utf8Encode ++ more.toByteArray = text.toList.utf8Encode := by
    rw [← String.toByteArray_ofList, ← String.toByteArray_ofList, String.ofList_toList,
      String.ofList_toList]
    apply ByteArray.ext
    apply Array.toList_inj.1
    rw [ByteArray.data_append, Array.toList_append, List.data_toByteArray]
    exact hmore
  obtain ⟨after, hafter⟩ := List.isPrefix_of_utf8Encode_append_eq_utf8Encode _ hencode
  exact ⟨String.ofList after, by
    rw [← String.toList_inj, String.toList_append, String.toList_ofList, hafter]⟩

lemma standsAt_zero_iff : StandsAt token text 0 ↔ ∃ rest, text = token ++ rest := by
  constructor
  · exact exists_append_of_prefix
  · rintro ⟨rest, rfl⟩
    rw [StandsAt, List.drop_zero, ofText_append]
    exact List.prefix_append _ _

/-- A token that is not empty begins with the first byte of a character. -/
lemma isEdge_of_standsAt (htoken : token ≠ "") (h : StandsAt token text i) : IsEdge text i := by
  obtain ⟨more, hmore⟩ := h
  have hzero : 0 < (ofText token).length := by
    rw [length_ofText]
    exact Nat.pos_of_ne_zero (by simpa using htoken)
  have hi : i < (ofText text).length := by
    have := congrArg List.length hmore
    rw [List.length_append, List.length_drop] at this
    omega
  -- so the byte of the text is the first one of the token
  have hbyte : (ofText text).get ⟨i, hi⟩ = (ofText token).get ⟨0, hzero⟩ := by
    have : ((ofText text).drop i)[0]? = some (ofText token)[0] := by
      rw [← hmore, List.getElem?_append_left hzero, List.getElem?_eq_getElem hzero]
    rw [List.getElem?_drop, Nat.add_zero, List.getElem?_eq_getElem hi] at this
    exact Option.some.inj this
  have htext : (⟨i⟩ : String.Pos.Raw) < text.rawEndPos := by
    rw [length_ofText] at hi
    exact hi
  have hfirst : (text.getUTF8Byte ⟨i⟩ htext).IsUTF8FirstByte := by
    rw [show text.getUTF8Byte ⟨i⟩ htext = (ofText text).get ⟨i, hi⟩ from rfl, hbyte]
    rw [length_ofText] at hzero
    exact String.isUTF8FirstByte_getUTF8Byte_zero
  exact String.Pos.Raw.isValid_iff_isUTF8FirstByte.2 (.inr ⟨htext, hfirst⟩)

/-- **A token stands only between characters.** -/
theorem standsAt_iff (htoken : token ≠ "") : StandsAt token text i ↔
    ∃ before after, text = before ++ token ++ after ∧ i = before.utf8ByteSize := by
  constructor
  · intro h
    obtain ⟨before, behind, rfl, rfl⟩ := isEdge_iff.1 (isEdge_of_standsAt htoken h)
    rw [StandsAt, ofText_append, ← length_ofText before, List.drop_left] at h
    obtain ⟨after, rfl⟩ := exists_append_of_prefix h
    exact ⟨before, after, String.append_assoc.symm, rfl⟩
  · rintro ⟨before, after, rfl, rfl⟩
    exact standsAt_append before token after

/-! ## Characters and bytes -/

/-- A token that stands at a character stands at its first byte. -/
lemma standsAt_of_occursAt (h : OccursAt token.toList text.toList i) :
    StandsAt token text (utf8Length (text.toList.take i)) := by
  obtain ⟨more, hmore⟩ := h
  obtain ⟨before, hbefore⟩ := exists_toList (text.toList.take i)
  have htext : text = before ++ token ++ String.ofList more := by
    rw [← String.toList_inj, String.toList_append, String.toList_append, String.toList_ofList,
      hbefore, List.append_assoc, hmore, List.take_append_drop]
  rw [← hbefore, utf8Length_toList, htext]
  exact standsAt_append before token _

/-- And the other way round, unless the token is empty. -/
lemma occursAt_of_standsAt (htoken : token ≠ "") (h : StandsAt token text i) :
    ∃ n, OccursAt token.toList text.toList n ∧ i = utf8Length (text.toList.take n) := by
  obtain ⟨before, after, rfl, rfl⟩ := (standsAt_iff htoken).1 h
  refine ⟨before.toList.length, ⟨after.toList, ?_⟩, ?_⟩
  · simp [List.append_assoc]
  · rw [← utf8Length_toList]
    simp [List.append_assoc]

/-- A cut leaves texts, if the token stands anywhere. -/
lemma cut_none_or_some (token rest : String) : cut token.toList rest.toList = none ∨
    ∃ before after : String,
      cut token.toList rest.toList = some (before.toList, after.toList) := by
  cases cut token.toList rest.toList with
  | none => exact .inl rfl
  | some parts =>
    obtain ⟨before, hbefore⟩ := exists_toList parts.1
    obtain ⟨after, hafter⟩ := exists_toList parts.2
    exact .inr ⟨before, after, by rw [hbefore, hafter]⟩

/-- Characters are before the end of a text if their bytes are. -/
lemma utf8Length_take_lt_iff {s t : List Char} {n : Nat} :
    utf8Length ((s ++ t).take n) < utf8Length s ↔ n < s.length := by
  constructor
  · intro h
    by_contra hle
    rw [List.take_append, List.take_of_length_le (Nat.le_of_not_lt hle), utf8Length_append] at h
    omega
  · intro h
    have hdrop : s.drop n ≠ [] := by simpa using h
    have hsplit := utf8Length_append (s.take n) (s.drop n)
    rw [List.take_append_drop] at hsplit
    rw [List.take_append_of_le_length (Nat.le_of_lt h), hsplit]
    exact Nat.lt_add_of_pos_right (utf8Length_pos hdrop)

/-- A token stands at none of the bytes of a text exactly if it stands at none of its characters. -/
lemma forall_not_standsAt_iff :
    (∀ i < before.utf8ByteSize, ¬ StandsAt token (before ++ rest) i)
      ↔ ∀ n < before.toList.length, ¬ OccursAt token.toList (before ++ rest).toList n := by
  constructor
  · intro h n hn hoccurs
    refine h _ ?_ (standsAt_of_occursAt hoccurs)
    rw [← utf8Length_toList, String.toList_append]
    exact utf8Length_take_lt_iff.2 hn
  · intro h i hi hstands
    by_cases htoken : token = ""
    · -- the empty token stands at the first character, and there is one
      subst htoken
      have hne : before.toList ≠ [] := by
        intro hnil
        rw [← utf8Length_toList, hnil] at hi
        exact absurd hi (Nat.not_lt_zero i)
      exact h 0 (List.length_pos_iff.2 hne) List.nil_prefix
    · obtain ⟨n, hoccurs, rfl⟩ := occursAt_of_standsAt htoken hstands
      rw [← utf8Length_toList, String.toList_append] at hi
      exact h n (utf8Length_take_lt_iff.1 hi) hoccurs

/-- **A search by characters finds the first place in bytes,** whatever stands before the text that
is searched. -/
theorem cut_eq_some_iff_firstAt (front : String) :
    cut token.toList rest.toList = some (before.toList, after.toList) ↔
      rest = before ++ token ++ after
        ∧ FirstAt token (front ++ rest) front.utf8ByteSize
            (front.utf8ByteSize + before.utf8ByteSize) := by
  rw [cut_eq_some_iff, ← String.toList_append, ← String.toList_append, String.toList_inj]
  refine and_congr_right fun hrest => ?_
  subst hrest
  rw [String.append_assoc, ← forall_not_standsAt_iff]
  constructor
  · intro h
    refine ⟨Nat.le_add_right _ _, ?_, fun i hle hlt => ?_⟩
    · rw [standsAt_behind, ← String.append_assoc]
      exact standsAt_append before token after
    · obtain ⟨i, rfl⟩ := Nat.exists_eq_add_of_le hle
      rw [standsAt_behind]
      exact h i (Nat.lt_of_add_lt_add_left hlt)
  · intro h i hi
    rw [← standsAt_behind front]
    exact h.first _ (Nat.le_add_right _ _) (Nat.add_lt_add_left hi _)

/-- And nothing where the token stands nowhere. -/
theorem cut_eq_none_iff_standsAt (front : String) :
    cut token.toList rest.toList = none ↔
      ∀ i, front.utf8ByteSize ≤ i → ¬ StandsAt token (front ++ rest) i := by
  constructor
  · intro h i hle hstands
    obtain ⟨i, rfl⟩ := Nat.exists_eq_add_of_le hle
    rw [standsAt_behind] at hstands
    refine cut_eq_none_iff.1 h ?_
    by_cases htoken : token = ""
    · subst htoken
      exact List.nil_infix
    · obtain ⟨before, after, rfl, -⟩ := (standsAt_iff htoken).1 hstands
      exact ⟨before.toList, after.toList, by simp⟩
  · intro h
    rcases cut_none_or_some token rest with hcut | ⟨before, after, hcut⟩
    · exact hcut
    · have hfirst := ((cut_eq_some_iff_firstAt front).1 hcut).2
      exact absurd hfirst.here (h _ hfirst.le)

/-- Where a token stands first, a search by characters cuts. -/
lemma FirstAt.exists_cut {front : String}
    (h : FirstAt token (front ++ rest) front.utf8ByteSize stop) :
    ∃ before after : String, cut token.toList rest.toList = some (before.toList, after.toList)
      ∧ stop = front.utf8ByteSize + before.utf8ByteSize := by
  rcases cut_none_or_some token rest with hcut | ⟨before, after, hcut⟩
  · exact absurd h.here ((cut_eq_none_iff_standsAt front).1 hcut stop h.le)
  · exact ⟨before, after, hcut, h.eq ((cut_eq_some_iff_firstAt front).1 hcut).2⟩

/-! ## Taking out and searching by bytes -/

/-- What lies between two bytes of a text, if that is text. -/
def slice? (text : String) (start stop : Nat) : Option String :=
  if h : IsEdge text start ∧ IsEdge text stop ∧ start ≤ stop then
    some (text.extract ⟨⟨start⟩, h.1⟩ ⟨⟨stop⟩, h.2.1⟩)
  else none

/-- The first byte from `start` on at which the token stands, if `start` is an edge. -/
def findFrom? (token text : String) (start : Nat) : Option Nat :=
  if IsEdge text start then
    (List.range' start (text.utf8ByteSize + 1 - start)).find? fun i => StandsAt token text i
  else none

lemma toByteArray_extract_append (before part after : String) :
    (before ++ part ++ after).toByteArray.extract before.utf8ByteSize
      (before.utf8ByteSize + part.utf8ByteSize) = part.toByteArray := by
  have hbehind : (before.toByteArray ++ (part.toByteArray ++ after.toByteArray)).extract
      (before.toByteArray.size + 0) (before.toByteArray.size + part.toByteArray.size)
        = part.toByteArray := by
    rw [ByteArray.extract_append_size_add, ByteArray.extract_append_eq_left rfl]
  rw [String.append_assoc, String.toByteArray_append, String.toByteArray_append,
    ← String.size_toByteArray, ← String.size_toByteArray]
  exact hbehind

/-- A part of a text is what lies between its bytes. -/
lemma slice?_eq_some {part : String} (h : text = before ++ part ++ after) :
    slice? text before.utf8ByteSize (before.utf8ByteSize + part.utf8ByteSize) = some part := by
  subst h
  have hstart : IsEdge (before ++ part ++ after) before.utf8ByteSize :=
    isEdge_iff.2 ⟨before, part ++ after, String.append_assoc, rfl⟩
  have hstop : IsEdge (before ++ part ++ after) (before.utf8ByteSize + part.utf8ByteSize) :=
    isEdge_iff.2 ⟨before ++ part, after, rfl, (String.utf8ByteSize_append).symm⟩
  rw [slice?, dif_pos ⟨hstart, hstop, Nat.le_add_right _ _⟩, Option.some.injEq,
    ← String.toByteArray_inj, String.toByteArray_extract]
  exact toByteArray_extract_append before part after

lemma findFrom?_of_cut {front : String}
    (h : cut token.toList rest.toList = some (before.toList, after.toList)) :
    findFrom? token (front ++ rest) front.utf8ByteSize
      = some (front.utf8ByteSize + before.utf8ByteSize) := by
  obtain ⟨hrest, hfirst⟩ := (cut_eq_some_iff_firstAt front).1 h
  have hsize : (front ++ rest).utf8ByteSize = front.utf8ByteSize + rest.utf8ByteSize :=
    String.utf8ByteSize_append
  have hle : before.utf8ByteSize ≤ rest.utf8ByteSize := by
    rw [hrest, String.append_assoc, String.utf8ByteSize_append]
    exact Nat.le_add_right _ _
  rw [findFrom?, if_pos (isEdge_iff.2 ⟨front, rest, rfl, rfl⟩), List.find?_range'_eq_some]
  refine ⟨decide_eq_true hfirst.here, List.mem_range'_1.2 ⟨hfirst.le, by omega⟩, ?_⟩
  intro i hi hlt
  simpa using hfirst.first i hi hlt

lemma findFrom?_of_cut_none {front : String} (h : cut token.toList rest.toList = none) :
    findFrom? token (front ++ rest) front.utf8ByteSize = none := by
  rw [findFrom?, if_pos (isEdge_iff.2 ⟨front, rest, rfl, rfl⟩), List.find?_range'_eq_none]
  intro i hi _
  simpa using (cut_eq_none_iff_standsAt front).1 h i hi

end SealedChunk.Text
