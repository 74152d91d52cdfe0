import Mathlib.Tactic.SplitIfs
import SealedChunk.Json.Codec
import SealedChunk.Proofs.Outcome

/-!
# Reading goes no further than the value

A value with brackets or quotes around it shows where it ends.  So what a reader makes of it stays
the same whatever is put behind: the same value, and the rest with the addition.  Numbers are
different, since a digit behind a number makes another number of it.

The readers of arrays and objects have fuel, which they take from the length of the text, so a
longer text means more fuel.  Each of their loops therefore gets an inversion lemma that says what
one turn does, and locality is proved for any fuel that is not smaller.

* `Local` — a reader does not depend on what follows.
* `moreElements_eq_ok_iff`, `moreMembers_eq_ok_iff` — one turn of the loops.
* `Codec.SelfDelimiting` — a codec whose values show where they end.
* **`selfDelimiting_text`**, **`selfDelimiting_list`**, **`selfDelimiting_ordered`** — strings, and
  arrays and objects of such values.
-/

namespace SealedChunk.Json

/-- What is read at the front of a text does not change if the text goes on. -/
def Local {α : Type} (read : List Char → Except Fault (α × List Char)) : Prop :=
  ∀ s x rest t, read s = .ok (x, rest) → read (s ++ t) = .ok (x, rest ++ t)

lemma skipBlanks_append {s r : List Char} {c : Char} (h : skipBlanks s = c :: r) (t : List Char) :
    skipBlanks (s ++ t) = c :: (r ++ t) := by
  rw [skipBlanks] at h ⊢
  rw [List.dropWhile_append, h]
  rfl

/-! ## Strings -/

lemma local_readHex : Local readHex := by
  intro s n rest t h
  rw [readHex.eq_def] at h
  split at h
  · rename_i a b c d r
    split at h
    · rename_i ha hb hc hd
      cases h
      simp only [List.cons_append, readHex, ha, hb, hc, hd]
    · cases h
  · split at h <;> cases h

lemma local_readLowSurrogate : Local readLowSurrogate := by
  intro s n rest t h
  rw [readLowSurrogate.eq_def] at h
  split at h
  · cases h
  · cases h
  · rename_i r
    obtain ⟨⟨low, after⟩, hx, h⟩ := bind_eq_ok_iff.1 h
    dsimp only at h
    split_ifs at h with hlow
    cases h
    exact bind_eq_ok_iff.2 ⟨_, local_readHex _ _ _ t hx, if_pos hlow⟩
  · cases h

lemma local_readEscape : Local readEscape := by
  intro s c rest t h
  rw [readEscape.eq_def] at h
  split at h
  case h_10 r =>
    obtain ⟨⟨n, after⟩, hx, h⟩ := bind_eq_ok_iff.1 h
    refine bind_eq_ok_iff.2 ⟨_, local_readHex r n after t hx, ?_⟩
    dsimp only at h ⊢
    split_ifs at h ⊢ with hlow hhigh
    · obtain ⟨⟨low, behind⟩, hl, h⟩ := bind_eq_ok_iff.1 h
      simp only [Except.ok.injEq, Prod.mk.injEq] at h
      obtain ⟨rfl, rfl⟩ := h
      exact bind_eq_ok_iff.2 ⟨_, local_readLowSurrogate after low behind t hl, rfl⟩
    · simp only [Except.ok.injEq, Prod.mk.injEq] at h
      obtain ⟨rfl, rfl⟩ := h
      rfl
  all_goals
    cases h
    try rfl

lemma readBody_backslash {s after : List Char} {c : Char} (h : readEscape s = .ok (c, after)) :
    readBody ('\\' :: s) = (readBody after).map fun p => (c :: p.1, p.2) := by
  rw [readBody, if_neg (by decide), if_pos rfl]
  split
  · rename_i hf; rw [h] at hf; cases hf
  · rename_i hf
    rw [h] at hf
    cases hf
    cases readBody after <;> rfl

lemma readBody_plain {c : Char} {s : List Char} (hquote : c ≠ '"') (hescape : c ≠ '\\')
    (hcontrol : ¬ c.toNat < 32) :
    readBody (c :: s) = (readBody s).map fun p => (c :: p.1, p.2) := by
  rw [readBody, if_neg hquote, if_neg hescape, if_neg hcontrol]
  cases readBody s <;> rfl

/-- One step of the body of a string. -/
lemma readBody_eq_ok {c : Char} {s body rest : List Char}
    (h : readBody (c :: s) = .ok (body, rest)) :
    (c = '"' ∧ body = [] ∧ rest = s)
      ∨ (∃ e after more, c = '\\' ∧ readEscape s = .ok (e, after)
          ∧ readBody after = .ok (more, rest) ∧ body = e :: more)
      ∨ (∃ more, c ≠ '"' ∧ c ≠ '\\' ∧ ¬ c.toNat < 32 ∧ readBody s = .ok (more, rest)
          ∧ body = c :: more) := by
  by_cases hquote : c = '"'
  · rw [readBody, if_pos hquote] at h
    cases h
    exact .inl ⟨hquote, rfl, rfl⟩
  by_cases hescape : c = '\\'
  · subst hescape
    cases he : readEscape s with
    | error fault =>
      rw [readBody, if_neg hquote, if_pos rfl] at h
      split at h
      · cases h
      · rename_i hok; rw [he] at hok; cases hok
    | ok p =>
      rw [readBody_backslash he, map_eq_ok_iff] at h
      obtain ⟨⟨more, r⟩, hmore, hp⟩ := h
      cases hp
      exact .inr (.inl ⟨p.1, p.2, more, rfl, rfl, hmore, rfl⟩)
  · by_cases hcontrol : c.toNat < 32
    · rw [readBody, if_neg hquote, if_neg hescape, if_pos hcontrol] at h
      cases h
    · rw [readBody_plain hquote hescape hcontrol, map_eq_ok_iff] at h
      obtain ⟨⟨more, r⟩, hmore, hp⟩ := h
      cases hp
      exact .inr (.inr ⟨more, hquote, hescape, hcontrol, hmore, rfl⟩)

lemma local_readBody : Local readBody := by
  intro s
  -- an escape takes up several characters, so the induction is on the length
  induction hn : s.length using Nat.strongRecOn generalizing s with
  | ind n ih =>
    intro body rest t h
    cases s with
    | nil => rw [readBody] at h; cases h
    | cons c s =>
      rcases readBody_eq_ok h with ⟨rfl, rfl, rfl⟩ | ⟨e, after, more, rfl, he, hmore, rfl⟩
        | ⟨more, hquote, hescape, hcontrol, hmore, rfl⟩
      · rw [List.cons_append, readBody, if_pos rfl]
      · have hlt := length_lt_of_readEscape he
        rw [List.cons_append, readBody_backslash (local_readEscape _ _ _ t he),
          ih _ (by simp only [← hn, List.length_cons]; omega) _ rfl _ _ t hmore]
        rfl
      · rw [List.cons_append, readBody_plain hquote hescape hcontrol,
          ih _ (by simp only [← hn, List.length_cons]; omega) _ rfl _ _ t hmore]
        rfl

lemma local_readText : Local readText := by
  intro s x rest t h
  rw [readText, map_eq_ok_iff] at h
  obtain ⟨⟨body, r⟩, hbody, hp⟩ := h
  cases hp
  rw [readText, local_readBody _ _ _ t hbody]
  rfl

/-! ## Arrays -/

section Arrays

variable {α : Type} {element : List Char → Except Fault (α × List Char)}

/-- One turn of the loop over elements: an element, and then the end or a comma and more. -/
lemma moreElements_eq_ok_iff {fuel : Nat} {s rest : List Char} {xs : List α} :
    moreElements element (fuel + 1) s = .ok (xs, rest) ↔
      ∃ x behind, element s = .ok (x, behind)
        ∧ ((skipBlanks behind = ']' :: rest ∧ xs = [x])
          ∨ ∃ r c more ys, skipBlanks behind = ',' :: r ∧ skipBlanks r = c :: more ∧ c ≠ ']'
            ∧ moreElements element fuel (c :: more) = .ok (ys, rest) ∧ xs = x :: ys) := by
  constructor
  · intro h
    rw [moreElements] at h
    split at h
    · cases h
    · rename_i x behind hx
      refine ⟨x, behind, hx, ?_⟩
      split at h
      · cases h
      · rename_i r hclose
        cases h
        exact .inl ⟨hclose, rfl⟩
      · rename_i r hcomma
        split at h
        · cases h
        · cases h
        · rename_i hnil hclose
          rw [map_eq_ok_iff] at h
          obtain ⟨⟨ys, r'⟩, hmore, hp⟩ := h
          cases hp
          cases hr : skipBlanks r with
          | nil => exact absurd hr hnil
          | cons c more =>
            rw [hr] at hmore
            exact .inr ⟨r, c, more, ys, hcomma, hr, fun hc => hclose more (hc ▸ hr), hmore, rfl⟩
      · cases h
  · rintro ⟨x, behind, hx, ⟨hclose, rfl⟩ | ⟨r, c, more, ys, hcomma, hr, hc, hmore, rfl⟩⟩
    · simp only [moreElements, hx, hclose]
    · simp only [moreElements, hx, hcomma, hr]
      split
      · rename_i hnil; cases hnil
      · rename_i hclose; cases hclose; exact absurd rfl hc
      · rw [hmore]
        rfl

/-- What follows an array does not matter to its elements, and neither does fuel left over. -/
lemma moreElements_append (helement : Local element) {fuel fuel' : Nat} (hfuel : fuel ≤ fuel')
    {s rest : List Char} {xs : List α} (h : moreElements element fuel s = .ok (xs, rest))
    (t : List Char) : moreElements element fuel' (s ++ t) = .ok (xs, rest ++ t) := by
  induction fuel generalizing fuel' s xs with
  | zero => rw [moreElements] at h; cases h
  | succ fuel ih =>
    obtain ⟨fuel', rfl⟩ := Nat.exists_eq_add_one.2 (Nat.lt_of_lt_of_le (Nat.succ_pos fuel) hfuel)
    obtain ⟨x, behind, hx, ⟨hclose, rfl⟩ | ⟨r, c, more, ys, hcomma, hr, hc, hmore, rfl⟩⟩ :=
      moreElements_eq_ok_iff.1 h
    · exact moreElements_eq_ok_iff.2
        ⟨x, behind ++ t, helement _ _ _ t hx, .inl ⟨skipBlanks_append hclose t, rfl⟩⟩
    · have hlater := ih (Nat.le_of_succ_le_succ hfuel) hmore
      exact moreElements_eq_ok_iff.2 ⟨x, behind ++ t, helement _ _ _ t hx,
        .inr ⟨r ++ t, c, more ++ t, ys, skipBlanks_append hcomma t, skipBlanks_append hr t, hc,
          hlater, rfl⟩⟩

/-- What an array is behind its bracket: nothing at all, or what the loop reads. -/
lemma readArray_eq_ok_iff {s rest : List Char} {xs : List α} :
    readArray element s = .ok (xs, rest) ↔
      (skipBlanks s = ']' :: rest ∧ xs = [])
        ∨ ∃ c r, skipBlanks s = c :: r ∧ c ≠ ']'
          ∧ moreElements element (c :: r).length (c :: r) = .ok (xs, rest) := by
  constructor
  · intro h
    rw [readArray] at h
    split at h
    · cases h
    · rename_i r hclose
      cases h
      exact .inl ⟨hclose, rfl⟩
    · rename_i hnil hclose
      cases hs : skipBlanks s with
      | nil => exact absurd hs hnil
      | cons c r =>
        rw [hs] at h
        exact .inr ⟨c, r, rfl, fun hc => hclose r (hc ▸ hs), h⟩
  · rintro (⟨hclose, rfl⟩ | ⟨c, r, hs, hc, hmore⟩)
    · rw [readArray, hclose]
      rfl
    · rw [readArray, hs]
      split
      · rename_i hnil; cases hnil
      · rename_i hclose; cases hclose; exact absurd rfl hc
      · exact hmore

lemma local_readArray (helement : Local element) : Local (readArray element) := by
  intro s xs rest t h
  rcases readArray_eq_ok_iff.1 h with ⟨hclose, rfl⟩ | ⟨c, r, hs, hc, hmore⟩
  · exact readArray_eq_ok_iff.2 (.inl ⟨skipBlanks_append hclose t, rfl⟩)
  · have hfuel : (c :: r).length ≤ (c :: (r ++ t)).length := by simp
    have hlonger := moreElements_append helement hfuel hmore t
    exact readArray_eq_ok_iff.2 (.inr ⟨c, r ++ t, skipBlanks_append hs t, hc, hlonger⟩)

end Arrays

/-! ## Objects -/

section Objects

variable {σ : Type} {member : σ → String → List Char → Except Fault (σ × List Char)}

/-- One turn of the loop over members: a name and what the member makes of the text behind it, and
then the end or a comma and more. -/
lemma moreMembers_eq_ok_iff {fuel : Nat} {gathered gathered' : σ} {s rest : List Char} :
    moreMembers member (fuel + 1) gathered s = .ok (gathered', rest) ↔
      ∃ s₀ name s₁ next behind, s = '"' :: s₀ ∧ readText s₀ = .ok (name, s₁)
        ∧ member gathered name s₁ = .ok (next, behind)
        ∧ ((skipBlanks behind = '\x7d' :: rest ∧ gathered' = next)
          ∨ ∃ r, skipBlanks behind = ',' :: r
            ∧ moreMembers member fuel next (skipBlanks r) = .ok (gathered', rest)) := by
  constructor
  · intro h
    cases s with
    | nil => rw [moreMembers] at h; cases h
    | cons c s =>
      rw [moreMembers] at h
      split at h
      · rename_i hquote
        subst hquote
        split at h
        · cases h
        · rename_i name s₁ hname
          split at h
          · cases h
          · rename_i next behind hmember
            refine ⟨s, name, s₁, next, behind, rfl, hname, hmember, ?_⟩
            split at h
            · cases h
            · rename_i r hclose
              cases h
              exact .inl ⟨hclose, rfl⟩
            · rename_i r hcomma
              exact .inr ⟨r, hcomma, h⟩
            · cases h
      · cases h
  · rintro ⟨s₀, name, s₁, next, behind, rfl, hname, hmember, ⟨hclose, rfl⟩ | ⟨r, hcomma, hmore⟩⟩
    · simp only [moreMembers, if_true, hname, hmember, hclose]
    · simp only [moreMembers, if_true, hname, hmember, hcomma, hmore]

/-- What is read of members begins with a quote, so there is something to go on behind a comma. -/
lemma exists_cons_of_moreMembers {fuel : Nat} {gathered gathered' : σ} {s rest : List Char}
    (h : moreMembers member fuel gathered s = .ok (gathered', rest)) : ∃ c r, s = c :: r := by
  cases fuel with
  | zero => rw [moreMembers] at h; cases h
  | succ fuel =>
    obtain ⟨s₀, -, -, -, -, rfl, -⟩ := moreMembers_eq_ok_iff.1 h
    exact ⟨_, _, rfl⟩

/-- What follows an object does not matter to its members, and neither does fuel left over. -/
lemma moreMembers_append (hmember : ∀ gathered name, Local (member gathered name))
    {fuel fuel' : Nat} (hfuel : fuel ≤ fuel') {gathered gathered' : σ} {s rest : List Char}
    (h : moreMembers member fuel gathered s = .ok (gathered', rest)) (t : List Char) :
    moreMembers member fuel' gathered (s ++ t) = .ok (gathered', rest ++ t) := by
  induction fuel generalizing fuel' gathered s with
  | zero => rw [moreMembers] at h; cases h
  | succ fuel ih =>
    obtain ⟨fuel', rfl⟩ := Nat.exists_eq_add_one.2 (Nat.lt_of_lt_of_le (Nat.succ_pos fuel) hfuel)
    obtain ⟨s₀, name, s₁, next, behind, rfl, hname, hnext, hcase⟩ := moreMembers_eq_ok_iff.1 h
    refine moreMembers_eq_ok_iff.2 ⟨s₀ ++ t, name, s₁ ++ t, next, behind ++ t, rfl,
      local_readText _ _ _ t hname, hmember _ _ _ _ _ t hnext, ?_⟩
    rcases hcase with ⟨hclose, rfl⟩ | ⟨r, hcomma, hmore⟩
    · exact .inl ⟨skipBlanks_append hclose t, rfl⟩
    · obtain ⟨c, r', hr⟩ := exists_cons_of_moreMembers hmore
      have hlater := ih (Nat.le_of_succ_le_succ hfuel) hmore
      refine .inr ⟨r ++ t, skipBlanks_append hcomma t, ?_⟩
      rw [skipBlanks_append hr]
      rwa [hr] at hlater

/-- What an object is behind its bracket: nothing at all, or what the loop reads. -/
lemma readObject_eq_ok_iff {start gathered : σ} {s rest : List Char} :
    readObject member start s = .ok (gathered, rest) ↔
      (skipBlanks s = '\x7d' :: rest ∧ gathered = start)
        ∨ ∃ c r, skipBlanks s = c :: r ∧ c ≠ '\x7d'
          ∧ moreMembers member (c :: r).length start (c :: r) = .ok (gathered, rest) := by
  constructor
  · intro h
    rw [readObject] at h
    split at h
    · cases h
    · rename_i r hclose
      cases h
      exact .inl ⟨hclose, rfl⟩
    · rename_i hnil hclose
      cases hs : skipBlanks s with
      | nil => exact absurd hs hnil
      | cons c r =>
        rw [hs] at h
        exact .inr ⟨c, r, rfl, fun hc => hclose r (hc ▸ hs), h⟩
  · rintro (⟨hclose, rfl⟩ | ⟨c, r, hs, hc, hmore⟩)
    · rw [readObject, hclose]
      rfl
    · rw [readObject, hs]
      split
      · rename_i hnil; cases hnil
      · rename_i hclose; cases hclose; exact absurd rfl hc
      · exact hmore

lemma local_readObject (hmember : ∀ gathered name, Local (member gathered name)) (start : σ) :
    Local (readObject member start) := by
  intro s gathered rest t h
  rcases readObject_eq_ok_iff.1 h with ⟨hclose, rfl⟩ | ⟨c, r, hs, hc, hmore⟩
  · exact readObject_eq_ok_iff.2 (.inl ⟨skipBlanks_append hclose t, rfl⟩)
  · have hfuel : (c :: r).length ≤ (c :: (r ++ t)).length := by simp
    have hlonger := moreMembers_append hmember hfuel hmore t
    exact readObject_eq_ok_iff.2 (.inr ⟨c, r ++ t, skipBlanks_append hs t, hc, hlonger⟩)

end Objects

/-! ## Codecs -/

namespace Codec

variable {α : Type}

/-- A value shows where it ends: there is something of it, and what follows it does not matter. -/
structure SelfDelimiting (codec : Codec α) (levels : Nat) : Prop where
  nonempty : ∀ p, codec.read levels [] ≠ .ok p
  goesOn : Local (codec.read levels)

/-- What stands behind a bracket begins with it. -/
lemma behindBracket_eq_ok {bracket : Char} {levels : Nat} {s : List Char} {p : α × List Char}
    {inside : Nat → List Char → Except Fault (α × List Char)}
    (h : behindBracket bracket inside levels s = .ok p) :
    ∃ r fewer, s = bracket :: r ∧ levels = fewer + 1 ∧ inside fewer r = .ok p := by
  rw [behindBracket.eq_def] at h
  split at h
  · cases h
  · rename_i c r
    split at h
    · rename_i hc
      subst hc
      split at h
      · cases h
      · rename_i fewer
        exact ⟨r, fewer, rfl, rfl, h⟩
    · cases h

lemma local_behindBracket {bracket : Char} {levels : Nat}
    {inside : Nat → List Char → Except Fault (α × List Char)}
    (h : ∀ fewer, Local (inside fewer)) : Local (behindBracket bracket inside levels) := by
  intro s x rest t hread
  obtain ⟨r, fewer, rfl, rfl, hinside⟩ := behindBracket_eq_ok hread
  have hgoesOn := h fewer r x rest t hinside
  simp only [List.cons_append, behindBracket, if_true, hgoesOn]

theorem selfDelimiting_text (levels : Nat) : text.SelfDelimiting levels where
  nonempty p h := by cases h
  goesOn s x rest t h := by
    simp only [text] at h
    split at h
    · rename_i r
      exact local_readText r x rest t h
    · cases h

theorem selfDelimiting_list {element : Codec α} (h : ∀ levels, element.SelfDelimiting levels)
    (levels : Nat) : (list element).SelfDelimiting levels where
  nonempty p hp := by cases hp
  goesOn := local_behindBracket fun fewer => local_readArray (h fewer).goesOn

/-- What a member is behind its name: a colon and a value, with blanks before both. -/
lemma member_eq_ok_iff {σ : Type} {value : Codec α} {levels : Nat} {put : σ → String → α → σ}
    {gathered next : σ} {name : String} {behind rest : List Char} :
    value.member put levels gathered name behind = .ok (next, rest) ↔
      ∃ r x, skipBlanks behind = ':' :: r ∧ value.read levels (skipBlanks r) = .ok (x, rest)
        ∧ next = put gathered name x := by
  rw [member, skipColon]
  constructor
  · intro h
    split at h
    · cases h
    · rename_i s hs
      split at hs
      · cases hs
      · rename_i r hcolon
        cases hs
        rw [map_eq_ok_iff] at h
        obtain ⟨⟨x, rest'⟩, hvalue, heq⟩ := h
        cases heq
        exact ⟨r, x, hcolon, hvalue, rfl⟩
      · cases hs
  · rintro ⟨r, x, hcolon, hvalue, rfl⟩
    simp only [hcolon, hvalue]
    rfl

lemma local_member {σ : Type} {value : Codec α} {levels : Nat} (h : value.SelfDelimiting levels)
    (put : σ → String → α → σ) (gathered : σ) (name : String) :
    Local (value.member put levels gathered name) := by
  intro behind next rest t hread
  obtain ⟨r, x, hcolon, hvalue, rfl⟩ := member_eq_ok_iff.1 hread
  refine member_eq_ok_iff.2 ⟨r ++ t, x, skipBlanks_append hcolon t, ?_, rfl⟩
  -- the value is not empty, so no blanks behind it can be taken for blanks before it
  cases hs : skipBlanks r with
  | nil => rw [hs] at hvalue; exact absurd hvalue (h.nonempty _)
  | cons c s =>
    rw [hs] at hvalue
    rw [skipBlanks_append hs]
    exact h.goesOn _ _ _ t hvalue

theorem selfDelimiting_ordered {value : Codec α} (h : ∀ levels, value.SelfDelimiting levels)
    (levels : Nat) : (ordered value).SelfDelimiting levels where
  nonempty p hp := by cases hp
  goesOn := local_behindBracket fun fewer =>
    local_readObject (local_member (h fewer) OrderedMap.insert) OrderedMap.empty

end Codec

end SealedChunk.Json
