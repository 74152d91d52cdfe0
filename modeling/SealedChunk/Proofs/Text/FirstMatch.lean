import Mathlib.Data.List.Infix
import SealedChunk.Text.Cut

/-!
# The first occurrence of a token

A reader that cuts at tokens sees an occurrence only as far as `stripStart` finds one.  Here that is
turned into the usual words: `cut` answers with the **first** place at which the token stands, and
with none exactly when the token stands nowhere.

Whoever writes a text and wants a reader to find a token where it was put has to rule out every
earlier occurrence, those included that begin before the token and end inside it.  If the text in
front of the token is of one kind of character, and the token holds a character of another kind,
there are none: `not_occursAt_of_foreign`.

* `OccursAt` — a token stands at a place of a text.
* **`cut_eq_some_iff`**, `cut_eq_none_iff` — what a cut finds.
* **`not_occursAt_of_foreign`** — no occurrence straddles the end of foreign text.
-/

namespace SealedChunk.Text

/-- The token stands at the place `i` of the text, counted in characters. -/
def OccursAt (token text : List Char) (i : Nat) : Prop := token <+: text.drop i

instance (token text : List Char) (i : Nat) : Decidable (OccursAt token text i) :=
  inferInstanceAs (Decidable (token <+: text.drop i))

/-! ## Taking a token off -/

lemma stripStart_append (token rest : List Char) : stripStart token (token ++ rest) = some rest :=
  stripStart_eq_some.2 rfl

lemma stripStart_eq_none {token text : List Char} :
    stripStart token text = none ↔ ¬ token <+: text := by
  constructor
  · rintro h ⟨rest, rfl⟩
    rw [stripStart_append] at h
    exact absurd h (by simp)
  · intro h
    cases hs : stripStart token text with
    | none => rfl
    | some rest => exact absurd ⟨rest, (stripStart_eq_some.1 hs).symm⟩ h

lemma startsWith_iff {token text : List Char} : startsWith token text = true ↔ token <+: text := by
  rw [startsWith, Option.isSome_iff_ne_none, Ne, stripStart_eq_none, not_not]

lemma endsWith_iff {token text : List Char} : endsWith token text = true ↔ token <:+ text := by
  rw [endsWith, startsWith_iff, List.reverse_prefix]

/-! ## Cutting at a token -/

/-- In front of a cut the token stands nowhere. -/
lemma not_occursAt_of_cut {token text before after : List Char}
    (h : cut token text = some (before, after)) {i : Nat} (hi : i < before.length) :
    ¬ OccursAt token text i := by
  induction text generalizing before i with
  | nil =>
    simp only [cut, Option.map_eq_some_iff, Prod.mk.injEq] at h
    obtain ⟨rest, -, rfl, -⟩ := h
    exact absurd hi (by simp)
  | cons c text ih =>
    rcases cut_cons_eq_some h with ⟨rfl, -⟩ | ⟨hfront, front, rfl, hcut⟩
    · exact absurd hi (by simp)
    · cases i with
      | zero => exact stripStart_eq_none.1 hfront
      | succ i => exact ih hcut (by simpa using hi)

/-- A token that stands nowhere earlier is found where it was put. -/
lemma cut_of_first {token before after : List Char}
    (h : ∀ i < before.length, ¬ OccursAt token (before ++ token ++ after) i) :
    cut token (before ++ token ++ after) = some (before, after) := by
  induction before with
  | nil => exact cut_of_stripStart (stripStart_append token after)
  | cons b before ih =>
    have hfront : stripStart token (b :: (before ++ token ++ after)) = none :=
      stripStart_eq_none.2 (h 0 (by simp))
    have hcut := ih fun i hi => h (i + 1) (by simpa using hi)
    rw [List.cons_append, List.cons_append, cut_cons_of_stripStart_none hfront, hcut,
      Option.map_some]

/-- A cut is at the first place at which the token stands. -/
theorem cut_eq_some_iff {token text before after : List Char} :
    cut token text = some (before, after) ↔
      text = before ++ token ++ after ∧ ∀ i < before.length, ¬ OccursAt token text i := by
  constructor
  · exact fun h => ⟨append_of_cut h, fun i hi => not_occursAt_of_cut h hi⟩
  · rintro ⟨rfl, hfirst⟩
    exact cut_of_first hfirst

/-- There is no cut exactly where the token stands nowhere. -/
theorem cut_eq_none_iff {token text : List Char} : cut token text = none ↔ ¬ token <:+: text := by
  induction text with
  | nil =>
    rw [cut, Option.map_eq_none_iff, stripStart_eq_none, List.prefix_nil, List.infix_nil]
  | cons c text ih =>
    rw [List.infix_cons_iff, not_or]
    cases hs : stripStart token (c :: text) with
    | some rest =>
      have hfront : token <+: c :: text := ⟨rest, (stripStart_eq_some.1 hs).symm⟩
      simp [cut_of_stripStart hs, hfront]
    | none =>
      rw [cut_cons_of_stripStart_none hs, Option.map_eq_none_iff, ih]
      simp only [stripStart_eq_none.1 hs, not_false_eq_true, true_and]

lemma contains_iff {token text : List Char} : contains token text = true ↔ token <:+: text := by
  rw [contains, Option.isSome_iff_ne_none, Ne, cut_eq_none_iff, not_not]

/-! ## Occurrences in two adjacent texts -/

/-- Whether a token stands at a place depends on no character behind its end. -/
lemma occursAt_append {token text : List Char} {i : Nat} (h : i + token.length ≤ text.length)
    (rest : List Char) : OccursAt token (text ++ rest) i ↔ OccursAt token text i := by
  have hi : i ≤ text.length := by omega
  rw [OccursAt, OccursAt, List.drop_append_of_le_length hi]
  constructor
  · intro hp
    refine List.prefix_of_prefix_length_le hp (List.prefix_append _ _) ?_
    rw [List.length_drop]
    omega
  · exact fun hp => hp.trans (List.prefix_append _ _)

/-- The characters of a token are found behind the place at which it stands. -/
lemma OccursAt.getElem? {token text : List Char} {i : Nat} (h : OccursAt token text i) {j : Nat}
    (hj : j < token.length) : text[i + j]? = some token[j] := by
  obtain ⟨rest, hrest⟩ := h
  have hdrop : (text.drop i)[j]? = some token[j] := by
    rw [← hrest, List.getElem?_append_left hj, List.getElem?_eq_getElem hj]
  rwa [List.getElem?_drop] at hdrop

/-- Where a cut is depends on nothing behind the token. -/
theorem cut_eq_some_iff_front {token text before after : List Char} :
    cut token text = some (before, after) ↔
      text = before ++ token ++ after
        ∧ ∀ i < before.length, ¬ OccursAt token (before ++ token) i := by
  rw [cut_eq_some_iff]
  refine and_congr_right fun htext => forall₂_congr fun i hi => ?_
  rw [htext, occursAt_append (by rw [List.length_append]; omega)]

/-- **No occurrence straddles.**  A token that holds a foreign character stands nowhere earlier than
where it was put behind home characters.  Of all foreign characters of the text the first lies in
the token as it was put, and an earlier occurrence would have its own first one even before that. -/
theorem not_occursAt_of_foreign {home : Char → Bool} {body token : List Char}
    (hbody : ∀ c ∈ body, home c = true) (hforeign : ∃ c ∈ token, home c = false) {i : Nat}
    (hi : i < body.length) : ¬ OccursAt token (body ++ token) i := by
  intro hocc
  obtain ⟨j, hlt, hfirst, hhome⟩ : ∃ j, ∃ hlt : j < token.length, home token[j] = false
      ∧ ∀ k (hk : k < j), home token[k] = true := by
    have hlt : token.findIdx (fun c => !home c) < token.length := by
      rw [List.findIdx_lt_length]
      simpa using hforeign
    refine ⟨_, hlt, ?_, fun k hk => ?_⟩
    · simpa using List.findIdx_getElem (w := hlt)
    · simpa using List.not_of_lt_findIdx hk
  have hat := hocc.getElem? hlt
  by_cases hin : i + j < body.length
  · -- the foreign character would stand among home characters
    rw [List.getElem?_append_left hin, List.getElem?_eq_getElem hin, Option.some.injEq] at hat
    have := hbody body[i + j] (List.getElem_mem hin)
    rw [hat, hfirst] at this
    exact absurd this (by simp)
  · -- or in the token, but before the first foreign character there
    have hearlier : i + j - body.length < j := by omega
    have := hhome _ hearlier
    rw [List.getElem?_append_right (by omega), List.getElem?_eq_getElem (by omega),
      Option.some.injEq] at hat
    rw [hat, hfirst] at this
    exact absurd this (by simp)

end SealedChunk.Text
