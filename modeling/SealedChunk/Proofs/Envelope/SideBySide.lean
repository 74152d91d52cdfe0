import SealedChunk.Proofs.Envelope.Grammar

/-!
# Variants side by side

Several variants can be tried on one text because no text begins with the key tags of two of them:
if it did, one tag would begin with the other, and that is what `Variant.distinguishable` rules out.
The other tokens play no part.

* `validateAlongside_eq_ok_iff` — what a check among others establishes.
* **`classify_eq_none`** — a text of one variant is not recognised under a distinguishable one.
* **`classify_eq_none_of_validateAlongside`** — nor under one that it was checked alongside.
* **`classifyAny_eq_some`**, **`classifyAny_congr`** — so the order in which variants are tried does
  not matter.
-/

namespace SealedChunk.Envelope

open Text

variable {v w : Variant} {text keyId body : List Char}

/-- The check among others, taken apart. -/
lemma validateAlongside_eq_ok_iff {others : List Variant} :
    v.validateAlongside others = .ok () ↔ v.validate = .ok ()
      ∧ ∀ other ∈ others, other ≠ v → other.id ≠ v.id ∧ v.distinguishable other = true := by
  rw [Variant.validateAlongside]
  cases hv : v.validate with
  | error e => simp
  | ok _ =>
    cases hfind : others.find? fun other =>
        other ≠ v && (other.id == v.id || !v.distinguishable other) with
    | none => simpa using hfind
    | some other =>
      have hmem := List.mem_of_find?_eq_some hfind
      have hclash := List.find?_some hfind
      simp only [ne_eq, decide_not, Bool.and_eq_true, Bool.not_eq_eq_eq_not, Bool.not_true,
        decide_eq_false_iff_not, Bool.or_eq_true, beq_iff_eq] at hclash
      refine iff_of_false (by simp) ?_
      rintro ⟨-, hall⟩
      obtain ⟨hid, hapart⟩ := hall other hmem hclash.1
      rcases hclash.2 with hsame | htag
      · exact hid hsame
      · rw [hapart] at htag
        exact absurd htag (by simp)

lemma distinguishable_comm (v w : Variant) : v.distinguishable w = w.distinguishable v := by
  rw [Variant.distinguishable, Variant.distinguishable, Bool.or_comm]

/-- No text begins with the key tags of two distinguishable variants. -/
lemma not_distinguishable_of_keyTags (hv : v.keyTag.toList <+: text)
    (hw : w.keyTag.toList <+: text) : v.distinguishable w = false := by
  have h := List.prefix_or_prefix_of_prefix hv hw
  rw [← startsWith_iff, ← startsWith_iff, or_comm, ← Bool.or_eq_true] at h
  rw [Variant.distinguishable, h, Bool.not_true]

/-- **A text of one variant is not recognised under a distinguishable one.** -/
theorem classify_eq_none {data : String} (hdata : v.Spells data.toList keyId body)
    (hapart : v.distinguishable w = true) : classify w data = none := by
  rw [Option.eq_none_iff_forall_ne_some]
  intro info hinfo
  obtain ⟨keyId', body', hspells, -, -⟩ := classify_eq_some_iff.1 hinfo
  have hv : v.keyTag.toList <+: data.toList := ⟨_, hdata.text_eq.symm⟩
  have hw : w.keyTag.toList <+: data.toList := ⟨_, hspells.text_eq.symm⟩
  rw [not_distinguishable_of_keyTags hv hw] at hapart
  exact absurd hapart (by simp)

/-- **A text that is recognised under a variant is recognised under none that it was checked
alongside.** -/
theorem classify_eq_none_of_validateAlongside {others : List Variant} {data : String}
    {info : ChunkInfo} (h : v.validateAlongside others = .ok ())
    (hinfo : classify v data = some info) (hw : w ∈ others) (hne : w ≠ v) :
    classify w data = none := by
  obtain ⟨keyId, body, hspells, -, -⟩ := classify_eq_some_iff.1 hinfo
  obtain ⟨-, hothers⟩ := validateAlongside_eq_ok_iff.1 h
  exact classify_eq_none hspells (hothers w hw hne).2

/-- **The order in which variants are tried does not matter** as long as only one recognises the
text. -/
theorem classifyAny_eq_some {variants : List Variant} {data : String} {info : ChunkInfo}
    (hv : v ∈ variants) (hinfo : classify v data = some info)
    (hothers : ∀ w ∈ variants, w ≠ v → classify w data = none) :
    classifyAny variants data = some info := by
  rw [classifyAny]
  induction variants with
  | nil => exact absurd hv (by simp)
  | cons w rest ih =>
    rw [List.findSome?_cons]
    by_cases h : w = v
    · rw [h, hinfo]
    · rw [hothers w (by simp) h]
      exact ih (List.mem_of_ne_of_mem (Ne.symm h) hv) fun u hu => hothers u (by simp [hu])

lemma classify_of_classifyAny {variants : List Variant} {data : String} {info : ChunkInfo}
    (h : classifyAny variants data = some info) :
    info.variant ∈ variants ∧ classify info.variant data = some info := by
  obtain ⟨v, hv, hinfo⟩ := List.exists_of_findSome?_eq_some h
  obtain ⟨_, _, _, _, rfl⟩ := classify_eq_some_iff.1 hinfo
  exact ⟨hv, hinfo⟩

/-- Lists of the same variants come to the same answer. -/
theorem classifyAny_congr {variants others : List Variant} {data : String}
    (hsame : ∀ w, w ∈ others ↔ w ∈ variants)
    (hone : ∀ v ∈ variants, ∀ w ∈ variants, w ≠ v → ∀ info, classify v data = some info →
      classify w data = none) : classifyAny others data = classifyAny variants data := by
  cases h : classifyAny variants data with
  | none =>
    rw [classifyAny, List.findSome?_eq_none_iff] at h ⊢
    exact fun w hw => h w ((hsame w).1 hw)
  | some info =>
    obtain ⟨hv, hinfo⟩ := classify_of_classifyAny h
    exact classifyAny_eq_some ((hsame _).2 hv) hinfo fun w hw hne =>
      hone _ hv w ((hsame w).1 hw) hne info hinfo

/-- The built-in variants can be told apart. -/
lemma builtIn_distinguishable :
    ∀ v ∈ Variant.builtIn, ∀ w ∈ Variant.builtIn, w ≠ v → v.distinguishable w = true := by
  decide

end SealedChunk.Envelope
