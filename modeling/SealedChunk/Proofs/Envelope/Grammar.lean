import SealedChunk.Envelope.Format
import SealedChunk.Proofs.Text.FirstMatch

/-!
# What an envelope is

The reader of envelopes is three searches, each from where the one before ended.  What it accepts
can be said without it: `Variant.Spells` is the grammar, a key id and a body between the three
tokens, with the proviso that neither token behind a part stands earlier than there.

* `Variant.Spells` — the grammar.
* **`decode_eq_ok_iff`** — reading accepts the texts of the grammar whose key id is not empty.
* **`classify_eq_some_iff`** — recognising accepts the texts of the grammar that are not empty.
-/

namespace SealedChunk.Envelope

open Text

/-- The text is a key id and a body between the variant's tokens, and one who takes the first token
each time finds just these parts. -/
structure Variant.Spells (v : Variant) (text keyId body : List Char) : Prop where
  text_eq : text = v.keyTag.toList
    ++ (keyId ++ v.bodyStart.toList ++ (body ++ v.bodyEnd.toList))
  first_start : ∀ i < keyId.length, ¬ OccursAt v.bodyStart.toList (keyId ++ v.bodyStart.toList) i
  first_end : ∀ i < body.length, ¬ OccursAt v.bodyEnd.toList (body ++ v.bodyEnd.toList) i

variable {v : Variant} {text keyId body : List Char}

/-- The grammar as the three searches of a reader. -/
lemma spells_iff : v.Spells text keyId body ↔
    ∃ behindTag behindStart, stripStart v.keyTag.toList text = some behindTag
      ∧ cut v.bodyStart.toList behindTag = some (keyId, behindStart)
      ∧ cut v.bodyEnd.toList behindStart = some (body, []) := by
  constructor
  · rintro ⟨rfl, hstart, hend⟩
    refine ⟨_, _, stripStart_append _ _, cut_eq_some_iff_front.2 ⟨rfl, hstart⟩,
      cut_eq_some_iff_front.2 ⟨?_, hend⟩⟩
    rw [List.append_nil]
  · rintro ⟨behindTag, behindStart, htag, hstart, hend⟩
    obtain ⟨rfl, hfirst⟩ := cut_eq_some_iff_front.1 hstart
    obtain ⟨rfl, hlast⟩ := cut_eq_some_iff_front.1 hend
    rw [List.append_nil] at htag
    exact ⟨stripStart_eq_some.1 htag, hfirst, hlast⟩

/-! ## Reading -/

/-- **What is read.**  Exactly the texts of the grammar whose key id is not empty, with the padding
of their body put back. -/
theorem decode_eq_ok_iff {envelope : String} {parts : Parts} :
    decode v envelope = .ok parts ↔
      ∃ keyId body, v.Spells envelope.toList keyId body ∧ keyId ≠ []
        ∧ parts = ⟨String.ofList keyId, String.ofList (restorePadding body)⟩ := by
  simp only [spells_iff]
  constructor
  · intro h
    rw [decode] at h
    split at h
    · cases h
    · rename_i behindTag htag
      split at h
      · cases h
      · rename_i keyId behindStart hstart
        split at h
        · cases h
        · rename_i body behindEnd hend
          split at h
          · cases h
          · rename_i hrest
            obtain rfl := not_not.1 hrest
            split at h
            · cases h
            · rename_i hkeyId
              cases h
              exact ⟨keyId, body, ⟨behindTag, behindStart, htag, hstart, hend⟩, hkeyId, rfl⟩
  · rintro ⟨keyId, body, ⟨behindTag, behindStart, htag, hstart, hend⟩, hkeyId, rfl⟩
    simp [decode, htag, hstart, hend, hkeyId]

/-! ## Recognising -/

/-- A text of the grammar passes the tests that come before the searches. -/
lemma Variant.Spells.shape (h : v.Spells text keyId body) :
    v.delimiterLength ≤ utf8Length text ∧ startsWith v.keyTag.toList text = true
      ∧ endsWith v.bodyEnd.toList text = true := by
  obtain ⟨rfl, -, -⟩ := h
  refine ⟨?_, startsWith_iff.2 (List.prefix_append _ _), endsWith_iff.2 ?_⟩
  · simp only [Variant.delimiterLength, utf8Length_append]
    omega
  · exact ⟨v.keyTag.toList ++ (keyId ++ v.bodyStart.toList ++ body), by simp⟩

/-- **What is recognised.**  Exactly the texts of the grammar that are not empty. -/
theorem classify_eq_some_iff {data : String} {info : ChunkInfo} :
    classify v data = some info ↔
      ∃ keyId body, v.Spells data.toList keyId body ∧ data.toList ≠ []
        ∧ info = { variant := v, keyId := String.ofList keyId,
                   offset := utf8Length v.keyTag.toList + utf8Length keyId
                     + utf8Length v.bodyStart.toList,
                   length := utf8Length body } := by
  constructor
  · intro h
    simp only [classify] at h
    split at h
    · cases h
    · rename_i hlong
      split at h
      · cases h
      · simp only [Option.bind_eq_bind, Option.bind_eq_some_iff, Prod.exists,
          Option.ite_none_right_eq_some, List.isEmpty_iff, Option.some.injEq] at h
        obtain ⟨behindTag, htag, keyId, behindStart, hstart, body, behindEnd, hend, rfl, rfl⟩ := h
        refine ⟨keyId, body, spells_iff.2 ⟨behindTag, behindStart, htag, hstart, hend⟩, ?_, rfl⟩
        rintro hnil
        simp [hnil] at hlong
  · rintro ⟨keyId, body, hspells, hne, rfl⟩
    obtain ⟨hlength, htag, hend⟩ := hspells.shape
    obtain ⟨behindTag, behindStart, h₁, h₂, h₃⟩ := spells_iff.1 hspells
    have hlong : ¬ (data.toList.isEmpty || utf8Length data.toList < v.delimiterLength) = true := by
      simpa [List.isEmpty_iff, hne] using hlength
    simp only [classify, if_neg hlong, htag, hend]
    simp [h₁, h₂, h₃]

end SealedChunk.Envelope
