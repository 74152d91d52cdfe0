import SealedChunk.Proofs.Envelope.Reading

/-!
# Recognising agrees with reading

Recognising asks other questions than reading, and in another order: is the text long enough for the
tokens, does it begin with the first and end with the last, and only then where the tokens stand.
In a short text the first token and the last may pass those tests with bytes that they share.  It
makes no difference, since the searches decide: what passes them has room for every token.

So both come down to the grammar.  Reading then asks for a key id, which recognising does not, and
that is all that sets them apart.  Where both have an answer, the places that recognising reports
are those at which the parts lie that reading takes out.

* `Variant.Spells.unique` — a text of the grammar has its parts in one way.
* `exists_spells_iff` — the grammar as reading sees it.
* **`classify_agrees`** — what is recognised, and where its parts lie.
-/

namespace SealedChunk.Envelope

open Text

variable {v : Variant} {text : List Char} {data : String}

/-- A text of the grammar has its parts in one way. -/
lemma Variant.Spells.unique {keyId body keyId' body' : List Char} (h : v.Spells text keyId body)
    (h' : v.Spells text keyId' body') : keyId = keyId' ∧ body = body' := by
  obtain ⟨behindTag, behindStart, htag, hstart, hend⟩ := spells_iff.1 h
  obtain ⟨behindTag', behindStart', htag', hstart', hend'⟩ := spells_iff.1 h'
  obtain rfl := Option.some.inj (htag.symm.trans htag')
  obtain ⟨rfl, rfl⟩ := Prod.mk.inj (Option.some.inj (hstart.symm.trans hstart'))
  exact ⟨rfl, (Prod.mk.inj (Option.some.inj (hend.symm.trans hend'))).1⟩

/-- What is read lacks nothing of an envelope, except perhaps a key id. -/
lemma exists_spells_iff : (∃ keyId body, v.Spells data.toList keyId body) ↔
    (∃ parts, decode v data = .ok parts) ∨ decode v data = .error .emptyKeyId := by
  constructor
  · rintro ⟨keyId, body, hspells⟩
    by_cases hkeyId : keyId = []
    · obtain ⟨behindTag, behindStart, htag, hstart, hend⟩ := spells_iff.1 hspells
      exact .inr (by simp [decode, htag, hstart, hend, hkeyId])
    · exact .inl ⟨_, decode_eq_ok_iff.2 ⟨keyId, body, hspells, hkeyId, rfl⟩⟩
  · rintro (⟨parts, h⟩ | h)
    · obtain ⟨keyId, body, hspells, -⟩ := decode_eq_ok_iff.1 h
      exact ⟨keyId, body, hspells⟩
    · cases decode_eq_error_iff.1 h with
      | keyId htag hfirst hlast hsize =>
        -- the place of `bodyStart` does not matter here, only that nothing is left behind the end
        obtain ⟨behindTag, rfl⟩ := standsAt_zero_iff.1 htag
        obtain ⟨keyId, behindStart, body, behindEnd, hstart, hend, -, hwhole⟩ :=
          exists_cut_of_firstAt hfirst hlast
        obtain rfl : behindEnd = "" := by
          rw [← String.utf8ByteSize_eq_zero_iff]
          omega
        exact ⟨_, _, spells_iff.2 ⟨_, _, stripStart_keyTag v behindTag, hstart, hend⟩⟩

lemma Variant.Spells.ne_nil {keyId body : List Char} (h : v.Spells text keyId body)
    (hv : ∃ token ∈ v.delimiters, token ≠ "") : text ≠ [] := by
  rintro rfl
  obtain ⟨token, htoken, hne⟩ := hv
  have hnil := h.text_eq.symm
  simp only [List.append_eq_nil_iff, String.toList_eq_nil_iff] at hnil
  simp only [Variant.delimiters, List.mem_cons, List.not_mem_nil, or_false] at htoken
  rcases htoken with rfl | rfl | rfl <;> simp_all

/-- The places of the parts, between characters and one behind the other. -/
lemma slice?_of_spells {keyId body : String} (h : v.Spells data.toList keyId.toList body.toList) :
    let offset := v.keyTag.utf8ByteSize + keyId.utf8ByteSize + v.bodyStart.utf8ByteSize
    slice? data offset (offset + body.utf8ByteSize) = some body
      ∧ slice? data (offset + body.utf8ByteSize) data.utf8ByteSize = some v.bodyEnd := by
  obtain ⟨hdata, -, -⟩ := spells_iff_standsAt.1 h
  have hfront : (v.keyTag ++ keyId ++ v.bodyStart).utf8ByteSize
      = v.keyTag.utf8ByteSize + keyId.utf8ByteSize + v.bodyStart.utf8ByteSize := by
    rw [String.utf8ByteSize_append, String.utf8ByteSize_append]
  have hdata' : data = v.keyTag ++ keyId ++ v.bodyStart ++ body ++ v.bodyEnd ++ "" := by
    rw [hdata, String.append_empty]
  have hbody := slice?_eq_some hdata
  have hend := slice?_eq_some hdata'
  rw [hfront] at hbody
  rw [← String.utf8ByteSize_append, ← hdata, String.utf8ByteSize_append, hfront] at hend
  exact ⟨hbody, hend⟩

/-- **Recognising agrees with reading.**  If the tokens of the variant are not all empty, a text is
recognised exactly if it is read or lacks nothing but a key id.  If it is read, it is recognised
with the key id that is read.  The place that is reported for the ciphertext is one in the text and
between characters; the last token lies directly behind it and closes the text; and what lies there
is the ciphertext that is read, once its padding is put back. -/
theorem classify_agrees (hv : ∃ token ∈ v.delimiters, token ≠ "") (data : String) :
    ((∃ info, classify v data = some info) ↔
        (∃ parts, decode v data = .ok parts) ∨ decode v data = .error .emptyKeyId)
      ∧ ∀ info parts, classify v data = some info → decode v data = .ok parts →
          info.keyId = parts.keyId ∧ ∃ body,
            slice? data info.offset (info.offset + info.length) = some body
              ∧ slice? data (info.offset + info.length) data.utf8ByteSize = some v.bodyEnd
              ∧ parts.base64 = String.ofList (restorePadding body.toList) := by
  constructor
  · rw [← exists_spells_iff]
    constructor
    · rintro ⟨info, h⟩
      obtain ⟨keyId, body, hspells, -⟩ := classify_eq_some_iff.1 h
      exact ⟨keyId, body, hspells⟩
    · rintro ⟨keyId, body, hspells⟩
      exact ⟨_, classify_eq_some_iff.2 ⟨keyId, body, hspells, hspells.ne_nil hv, rfl⟩⟩
  · intro info parts hinfo hparts
    obtain ⟨keyIdChars, bodyChars, hspells, -, rfl⟩ := classify_eq_some_iff.1 hinfo
    obtain ⟨_, _, hspells', -, rfl⟩ := decode_eq_ok_iff.1 hparts
    obtain ⟨rfl, rfl⟩ := hspells.unique hspells'
    obtain ⟨keyId, rfl⟩ := exists_toList keyIdChars
    obtain ⟨body, rfl⟩ := exists_toList bodyChars
    refine ⟨rfl, body, ?_⟩
    obtain ⟨hbody, hend⟩ := slice?_of_spells hspells
    simp only [utf8Length_toList]
    exact ⟨hbody, hend, trivial⟩

/-- With tokens of two bytes, one of which begins and ends a text that is too short. -/
theorem classify_agrees_short :
    let v : Variant := ⟨"v", "é", ">", "é", .nothing⟩
    (∃ token ∈ v.delimiters, token ≠ "") ∧ (∃ info, classify v "ék>QQé" = some info)
      ∧ ¬ ∃ info, classify v "é" = some info := by
  intro v
  have hv : ∃ token ∈ v.delimiters, token ≠ "" := ⟨"é", by decide, by decide⟩
  have hread : decode v "ék>QQé" = .ok ⟨"k", "QQ=="⟩ := by decide
  have hrefused : decode v "é" = .error .missingBodyStart := by decide
  refine ⟨hv, (classify_agrees hv "ék>QQé").1.2 (.inl ⟨_, hread⟩), ?_⟩
  rw [(classify_agrees hv "é").1, hrefused]
  simp

end SealedChunk.Envelope
