import SealedChunk.Proofs.Envelope.Grammar
import SealedChunk.Proofs.Envelope.Padding

/-!
# Envelopes are read back

Writing refuses a key id before it looks at the ciphertext, so whether an envelope can be written is
a matter of the key id and the tokens alone: `Variant.Admits`.  What was written is then a text of
the grammar.  Behind the key id that is what `Admits` asks for.  Behind the ciphertext it is what
`Variant.validate` is for: a token that holds a character foreign to Base64 cannot begin inside a
ciphertext and end inside itself.

* `Variant.Admits` — the key ids that fit a variant.
* **`encode_eq_ok_iff`** — an envelope is written exactly for these.
* `spells_behindKeyTag` — what was written is a text of the grammar.
* **`encode_round_trip`** — so it is read, and recognised, as what it was written from.
-/

namespace SealedChunk.Envelope

open Text

/-- The key ids that a reader finds again: not empty, without any of the tokens, and with no earlier
`bodyStart` where their end meets the token behind them. -/
structure Variant.Admits (v : Variant) (keyId : List Char) : Prop where
  nonempty : keyId ≠ []
  free : ∀ token ∈ v.delimiters, ¬ token.toList <:+: keyId
  first : ∀ i < keyId.length, ¬ OccursAt v.bodyStart.toList (keyId ++ v.bodyStart.toList) i

variable {v : Variant}

/-! ## Tokens of a fit variant -/

lemma foreign_of_checkDelimiters {id : String} {earlier tokens : List String}
    (h : Variant.checkDelimiters id earlier tokens = .ok ()) :
    ∀ token ∈ tokens, ∃ c ∈ token.toList, Base64.isBase64Char c = false := by
  induction tokens generalizing earlier with
  | nil => simp
  | cons token rest ih =>
    rw [Variant.checkDelimiters] at h
    split_ifs at h with hempty hdouble hbase64
    rw [List.forall_mem_cons]
    exact ⟨by simpa using hbase64, ih h⟩

/-- Every token of a fit variant holds a character that is foreign to Base64. -/
lemma foreign_of_validate (hv : v.validate = .ok ()) {token : String} (h : token ∈ v.delimiters) :
    ∃ c ∈ token.toList, Base64.isBase64Char c = false :=
  foreign_of_checkDelimiters hv token h

/-! ## Writing -/

lemma find?_contains_eq_none {tokens : List String} {text : List Char} :
    (tokens.find? fun token => contains token.toList text) = none
      ↔ ∀ token ∈ tokens, ¬ token.toList <:+: text := by
  simp only [List.find?_eq_none, contains_iff]

/-- **What is written.**  An envelope is written exactly for the key ids that fit, whatever the
ciphertext. -/
theorem encode_eq_ok_iff {keyId base64 envelope : String} :
    encode v keyId base64 = .ok envelope ↔ v.Admits keyId.toList
      ∧ envelope = v.keyTag ++ String.ofList (behindKeyTag v keyId.toList base64.toList) := by
  have hbehind : behindKeyTag v keyId.toList base64.toList = keyId.toList ++ v.bodyStart.toList
      ++ (stripPadding base64.toList ++ v.bodyEnd.toList) := by
    rw [behindKeyTag, List.append_assoc]
  have hempty : keyId.isEmpty = true ↔ keyId.toList = [] := by simp
  constructor
  · intro h
    rw [encode] at h
    split at h
    · cases h
    · rename_i hne
      split at h
      · cases h
      · rename_i hfree
        dsimp only at h
        split at h
        · rename_i before after hcut
          split at h
          · rename_i hbefore
            subst hbefore
            cases h
            exact ⟨⟨hempty.not.1 hne, find?_contains_eq_none.1 hfree,
              (cut_eq_some_iff_front.1 hcut).2⟩, rfl⟩
          · cases h
        · cases h
  · rintro ⟨⟨hne, hfree, hfirst⟩, rfl⟩
    have hcut : cut v.bodyStart.toList (behindKeyTag v keyId.toList base64.toList)
        = some (keyId.toList, stripPadding base64.toList ++ v.bodyEnd.toList) :=
      cut_eq_some_iff_front.2 ⟨hbehind, hfirst⟩
    rw [encode, if_neg (hempty.not.2 hne), find?_contains_eq_none.2 hfree]
    simp only [hcut, if_true]

/-- What was written is a text of the grammar.  That the first `bodyEnd` is the last thing written
needs a fit variant: all of the body is Base64, and the token is not. -/
lemma spells_behindKeyTag (hv : v.validate = .ok ()) {keyId : List Char} (hkeyId : v.Admits keyId)
    (bytes : Bytes) :
    v.Spells (v.keyTag.toList ++ behindKeyTag v keyId (Base64.encodeChars bytes)) keyId
      (stripPadding (Base64.encodeChars bytes)) where
  text_eq := by rw [behindKeyTag, List.append_assoc]
  first_start := hkeyId.first
  first_end := fun _ hi => not_occursAt_of_foreign
    (fun _ hc => Base64.isBase64Char_of_mem_encodeChars (mem_of_mem_stripPadding hc))
    (foreign_of_validate hv (by simp [Variant.delimiters])) hi

/-- The envelope that was written, as a text of the grammar. -/
lemma spells_of_encode (hv : v.validate = .ok ()) {keyId base64 envelope : String} {bytes : Bytes}
    (hbase64 : Base64.decode? base64 = some bytes) (h : encode v keyId base64 = .ok envelope) :
    v.Spells envelope.toList keyId.toList (stripPadding base64.toList) ∧ keyId.toList ≠ []
      ∧ restorePadding (stripPadding base64.toList) = base64.toList := by
  obtain ⟨hkeyId, rfl⟩ := encode_eq_ok_iff.1 h
  obtain rfl := Base64.decode?_eq_some.1 hbase64
  rw [Base64.encode, String.toList_append, String.toList_ofList, String.toList_ofList]
  exact ⟨spells_behindKeyTag hv hkeyId bytes, hkeyId.nonempty, restorePadding_stripPadding bytes⟩

/-- What was written is read back. -/
lemma decode_encode (hv : v.validate = .ok ()) {keyId base64 envelope : String} {bytes : Bytes}
    (hbase64 : Base64.decode? base64 = some bytes) (h : encode v keyId base64 = .ok envelope) :
    decode v envelope = .ok ⟨keyId, base64⟩ := by
  obtain ⟨hspells, hne, hpadding⟩ := spells_of_encode hv hbase64 h
  refine decode_eq_ok_iff.2 ⟨_, _, hspells, hne, ?_⟩
  rw [hpadding, String.ofList_toList, String.ofList_toList]

/-- What was written is recognised, with its parts where they were put. -/
lemma classify_encode (hv : v.validate = .ok ()) {keyId base64 envelope : String} {bytes : Bytes}
    (hbase64 : Base64.decode? base64 = some bytes) (h : encode v keyId base64 = .ok envelope) :
    classify v envelope = some
      { variant := v, keyId,
        offset := utf8Length v.keyTag.toList + utf8Length keyId.toList
          + utf8Length v.bodyStart.toList,
        length := utf8Length (stripPadding base64.toList) } := by
  obtain ⟨hspells, hne, -⟩ := spells_of_encode hv hbase64 h
  refine classify_eq_some_iff.2 ⟨_, _, hspells, ?_, by rw [String.ofList_toList]⟩
  rw [hspells.text_eq]
  simp [hne]

/-- **Envelopes are read back.**  For a fit variant and a strict Base64 text, an envelope is written
exactly for the key ids that fit, whatever the text; and what was written is read, and recognised,
as the very key id and text, each of them where it was put. -/
theorem encode_round_trip (hv : v.validate = .ok ()) (keyId : String) {base64 : String}
    {bytes : Bytes} (hbase64 : Base64.decode? base64 = some bytes) :
    ((∃ envelope, encode v keyId base64 = .ok envelope) ↔ v.Admits keyId.toList)
      ∧ ∀ envelope, encode v keyId base64 = .ok envelope →
          decode v envelope = .ok ⟨keyId, base64⟩
          ∧ classify v envelope = some
              { variant := v, keyId,
                offset := utf8Length v.keyTag.toList + utf8Length keyId.toList
                  + utf8Length v.bodyStart.toList,
                length := utf8Length (stripPadding base64.toList) } := by
  constructor
  · constructor
    · rintro ⟨envelope, h⟩
      exact (encode_eq_ok_iff.1 h).1
    · exact fun h => ⟨_, encode_eq_ok_iff.2 ⟨h, rfl⟩⟩
  · exact fun envelope h => ⟨decode_encode hv hbase64 h, classify_encode hv hbase64 h⟩

/-- A key id that ends like the token behind it begins. -/
theorem encode_round_trip_v1 :
    Variant.v1.validate = .ok () ∧ Base64.decode? "aGk=" = some [104, 105]
      ∧ Variant.v1.Admits "né!".toList
      ∧ decode .v1 "~!1!né!!1!aGk!1!~" = .ok ⟨"né!", "aGk="⟩
      ∧ classify .v1 "~!1!né!!1!aGk!1!~"
        = some { variant := .v1, keyId := "né!", offset := 11, length := 3 } := by
  have hv : Variant.v1.validate = .ok () := rfl
  have hbase64 : Base64.decode? "aGk=" = some [104, 105] := rfl
  have hencode : encode .v1 "né!" "aGk=" = .ok "~!1!né!!1!aGk!1!~" := rfl
  obtain ⟨hfit, hread⟩ := encode_round_trip hv "né!" hbase64
  exact ⟨hv, hbase64, hfit.1 ⟨_, hencode⟩, hread _ hencode⟩

end SealedChunk.Envelope
