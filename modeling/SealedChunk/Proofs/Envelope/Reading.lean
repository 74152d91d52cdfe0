import SealedChunk.Proofs.Envelope.Grammar
import SealedChunk.Proofs.Text.Offsets

/-!
# What reading an envelope comes to

An envelope can be read by bytes: look for the tokens one behind the other, subtract to see whether
anything is left, and take out what lies between the places that were found.  A slice that begins or
ends inside a character, or a difference below zero, would put an end to such a reader, and
`decodeByOffsets` has no answer then; a search that begins inside a character would miss its token.
None of it happens.  There is always an answer, and it is that of `decode`, for the tokens of any
variant: empty ones, ones that begin like the end of another, and ones of characters with several
bytes.

So places in bytes are good for saying what is read, too.  An envelope is refused by the first of
five tests that it does not pass (`Variant.Refuses`), and the texts that pass them all are those of
a grammar.

* `decodeByOffsets`, **`decodeByOffsets_eq`** — the reader by bytes.
* `Variant.Refuses`, **`decode_eq_error_iff`** — what is refused, and for what reason.
* **`decode_iff_grammar`** — what is read, what is refused, and that no slice or difference fails.
-/

namespace SealedChunk.Envelope

open Text

variable {v : Variant} {envelope behindTag keyId behindStart body behindEnd : String}

/-! ## The searches of the reader -/

lemma decode_of_not_standsAt (h : ¬ StandsAt v.keyTag envelope 0) :
    decode v envelope = .error .missingKeyTag := by
  have hnone : stripStart v.keyTag.toList envelope.toList = none := by
    rw [stripStart_eq_none]
    rintro ⟨rest, hrest⟩
    refine h (standsAt_zero_iff.2 ⟨String.ofList rest, ?_⟩)
    rw [← String.toList_inj, String.toList_append, String.toList_ofList, hrest]
  rw [decode, hnone]

lemma stripStart_keyTag (v : Variant) (behindTag : String) :
    stripStart v.keyTag.toList (v.keyTag ++ behindTag).toList = some behindTag.toList := by
  rw [String.toList_append, stripStart_append]

lemma decode_of_no_bodyStart (hstart : cut v.bodyStart.toList behindTag.toList = none) :
    decode v (v.keyTag ++ behindTag) = .error .missingBodyStart := by
  rw [decode, stripStart_keyTag]
  simp only [hstart]

lemma decode_of_no_bodyEnd
    (hstart : cut v.bodyStart.toList behindTag.toList = some (keyId.toList, behindStart.toList))
    (hend : cut v.bodyEnd.toList behindStart.toList = none) :
    decode v (v.keyTag ++ behindTag) = .error .missingBodyEnd := by
  rw [decode, stripStart_keyTag]
  simp only [hstart, hend]

/-- What is read if every token is found. -/
lemma decode_of_cut
    (hstart : cut v.bodyStart.toList behindTag.toList = some (keyId.toList, behindStart.toList))
    (hend : cut v.bodyEnd.toList behindStart.toList = some (body.toList, behindEnd.toList)) :
    decode v (v.keyTag ++ behindTag)
      = if behindEnd ≠ "" then .error (.trailing behindEnd.utf8ByteSize)
        else if keyId = "" then .error .emptyKeyId
        else .ok ⟨keyId, String.ofList (restorePadding body.toList)⟩ := by
  rw [decode, stripStart_keyTag]
  simp only [hstart, hend]
  simp [utf8Length_toList]

/-- Behind the key tag and a cut, the rest stands behind everything that was found. -/
lemma append_of_cut_bodyStart
    (h : cut v.bodyStart.toList behindTag.toList = some (keyId.toList, behindStart.toList)) :
    v.keyTag ++ behindTag = v.keyTag ++ keyId ++ v.bodyStart ++ behindStart
      ∧ (v.keyTag ++ keyId ++ v.bodyStart).utf8ByteSize
        = v.keyTag.utf8ByteSize + keyId.utf8ByteSize + v.bodyStart.utf8ByteSize := by
  obtain ⟨rfl, -⟩ := (cut_eq_some_iff_firstAt "").1 h
  simp only [String.append_assoc, String.utf8ByteSize_append, Nat.add_assoc, and_self]

/-- With both tokens found, an envelope has as many bytes as its parts. -/
lemma utf8ByteSize_of_cut
    (hstart : cut v.bodyStart.toList behindTag.toList = some (keyId.toList, behindStart.toList))
    (hend : cut v.bodyEnd.toList behindStart.toList = some (body.toList, behindEnd.toList)) :
    (v.keyTag ++ behindTag).utf8ByteSize
      = v.keyTag.utf8ByteSize + keyId.utf8ByteSize + v.bodyStart.utf8ByteSize + body.utf8ByteSize
        + v.bodyEnd.utf8ByteSize + behindEnd.utf8ByteSize := by
  obtain ⟨rfl, -⟩ := (cut_eq_some_iff_firstAt "").1 hend
  obtain ⟨htext, hsize⟩ := append_of_cut_bodyStart hstart
  rw [htext, String.utf8ByteSize_append, hsize]
  simp only [String.utf8ByteSize_append, Nat.add_assoc]

/-! ## A reader by bytes -/

/-- What is read between places that were found.  There is no answer if a slice or a difference
fails. -/
def partsByOffsets (v : Variant) (envelope : String) (keyIdStart keyIdEnd bodyStart bodyEnd : Nat) :
    Option (Except EnvelopeError Parts) :=
  let stop := bodyEnd + v.bodyEnd.utf8ByteSize
  if envelope.utf8ByteSize < stop then none
  else if 0 < envelope.utf8ByteSize - stop then
    some (.error (.trailing (envelope.utf8ByteSize - stop)))
  else
    match slice? envelope keyIdStart keyIdEnd with
    | none => none
    | some keyId =>
      if keyId = "" then some (.error .emptyKeyId)
      else (slice? envelope bodyStart bodyEnd).map fun body =>
        .ok ⟨keyId, String.ofList (restorePadding body.toList)⟩

/-- Reads an envelope by bytes.  There is no answer if a slice or a difference fails. -/
def decodeByOffsets (v : Variant) (envelope : String) : Option (Except EnvelopeError Parts) :=
  if ¬ StandsAt v.keyTag envelope 0 then some (.error .missingKeyTag)
  else
    let keyIdStart := v.keyTag.utf8ByteSize
    match findFrom? v.bodyStart envelope keyIdStart with
    | none => some (.error .missingBodyStart)
    | some keyIdEnd =>
      let bodyStart := keyIdEnd + v.bodyStart.utf8ByteSize
      match findFrom? v.bodyEnd envelope bodyStart with
      | none => some (.error .missingBodyEnd)
      | some bodyEnd => partsByOffsets v envelope keyIdStart keyIdEnd bodyStart bodyEnd

/-- Between the places of its parts an envelope has its parts. -/
lemma partsByOffsets_eq {front : String}
    (hfront : front = v.keyTag ++ keyId ++ v.bodyStart)
    (henvelope : envelope = front ++ (body ++ v.bodyEnd ++ behindEnd)) :
    partsByOffsets v envelope v.keyTag.utf8ByteSize
        (v.keyTag.utf8ByteSize + keyId.utf8ByteSize) front.utf8ByteSize
        (front.utf8ByteSize + body.utf8ByteSize)
      = some (if behindEnd ≠ "" then .error (.trailing behindEnd.utf8ByteSize)
          else if keyId = "" then .error .emptyKeyId
          else .ok ⟨keyId, String.ofList (restorePadding body.toList)⟩) := by
  have hsize : envelope.utf8ByteSize = front.utf8ByteSize + body.utf8ByteSize
      + v.bodyEnd.utf8ByteSize + behindEnd.utf8ByteSize := by
    rw [henvelope]
    simp only [String.utf8ByteSize_append, Nat.add_assoc]
  have hkeyId : slice? envelope v.keyTag.utf8ByteSize
      (v.keyTag.utf8ByteSize + keyId.utf8ByteSize) = some keyId :=
    slice?_eq_some (by rw [henvelope, hfront, String.append_assoc])
  have hbody : slice? envelope front.utf8ByteSize (front.utf8ByteSize + body.utf8ByteSize)
      = some body :=
    slice?_eq_some (by rw [henvelope, ← String.append_assoc, ← String.append_assoc,
      String.append_assoc])
  rw [partsByOffsets, hsize, if_neg (Nat.not_lt.2 (Nat.le_add_right _ _)),
    Nat.add_sub_cancel_left, hkeyId, hbody]
  by_cases hrest : behindEnd = ""
  · by_cases hempty : keyId = "" <;> simp [hrest, hempty]
  · have hpos : 0 < behindEnd.utf8ByteSize := Nat.pos_of_ne_zero (by simpa using hrest)
    rw [if_pos hpos, if_pos hrest]

/-- **Reading by bytes** never fails, and says what reading by characters says. -/
theorem decodeByOffsets_eq (v : Variant) (envelope : String) :
    decodeByOffsets v envelope = some (decode v envelope) := by
  by_cases htag : StandsAt v.keyTag envelope 0
  swap
  · rw [decodeByOffsets, if_pos htag, decode_of_not_standsAt htag]
  obtain ⟨behindTag, rfl⟩ := standsAt_zero_iff.1 htag
  rw [decodeByOffsets, if_neg (not_not.2 htag)]
  rcases cut_none_or_some v.bodyStart behindTag with hstart | ⟨keyId, behindStart, hstart⟩
  · simp only [findFrom?_of_cut_none hstart, decode_of_no_bodyStart hstart]
  obtain ⟨htext, hsize⟩ := append_of_cut_bodyStart hstart
  simp only [findFrom?_of_cut hstart]
  rcases cut_none_or_some v.bodyEnd behindStart with hend | ⟨body, behindEnd, hend⟩
  · rw [decode_of_no_bodyEnd hstart hend, htext, ← hsize]
    simp only [findFrom?_of_cut_none hend]
  · obtain ⟨hbehind, -⟩ := (cut_eq_some_iff_firstAt "").1 hend
    rw [decode_of_cut hstart hend, htext, ← hsize]
    simp only [findFrom?_of_cut hend]
    exact partsByOffsets_eq rfl (by rw [hbehind])

/-! ## What is refused -/

/-- Why a text is refused: the first of five tests that it does not pass, each of them in the places
that those before it found. -/
inductive Variant.Refuses (v : Variant) (envelope : String) : EnvelopeError → Prop where
  /-- It does not begin with the key tag. -/
  | keyTag (h : ¬ StandsAt v.keyTag envelope 0) : v.Refuses envelope .missingKeyTag
  /-- No `bodyStart` stands behind the key tag. -/
  | bodyStart (htag : StandsAt v.keyTag envelope 0)
      (h : ∀ i, v.keyTag.utf8ByteSize ≤ i → ¬ StandsAt v.bodyStart envelope i) :
      v.Refuses envelope .missingBodyStart
  /-- No `bodyEnd` stands behind the first `bodyStart`. -/
  | bodyEnd {i : Nat} (htag : StandsAt v.keyTag envelope 0)
      (hstart : FirstAt v.bodyStart envelope v.keyTag.utf8ByteSize i)
      (h : ∀ j, i + v.bodyStart.utf8ByteSize ≤ j → ¬ StandsAt v.bodyEnd envelope j) :
      v.Refuses envelope .missingBodyEnd
  /-- Something stands behind the first `bodyEnd`. -/
  | trailing {i j bytes : Nat} (htag : StandsAt v.keyTag envelope 0)
      (hstart : FirstAt v.bodyStart envelope v.keyTag.utf8ByteSize i)
      (hend : FirstAt v.bodyEnd envelope (i + v.bodyStart.utf8ByteSize) j)
      (hsize : envelope.utf8ByteSize = j + v.bodyEnd.utf8ByteSize + bytes) (h : 1 ≤ bytes) :
      v.Refuses envelope (.trailing bytes)
  /-- Nothing stands between the key tag and the first `bodyStart`. -/
  | keyId {j : Nat} (htag : StandsAt v.keyTag envelope 0)
      (hstart : FirstAt v.bodyStart envelope v.keyTag.utf8ByteSize v.keyTag.utf8ByteSize)
      (hend : FirstAt v.bodyEnd envelope (v.keyTag.utf8ByteSize + v.bodyStart.utf8ByteSize) j)
      (hsize : envelope.utf8ByteSize = j + v.bodyEnd.utf8ByteSize) :
      v.Refuses envelope .emptyKeyId

lemma refuses_of_decode {error : EnvelopeError} (h : decode v envelope = .error error) :
    v.Refuses envelope error := by
  -- search by search; what one of them found is where the next one begins
  by_cases htag : StandsAt v.keyTag envelope 0
  swap
  · rw [decode_of_not_standsAt htag] at h
    cases h
    exact .keyTag htag
  obtain ⟨behindTag, rfl⟩ := standsAt_zero_iff.1 htag
  rcases cut_none_or_some v.bodyStart behindTag with hstart | ⟨keyId, behindStart, hstart⟩
  · rw [decode_of_no_bodyStart hstart] at h
    cases h
    exact .bodyStart htag ((cut_eq_none_iff_standsAt _).1 hstart)
  obtain ⟨htext, hsize⟩ := append_of_cut_bodyStart hstart
  have hfirst := ((cut_eq_some_iff_firstAt v.keyTag).1 hstart).2
  rcases cut_none_or_some v.bodyEnd behindStart with hend | ⟨body, behindEnd, hend⟩
  · rw [decode_of_no_bodyEnd hstart hend] at h
    cases h
    refine .bodyEnd htag hfirst ?_
    rw [← hsize, htext]
    exact (cut_eq_none_iff_standsAt _).1 hend
  · have hlast := ((cut_eq_some_iff_firstAt (v.keyTag ++ keyId ++ v.bodyStart)).1 hend).2
    rw [← htext, hsize] at hlast
    have hwhole := utf8ByteSize_of_cut hstart hend
    rw [decode_of_cut hstart hend] at h
    split_ifs at h with hrest hempty
    · cases h
      exact .trailing htag hfirst hlast hwhole (Nat.pos_of_ne_zero (by simpa using hrest))
    · cases h
      obtain rfl := not_not.1 hrest
      subst hempty
      exact .keyId htag hfirst hlast hwhole

/-- Where the two tokens behind the key tag stand first, the reader cuts. -/
lemma exists_cut_of_firstAt {i j : Nat}
    (hstart : FirstAt v.bodyStart (v.keyTag ++ behindTag) v.keyTag.utf8ByteSize i)
    (hend : FirstAt v.bodyEnd (v.keyTag ++ behindTag) (i + v.bodyStart.utf8ByteSize) j) :
    ∃ keyId behindStart body behindEnd : String,
      cut v.bodyStart.toList behindTag.toList = some (keyId.toList, behindStart.toList)
        ∧ cut v.bodyEnd.toList behindStart.toList = some (body.toList, behindEnd.toList)
        ∧ i = v.keyTag.utf8ByteSize + keyId.utf8ByteSize
        ∧ (v.keyTag ++ behindTag).utf8ByteSize
          = j + v.bodyEnd.utf8ByteSize + behindEnd.utf8ByteSize := by
  obtain ⟨keyId, behindStart, hcut, rfl⟩ := hstart.exists_cut
  obtain ⟨htext, hsize⟩ := append_of_cut_bodyStart hcut
  rw [← hsize, htext] at hend
  obtain ⟨body, behindEnd, hcut', rfl⟩ := hend.exists_cut
  refine ⟨keyId, behindStart, body, behindEnd, hcut, hcut', rfl, ?_⟩
  rw [utf8ByteSize_of_cut hcut hcut', hsize]

lemma decode_of_refuses {error : EnvelopeError} (h : v.Refuses envelope error) :
    decode v envelope = .error error := by
  cases h with
  | keyTag h => exact decode_of_not_standsAt h
  | bodyStart htag h =>
    obtain ⟨behindTag, rfl⟩ := standsAt_zero_iff.1 htag
    exact decode_of_no_bodyStart ((cut_eq_none_iff_standsAt _).2 h)
  | bodyEnd htag hfirst h =>
    obtain ⟨behindTag, rfl⟩ := standsAt_zero_iff.1 htag
    obtain ⟨keyId, behindStart, hstart, rfl⟩ := hfirst.exists_cut
    obtain ⟨htext, hsize⟩ := append_of_cut_bodyStart hstart
    rw [← hsize, htext] at h
    exact decode_of_no_bodyEnd hstart ((cut_eq_none_iff_standsAt _).2 h)
  | @trailing i j bytes htag hfirst hlast hsize h =>
    obtain ⟨behindTag, rfl⟩ := standsAt_zero_iff.1 htag
    obtain ⟨keyId, behindStart, body, behindEnd, hstart, hend, -, hwhole⟩ :=
      exists_cut_of_firstAt hfirst hlast
    obtain rfl : bytes = behindEnd.utf8ByteSize := by omega
    have hrest : behindEnd ≠ "" := by
      rintro rfl
      exact absurd h (by simp)
    rw [decode_of_cut hstart hend, if_pos hrest]
  | keyId htag hfirst hlast hsize =>
    obtain ⟨behindTag, rfl⟩ := standsAt_zero_iff.1 htag
    obtain ⟨keyId, behindStart, body, behindEnd, hstart, hend, hkeyId, hwhole⟩ :=
      exists_cut_of_firstAt hfirst hlast
    have hrest : behindEnd = "" := by
      rw [← String.utf8ByteSize_eq_zero_iff]
      omega
    have hempty : keyId = "" := by
      rw [← String.utf8ByteSize_eq_zero_iff]
      omega
    rw [decode_of_cut hstart hend, if_neg (not_not.2 hrest), if_pos hempty]

/-- **What is refused,** and for what reason: that of the first test that is not passed. -/
theorem decode_eq_error_iff {error : EnvelopeError} :
    decode v envelope = .error error ↔ v.Refuses envelope error :=
  ⟨refuses_of_decode, decode_of_refuses⟩

/-! ## What is read -/

/-- The grammar, with the places of tokens in bytes. -/
lemma spells_iff_standsAt : v.Spells envelope.toList keyId.toList body.toList ↔
    envelope = v.keyTag ++ keyId ++ v.bodyStart ++ body ++ v.bodyEnd
      ∧ (∀ i, v.keyTag.utf8ByteSize ≤ i → i < v.keyTag.utf8ByteSize + keyId.utf8ByteSize →
          ¬ StandsAt v.bodyStart envelope i)
      ∧ ∀ i < body.utf8ByteSize, ¬ StandsAt v.bodyEnd (body ++ v.bodyEnd) i := by
  have htext : envelope.toList = v.keyTag.toList ++ (keyId.toList ++ v.bodyStart.toList
      ++ (body.toList ++ v.bodyEnd.toList))
        ↔ envelope = v.keyTag ++ (keyId ++ (v.bodyStart ++ (body ++ v.bodyEnd))) := by
    simp only [← String.toList_append, String.toList_inj, String.append_assoc]
  have hstart : (∀ i < keyId.toList.length,
        ¬ OccursAt v.bodyStart.toList (keyId.toList ++ v.bodyStart.toList) i)
      ↔ ∀ i < keyId.utf8ByteSize,
        ¬ StandsAt v.bodyStart (keyId ++ (v.bodyStart ++ (body ++ v.bodyEnd))) i := by
    rw [forall_not_standsAt_iff]
    refine forall₂_congr fun i hi => not_congr ?_
    rw [← String.append_assoc, String.toList_append, String.toList_append]
    exact (occursAt_append (by rw [List.length_append]; omega) _).symm
  have hend : (∀ i < body.utf8ByteSize, ¬ StandsAt v.bodyEnd (body ++ v.bodyEnd) i)
      ↔ ∀ i < body.toList.length,
        ¬ OccursAt v.bodyEnd.toList (body.toList ++ v.bodyEnd.toList) i := by
    rw [← String.toList_append]
    exact forall_not_standsAt_iff
  simp only [String.append_assoc]
  constructor
  · rintro ⟨hspelt, hfirst, hlast⟩
    obtain rfl := htext.1 hspelt
    refine ⟨rfl, fun i hle hlt => ?_, hend.2 hlast⟩
    obtain ⟨i, rfl⟩ := Nat.exists_eq_add_of_le hle
    rw [standsAt_behind]
    exact hstart.1 hfirst i (Nat.lt_of_add_lt_add_left hlt)
  · rintro ⟨rfl, hfirst, hlast⟩
    refine ⟨htext.2 rfl, hstart.2 fun i hi => ?_, hend.1 hlast⟩
    rw [← standsAt_behind v.keyTag]
    exact hfirst _ (Nat.le_add_right _ _) (Nat.add_lt_add_left hi _)

/-- **What reading an envelope comes to,** for any tokens and any text.  Read are the texts of the
grammar whose key id is not empty, with the padding of their body put back; any other is refused by
the first test that it does not pass.  And a reader that works by bytes comes to the same without
ever failing to take a slice or a difference. -/
theorem decode_iff_grammar (v : Variant) (envelope : String) :
    (∀ keyId base64, decode v envelope = .ok ⟨keyId, base64⟩ ↔
        ∃ body, envelope = v.keyTag ++ keyId ++ v.bodyStart ++ body ++ v.bodyEnd ∧ keyId ≠ ""
          ∧ (∀ i, v.keyTag.utf8ByteSize ≤ i → i < v.keyTag.utf8ByteSize + keyId.utf8ByteSize →
              ¬ StandsAt v.bodyStart envelope i)
          ∧ (∀ i < body.utf8ByteSize, ¬ StandsAt v.bodyEnd (body ++ v.bodyEnd) i)
          ∧ base64 = String.ofList (restorePadding body.toList))
      ∧ (∀ error, decode v envelope = .error error ↔ v.Refuses envelope error)
      ∧ decodeByOffsets v envelope = some (decode v envelope) := by
  refine ⟨fun keyId base64 => ?_, fun error => decode_eq_error_iff,
    decodeByOffsets_eq v envelope⟩
  rw [decode_eq_ok_iff]
  constructor
  · rintro ⟨keyIdChars, bodyChars, hspells, hkeyId, hparts⟩
    obtain ⟨keyId, rfl⟩ := exists_toList keyIdChars
    obtain ⟨body, rfl⟩ := exists_toList bodyChars
    rw [String.ofList_toList] at hparts
    cases hparts
    obtain ⟨htext, hstart, hend⟩ := spells_iff_standsAt.1 hspells
    exact ⟨body, htext, by simpa using hkeyId, hstart, hend, rfl⟩
  · rintro ⟨body, htext, hkeyId, hstart, hend, rfl⟩
    refine ⟨keyId.toList, body.toList, spells_iff_standsAt.2 ⟨htext, hstart, hend⟩,
      by simpa using hkeyId, ?_⟩
    rw [String.ofList_toList]

end SealedChunk.Envelope
