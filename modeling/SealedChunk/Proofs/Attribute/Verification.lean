import SealedChunk.Proofs.Attribute.Slots

/-!
# The one signature that holds

To make a signature is to spell a tag.  To check one is to take away the blanks around it, to read
it, and to compare the tag that it spells with the tag that belongs there.  Reading accepts exactly
what spelling produces, so tags agree only where texts do: under a key that is not empty there is
**one text that holds**, the one that signing makes.  A text that was cut short or goes on too long,
that lacks its padding or has other bits in its last digit, that is empty or no Base64 at all, is
another text.  It does not hold, but neither is it an error.

Only blanks may be added to the text, and only around it.

* `verify_eq_true_iff`, `verify_eq_false_iff` — checking, in terms of signing.
* `trim_eq_encode_iff` — the texts that are a given spelling with blanks around it.
* `signatureStatus_cases` — what a slot carries, for each status.
* **`one_signature`** — checking a signature, and the status of a slot.
-/

namespace SealedChunk.Attribute

open Crypto

variable {ctx : SigningContext} {text candidate : String} {secret : Bytes}

/-! ## Checking in terms of signing -/

lemma encode_injective {bytes other : Bytes} (h : Base64.encode bytes = Base64.encode other) :
    bytes = other := by
  have hread := Base64.decode?_encode bytes
  rw [h, Base64.decode?_encode] at hread
  exact (Option.some.inj hread).symm

/-- What holds is what signing makes, under any key. -/
lemma verify_eq_true_iff :
    verify ctx text secret candidate = .ok true
      ↔ sign ctx text secret = .ok (Text.trim candidate) := by
  rw [verify, sign, map_eq_ok_iff]
  cases hread : Base64.decode? (Text.trim candidate) with
  | none =>
    have hspelled : ∀ tag, Base64.encode tag ≠ Text.trim candidate := by
      intro tag htag
      rw [← htag, Base64.decode?_encode] at hread
      cases hread
    simp [hspelled]
  | some given =>
    have hspelling : Text.trim candidate = Base64.encode given := Base64.decode?_eq_some.1 hread
    simp only [Mac.verify, map_eq_ok_iff, beq_iff_eq, hspelling]
    constructor
    · rintro ⟨tag, htag, rfl⟩
      exact ⟨tag, htag, rfl⟩
    · rintro ⟨tag, htag, hsame⟩
      exact ⟨tag, htag, encode_injective hsame⟩

/-- Everything else does not hold, and that is all there is to say of it. -/
lemma verify_eq_false_iff (hsecret : secret ≠ []) :
    verify ctx text secret candidate = .ok false
      ↔ sign ctx text secret ≠ .ok (Text.trim candidate) := by
  obtain ⟨holds, hverify⟩ := exists_verify hsecret ctx text candidate
  rw [Ne, ← verify_eq_true_iff, hverify]
  cases holds <;> simp

/-! ## Blanks around a signature -/

lemma exists_trimChars (s : List Char) : ∃ before after, (∀ c ∈ before, Text.isBlank c = true)
    ∧ (∀ c ∈ after, Text.isBlank c = true) ∧ s = before ++ Text.trimChars s ++ after := by
  let rest := s.dropWhile Text.isBlank
  refine ⟨s.takeWhile Text.isBlank, (rest.reverse.takeWhile Text.isBlank).reverse, ?_, ?_, ?_⟩
  · exact fun c hc => List.mem_takeWhile_imp hc
  · intro c hc
    exact List.mem_takeWhile_imp (List.mem_reverse.1 hc)
  · have hrest : Text.trimChars s ++ (rest.reverse.takeWhile Text.isBlank).reverse = rest := by
      rw [Text.trimChars, ← List.reverse_append, List.takeWhile_append_dropWhile,
        List.reverse_reverse]
    rw [List.append_assoc, hrest, List.takeWhile_append_dropWhile]

lemma trimChars_append {before s after : List Char} (hbefore : ∀ c ∈ before, Text.isBlank c = true)
    (hs : ∀ c ∈ s, Text.isBlank c = false) (hafter : ∀ c ∈ after, Text.isBlank c = true) :
    Text.trimChars (before ++ s ++ after) = s := by
  have hreverse : ∀ c ∈ s.reverse, Text.isBlank c = false :=
    fun c hc => hs c (List.mem_reverse.1 hc)
  have hbehind : ∀ c ∈ after.reverse, Text.isBlank c = true :=
    fun c hc => hafter c (List.mem_reverse.1 hc)
  rw [Text.trimChars, List.append_assoc, List.dropWhile_append_of_pos hbefore]
  cases s with
  | nil =>
    have hnothing : after.dropWhile Text.isBlank = [] := List.dropWhile_eq_nil_iff.2 hafter
    rw [List.nil_append, hnothing]
    rfl
  | cons c s =>
    have hfirst : (c :: s ++ after).dropWhile Text.isBlank = c :: s ++ after := by
      rw [List.cons_append, List.dropWhile_cons, if_neg (by simp [hs c List.mem_cons_self])]
    rw [hfirst, List.reverse_append, List.dropWhile_append_of_pos hbehind,
      dropWhile_isBlank_eq_self hreverse, List.reverse_reverse]

/-- Of the texts that a spelling is left of, each is the spelling with blanks around it. -/
lemma trim_eq_encode_iff {bytes : Bytes} : Text.trim candidate = Base64.encode bytes ↔
    ∃ before after, Text.isBlankText before = true ∧ Text.isBlankText after = true
      ∧ candidate = before ++ Base64.encode bytes ++ after := by
  simp only [Text.isBlankText, List.all_eq_true]
  constructor
  · intro h
    obtain ⟨before, after, hbefore, hafter, hsplit⟩ := exists_trimChars candidate.toList
    have hchars : Text.trimChars candidate.toList = (Base64.encode bytes).toList := by
      rw [← h, Text.trim, String.toList_ofList]
    refine ⟨String.ofList before, String.ofList after, by simpa using hbefore,
      by simpa using hafter, ?_⟩
    rw [← String.toList_inj, hsplit, hchars]
    simp
  · rintro ⟨before, after, hbefore, hafter, rfl⟩
    have hdigits : ∀ c ∈ (Base64.encode bytes).toList, Text.isBlank c = false := by
      rw [Base64.encode, String.toList_ofList]
      exact fun c hc => isBlank_of_isBase64Char (Base64.isBase64Char_of_mem_encodeChars hc)
    rw [Text.trim, String.toList_append, String.toList_append,
      trimChars_append hbefore hdigits hafter, String.ofList_toList]

/-! ## The status of a slot -/

/-- What a slot carries, for each of the three statuses. -/
lemma signatureStatus_cases {slot : SignedAttributes} {status : SignatureStatus}
    (h : signatureStatus slot secret ctx = .ok status) :
    (status = .missing ∧ slot.signature = none)
      ∨ (status = .valid ∧ ∃ candidate, slot.signature = some candidate
          ∧ verify ctx slot.text secret candidate = .ok true)
      ∨ (status = .invalid ∧ ∃ candidate, slot.signature = some candidate
          ∧ verify ctx slot.text secret candidate = .ok false) := by
  rw [signatureStatus] at h
  cases hsignature : slot.signature with
  | none =>
    rw [hsignature] at h
    exact .inl ⟨(Except.ok.inj h).symm, rfl⟩
  | some candidate =>
    rw [hsignature] at h
    obtain ⟨holds, hverify, rfl⟩ := map_eq_ok_iff.1 h
    cases holds with
    | false => exact .inr (.inr ⟨rfl, candidate, rfl, hverify⟩)
    | true => exact .inr (.inl ⟨rfl, candidate, rfl, hverify⟩)

/-- **There is one signature that holds.**  Under a key that is not empty every text has a
signature, and of all texts that may be taken for it just that one holds, with or without blanks
around it; the others do not hold.  So a slot that is decoded has a signature that holds exactly if
it carries the signature of its text, as the text arrived.  It has none exactly if it carries none,
and one that does not hold exactly if it carries any other text. -/
theorem one_signature (hsecret : secret ≠ []) (ctx : SigningContext) :
    (∀ text, ∃ own, sign ctx text secret = .ok own
        ∧ ∀ candidate, (verify ctx text secret candidate = .ok true ↔ Text.trim candidate = own)
          ∧ (verify ctx text secret candidate = .ok false ↔ Text.trim candidate ≠ own)
          ∧ (Text.trim candidate = own ↔ ∃ before after, Text.isBlankText before = true
              ∧ Text.isBlankText after = true ∧ candidate = before ++ own ++ after))
      ∧ ∀ slot decoded, decodeSlot slot secret ctx = .ok decoded →
          ∃ own, sign ctx slot.text secret = .ok own
            ∧ (decoded.status = .valid ↔
                ∃ candidate, slot.signature = some candidate ∧ Text.trim candidate = own)
            ∧ (decoded.status = .missing ↔ slot.signature = none)
            ∧ (decoded.status = .invalid ↔
                ∃ candidate, slot.signature = some candidate ∧ Text.trim candidate ≠ own) := by
  have hsigned : ∀ text, ∃ bytes, sign ctx text secret = .ok (Base64.encode bytes) :=
    fun text => ⟨_, (sign_eq_ok_iff hsecret ctx text).2 rfl⟩
  constructor
  · intro text
    obtain ⟨bytes, hown⟩ := hsigned text
    refine ⟨_, hown, fun candidate => ⟨?_, ?_, trim_eq_encode_iff⟩⟩
    · rw [verify_eq_true_iff, hown, Except.ok.injEq, eq_comm]
    · rw [verify_eq_false_iff hsecret, hown, Ne, Except.ok.injEq, eq_comm]
  · intro slot decoded hdecoded
    obtain ⟨bytes, hown⟩ := hsigned slot.text
    obtain ⟨-, -, hstatus⟩ := decodeSlot_eq_ok hdecoded
    refine ⟨_, hown, ?_⟩
    rcases signatureStatus_cases hstatus with
      ⟨hmissing, hnone⟩ | ⟨hvalid, candidate, hsome, hverify⟩
      | ⟨hinvalid, candidate, hsome, hverify⟩
    · simp [hmissing, hnone]
    · rw [verify_eq_true_iff, hown, Except.ok.injEq, eq_comm] at hverify
      simp [hvalid, hsome, hverify]
    · rw [verify_eq_false_iff hsecret, hown, Ne, Except.ok.injEq, eq_comm] at hverify
      simp [hinvalid, hsome, hverify]

/-- Blanks around the signature, nothing in its place, and a slot with a text in its place that is
no Base64. -/
theorem one_signature_between_blanks :
    let secret : Bytes := [1]
    let ctx : SigningContext := { id := "abc.def", mutable := true, previous := some "AAAA" }
    secret ≠ [] ∧ (∃ own, sign ctx "\x7b\x7d" secret = .ok own
        ∧ verify ctx "\x7b\x7d" secret (" " ++ own ++ "\n") = .ok true
        ∧ verify ctx "\x7b\x7d" secret "" = .ok false)
      ∧ ∃ decoded,
          decodeSlot { text := "\x7b\x7d", signature := some "***" } secret ctx = .ok decoded
            ∧ decoded.status = .invalid := by
  intro secret ctx
  have hsecret : secret ≠ [] := List.cons_ne_nil _ _
  obtain ⟨hverify, hstatus⟩ := one_signature hsecret ctx
  obtain ⟨own, hown, hholds⟩ := hverify "\x7b\x7d"
  have hlong : Text.trim "" ≠ own := by
    rintro rfl
    obtain ⟨tag, htag, hlength⟩ := exists_decode?_of_sign hown
    obtain rfl : [] = tag := Option.some.inj htag
    cases hlength
  refine ⟨hsecret, ⟨own, hown, ?_, (hholds "").2.1.2 hlong⟩, ?_⟩
  · obtain ⟨htrue, -, hblanks⟩ := hholds (" " ++ own ++ "\n")
    exact htrue.2 (hblanks.2 ⟨" ", "\n", rfl, rfl, rfl⟩)
  · have hdecoded : decodeSlot { text := "\x7b\x7d", signature := some "***" } secret ctx
        = .ok
          { attributes := .empty, signature := some "***", status := .invalid, unopened := [] } :=
      rfl
    obtain ⟨other, hother, -, -, hinvalid⟩ := hstatus _ _ hdecoded
    refine ⟨_, hdecoded, hinvalid.2 ⟨"***", rfl, ?_⟩⟩
    rintro rfl
    obtain ⟨tag, htag, -⟩ := exists_decode?_of_sign hother
    cases htag

end SealedChunk.Attribute
