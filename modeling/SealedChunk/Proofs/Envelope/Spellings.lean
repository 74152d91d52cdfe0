import SealedChunk.Proofs.Envelope.RoundTrip

/-!
# Envelopes that keep their padding

An envelope is written without the `=` at the end of its body, and a reader puts back as many as are
missing to a multiple of four bytes.  It does not ask whether some of them are there already.  So a
body that has kept part of its padding is completed to the same Base64 text, and where the spelling
of some bytes ends in `=`, their envelope has several spellings.

There are no others.  Completing a body only ever adds `=`, so what is completed to a spelling is a
front part of it that holds all of its digits.

* `Base64.padding` — how many `=` the spelling of some bytes ends in.
* `spelling` — the envelope that keeps a number of them.
* `restorePadding_eq_encodeChars_iff` — the bodies that are completed to a spelling.
* **`eq_iff_of_decode`** — two envelopes with the same key id and the same bytes are equal exactly
  if they keep equally many.
-/

namespace SealedChunk

namespace Base64

/-- How many `=` the spelling of some bytes ends in: one for each byte that is missing to a multiple
of three. -/
def padding (bytes : Bytes) : Nat := (3 - bytes.length % 3) % 3

lemma count_encodeChars (bytes : Bytes) : (encodeChars bytes).count '=' = padding bytes := by
  have hdigit : ∀ v < 64, (digit v == '=') = false := fun v hv => beq_false_of_ne (digit_ne_pad hv)
  fun_induction encodeChars bytes with
  | case1 => rfl
  | case2 a =>
    have ha := a.toNat_lt
    simp [List.count_cons, padding, hdigit (a.toNat / 4) (by omega),
      hdigit (a.toNat % 4 * 16) (by omega)]
  | case3 a b =>
    have ha := a.toNat_lt
    have hb := b.toNat_lt
    simp [List.count_cons, padding, hdigit (a.toNat / 4) (by omega),
      hdigit (a.toNat % 4 * 16 + b.toNat / 16) (by omega), hdigit (b.toNat % 16 * 4) (by omega)]
  | case4 a b c rest ih =>
    have ha := a.toNat_lt
    have hb := b.toNat_lt
    have hc := c.toNat_lt
    simp only [List.count_cons, hdigit (a.toNat / 4) (by omega),
      hdigit (a.toNat % 4 * 16 + b.toNat / 16) (by omega),
      hdigit (b.toNat % 16 * 4 + c.toNat / 64) (by omega), hdigit (c.toNat % 64) (by omega), ih]
    simp only [padding, List.length_cons, Bool.false_eq_true, if_false]
    omega

end Base64

namespace Envelope

open Base64 Text

/-! ## Bodies -/

/-- The spelling of some bytes is its digits, a multiple of four characters together with the
padding behind them. -/
lemma encodeChars_eq_stripPadding_append (bytes : Bytes) :
    encodeChars bytes = stripPadding (encodeChars bytes) ++ List.replicate (padding bytes) '='
      ∧ '=' ∉ stripPadding (encodeChars bytes)
      ∧ (utf8Length (stripPadding (encodeChars bytes)) + padding bytes) % 4 = 0 := by
  obtain ⟨digits, n, heq, hdigits, -, hlength⟩ := encodeChars_eq_append bytes
  have hpad := pad_notMem_of_digits hdigits
  have hstrip : stripPadding (encodeChars bytes) = digits := by
    rw [heq, stripPadding_append fun hs hlast => hpad (hlast ▸ List.getLast_mem hs)]
  have hn : n = padding bytes := by
    rw [← count_encodeChars, heq, List.count_append, List.count_eq_zero.2 hpad,
      List.count_replicate_self, Nat.zero_add]
  subst hn
  rw [hstrip, utf8Length_digits hdigits]
  exact ⟨heq, hpad, hlength⟩

/-- **The bodies that are completed to a spelling** are its digits with none, some or all of its
padding. -/
theorem restorePadding_eq_encodeChars_iff {body : List Char} {bytes : Bytes} :
    restorePadding body = encodeChars bytes ↔ ∃ kept ≤ padding bytes,
      body = stripPadding (encodeChars bytes) ++ List.replicate kept '=' := by
  obtain ⟨heq, hpad, hlength⟩ := encodeChars_eq_stripPadding_append bytes
  constructor
  · intro h
    rw [heq, restorePadding] at h
    rcases List.append_eq_append_iff.1 h with ⟨more, hdigits, hadded⟩ | ⟨more, hbody, hkept⟩
    · -- the body ends among the digits, so all that was added is padding, and none of it digits
      have hnil : more = [] := by
        rw [List.eq_nil_iff_forall_not_mem]
        intro c hc
        have hadd : c ∈ more ++ List.replicate (padding bytes) '=' := List.mem_append_left _ hc
        rw [← hadded] at hadd
        rw [List.eq_of_mem_replicate hadd] at hc
        exact hpad (hdigits ▸ List.mem_append_right _ hc)
      rw [hnil, List.append_nil] at hdigits
      exact ⟨0, Nat.zero_le _, by rw [hdigits, List.replicate_zero, List.append_nil]⟩
    · -- the body goes on behind the digits, with padding only
      obtain ⟨hsum, hmore, -⟩ := List.append_eq_replicate_iff.1 hkept.symm
      exact ⟨more.length, by omega, by rw [hbody, ← hmore]⟩
  · rintro ⟨kept, hkept, rfl⟩
    have hsmall : padding bytes < 3 := Nat.mod_lt _ (by omega)
    rw [restorePadding_eq_append (n := padding bytes - kept) (by omega), List.append_assoc,
      List.replicate_append_replicate, Nat.add_sub_cancel' hkept, ← heq]
    rw [utf8Length_append, utf8Length_replicate_pad]
    omega

/-! ## Envelopes -/

variable {v : Variant}

/-- The envelope of a key id and some bytes that keeps a number of the `=` at the end of its
body. -/
def spelling (v : Variant) (keyId : String) (bytes : Bytes) (kept : Nat) : String :=
  v.keyTag ++ (keyId ++ v.bodyStart
    ++ (String.ofList (stripPadding (encodeChars bytes) ++ List.replicate kept '=') ++ v.bodyEnd))

lemma spelling_inj {keyId : String} {bytes : Bytes} {kept kept' : Nat} :
    spelling v keyId bytes kept = spelling v keyId bytes kept' ↔ kept = kept' := by
  constructor
  · intro h
    rw [← String.toList_inj] at h
    simp only [spelling, String.toList_append, String.toList_ofList, List.append_cancel_left_eq,
      List.append_cancel_right_eq] at h
    simpa using congrArg List.length h
  · exact congrArg _

/-- What is read as a key id and a spelling of some bytes keeps a number of its `=`. -/
lemma exists_spelling_of_decode {envelope : String} {parts : Parts} {bytes : Bytes}
    (h : decode v envelope = .ok parts) (hbytes : Base64.decode? parts.base64 = some bytes) :
    ∃ kept ≤ padding bytes, envelope = spelling v parts.keyId bytes kept := by
  obtain ⟨keyId, body, hspells, -, rfl⟩ := decode_eq_ok_iff.1 h
  have hbody : restorePadding body = encodeChars bytes := by
    rw [Base64.decode?_eq_some, Base64.encode] at hbytes
    exact String.ofList_inj.1 hbytes
  obtain ⟨kept, hkept, hbody⟩ := restorePadding_eq_encodeChars_iff.1 hbody
  refine ⟨kept, hkept, ?_⟩
  rw [← String.toList_inj, hspells.text_eq, hbody]
  simp [spelling]

/-- And then all that keep another number are read as the same. -/
lemma decode_spelling (hv : v.validate = .ok ()) {envelope : String} {parts : Parts} {bytes : Bytes}
    (h : decode v envelope = .ok parts) (hbytes : Base64.decode? parts.base64 = some bytes)
    {kept : Nat} (hkept : kept ≤ padding bytes) :
    decode v (spelling v parts.keyId bytes kept) = .ok parts := by
  obtain ⟨keyId, body, hspells, hne, rfl⟩ := decode_eq_ok_iff.1 h
  have hbody : String.ofList (restorePadding body) = String.ofList (encodeChars bytes) :=
    Base64.decode?_eq_some.1 hbytes
  have hrestored := restorePadding_eq_encodeChars_iff.2 ⟨kept, hkept, rfl⟩
  refine decode_eq_ok_iff.2 ⟨keyId, stripPadding (encodeChars bytes) ++ List.replicate kept '=',
    ⟨by simp [spelling], hspells.first_start, fun i hi => ?_⟩, hne, by rw [hbody, hrestored]⟩
  refine not_occursAt_of_foreign (fun c hc => ?_)
    (foreign_of_validate hv (by simp [Variant.delimiters])) hi
  rcases List.mem_append.1 hc with hc | hc
  · exact isBase64Char_of_mem_encodeChars (mem_of_mem_stripPadding hc)
  · rw [List.eq_of_mem_replicate hc]
    rfl

/-- **When two envelopes of the same are the same.**  Two envelopes that are read as one key id and
as Base64 of the same bytes are equal exactly if they keep equally many of the `=` that the spelling
of the bytes ends in.  Each number of them, from none to all, makes an envelope that is read so. -/
theorem eq_iff_of_decode (hv : v.validate = .ok ()) {envelope envelope' : String}
    {parts parts' : Parts} {bytes : Bytes} (h : decode v envelope = .ok parts)
    (h' : decode v envelope' = .ok parts') (hkeyId : parts.keyId = parts'.keyId)
    (hbytes : Base64.decode? parts.base64 = some bytes)
    (hbytes' : Base64.decode? parts'.base64 = some bytes) :
    (∃ kept ≤ padding bytes, ∃ kept' ≤ padding bytes,
        envelope = spelling v parts.keyId bytes kept
          ∧ envelope' = spelling v parts.keyId bytes kept'
          ∧ (envelope = envelope' ↔ kept = kept'))
      ∧ ∀ kept ≤ padding bytes, decode v (spelling v parts.keyId bytes kept) = .ok parts := by
  obtain ⟨kept, hkept, henvelope⟩ := exists_spelling_of_decode h hbytes
  obtain ⟨kept', hkept', henvelope'⟩ := exists_spelling_of_decode h' hbytes'
  rw [← hkeyId] at henvelope'
  refine ⟨⟨kept, hkept, kept', hkept', henvelope, henvelope', ?_⟩,
    fun kept hkept => decode_spelling hv h hbytes hkept⟩
  rw [henvelope, henvelope', spelling_inj]

/-- A single byte has three envelopes. -/
theorem eq_iff_of_decode_byte :
    Variant.v1.validate = .ok () ∧ decode .v1 "~!1!abc!1!QQ==!1!~" = .ok ⟨"abc", "QQ=="⟩
      ∧ Base64.decode? "QQ==" = some [65]
      ∧ ∀ kept ≤ 2, decode .v1 (spelling .v1 "abc" [65] kept) = .ok ⟨"abc", "QQ=="⟩ := by
  have hv : Variant.v1.validate = .ok () := rfl
  have h : decode .v1 "~!1!abc!1!QQ==!1!~" = .ok ⟨"abc", "QQ=="⟩ := rfl
  have hbytes : Base64.decode? "QQ==" = some [65] := rfl
  exact ⟨hv, h, hbytes, (eq_iff_of_decode hv h h rfl hbytes hbytes).2⟩

/-- Two envelopes of the same key id and byte, one of which keeps a `=`. -/
theorem decode_keeping_padding :
    Variant.v1.validate = .ok () ∧ decode .v1 "~!1!abc!1!QQ!1!~" = .ok ⟨"abc", "QQ=="⟩
      ∧ decode .v1 "~!1!abc!1!QQ=!1!~" = .ok ⟨"abc", "QQ=="⟩
      ∧ Base64.decode? "QQ==" = some [65] ∧ "~!1!abc!1!QQ!1!~" ≠ "~!1!abc!1!QQ=!1!~" :=
  ⟨rfl, rfl, rfl, rfl, by decide⟩

end Envelope

end SealedChunk
