import SealedChunk.Bytes

/-!
# Base64, read strictly

Ciphertexts, key material, signatures and sealed attribute values travel as standard Base64: three
bytes become four digits of six bits, and a last group of one or two bytes is filled up with `=`.

Reading is strict.  A text is accepted only if it is what writing produces: padding is complete,
the bits that the last digit does not use are zero, and nothing else stands in the text, blanks
included.  So bytes have one spelling and every accepted text has one meaning.

* `Base64.encode` — the spelling of some bytes.
* `Base64.decode?` — the bytes that a text spells, if it is a spelling.
* **`Base64.decode?_eq_some`** — reading accepts exactly what writing produces.
-/

namespace SealedChunk.Base64

/-- The digit for a value below 64. -/
def digit (value : Nat) : Char :=
  if value < 26 then Char.ofNat (65 + value)
  else if value < 52 then Char.ofNat (71 + value)
  else if value < 62 then Char.ofNat (value - 4)
  else if value = 62 then '+'
  else '/'

/-- The value of a digit. -/
def digitValue? (c : Char) : Option Nat :=
  if 65 ≤ c.toNat ∧ c.toNat ≤ 90 then some (c.toNat - 65)
  else if 97 ≤ c.toNat ∧ c.toNat ≤ 122 then some (c.toNat - 71)
  else if 48 ≤ c.toNat ∧ c.toNat ≤ 57 then some (c.toNat + 4)
  else if c = '+' then some 62
  else if c = '/' then some 63
  else none

/-- The digits and padding for some bytes, three bytes at a time. -/
def encodeChars : Bytes → List Char
  | [] => []
  | [a] => [digit (a.toNat / 4), digit (a.toNat % 4 * 16), '=', '=']
  | [a, b] =>
    [digit (a.toNat / 4), digit (a.toNat % 4 * 16 + b.toNat / 16), digit (b.toNat % 16 * 4), '=']
  | a :: b :: c :: rest =>
    digit (a.toNat / 4) :: digit (a.toNat % 4 * 16 + b.toNat / 16)
      :: digit (b.toNat % 16 * 4 + c.toNat / 64) :: digit (c.toNat % 64) :: encodeChars rest

/-- The bytes behind groups of four characters; only the last group may be padded, and then the
bits it leaves over are zero. -/
def decodeChars : List Char → Option Bytes
  | [] => some []
  | [p, q, '=', '='] => do
    let v ← digitValue? p
    let w ← digitValue? q
    if w % 16 = 0 then some [UInt8.ofNat (v * 4 + w / 16)] else none
  | [p, q, r, '='] => do
    let v ← digitValue? p
    let w ← digitValue? q
    let x ← digitValue? r
    if x % 4 = 0 then some [UInt8.ofNat (v * 4 + w / 16), UInt8.ofNat (w % 16 * 16 + x / 4)]
    else none
  | p :: q :: r :: s :: rest => do
    let v ← digitValue? p
    let w ← digitValue? q
    let x ← digitValue? r
    let y ← digitValue? s
    let more ← decodeChars rest
    some (UInt8.ofNat (v * 4 + w / 16) :: UInt8.ofNat (w % 16 * 16 + x / 4)
      :: UInt8.ofNat (x % 4 * 64 + y) :: more)
  | _ => none

/-- The spelling of some bytes, padded to a multiple of four characters. -/
def encode (bytes : Bytes) : String := String.ofList (encodeChars bytes)

/-- The bytes that a text spells, or none if it is not exactly a spelling. -/
def decode? (text : String) : Option Bytes := decodeChars text.toList

/-- Whether a character can stand in a spelling: a digit, or the padding. -/
def isBase64Char (c : Char) : Bool := (digitValue? c).isSome || c == '='

/-! ## Digits -/

theorem digitValue?_digit : ∀ v, v < 64 → digitValue? (digit v) = some v := by decide

theorem digitValue?_pad : digitValue? '=' = none := by decide

/-- A digit is determined by its value. -/
theorem digit_of_digitValue? {c : Char} {v : Nat} (h : digitValue? c = some v) :
    digit v = c ∧ v < 64 := by
  unfold digitValue? at h
  split at h
  · obtain rfl : c.toNat - 65 = v := by simpa using h
    have : 65 + (c.toNat - 65) = c.toNat := by omega
    simp only [digit, this, Char.ofNat_toNat]
    rw [if_pos (by omega)]
    exact ⟨rfl, by omega⟩
  · split at h
    · obtain rfl : c.toNat - 71 = v := by simpa using h
      have : 71 + (c.toNat - 71) = c.toNat := by omega
      simp only [digit, this, Char.ofNat_toNat]
      rw [if_neg (by omega), if_pos (by omega)]
      exact ⟨rfl, by omega⟩
    · split at h
      · obtain rfl : c.toNat + 4 = v := by simpa using h
        have : c.toNat + 4 - 4 = c.toNat := by omega
        simp only [digit, this, Char.ofNat_toNat]
        rw [if_neg (by omega), if_neg (by omega), if_pos (by omega)]
        exact ⟨rfl, by omega⟩
      · split at h
        · rename_i hc
          obtain rfl : 62 = v := by simpa using h
          exact ⟨hc ▸ rfl, by omega⟩
        · split at h
          · rename_i hc
            obtain rfl : 63 = v := by simpa using h
            exact ⟨hc ▸ rfl, by omega⟩
          · simp at h

theorem digit_ne_pad {v : Nat} (h : v < 64) : digit v ≠ '=' := by
  intro hpad
  have := digitValue?_digit v h
  rw [hpad, digitValue?_pad] at this
  simp at this

/-! ## Reading accepts exactly what writing produces -/

/-- The bytes of three adjacent groups of six bits, put together again. -/
theorem join_split (a b c : UInt8) :
    UInt8.ofNat (a.toNat / 4 * 4 + (a.toNat % 4 * 16 + b.toNat / 16) / 16) = a
      ∧ UInt8.ofNat ((a.toNat % 4 * 16 + b.toNat / 16) % 16 * 16
          + (b.toNat % 16 * 4 + c.toNat / 64) / 4) = b
      ∧ UInt8.ofNat ((b.toNat % 16 * 4 + c.toNat / 64) % 4 * 64 + c.toNat % 64) = c := by
  have ha := a.toNat_lt
  have hb := b.toNat_lt
  have hc := c.toNat_lt
  have h₁ : a.toNat / 4 * 4 + (a.toNat % 4 * 16 + b.toNat / 16) / 16 = a.toNat := by omega
  have h₂ : (a.toNat % 4 * 16 + b.toNat / 16) % 16 * 16
      + (b.toNat % 16 * 4 + c.toNat / 64) / 4 = b.toNat := by omega
  have h₃ : (b.toNat % 16 * 4 + c.toNat / 64) % 4 * 64 + c.toNat % 64 = c.toNat := by omega
  rw [h₁, h₂, h₃]
  simp only [UInt8.ofNat_toNat, and_self]

/-- What was written can be read. -/
theorem decodeChars_encodeChars (bytes : Bytes) : decodeChars (encodeChars bytes) = some bytes := by
  fun_induction encodeChars bytes with
  | case1 => rfl
  | case2 a =>
    have ha := a.toNat_lt
    have h := join_split a 0 0
    simp only [UInt8.toNat_zero, Nat.zero_div, Nat.add_zero] at h
    simp only [decodeChars, digitValue?_digit _ (show a.toNat / 4 < 64 by omega),
      digitValue?_digit _ (show a.toNat % 4 * 16 < 64 by omega), Option.bind_eq_bind,
      Option.bind_some, h.1]
    rw [if_pos (by omega)]
  | case3 a b =>
    have ha := a.toNat_lt
    have hb := b.toNat_lt
    have h := join_split a b 0
    simp only [UInt8.toNat_zero, Nat.zero_div, Nat.add_zero] at h
    have hr : b.toNat % 16 * 4 < 64 := by omega
    rw [decodeChars]
    · simp only [digitValue?_digit _ (show a.toNat / 4 < 64 by omega),
        digitValue?_digit _ (show a.toNat % 4 * 16 + b.toNat / 16 < 64 by omega),
        digitValue?_digit _ hr, Option.bind_eq_bind, Option.bind_some, h.1, h.2.1]
      rw [if_pos (by omega)]
    · exact digit_ne_pad hr
  | case4 a b c rest ih =>
    have ha := a.toNat_lt
    have hb := b.toNat_lt
    have hc := c.toNat_lt
    have h := join_split a b c
    have hs : c.toNat % 64 < 64 := by omega
    rw [decodeChars]
    · simp only [digitValue?_digit _ (show a.toNat / 4 < 64 by omega),
        digitValue?_digit _ (show a.toNat % 4 * 16 + b.toNat / 16 < 64 by omega),
        digitValue?_digit _ (show b.toNat % 16 * 4 + c.toNat / 64 < 64 by omega),
        digitValue?_digit _ hs, ih, Option.bind_eq_bind, Option.bind_some, h.1, h.2.1, h.2.2]
    · intro _ hpad
      exact absurd hpad (digit_ne_pad hs)
    · intro hpad
      exact absurd hpad (digit_ne_pad hs)

/-- What can be read was written. -/
theorem eq_encodeChars_of_decodeChars {cs : List Char} {bytes : Bytes}
    (h : decodeChars cs = some bytes) : cs = encodeChars bytes := by
  fun_induction decodeChars cs generalizing bytes with
  | case1 => simp_all [encodeChars]
  | case2 p q =>
    simp only [Option.bind_eq_bind, Option.bind_eq_some_iff] at h
    obtain ⟨v, hv, w, hw, h⟩ := h
    split at h
    · obtain rfl := Option.some.inj h
      obtain ⟨rfl, hv⟩ := digit_of_digitValue? hv
      obtain ⟨rfl, hw⟩ := digit_of_digitValue? hw
      have h₁ : (v * 4 + w / 16) % 256 / 4 = v := by omega
      have h₂ : (v * 4 + w / 16) % 256 % 4 * 16 = w := by omega
      simp only [encodeChars, UInt8.toNat_ofNat', Nat.reducePow, h₁, h₂]
    · simp at h
  | case3 p q r _ =>
    simp only [Option.bind_eq_bind, Option.bind_eq_some_iff] at h
    obtain ⟨v, hv, w, hw, x, hx, h⟩ := h
    split at h
    · obtain rfl := Option.some.inj h
      obtain ⟨rfl, hv⟩ := digit_of_digitValue? hv
      obtain ⟨rfl, hw⟩ := digit_of_digitValue? hw
      obtain ⟨rfl, hx⟩ := digit_of_digitValue? hx
      have h₁ : (v * 4 + w / 16) % 256 / 4 = v := by omega
      have h₂ : (v * 4 + w / 16) % 256 % 4 * 16 + (w % 16 * 16 + x / 4) % 256 / 16 = w := by omega
      have h₃ : (w % 16 * 16 + x / 4) % 256 % 16 * 4 = x := by omega
      simp only [encodeChars, UInt8.toNat_ofNat', Nat.reducePow, h₁, h₂, h₃]
    · simp at h
  | case4 p q r s rest _ _ ih =>
    simp only [Option.bind_eq_bind, Option.bind_eq_some_iff] at h
    obtain ⟨v, hv, w, hw, x, hx, y, hy, more, hmore, h⟩ := h
    obtain rfl := Option.some.inj h
    obtain ⟨rfl, hv⟩ := digit_of_digitValue? hv
    obtain ⟨rfl, hw⟩ := digit_of_digitValue? hw
    obtain ⟨rfl, hx⟩ := digit_of_digitValue? hx
    obtain ⟨rfl, hy⟩ := digit_of_digitValue? hy
    have h₁ : (v * 4 + w / 16) % 256 / 4 = v := by omega
    have h₂ : (v * 4 + w / 16) % 256 % 4 * 16 + (w % 16 * 16 + x / 4) % 256 / 16 = w := by omega
    have h₃ : (w % 16 * 16 + x / 4) % 256 % 16 * 4 + (x % 4 * 64 + y) % 256 / 64 = x := by omega
    have h₄ : (x % 4 * 64 + y) % 256 % 64 = y := by omega
    simp only [encodeChars, UInt8.toNat_ofNat', Nat.reducePow, h₁, h₂, h₃, h₄, ih hmore]
  | case5 => simp at h

/-- Reading accepts exactly what writing produces. -/
theorem decode?_eq_some {text : String} {bytes : Bytes} :
    decode? text = some bytes ↔ text = encode bytes := by
  constructor
  · intro h
    rw [encode, ← eq_encodeChars_of_decodeChars h, String.ofList_toList]
  · rintro rfl
    rw [decode?, encode, String.toList_ofList, decodeChars_encodeChars]

/-- What was written can be read. -/
theorem decode?_encode (bytes : Bytes) : decode? (encode bytes) = some bytes :=
  decode?_eq_some.2 rfl

end SealedChunk.Base64
