import SealedChunk.Json.Fault
import SealedChunk.Text.Cut

/-!
# Strings in JSON

A string stands between double quotes.  Written, only the quote, the backslash and the characters
below U+0020 are escaped, the common ones by a letter and the others as `\u00xx`; every other
character stands for itself.

Reading accepts more spellings: `\/`, and any character as one `\uxxxx` or as a pair of them that
form a surrogate pair.  A surrogate that is not part of a pair, an unknown escape and a bare control
character are malformed.  Where a string's content is of no interest it is only skipped, and then
surrogates need no partner.

* `writeText` — a string with its quotes.
* `readBody` — what stands between the quotes, from behind the opening quote.
* `skipBody` — the text behind the closing quote.
* **`readText_writeText`** — a written string is read back, whatever follows it.
-/

namespace SealedChunk.Json

/-! ## Writing -/

/-- The hexadecimal digit for a number below sixteen. -/
def hexDigit (n : Nat) : Char := if n < 10 then Char.ofNat (48 + n) else Char.ofNat (87 + n)

/-- How a character is written between the quotes. -/
def escape (c : Char) : List Char :=
  if c = '"' then ['\\', '"']
  else if c = '\\' then ['\\', '\\']
  else if c = '\x08' then ['\\', 'b']
  else if c = '\x0c' then ['\\', 'f']
  else if c = '\n' then ['\\', 'n']
  else if c = '\r' then ['\\', 'r']
  else if c = '\t' then ['\\', 't']
  else if c.toNat < 32 then ['\\', 'u', '0', '0', hexDigit (c.toNat / 16), hexDigit (c.toNat % 16)]
  else [c]

/-- A string with its quotes. -/
def writeText (s : String) : List Char := '"' :: s.toList.flatMap escape ++ ['"']

/-! ## Reading -/

/-- The value of a hexadecimal digit of either case. -/
def hexValue? (c : Char) : Option Nat :=
  if 48 ≤ c.toNat ∧ c.toNat ≤ 57 then some (c.toNat - 48)
  else if 65 ≤ c.toNat ∧ c.toNat ≤ 70 then some (c.toNat - 55)
  else if 97 ≤ c.toNat ∧ c.toNat ≤ 102 then some (c.toNat - 87)
  else none

/-- The number that four hexadecimal digits stand for.  The text is cut short only if fewer than
four bytes are left. -/
def readHex : List Char → Reading Nat
  | a :: b :: c :: d :: rest =>
    match hexValue? a, hexValue? b, hexValue? c, hexValue? d with
    | some a, some b, some c, some d => .ok (a * 4096 + b * 256 + c * 16 + d, rest)
    | _, _, _, _ => .error .malformed
  | rest => if Text.utf8Length rest < 4 then .error .cutShort else .error .malformed

/-- The second half of a surrogate pair: `\u` and a number from DC00 to DFFF. -/
def readLowSurrogate : List Char → Except Fault (Nat × List Char)
  | [] => .error .cutShort
  | ['\\'] => .error .cutShort
  | '\\' :: 'u' :: rest => do
    let (low, rest) ← readHex rest
    if 0xDC00 ≤ low ∧ low ≤ 0xDFFF then .ok (low, rest) else .error .malformed
  | _ => .error .malformed

/-- The character that an escape stands for, from behind its backslash. -/
def readEscape : List Char → Except Fault (Char × List Char)
  | [] => .error .cutShort
  | '"' :: rest => .ok ('"', rest)
  | '\\' :: rest => .ok ('\\', rest)
  | '/' :: rest => .ok ('/', rest)
  | 'b' :: rest => .ok ('\x08', rest)
  | 'f' :: rest => .ok ('\x0c', rest)
  | 'n' :: rest => .ok ('\n', rest)
  | 'r' :: rest => .ok ('\r', rest)
  | 't' :: rest => .ok ('\t', rest)
  | 'u' :: rest => do
    let (n, rest) ← readHex rest
    if 0xDC00 ≤ n ∧ n ≤ 0xDFFF then .error .malformed
    else if 0xD800 ≤ n ∧ n ≤ 0xDBFF then do
      let (low, rest) ← readLowSurrogate rest
      .ok (Char.ofNat (0x10000 + (n - 0xD800) * 0x400 + (low - 0xDC00)), rest)
    else .ok (Char.ofNat n, rest)
  | _ => .error .malformed

theorem length_lt_of_readHex {s rest : List Char} {n : Nat} (h : readHex s = .ok (n, rest)) :
    rest.length < s.length := by
  unfold readHex at h
  split at h
  · split at h
    · simp only [Except.ok.injEq, Prod.mk.injEq] at h
      obtain ⟨-, rfl⟩ := h
      simp only [List.length_cons]
      omega
    · simp at h
  · split at h <;> simp at h

theorem length_lt_of_readLowSurrogate {s rest : List Char} {n : Nat}
    (h : readLowSurrogate s = .ok (n, rest)) : rest.length < s.length := by
  unfold readLowSurrogate at h
  split at h
  · simp at h
  · simp at h
  · rename_i s
    cases hx : readHex s with
    | error e => simp [hx, bind, Except.bind] at h
    | ok p =>
      have := length_lt_of_readHex hx
      simp only [hx, bind, Except.bind] at h
      split at h
      · simp only [Except.ok.injEq, Prod.mk.injEq] at h
        obtain ⟨-, rfl⟩ := h
        simp only [List.length_cons]
        omega
      · simp at h
  · simp at h

/-- An escape takes up part of the text. -/
theorem length_lt_of_readEscape {s rest : List Char} {c : Char} (h : readEscape s = .ok (c, rest)) :
    rest.length < s.length := by
  unfold readEscape at h
  split at h
  case h_10 s =>
    cases hx : readHex s with
    | error e => simp [hx, bind, Except.bind] at h
    | ok p =>
      have hp := length_lt_of_readHex hx
      simp only [hx, bind, Except.bind] at h
      split at h
      · simp at h
      · split at h
        · cases hl : readLowSurrogate p.2 with
          | error e => simp [hl] at h
          | ok q =>
            have hq := length_lt_of_readLowSurrogate hl
            simp only [hl, Except.ok.injEq, Prod.mk.injEq] at h
            obtain ⟨-, rfl⟩ := h
            simp only [List.length_cons]
            omega
        · simp only [Except.ok.injEq, Prod.mk.injEq] at h
          obtain ⟨-, rfl⟩ := h
          simp only [List.length_cons]
          omega
  all_goals simp_all

/-- The characters of a string, from behind its opening quote; the rest follows the closing one. -/
def readBody : List Char → Reading (List Char)
  | [] => .error .cutShort
  | c :: rest =>
    if c = '"' then .ok ([], rest)
    else if c = '\\' then
      match h : readEscape rest with
      | .error fault => .error fault
      | .ok (e, after) =>
        have := length_lt_of_readEscape h
        match readBody after with
        | .error fault => .error fault
        | .ok (body, rest) => .ok (e :: body, rest)
    else if c.toNat < 32 then .error .malformed
    else
      match readBody rest with
      | .error fault => .error fault
      | .ok (body, rest) => .ok (c :: body, rest)
termination_by s => s.length
decreasing_by all_goals simp_all; try omega

/-- A string whose opening quote is already read. -/
def readText (s : List Char) : Reading String :=
  (readBody s).map fun p => (String.ofList p.1, p.2)

/-- The text behind the closing quote of a string whose content does not matter. -/
def skipBody : List Char → Except Fault (List Char)
  | [] => .error .cutShort
  | '"' :: rest => .ok rest
  | ['\\'] => .error .cutShort
  | '\\' :: 'u' :: a :: b :: c :: d :: rest =>
    if [a, b, c, d].all fun x => (hexValue? x).isSome then skipBody rest else .error .malformed
  | '\\' :: e :: rest =>
    if e = 'u' then
      if Text.utf8Length rest < 4 then .error .cutShort else .error .malformed
    else if e = '"' || e = '\\' || e = '/' || e = 'b' || e = 'f' || e = 'n' || e = 'r'
        || e = 't' then
      skipBody rest
    else .error .malformed
  | c :: rest => if c.toNat < 32 then .error .malformed else skipBody rest

/-! ## What is written is read back -/

theorem hexValue?_hexDigit : ∀ n, n < 16 → hexValue? (hexDigit n) = some n := by decide

/-- An escaped character in front of a body is read as that character. -/
theorem readBody_escape (c : Char) (s : List Char) :
    readBody (escape c ++ s) = (readBody s).map fun p => (c :: p.1, p.2) := by
  have step {e : List Char} {after : List Char} {x : Char}
      (h : readEscape (e ++ after) = .ok (x, after)) :
      readBody ('\\' :: (e ++ after)) = (readBody after).map fun p => (x :: p.1, p.2) := by
    rw [readBody, if_neg (by decide), if_pos rfl]
    split
    · rename_i hf; rw [h] at hf; cases hf
    · rename_i y rest' hf
      rw [h] at hf
      cases hf
      cases readBody after <;> rfl
  unfold escape
  split
  · rename_i h; subst h; exact step (e := ['"']) rfl
  split
  · rename_i h; subst h; exact step (e := ['\\']) rfl
  split
  · rename_i h; subst h; exact step (e := ['b']) rfl
  split
  · rename_i h; subst h; exact step (e := ['f']) rfl
  split
  · rename_i h; subst h; exact step (e := ['n']) rfl
  split
  · rename_i h; subst h; exact step (e := ['r']) rfl
  split
  · rename_i h; subst h; exact step (e := ['t']) rfl
  split
  · rename_i hlow
    refine step (e := ['u', '0', '0', hexDigit (c.toNat / 16), hexDigit (c.toNat % 16)]) ?_
    have hzero : hexValue? '0' = some 0 := rfl
    have hhigh := hexValue?_hexDigit (c.toNat / 16) (by omega)
    have hunit := hexValue?_hexDigit (c.toNat % 16) (by omega)
    have hsum : 0 * 4096 + 0 * 256 + c.toNat / 16 * 16 + c.toNat % 16 = c.toNat := by omega
    simp only [List.cons_append, List.nil_append, readEscape, readHex, hzero, hhigh, hunit, hsum,
      bind, Except.bind]
    rw [if_neg (by omega), if_neg (by omega), Char.ofNat_toNat]
  · rename_i hq hb _ _ _ _ _ hlow
    rw [List.singleton_append, readBody, if_neg hq, if_neg hb, if_neg hlow]
    cases readBody s <;> rfl

/-- What was written between the quotes is read back, whatever follows the closing one. -/
theorem readBody_flatMap_escape (s rest : List Char) :
    readBody (s.flatMap escape ++ '"' :: rest) = .ok (s, rest) := by
  induction s with
  | nil => rw [List.flatMap_nil, List.nil_append, readBody, if_pos rfl]
  | cons c s ih =>
    rw [List.flatMap_cons, List.append_assoc, readBody_escape, ih]
    rfl

/-- A written string is read back, whatever follows it. -/
theorem readText_writeText (s : String) (rest : List Char) :
    ∃ t, writeText s ++ rest = '"' :: t ∧ readText t = .ok (s, rest) := by
  refine ⟨s.toList.flatMap escape ++ '"' :: rest, by simp [writeText], ?_⟩
  rw [readText, readBody_flatMap_escape]
  simp [Except.map]

end SealedChunk.Json
