/-!
# Cutting a text at a token

A delimited format is read by cutting: take the opening token off the front, then cut at the first
occurrence of the next token, and again.  Both operations work on characters, so a cut never falls
inside one; where an offset has to be reported it is the number of UTF-8 bytes of what lies before,
`utf8Length`.

* `stripStart` — what follows a token that the text begins with.
* `cut` — the text before and after the first occurrence of a token.
* **`append_of_cut`** — the two parts, with the token between them, are the text again.
-/

namespace SealedChunk.Text

/-- How many bytes the characters take in UTF-8. -/
def utf8Length : List Char → Nat
  | [] => 0
  | c :: rest => c.utf8Size + utf8Length rest

theorem utf8Length_append (s t : List Char) :
    utf8Length (s ++ t) = utf8Length s + utf8Length t := by
  induction s with
  | nil => simp [utf8Length]
  | cons c s ih => simp [utf8Length, ih, Nat.add_assoc]

/-- What follows `token` in a text that begins with it. -/
def stripStart : (token text : List Char) → Option (List Char)
  | [], text => some text
  | _ :: _, [] => none
  | t :: token, c :: text => if t = c then stripStart token text else none

theorem stripStart_eq_some {token text rest : List Char} :
    stripStart token text = some rest ↔ text = token ++ rest := by
  induction token generalizing text with
  | nil => simp [stripStart, eq_comm]
  | cons t token ih =>
    cases text with
    | nil => simp [stripStart]
    | cons c text =>
      by_cases h : t = c
      · simp [stripStart, h, ih]
      · simp [stripStart, h, Ne.symm h]

/-- Whether the text begins with the token. -/
def startsWith (token text : List Char) : Bool := (stripStart token text).isSome

/-- Whether the text ends with the token. -/
def endsWith (token text : List Char) : Bool := startsWith token.reverse text.reverse

/-- Cuts the text at the first occurrence of the token: what comes before it, and what comes
after.  An empty token occurs at once. -/
def cut (token : List Char) : (text : List Char) → Option (List Char × List Char)
  | [] => (stripStart token []).map fun rest => ([], rest)
  | c :: text =>
    match stripStart token (c :: text) with
    | some rest => some ([], rest)
    | none => (cut token text).map fun parts => (c :: parts.1, parts.2)

theorem cut_of_stripStart {token text rest : List Char} (h : stripStart token text = some rest) :
    cut token text = some ([], rest) := by
  cases text with
  | nil => rw [cut, h, Option.map_some]
  | cons c text => rw [cut, h]

theorem cut_cons_of_stripStart_none {token text : List Char} {c : Char}
    (h : stripStart token (c :: text) = none) :
    cut token (c :: text) = (cut token text).map fun parts => (c :: parts.1, parts.2) := by
  rw [cut, h]

/-- Where a cut can be: at the front, or in the rest if the token is not at the front. -/
theorem cut_cons_eq_some {token text before after : List Char} {c : Char}
    (h : cut token (c :: text) = some (before, after)) :
    (before = [] ∧ c :: text = token ++ after)
      ∨ stripStart token (c :: text) = none
        ∧ ∃ front, before = c :: front ∧ cut token text = some (front, after) := by
  cases hs : stripStart token (c :: text) with
  | some rest =>
    rw [cut_of_stripStart hs, Option.some.injEq, Prod.mk.injEq] at h
    obtain ⟨rfl, rfl⟩ := h
    exact .inl ⟨rfl, stripStart_eq_some.1 hs⟩
  | none =>
    rw [cut_cons_of_stripStart_none hs] at h
    simp only [Option.map_eq_some_iff, Prod.mk.injEq] at h
    obtain ⟨⟨front, _⟩, hcut, rfl, rfl⟩ := h
    exact .inr ⟨rfl, front, rfl, hcut⟩

/-- A cut loses nothing: the parts and the token between them make up the text. -/
theorem append_of_cut {token text before after : List Char}
    (h : cut token text = some (before, after)) : text = before ++ token ++ after := by
  induction text generalizing before with
  | nil =>
    simp only [cut, Option.map_eq_some_iff, Prod.mk.injEq] at h
    obtain ⟨rest, hrest, rfl, rfl⟩ := h
    simpa using stripStart_eq_some.1 hrest
  | cons c text ih =>
    rcases cut_cons_eq_some h with ⟨rfl, htext⟩ | ⟨-, front, rfl, hcut⟩
    · simpa using htext
    · simp [ih hcut]

/-- Whether the token occurs in the text. -/
def contains (token text : List Char) : Bool := (cut token text).isSome

end SealedChunk.Text
