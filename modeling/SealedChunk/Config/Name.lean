import SealedChunk.Config.Setting
import SealedChunk.Text.Cut

/-!
# Names of variables

The variables of the environment that matter are those whose names begin with `CHUNK_CIPHER_`, in
either case.  What follows names a field of the configuration, or goes on from a field to a part of
it: `.name` to a member, `[2]` to an element, any number of times.  A name that has neither form
stands for a field as a whole, though there is none of that name.

* `FieldPath` — a field and the way to a part of it.
* `FieldPath.ofName?` — the path that a variable's name stands for.
* `length_lt_of_step?` — a step takes something away, so that reading steps comes to an end.
-/

namespace SealedChunk.Config

/-- A step from a value to a part of it. -/
inductive Step where
  | member (name : List Char)
  /-- The element at a position; negative positions count from the end. -/
  | element (position : Int)

/-- A field, in lower case, and the steps from it to a part of it. -/
structure FieldPath where
  field : String
  steps : List Step

/-! ## Characters -/

/-- What the names of the variables begin with, in lower case. -/
def nameStart : List Char := "chunk_cipher_".toList

/-- A character of a variable's name in lower case.  The sign for the unit kelvin is a letter K, and
the only one beyond ASCII whose lower case is within. -/
def lowerNameChar (c : Char) : Char := if c = '\u212a' then 'k' else lower c

/-- Whether a character can stand in the name of a field that goes on, or of a member. -/
def isNameChar (c : Char) : Bool :=
  (97 ≤ c.toNat && c.toNat ≤ 122) || Decimal.isDigit c || c = '_' || c = '-' || c = ' '

/-! ## Steps -/

/-- A position: a whole number of 64 bits with spaces and tabs around it, and no plus sign. -/
def position? (s : List Char) : Option Int :=
  let isGap (c : Char) : Bool := c = ' ' || c = '\t'
  match ((s.dropWhile isGap).reverse.dropWhile isGap).reverse with
  | '+' :: _ => none
  | number => integer? number

/-- The step that a text begins with, and what follows it. -/
def step? : List Char → Option (Step × List Char)
  | [] => none
  | c :: rest =>
    if c = '.' then
      let name := rest.takeWhile isNameChar
      if name.isEmpty then none else some (.member name, rest.dropWhile isNameChar)
    else if c = '[' then
      match position? (rest.takeWhile (· ≠ ']')), rest.dropWhile (· ≠ ']') with
      | some n, _ :: rest => some (.element n, rest)
      | _, _ => none
    else none

theorem length_lt_of_step? {s rest : List Char} {step : Step} (h : step? s = some (step, rest)) :
    rest.length < s.length := by
  cases s with
  | nil => simp [step?] at h
  | cons c tail =>
    simp only [step?] at h
    split at h
    · split at h
      · simp at h
      · simp only [Option.some.injEq, Prod.mk.injEq] at h
        have := (List.dropWhile_sublist isNameChar (l := tail)).length_le
        rw [← h.2, List.length_cons]
        omega
    · split at h
      · split at h
        · rename_i x rest' _ hdrop
          simp only [Option.some.injEq, Prod.mk.injEq] at h
          have := (List.dropWhile_sublist (fun c => decide (c ≠ ']')) (l := tail)).length_le
          rw [hdrop, List.length_cons] at this
          rw [← h.2, List.length_cons]
          omega
        · simp at h
      · simp at h

/-- The steps that a text consists of. -/
def steps? (s : List Char) : Option (List Step) :=
  if s.isEmpty then some []
  else
    match h : step? s with
    | none => none
    | some (step, rest) =>
      have : rest.length < s.length := length_lt_of_step? h
      (steps? rest).map (step :: ·)
termination_by s.length

/-! ## Names -/

/-- The path that a name in lower case stands for. -/
def FieldPath.ofLowered (name : List Char) : FieldPath :=
  let field := name.takeWhile isNameChar
  match steps? (name.dropWhile isNameChar) with
  | some steps => if field.isEmpty then ⟨String.ofList name, []⟩ else ⟨String.ofList field, steps⟩
  | none => ⟨String.ofList name, []⟩

/-- The path that a variable's name stands for, if it is one of ours. -/
def FieldPath.ofName? (name : String) : Option FieldPath :=
  (Text.stripStart nameStart (name.toList.map lowerNameChar)).map .ofLowered

end SealedChunk.Config
