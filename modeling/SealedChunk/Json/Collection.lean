import SealedChunk.Json.Scalar

/-!
# Arrays and objects

How the parts of an array or an object are strung together does not depend on what the parts are.
So reading takes a reader for one part as a parameter, and writing takes the texts of the parts.
Blanks may stand around brackets, commas and colons; a comma must be followed by another part.

* `readArray` — the elements of an array, each read by the same reader.
* `readObject` — a fold over the members of an object: what has been gathered so far, a name, and
  the text behind the name give what is gathered next.
* `writeArray`, `writeObject` — the compact text of an array or an object.
* `parse?` — a whole text that must hold one value and nothing else.
-/

namespace SealedChunk.Json

/-! ## Reading -/

/-- An element of an array and all elements after it.  Each takes up part of the text, so its length
is fuel enough. -/
def moreElements {α : Type} (element : List Char → Except Fault (α × List Char)) :
    (fuel : Nat) → List Char → Except Fault (List α × List Char)
  | 0, _ => .error .malformed
  | fuel + 1, s =>
    match element s with
    | .error fault => .error fault
    | .ok (x, s) =>
      match skipBlanks s with
      | [] => .error .cutShort
      | ']' :: rest => .ok ([x], rest)
      | ',' :: rest =>
        match skipBlanks rest with
        | [] => .error .cutShort
        | ']' :: _ => .error .malformed
        | s => (moreElements element fuel s).map fun p => (x :: p.1, p.2)
      | _ => .error .malformed

/-- The elements of an array, from behind its opening bracket. -/
def readArray {α : Type} (element : List Char → Except Fault (α × List Char)) (s : List Char) :
    Except Fault (List α × List Char) :=
  match skipBlanks s with
  | [] => .error .cutShort
  | ']' :: rest => .ok ([], rest)
  | s => moreElements element s.length s

/-- The text behind the colon that follows a name. -/
def skipColon (s : List Char) : Except Fault (List Char) :=
  match skipBlanks s with
  | [] => .error .cutShort
  | ':' :: rest => .ok (skipBlanks rest)
  | _ => .error .malformed

/-- A member of an object and all members after it, from the quote that opens a name. -/
def moreMembers {σ : Type}
    (member : σ → (name : String) → (behind : List Char) → Except Fault (σ × List Char)) :
    (fuel : Nat) → σ → List Char → Except Fault (σ × List Char)
  | 0, _, _ => .error .malformed
  | _ + 1, _, [] => .error .cutShort
  | fuel + 1, gathered, c :: s =>
    if c = '"' then
      match readText s with
      | .error fault => .error fault
      | .ok (name, s) =>
        match member gathered name s with
        | .error fault => .error fault
        | .ok (gathered, s) =>
          match skipBlanks s with
          | [] => .error .cutShort
          | '\x7d' :: rest => .ok (gathered, rest)
          | ',' :: rest => moreMembers member fuel gathered (skipBlanks rest)
          | _ => .error .malformed
    else .error .malformed

/-- Folds over the members of an object, from behind its opening bracket. -/
def readObject {σ : Type}
    (member : σ → (name : String) → (behind : List Char) → Except Fault (σ × List Char))
    (start : σ) (s : List Char) : Except Fault (σ × List Char) :=
  match skipBlanks s with
  | [] => .error .cutShort
  | '\x7d' :: rest => .ok (start, rest)
  | s => moreMembers member s.length start s

/-- The value that a whole text holds. -/
def parse? {α : Type} (value : List Char → Except Fault (α × List Char)) (s : List Char) :
    Except Fault α :=
  match value (skipBlanks s) with
  | .error fault => .error fault
  | .ok (x, rest) => if (skipBlanks rest).isEmpty then .ok x else .error .malformed

/-! ## Writing -/

/-- Texts one behind the other, with a comma between two of them. -/
def separated : List (List Char) → List Char
  | [] => []
  | [part] => part
  | part :: more => part ++ ',' :: separated more

/-- An array of the given elements. -/
def writeArray (elements : List (List Char)) : List Char := '[' :: separated elements ++ [']']

/-- A member of an object. -/
def writeMember (name : String) (value : List Char) : List Char := writeText name ++ ':' :: value

/-- An object of the given members. -/
def writeObject (members : List (List Char)) : List Char :=
  '\x7b' :: separated members ++ ['\x7d']

end SealedChunk.Json
