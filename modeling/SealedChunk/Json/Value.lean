import SealedChunk.Json.Collection
import SealedChunk.OrderedMap
import SealedChunk.SortedMap

/-!
# Values of any shape

The obligations that come with a key have no fixed shape, so they are kept as JSON values.  The
members of an object are kept in ascending order of their names, and the last of two members with
one name counts.  Nesting is limited: a reader is told how many brackets may still be opened.

* `Value` — a JSON value.
* `Value.read` and `Value.write` — the two directions.
* `Value.members` — the members of an object.
-/

namespace SealedChunk.Json

/-- A JSON value. -/
inductive Value where
  | null
  | flag (b : Bool)
  | number (n : Number)
  | text (s : String)
  | array (elements : List Value)
  | object (members : List (String × Value))

instance : Inhabited Value := ⟨.null⟩

namespace Value

/-! ## Reading -/

/-- A value without parts. -/
def readScalar : List Char → Except Fault (Value × List Char)
  | [] => .error .cutShort
  | c :: rest =>
    if c = '"' then (readText rest).map fun p => (.text p.1, p.2)
    else if c = 'n' then (readNull (c :: rest)).map (.null, ·)
    else if c = 't' || c = 'f' then (readFlag (c :: rest)).map fun p => (.flag p.1, p.2)
    else if beginsNumber c then (readNumber (c :: rest)).map fun p => (.number p.1, p.2)
    else .error .malformed

/-- Adds a member to the members of an object. -/
def readMember (value : List Char → Except Fault (Value × List Char))
    (members : List (String × Value)) (name : String) (behind : List Char) :
    Except Fault (List (String × Value) × List Char) :=
  match skipColon behind with
  | .error fault => .error fault
  | .ok s => (value s).map fun p => (insertSorted name p.1 members, p.2)

/-- A value that opens no more than `levels` brackets inside each other. -/
def read : (levels : Nat) → List Char → Except Fault (Value × List Char)
  | 0, s =>
    match s with
    | '[' :: _ => .error .malformed
    | '\x7b' :: _ => .error .malformed
    | s => readScalar s
  | levels + 1, s =>
    match s with
    | '[' :: rest => (readArray (read levels) rest).map fun p => (.array p.1, p.2)
    | '\x7b' :: rest =>
      (readObject (readMember (read levels)) [] rest).map fun p => (.object p.1, p.2)
    | s => readScalar s

/-! ## Writing -/

mutual

/-- The compact text of a value. -/
def write : Value → List Char
  | .null => ['n', 'u', 'l', 'l']
  | .flag true => ['t', 'r', 'u', 'e']
  | .flag false => ['f', 'a', 'l', 's', 'e']
  | .number n => n.write
  | .text s => writeText s
  | .array elements => writeArray (writeElements elements)
  | .object members => writeObject (writeMembers members)

/-- The texts of some values. -/
def writeElements : List Value → List (List Char)
  | [] => []
  | v :: more => write v :: writeElements more

/-- The texts of the members of an object. -/
def writeMembers : List (String × Value) → List (List Char)
  | [] => []
  | (name, v) :: more => writeMember name (write v) :: writeMembers more

end

/-! ## Looking inside -/

/-- The members of an object; a value of another kind has none. -/
def members : Value → List (String × Value)
  | .object members => members
  | _ => []

/-- The member of a name, if the value is an object that has one. -/
def find? (v : Value) (name : String) : Option Value := findEntry? name v.members

end Value

end SealedChunk.Json
