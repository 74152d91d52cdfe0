import SealedChunk.Json.Codec
import SealedChunk.Json.Skip

/-!
# Records

A message is a structure whose fields travel under fixed names.  `Record` describes how: each field
says how a value for it is read into the structure, how its value is written, and whether it may be
absent.  Reading starts from a blank structure that holds the values of absent fields.

Written, a record is an object of its fields in their order; a field may leave itself out.  Read, it
is either such an object, in any order, or an array of the fields without their names.  In an object
unknown fields are skipped, a field may not occur twice, and every required field must occur by the
closing bracket.  An array may end early, in front of fields that are not required, and holds
nothing beyond the last field.

* `Field`, `Record` — the description.
* `Record.codec` — the codec that it describes.
-/

namespace SealedChunk.Json

/-- How one field of the structure `σ` travels. -/
structure Field (σ : Type) where
  name : String
  /-- Whether a record without the field is refused. -/
  required : Bool
  /-- The type of the field's values. -/
  Content : Type
  codec : Codec Content
  get : σ → Content
  set : Content → σ → σ
  /-- Whether a record with this value is written without the field. -/
  leaveOut : Content → Bool

namespace Field

variable {σ α : Type}

/-- A field that must be there. -/
def needed (name : String) (codec : Codec α) (get : σ → α) (set : α → σ → σ) : Field σ :=
  ⟨name, true, α, codec, get, set, fun _ => false⟩

/-- A field that may be absent but is always written. -/
def spare (name : String) (codec : Codec α) (get : σ → α) (set : α → σ → σ) : Field σ :=
  ⟨name, false, α, codec, get, set, fun _ => false⟩

/-- A field that may be absent, and is left out if its value is the one of absent fields. -/
def sparing (name : String) (codec : Codec α) (get : σ → α) (set : α → σ → σ)
    (leaveOut : α → Bool) : Field σ :=
  ⟨name, false, α, codec, get, set, leaveOut⟩

/-- Reads a value and stores it. -/
def read (field : Field σ) (levels : Nat) (record : σ) (s : List Char) :
    Except Fault (σ × List Char) :=
  (field.codec.read levels s).map fun p => (field.set p.1 record, p.2)

/-- Whether a record is written with the field. -/
def isWritten (field : Field σ) (record : σ) : Bool := !field.leaveOut (field.get record)

/-- The text of the field's value. -/
def write (field : Field σ) (record : σ) : List Char := field.codec.write (field.get record)

end Field

/-- How a structure travels. -/
structure Record (σ : Type) where
  /-- The structure before any field is read. -/
  blank : σ
  fields : List (Field σ)

namespace Record

variable {σ : Type}

/-! ## As an object -/

/-- Reads one member of an object into the record and notes its name. -/
def readMember (fields : List (Field σ)) (levels : Nat) (gathered : σ × List String) (name : String)
    (behind : List Char) : Except Fault ((σ × List String) × List Char) :=
  match fields.find? fun field => field.name == name with
  | none =>
    match skipColon behind with
    | .error fault => .error fault
    | .ok s => (skipValue s).map fun rest => (gathered, rest)
  | some field =>
    if name ∈ gathered.2 then .error .mismatch
    else
      match skipColon behind with
      | .error fault => .error fault
      | .ok s => (field.read levels gathered.1 s).map fun p => ((p.1, name :: gathered.2), p.2)

/-- Whether every required field is among the names. -/
def complete (fields : List (Field σ)) (names : List String) : Bool :=
  fields.all fun field => !field.required || names.contains field.name

/-- Reads an object, from behind its opening bracket. -/
def readObjectForm (record : Record σ) (levels : Nat) (s : List Char) :
    Except Fault (σ × List Char) :=
  match readObject (readMember record.fields levels) (record.blank, []) s with
  | .error fault => .error fault
  | .ok ((value, names), rest) =>
    if complete record.fields names then .ok (value, rest) else .error .mismatch

/-! ## As an array -/

/-- Reads the remaining fields of an array; `more` tells whether an element stands before them. -/
def readFields (levels : Nat) :
    (fields : List (Field σ)) → (more : Bool) → σ → List Char → Except Fault (σ × List Char)
  | [], _, value, s =>
    match skipBlanks s with
    | [] => .error .cutShort
    | ']' :: rest => .ok (value, rest)
    | _ => .error .malformed
  | field :: fields, more, value, s =>
    match skipBlanks s, more with
    | [], _ => .error .cutShort
    | ']' :: rest, _ =>
      if complete (field :: fields) [] then .ok (value, rest) else .error .mismatch
    | ',' :: rest, true =>
      match skipBlanks rest with
      | [] => .error .cutShort
      | ']' :: _ => .error .malformed
      | s => readElement fields field value s
    | _, true => .error .malformed
    | s, false => readElement fields field value s
where
  /-- Reads the next field, and then the others. -/
  readElement (fields : List (Field σ)) (field : Field σ) (value : σ) (s : List Char) :
      Except Fault (σ × List Char) :=
    match field.read levels value s with
    | .error fault => .error fault
    | .ok (value, rest) => readFields levels fields true value rest

/-! ## Both -/

/-- Reads a record in either form. -/
def read (record : Record σ) : (levels : Nat) → List Char → Except Fault (σ × List Char)
  | levels, '[' :: rest =>
    match levels with
    | 0 => .error .malformed
    | levels + 1 => readFields levels record.fields false record.blank rest
  | levels, s => Codec.behindBracket '\x7b' record.readObjectForm levels s

/-- Writes a record as an object. -/
def write (record : Record σ) (value : σ) : List Char :=
  writeObject <| (record.fields.filter (·.isWritten value)).map fun field =>
    writeMember field.name (field.write value)

/-- The codec of a record. -/
def codec (record : Record σ) : Codec σ := ⟨record.read, record.write⟩

end Record

end SealedChunk.Json
