import SealedChunk.Broker.Message
import SealedChunk.Text.Quoted

/-!
# How a log shows a key record

A key record may end up in a log, so there is a form of it that shows everything but the secret.  It
names each field and quotes each text; obligations are shown with the kind of each value.
-/

namespace SealedChunk.Broker

open Json Attribute

/-- A list of texts with commas between them. -/
def listed (parts : List String) : String := String.intercalate ", " parts

mutual

/-- How a log shows a value. -/
def showValue : Value → String
  | .null => "Null"
  | .flag b => "Bool(" ++ (if b then "true" else "false") ++ ")"
  | .number n => "Number(" ++ String.ofList n.write ++ ")"
  | .text s => "String(" ++ Text.quoted s ++ ")"
  | .array elements => "Array [" ++ listed (showElements elements) ++ "]"
  | .object members => "Object \x7b" ++ listed (showMembers members) ++ "\x7d"

/-- How a log shows the elements of an array. -/
def showElements : List Value → List String
  | [] => []
  | v :: more => showValue v :: showElements more

/-- How a log shows the members of an object. -/
def showMembers : List (String × Value) → List String
  | [] => []
  | (name, v) :: more => (Text.quoted name ++ ": " ++ showValue v) :: showMembers more

end

/-- A structure with its name, and its fields with theirs. -/
def showStructure (name : String) (fields : List (String × String)) : String :=
  name ++ " \x7b " ++ listed (fields.map fun field => field.1 ++ ": " ++ field.2) ++ " \x7d"

/-- How a log shows signed attributes. -/
def showSigned (s : SignedAttributes) : String :=
  showStructure "SignedAttributes" [
    ("attrs", Text.quoted s.text),
    ("sig", match s.signature with
      | some signature => "Some(" ++ Text.quoted signature ++ ")"
      | none => "None")]

/-- How a log shows a key record: without its secret. -/
def KeyRecord.redacted (r : KeyRecord) : String :=
  showStructure "KeyRecord" [
    ("id", Text.quoted r.id),
    ("secret", Text.quoted "[REDACTED]"),
    ("ref_id", Text.quoted r.ref),
    ("attributes", showSigned r.attributes),
    ("mutable_attributes", showSigned r.mutableAttributes),
    ("obligations", "\x7b" ++ listed (showMembers r.obligations.entries) ++ "\x7d"),
    ("origin", Text.quoted r.origin)]

end SealedChunk.Broker
