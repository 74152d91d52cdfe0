import SealedChunk.Attribute.Map
import SealedChunk.Base64
import SealedChunk.Crypto.Sealed
import SealedChunk.Text.Cut

/-!
# Protected attributes

The values of some attributes leave the program only sealed: those of `integrity-hash` and of every
name that begins with `protected-`.  Their canonical text is sealed under the key that owns them,
with the owner's id as associated data, and travels as a single Base64 text in place of the values.

* `isProtected` — which names those are.
* `protect` and `unprotect` — one value list.
* `sealMap` — a map with every protected value list sealed.
* `openMap` — the way back.  A value list that does not open is set aside, still sealed, and the
  others are opened all the same.
-/

namespace SealedChunk.Attribute

open Crypto

/-- What names of protected attributes begin with. -/
def protectedStart : String := "protected-"

/-- A protected name of its own. -/
def integrityHash : String := "integrity-hash"

/-- Whether the values of an attribute are sealed. -/
def isProtected (name : String) : Bool :=
  name == integrityHash || Text.startsWith protectedStart.toList name.toList

/-! ## Faults -/

/-- What is wrong with a protected value list. -/
inductive ProtectCause where
  /-- The attribute is none whose values are sealed. -/
  | notProtected
  /-- The value list is not one Base64 text, or it does not hold a list of values. -/
  | malformed
  /-- It could not be sealed or opened. -/
  | cipher (error : SealError)
deriving DecidableEq, Repr

/-- What is wrong with a protected value list, and which attribute it belongs to. -/
structure ProtectError where
  name : String
  cause : ProtectCause
deriving DecidableEq, Repr

/-- The text of the error. -/
def ProtectError.message (e : ProtectError) : String :=
  match e.cause with
  | .notProtected => "attribute " ++ e.name ++ " is not a protected attribute"
  | .malformed => "protected attribute " ++ e.name ++ " must carry exactly one sealed value"
  | .cipher error => "protected attribute " ++ e.name ++ " failed to open: " ++ error.message

/-! ## One attribute -/

/-- Seals the values of a protected attribute. -/
def protect (name : String) (values : List String) (key : Bytes) (owner : String) :
    Drawing ProtectError (List String) :=
  if isProtected name then do
    let body ← (sealBytes (Bytes.ofText (canonicalValues values)) key (Bytes.ofText owner)).mapError
      fun e => ⟨name, .cipher e⟩
    pure [Base64.encode body]
  else .lift (.error ⟨name, .notProtected⟩)

/-- Opens the sealed values of an attribute. -/
def unprotect (name : String) (values : List String) (owner : String) (key : Bytes) :
    Except ProtectError (List String) :=
  match values with
  | [spelling] =>
    match Base64.decode? spelling with
    | none => .error ⟨name, .malformed⟩
    | some body =>
      match openSealed body key (Bytes.ofText owner) with
      | .error e => .error ⟨name, .cipher e⟩
      | .ok plain =>
        match Bytes.toText? plain with
        | none => .error ⟨name, .malformed⟩
        | some text => (valuesCodec.decode text).mapError fun _ => ⟨name, .malformed⟩
  | _ => .error ⟨name, .malformed⟩

/-! ## A whole map -/

/-- Seals the values of an entry if its attribute is protected. -/
def sealEntry (key : Bytes) (owner : String) (entry : String × List String) :
    Drawing ProtectError (String × List String) :=
  if isProtected entry.1 then do
    let values ← protect entry.1 entry.2 key owner
    pure (entry.1, values)
  else pure entry

/-- Seals entries one after the other. -/
def sealEntries (key : Bytes) (owner : String) :
    List (String × List String) → Drawing ProtectError (List (String × List String))
  | [] => pure []
  | entry :: rest => do
    let entry ← sealEntry key owner entry
    let rest ← sealEntries key owner rest
    pure (entry :: rest)

/-- The map with every protected value list sealed. -/
def sealMap (m : AttributeMap) (key : Bytes) (owner : String) :
    Drawing ProtectError AttributeMap := do
  let entries ← sealEntries key owner m.entries
  pure (.ofList entries)

/-- A value list that did not open. -/
structure Unopened where
  /-- The values as they arrived. -/
  values : List String
  error : ProtectError
deriving DecidableEq, Repr

/-- Opens an entry if its attribute is protected. -/
def openEntry (key : Bytes) (owner : String) (entry : String × List String) :
    Except Unopened (String × List String) :=
  if isProtected entry.1 then
    match unprotect entry.1 entry.2 owner key with
    | .ok values => .ok (entry.1, values)
    | .error e => .error ⟨entry.2, e⟩
  else .ok entry

/-- A map with its protected values opened. -/
structure Opened where
  /-- The attributes that are not protected or that opened. -/
  attributes : AttributeMap
  /-- The others. -/
  unopened : List Unopened

/-- Opens every protected value list that can be opened. -/
def openMap (m : AttributeMap) (key : Bytes) (owner : String) : Opened :=
  let outcomes := m.entries.map (openEntry key owner)
  { attributes := .ofList <| outcomes.filterMap fun outcome =>
      match outcome with
      | .ok entry => some entry
      | .error _ => none
    unopened := outcomes.filterMap fun outcome =>
      match outcome with
      | .ok _ => none
      | .error unopened => some unopened }

end SealedChunk.Attribute
