import SealedChunk.Base64
import SealedChunk.Crypto.Mac
import SealedChunk.Text.Blank

/-!
# Signatures over attributes

A signature binds the canonical text of an attribute map to the circumstances in which it holds:
whose attributes they are, whether they are mutable, which signature they replace, and whether they
replace it at any rate.  All of it is joined into one text,

`id [":m"] ":" attributes [":" previous] [":force"]`

with the parts in brackets left out where they do not apply, and the signature is the Base64 text of
that text's tag.

* `SigningContext` — the circumstances.
* `SigningContext.signingText` — the text that is signed.
* `sign` and `verify` — making and checking a signature.  A signature that is no Base64 does not
  hold, like any other wrong one.
-/

namespace SealedChunk.Attribute

open Crypto

/-- One of the two attribute maps of a key. -/
inductive Slot where
  /-- The one that is fixed when the key is minted. -/
  | immutable
  /-- The one that can be replaced. -/
  | mutable
deriving DecidableEq, Repr

/-- How messages call a slot. -/
def Slot.label : Slot → String
  | .immutable => "attributes"
  | .mutable => "mutable attributes"

/-- The circumstances that a signature covers. -/
structure SigningContext where
  /-- The id of the key, or what stands for it until it is minted. -/
  id : String
  /-- Whether the attributes can be replaced. -/
  mutable : Bool := false
  /-- The signature of the attributes that are replaced. -/
  previous : Option String := none
  /-- Whether they are replaced even if they carry another signature by now. -/
  force : Bool := false
deriving DecidableEq, Repr

namespace SigningContext

/-- The circumstances of a slot that replaces nothing. -/
def ofSlot (slot : Slot) (id : String) : SigningContext :=
  { id, mutable := slot = .mutable }

/-- The text that is signed for some attributes. -/
def signingText (ctx : SigningContext) (attributes : String) : String :=
  ctx.id ++ (if ctx.mutable then ":m" else "") ++ ":" ++ attributes
    ++ (match ctx.previous with
      | some signature => ":" ++ signature
      | none => "")
    ++ (if ctx.force then ":force" else "")

end SigningContext

/-- The signature of some attributes. -/
def sign (ctx : SigningContext) (attributes : String) (secret : Bytes) : Except MacError String :=
  (Mac.tag secret (Bytes.ofText (ctx.signingText attributes))).map Base64.encode

/-- Whether a text is the signature of some attributes; blanks around it do not count. -/
def verify (ctx : SigningContext) (attributes : String) (secret : Bytes) (signature : String) :
    Except MacError Bool :=
  match Base64.decode? (Text.trim signature) with
  | none => .ok false
  | some tag => Mac.verify secret (Bytes.ofText (ctx.signingText attributes)) tag

end SealedChunk.Attribute
