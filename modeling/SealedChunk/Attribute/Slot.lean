import SealedChunk.Attribute.Protected
import SealedChunk.Attribute.Signature

/-!
# Slots on their way

On its way an attribute map is a text and a signature over that text.  Outbound, protected values
are sealed, the map is written as canonical text, and the text is signed.  Inbound, the signature is
checked over the text exactly as it arrived, then the text is read, and then protected values are
opened.

Only text that is no attribute map stops an inbound slot.  A signature that does not hold and values
that do not open are part of the result, for the caller to judge.

* `SignedAttributes` — a slot on its way.
* `encodeSlot` — outbound.
* `decodeSlot` — inbound, with a `DecodedSlot` as its result.
-/

namespace SealedChunk.Attribute

open Crypto

/-- Attributes as text, with the signature over that text. -/
structure SignedAttributes where
  text : String := ""
  signature : Option String := none
deriving DecidableEq, Repr

/-- Why a slot could not be encoded or decoded. -/
inductive SlotError where
  | protect (error : ProtectError)
  | signature (error : MacError)
  /-- The text is no attribute map. -/
  | malformed (fault : Json.Fault)
deriving DecidableEq, Repr

/-- The text of the error. -/
def SlotError.message : SlotError → String
  | .protect error => error.message
  | .signature error => error.message
  | .malformed _ => "attribute payload is not a JSON object of string arrays"

/-- What the signature of a slot turned out to be. -/
inductive SignatureStatus where
  | valid
  | invalid
  /-- There was none. -/
  | missing
deriving DecidableEq, Repr

/-- A slot that arrived, opened and checked. -/
structure DecodedSlot where
  /-- The attributes; protected ones that did not open are absent. -/
  attributes : AttributeMap
  /-- The signature as it arrived. -/
  signature : Option String
  status : SignatureStatus
  /-- The protected attributes that did not open. -/
  unopened : List Unopened

/-- Seals the protected values of a map under `sealKey`, and signs its text under `signKey`. -/
def encodeSlot (m : AttributeMap) (sealKey signKey : Bytes) (ctx : SigningContext) :
    Drawing SlotError SignedAttributes := do
  let closed ← (sealMap m sealKey ctx.id).mapError .protect
  let text := closed.canonical
  let signature ← .lift ((sign ctx text signKey).mapError .signature)
  pure { text, signature := some signature }

/-- What the signature of a slot is worth. -/
def signatureStatus (slot : SignedAttributes) (secret : Bytes) (ctx : SigningContext) :
    Except MacError SignatureStatus :=
  match slot.signature with
  | none => .ok .missing
  | some signature =>
    (verify ctx slot.text secret signature).map fun holds => if holds then .valid else .invalid

/-- Checks and opens a slot of the key with the id of the context. -/
def decodeSlot (slot : SignedAttributes) (secret : Bytes) (ctx : SigningContext) :
    Except SlotError DecodedSlot := do
  let status ← (signatureStatus slot secret ctx).mapError .signature
  let closed ← (AttributeMap.parse slot.text).mapError .malformed
  let opened := openMap closed secret ctx.id
  .ok { attributes := opened.attributes, signature := slot.signature, status,
        unopened := opened.unopened }

end SealedChunk.Attribute
