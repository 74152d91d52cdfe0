import SealedChunk.Attribute.Map
import SealedChunk.Key.Secret

/-!
# Keys

A key as a broker issued it, with its attributes in the clear.  Signatures and obligations are kept
as they arrived.
-/

namespace SealedChunk

/-- What the holder of a key has to observe, under names that brokers choose. -/
abbrev Obligations := SortedMap Json.Value

/-- A key that a broker issued. -/
structure Key where
  id : String
  secret : Secret
  attributes : AttributeMap := .empty
  mutableAttributes : AttributeMap := .empty
  obligations : Obligations := .empty
  /-- The signature over the attributes, as it arrived. -/
  signature : Option String := none
  /-- The signature over the mutable attributes, as it arrived. -/
  mutableSignature : Option String := none
  origin : String := ""

end SealedChunk
