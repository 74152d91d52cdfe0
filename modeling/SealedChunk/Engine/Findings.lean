import SealedChunk.Engine.Failure

/-!
# What was found on opening a key

A key whose attributes are not as they should be can still be used.  What was found is kept for the
caller: the slots whose signature does not hold, and the protected attributes that did not open.
Each finding can be made into the failure that it would be to a strict engine.
-/

namespace SealedChunk.Engine

open Attribute

/-- A protected attribute that did not open, and why. -/
structure UnopenedAttribute where
  name : String
  /-- The values as they arrived. -/
  values : List String
  reason : String
deriving DecidableEq

/-- What was found on opening a key. -/
structure Findings where
  /-- The slots whose signature does not hold or is missing. -/
  failedSlots : List Slot := []
  unopened : List UnopenedAttribute := []
deriving DecidableEq

namespace Findings

/-- Whether there is nothing to report. -/
def isClean (f : Findings) : Bool := f.failedSlots.isEmpty && f.unopened.isEmpty

/-- A failure for each slot. -/
def integrityFailures (f : Findings) (variant keyId : String) : List Failure :=
  f.failedSlots.map fun slot => .attributeIntegrity variant keyId slot

/-- A failure for each attribute. -/
def protectedFailures (f : Findings) (keyId : String) : List Failure :=
  f.unopened.map fun u => .protectedAttribute keyId u.name

/-- Adds the findings of one slot. -/
def addSlot (f : Findings) (slot : Slot) (decoded : DecodedSlot) : Findings :=
  { failedSlots := f.failedSlots ++ (if decoded.status = .valid then [] else [slot])
    unopened := f.unopened ++ decoded.unopened.map fun u =>
      ⟨u.error.name, u.values, u.error.message⟩ }

end Findings

end SealedChunk.Engine
