import SealedChunk.Engine.Event
import SealedChunk.Envelope.Variant

/-!
# Opening what a broker returned

A response holds key records with their attributes closed.  Opening a record checks both signatures
and opens the protected values, all under the record's own secret.  Only a secret that is none, or
attributes that are no attribute map, make a record useless; the rest becomes findings.

* `openKey` — one record.
* `openAll` — all records of a response, up to the first that is useless.
* `conditionOf` — the condition that came with a response.
-/

namespace SealedChunk.Engine

open Broker Attribute Envelope

/-- A response made no sense. -/
def malformed (v : Variant) (keyId reason : String) : Failure :=
  .malformedResponse v.id keyId reason

/-- The events for what was found in one slot. -/
def slotEvents (v : Variant) (keyId : String) (slot : Slot) (decoded : DecodedSlot) : List Event :=
  (if decoded.status = .valid then [] else [.signatureRefused v.id keyId slot decoded.status])
    ++ decoded.unopened.map fun u => .attributeUnopened v.id keyId u.error.name u.error.message

/-- A key that was opened, with what was found. -/
structure OpenedKey where
  key : Key
  findings : Findings
  events : List Event

/-- Opens a slot of a record. -/
def openSlot (v : Variant) (keyId : String) (secret : Secret) (slot : Slot)
    (signed : SignedAttributes) : Except Failure DecodedSlot :=
  (decodeSlot signed secret.bytes (.ofSlot slot keyId)).mapError fun e =>
    malformed v keyId e.message

/-- Opens a record. -/
def openKey (v : Variant) (record : KeyRecord) : Except Failure OpenedKey := do
  let secret ← (Secret.ofBase64 record.secret).mapError fun e => malformed v record.id e.message
  let fixed ← openSlot v record.id secret .immutable record.attributes
  let current ← openSlot v record.id secret .mutable record.mutableAttributes
  .ok
    { key :=
        { id := record.id, secret, attributes := fixed.attributes,
          mutableAttributes := current.attributes, obligations := record.obligations,
          signature := fixed.signature, mutableSignature := current.signature,
          origin := record.origin }
      findings := (Findings.addSlot {} .immutable fixed).addSlot .mutable current
      events :=
        slotEvents v record.id .immutable fixed ++ slotEvents v record.id .mutable current }

/-- A key that was found by an external id, with what was found on opening it. -/
structure FetchedKey where
  key : Key
  findings : Findings

/-- Opens records one after the other, up to the first that is useless. -/
def openAll (v : Variant) : List KeyRecord → Except Failure (List FetchedKey) × List Event
  | [] => (.ok [], [])
  | record :: rest =>
    match openKey v record with
    | .error failure => (.error failure, [])
    | .ok opened =>
      let others := openAll v rest
      (others.1.map (⟨opened.key, opened.findings⟩ :: ·), opened.events ++ others.2)

/-- The condition that came with a response to a request for a key, and the event for it. -/
def conditionOf (v : Variant) (keyId : Option String) (response : KeysResponse) :
    Option Condition × List Event :=
  if response.isOk then (none, [])
  else
    match response.conditionFor keyId with
    | none => (none, [])
    | some condition => (some condition, [.conditionReported v.id keyId condition])

end SealedChunk.Engine
