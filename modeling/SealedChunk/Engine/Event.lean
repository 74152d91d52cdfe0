import SealedChunk.Engine.Findings

/-!
# Events

Operations report what they do as events.  An event has a level, a message, and fields with names;
successes and cancellations are for debugging, everything else is a warning.  Secrets, plaintexts
and sealed values never occur in an event.
-/

namespace SealedChunk.Engine

open Broker Attribute

/-- How much attention an event deserves. -/
inductive Level where
  | debug
  | warn
deriving DecidableEq

/-- The value of a field. -/
inductive FieldValue where
  | text (s : String)
  | integer (n : Int)
deriving DecidableEq

/-- Something that happened during an operation.  The first text is always a variant. -/
inductive Event where
  | chunkEncrypted (variant keyId : String)
  | chunkDecrypted (variant keyId : String)
  | keysFetched (variant externalId : String) (keys : Nat)
  | bodyNotBase64 (variant keyId : String)
  | otherKeyReturned (variant keyId returned : String)
  | chunkRefused (variant keyId : String)
  | signatureRefused (variant keyId : String) (slot : Slot) (status : SignatureStatus)
  | attributeUnopened (variant keyId name reason : String)
  | callCancelled (variant : String)
  | callTimedOut (variant : String) (bound : Duration)
  | callFailed (variant reason : String)
  | noKeysReturned (variant : String) (keyId : Option String)
  | conditionReported (variant : String) (keyId : Option String) (condition : Condition)
deriving DecidableEq

/-- How events call a signature status. -/
def statusName : SignatureStatus → String
  | .valid => "Valid"
  | .invalid => "Invalid"
  | .missing => "Missing"

namespace Event

/-- The level of an event. -/
def level : Event → Level
  | .chunkEncrypted .. => .debug
  | .chunkDecrypted .. => .debug
  | .keysFetched .. => .debug
  | .callCancelled .. => .debug
  | _ => .warn

/-- The message of an event. -/
def message : Event → String
  | .chunkEncrypted .. => "chunk encrypted"
  | .chunkDecrypted .. => "chunk decrypted"
  | .keysFetched .. => "keys fetched by external id"
  | .bodyNotBase64 .. => "ciphertext body is not canonical base64"
  | .otherKeyReturned .. => "broker returned a different key"
  | .chunkRefused .. => "chunk failed authentication"
  | .signatureRefused .. => "key attribute signature did not verify"
  | .attributeUnopened .. => "protected attribute did not open"
  | .callCancelled .. => "broker call cancelled"
  | .callTimedOut .. => "broker call timed out"
  | .callFailed .. => "broker call failed"
  | .noKeysReturned .. => "broker returned no keys"
  | .conditionReported .. => "broker reported an error condition"

/-- A field for the failure that an event leads to. -/
def codeField (code : String) : String × FieldValue := ("error_code", .text code)

/-- The fields of an event beyond its message. -/
def fields : Event → List (String × FieldValue)
  | .chunkEncrypted variant keyId => [("variant", .text variant), ("key_id", .text keyId)]
  | .chunkDecrypted variant keyId => [("variant", .text variant), ("key_id", .text keyId)]
  | .keysFetched variant externalId keys =>
    [("variant", .text variant), ("external_id", .text externalId), ("keys", .integer keys)]
  | .bodyNotBase64 variant keyId =>
    [("variant", .text variant), ("key_id", .text keyId), codeField "decryption_failed"]
  | .otherKeyReturned variant keyId returned =>
    [("variant", .text variant), ("key_id", .text keyId), ("returned", .text returned),
     codeField "protocol_violation"]
  | .chunkRefused variant keyId =>
    [("variant", .text variant), ("key_id", .text keyId), codeField "decryption_failed"]
  | .signatureRefused variant keyId slot status =>
    [("variant", .text variant), ("key_id", .text keyId), ("slot", .text slot.label),
     ("status", .text (statusName status)), codeField "attribute_integrity"]
  | .attributeUnopened variant keyId name reason =>
    [("variant", .text variant), ("key_id", .text keyId), ("attribute", .text name),
     ("error", .text reason), codeField "protected_attribute"]
  | .callCancelled variant => [("variant", .text variant)]
  | .callTimedOut variant bound =>
    [("variant", .text variant), ("timeout", .text bound.render), codeField "timeout"]
  | .callFailed variant reason =>
    [("variant", .text variant), ("error", .text reason), codeField "broker_unavailable"]
  | .noKeysReturned variant keyId =>
    [("variant", .text variant), ("key_id", .text (keyId.getD "")), codeField "key_denied"]
  | .conditionReported variant keyId condition =>
    [("variant", .text variant), ("key_id", .text (keyId.getD "")),
     ("broker_code", .integer condition.code.toInt), ("broker_message", .text condition.message)]

end Event

end SealedChunk.Engine
