import SealedChunk.Broker.Message
import SealedChunk.Duration

/-!
# How an operation fails

Every operation of the engine fails in one of eleven ways.  Each has a short code for logs and
metrics, a text for people, and an answer to the question whether it may help to try again.  Nothing
is tried again without being asked.
-/

namespace SealedChunk.Engine

open Broker Attribute

/-- How an operation failed. -/
inductive Failure where
  /-- The caller made a mistake. -/
  | invalidInput (reason : String)
  /-- The text is no envelope of the variant. -/
  | malformedEnvelope (variant reason : String)
  /-- The broker returned no keys. -/
  | keyDenied (variant : String) (keyId : Option String) (condition : Option Condition)
  /-- The broker returned another key than the one requested. -/
  | protocolViolation (variant requested returned : String)
  /-- The broker returned a key that makes no sense. -/
  | malformedResponse (variant keyId reason : String)
  /-- A signature over the attributes of the key does not hold. -/
  | attributeIntegrity (variant keyId : String) (slot : Slot)
  /-- A protected attribute of the key does not open. -/
  | protectedAttribute (keyId name : String)
  /-- The payload does not open under the key. -/
  | decryptionFailed (variant keyId : String)
  /-- The broker could not be reached. -/
  | brokerUnavailable (reason : String)
  /-- The broker took too long. -/
  | timeout (bound : Duration)
  /-- The caller called the operation off. -/
  | cancelled
deriving DecidableEq

namespace Failure

/-- A short code. -/
def code : Failure → String
  | .invalidInput .. => "invalid_input"
  | .malformedEnvelope .. => "malformed_envelope"
  | .keyDenied .. => "key_denied"
  | .protocolViolation .. => "protocol_violation"
  | .malformedResponse .. => "malformed_response"
  | .attributeIntegrity .. => "attribute_integrity"
  | .protectedAttribute .. => "protected_attribute"
  | .decryptionFailed .. => "decryption_failed"
  | .brokerUnavailable .. => "broker_unavailable"
  | .timeout .. => "timeout"
  | .cancelled => "cancelled"

/-- A text for people. -/
def message : Failure → String
  | .invalidInput reason => "invalid input: " ++ reason
  | .malformedEnvelope variant reason => "malformed " ++ variant ++ " envelope: " ++ reason
  | .keyDenied variant keyId condition =>
    "key denied by broker (" ++ variant ++ ", key " ++ keyId.getD "<new>" ++ ")"
      ++ (match condition with
        | some c => ": " ++ c.render
        | none => "")
  | .protocolViolation variant requested returned =>
    "broker returned key " ++ returned ++ " when " ++ requested ++ " was requested (" ++ variant
      ++ ")"
  | .malformedResponse variant keyId reason =>
    "malformed broker response for key " ++ keyId ++ " (" ++ variant ++ "): " ++ reason
  | .attributeIntegrity variant keyId slot =>
    slot.label ++ " signature mismatch on key " ++ keyId ++ " (" ++ variant ++ ")"
  | .protectedAttribute keyId name =>
    "protected attribute " ++ name ++ " on key " ++ keyId ++ " failed authentication"
  | .decryptionFailed variant keyId =>
    "decryption failed under key " ++ keyId ++ " (" ++ variant ++ ")"
  | .brokerUnavailable reason => "key broker unavailable: " ++ reason
  | .timeout bound => "key broker call timed out after " ++ bound.render
  | .cancelled => "operation cancelled"

/-- Whether trying again may help. -/
def mayRetry : Failure → Bool
  | .keyDenied .. => true
  | .brokerUnavailable .. => true
  | .timeout .. => true
  | _ => false

end Failure

end SealedChunk.Engine
