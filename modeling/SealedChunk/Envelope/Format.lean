import SealedChunk.Decimal.Digits
import SealedChunk.Envelope.Padding
import SealedChunk.Envelope.Variant

/-!
# Writing, reading and recognising envelopes

An envelope is read from the left: the key tag, then everything up to the first `bodyStart` is the
key id, then everything up to the first `bodyEnd` is the ciphertext, and that must be all.  So a key
id is fit for a variant only if the first tokens a reader finds are the ones that were written.

* `encode` — writes an envelope, or says why the key id is not fit.
* `decode` — reads one, or says what is missing.
* `classify` — where an envelope keeps its parts, for a text that is one; it looks at the tokens
  only.
* `classifyAny` — the first of several variants that recognises a text.
-/

namespace SealedChunk.Envelope

/-- What an envelope holds: a key id, and a ciphertext as Base64 with its padding. -/
structure Parts where
  keyId : String
  base64 : String
deriving DecidableEq, Repr

/-- Why an envelope could not be written or read. -/
inductive EnvelopeError where
  | emptyKeyId
  | delimiterInKeyId (token : String)
  | missingKeyTag
  | missingBodyStart
  | missingBodyEnd
  /-- Bytes behind the end of the envelope. -/
  | trailing (bytes : Nat)
deriving DecidableEq, Repr

/-- The text of the error. -/
def EnvelopeError.message : EnvelopeError → String
  | .emptyKeyId => "key id must not be empty"
  | .delimiterInKeyId token => "key id contains the delimiter " ++ Text.quoted token
  | .missingKeyTag => "envelope does not start with the key tag"
  | .missingBodyStart => "ciphertext start delimiter not found after the key tag"
  | .missingBodyEnd => "ciphertext end delimiter not found after the ciphertext start"
  | .trailing bytes =>
    Decimal.text bytes ++ " unexpected bytes after the ciphertext end delimiter"

/-! ## Writing -/

/-- An envelope's text behind the key tag. -/
def behindKeyTag (v : Variant) (keyId base64 : List Char) : List Char :=
  keyId ++ (v.bodyStart.toList ++ (stripPadding base64 ++ v.bodyEnd.toList))

/-- Writes an envelope.  A key id that holds a token is not fit, and neither is one whose end and
the token behind it make up an earlier `bodyStart`. -/
def encode (v : Variant) (keyId base64 : String) : Except EnvelopeError String :=
  if keyId.isEmpty then .error .emptyKeyId
  else
    match v.delimiters.find? fun token => Text.contains token.toList keyId.toList with
    | some token => .error (.delimiterInKeyId token)
    | none =>
      let behind := behindKeyTag v keyId.toList base64.toList
      match Text.cut v.bodyStart.toList behind with
      | some (before, _) =>
        if before = keyId.toList then .ok (v.keyTag ++ String.ofList behind)
        else .error (.delimiterInKeyId v.bodyStart)
      | none => .error (.delimiterInKeyId v.bodyStart)

/-! ## Reading -/

/-- Reads an envelope. -/
def decode (v : Variant) (envelope : String) : Except EnvelopeError Parts :=
  match Text.stripStart v.keyTag.toList envelope.toList with
  | none => .error .missingKeyTag
  | some rest =>
    match Text.cut v.bodyStart.toList rest with
    | none => .error .missingBodyStart
    | some (keyId, rest) =>
      match Text.cut v.bodyEnd.toList rest with
      | none => .error .missingBodyEnd
      | some (body, rest) =>
        if rest ≠ [] then .error (.trailing (Text.utf8Length rest))
        else if keyId = [] then .error .emptyKeyId
        else .ok ⟨String.ofList keyId, String.ofList (restorePadding body)⟩

/-! ## Recognising -/

/-- Where an envelope keeps its parts, in bytes. -/
structure ChunkInfo where
  variant : Variant
  keyId : String
  /-- Where the ciphertext without padding begins. -/
  offset : Nat
  length : Nat
deriving DecidableEq, Repr

/-- Recognises an envelope.  The text must be long enough for the tokens, begin with the first and
end with the last, and the first `bodyEnd` behind the first `bodyStart` must be the one at the
end. -/
def classify (v : Variant) (data : String) : Option ChunkInfo :=
  let text := data.toList
  let tag := v.keyTag.toList
  let start := v.bodyStart.toList
  if text.isEmpty || Text.utf8Length text < v.delimiterLength then none
  else if !Text.startsWith tag text || !Text.endsWith v.bodyEnd.toList text then none
  else do
    let rest ← Text.stripStart tag text
    let (keyId, rest) ← Text.cut start rest
    let (body, rest) ← Text.cut v.bodyEnd.toList rest
    if rest.isEmpty then
      some { variant := v, keyId := String.ofList keyId,
             offset := Text.utf8Length tag + Text.utf8Length keyId + Text.utf8Length start,
             length := Text.utf8Length body }
    else none

/-- What the first variant that recognises the text says. -/
def classifyAny (variants : List Variant) (data : String) : Option ChunkInfo :=
  variants.findSome? fun v => classify v data

end SealedChunk.Envelope
