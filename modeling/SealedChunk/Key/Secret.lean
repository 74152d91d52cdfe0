import SealedChunk.Base64
import SealedChunk.Crypto.Sealed
import SealedChunk.Text.Blank

/-!
# Secrets

The secret of a key is 32 bytes, and so is the secret that a client shares with its broker.  The
length is part of the type, so whatever has a secret can seal and sign with it.

* `Secret.ofBytes`, `Secret.ofBase64` — from bytes and from text.
* `Secret.toBase64` — the way back.
-/

namespace SealedChunk

/-- Key material of the right length. -/
structure Secret where
  bytes : Bytes
  length_eq : bytes.length = Crypto.keyLength
deriving DecidableEq

/-- Why something is no secret. -/
inductive SecretError where
  | invalidLength (length : Nat)
  | invalidBase64
deriving DecidableEq, Repr

/-- The text of the error. -/
def SecretError.message : SecretError → String
  | .invalidLength n =>
    "key secret has invalid length: expected " ++ Decimal.text Crypto.keyLength ++ " bytes, got "
      ++ Decimal.text n
  | .invalidBase64 => "key secret is not valid base64"

namespace Secret

/-- The secret of some bytes. -/
def ofBytes (bytes : Bytes) : Except SecretError Secret :=
  if h : bytes.length = Crypto.keyLength then .ok ⟨bytes, h⟩
  else .error (.invalidLength bytes.length)

/-- The secret that a text spells; blanks around it do not count. -/
def ofBase64 (text : String) : Except SecretError Secret :=
  match Base64.decode? (Text.trim text) with
  | some bytes => ofBytes bytes
  | none => .error .invalidBase64

/-- The spelling of a secret. -/
def toBase64 (secret : Secret) : String := Base64.encode secret.bytes

/-- What a log shows of a secret: nothing. -/
def redacted : String := "KeySecret([REDACTED])"

end Secret

end SealedChunk
