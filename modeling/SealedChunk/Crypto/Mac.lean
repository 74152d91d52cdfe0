import SealedChunk.Crypto.Sha256

/-!
# Keyed tags

A tag shows that whoever computed it knew the key: HMAC with SHA-256.  Keys may have any length, but
an empty key authenticates nothing and is refused.

* `Mac.tag` — the tag of a message under a key.
* `Mac.verify` — whether some bytes are that tag.
-/

namespace SealedChunk.Crypto

/-- Why there is no tag. -/
inductive MacError where
  | emptyKey
deriving DecidableEq, Repr

/-- The text of the error. -/
def MacError.message : MacError → String
  | .emptyKey => "mac key must not be empty"

namespace Mac

/-- The key as a row of 64 bytes: a longer key is hashed, a shorter one filled up with zeros. -/
def rowOfKey (key : Bytes) : Bytes :=
  let short := if 64 < key.length then sha256 key else key
  short ++ List.replicate (64 - short.length) 0

/-- The tag of a message under a key of any length. -/
def hmac (key message : Bytes) : Bytes :=
  let row := rowOfKey key
  let inner := sha256 (row.map (· ^^^ 0x36) ++ message)
  sha256 (row.map (· ^^^ 0x5c) ++ inner)

/-- The tag of a message. -/
def tag (key message : Bytes) : Except MacError Bytes :=
  if key.isEmpty then .error .emptyKey else .ok (hmac key message)

/-- Whether `candidate` is the tag of the message; bytes of another length never are. -/
def verify (key message candidate : Bytes) : Except MacError Bool :=
  (tag key message).map (· == candidate)

end Mac

end SealedChunk.Crypto
