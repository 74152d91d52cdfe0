import SealedChunk.Crypto.GcmSiv
import SealedChunk.Crypto.Nonce
import SealedChunk.Decimal.Digits

/-!
# Sealed bytes

Payloads and protected attribute values are sealed with AES-256-GCM-SIV.  A sealed value holds all
that is needed to open it but the key and the associated data: a nonce of 12 bytes, the ciphertext,
and a tag of 16 bytes.

* `sealBytes` — seals bytes with the next nonce.
* `sealWith` — the same with a given nonce.
* `openSealed` — opens a sealed value.
* **`openSealed_sealWith`** — opening undoes sealing.
-/

namespace SealedChunk.Crypto

/-- How many bytes a key has. -/
def keyLength : Nat := 32

/-- How many bytes a sealed value holds beyond what it seals: a nonce and a tag. -/
def sealOverhead : Nat := 28

/-- Why sealing or opening failed. -/
inductive SealError where
  /-- The key has another length than it should. -/
  | keyLength (length : Nat)
  /-- The sealed value is too short to hold a nonce and a tag. -/
  | truncated (length : Nat)
  /-- What is to be sealed is too long, or the tag is wrong. -/
  | refused
deriving DecidableEq, Repr

/-- The text of the error. -/
def SealError.message : SealError → String
  | .keyLength n =>
    "invalid key length: expected " ++ Decimal.text Crypto.keyLength ++ " bytes, got "
      ++ Decimal.text n
  | .truncated n => "sealed data truncated: " ++ Decimal.text n ++ " bytes"
  | .refused => "aead operation failed"

/-- The sealed value of a plaintext under a given nonce. -/
def sealWith (nonce : Nonce) (plaintext key aad : Bytes) : Except SealError Bytes :=
  match GcmSiv.encrypt key nonce.bytes plaintext aad with
  | some body => .ok (nonce.bytes ++ body)
  | none => .error .refused

/-- Seals a plaintext with the next nonce.  The key is checked before the nonce is drawn. -/
def sealBytes (plaintext key aad : Bytes) : Drawing SealError Bytes :=
  if key.length ≠ keyLength then .lift (.error (.keyLength key.length))
  else do
    let nonce ← Drawing.draw
    .lift (sealWith nonce plaintext key aad)

/-- Opens a sealed value. -/
def openSealed (sealedBytes key aad : Bytes) : Except SealError Bytes :=
  if key.length ≠ keyLength then .error (.keyLength key.length)
  else if sealedBytes.length < sealOverhead then .error (.truncated sealedBytes.length)
  else
    match GcmSiv.decrypt? key (sealedBytes.take 12) (sealedBytes.drop 12) aad with
    | some plaintext => .ok plaintext
    | none => .error .refused

/-- Opening undoes sealing. -/
theorem openSealed_sealWith {nonce : Nonce} {plaintext key aad sealedBytes : Bytes}
    (hkey : key.length = keyLength) (h : sealWith nonce plaintext key aad = .ok sealedBytes) :
    openSealed sealedBytes key aad = .ok plaintext := by
  unfold sealWith at h
  split at h
  · rename_i body hbody
    simp only [Except.ok.injEq] at h
    subst h
    have hlen := GcmSiv.length_encrypt hbody
    have hlong : ¬ (nonce.bytes ++ body).length < sealOverhead := by
      rw [List.length_append, nonce.length_eq, hlen, sealOverhead]
      omega
    rw [openSealed, if_neg (by simp [hkey]), if_neg hlong, nonce.take_append, nonce.drop_append,
      GcmSiv.decrypt?_encrypt hbody]
  · simp at h

end SealedChunk.Crypto
