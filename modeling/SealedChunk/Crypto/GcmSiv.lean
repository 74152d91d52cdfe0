import SealedChunk.Crypto.Polyval

/-!
# AES-256-GCM-SIV

The authenticated encryption of RFC 8452, which stays secure if a nonce is used twice.  Both
sub-keys come from the key and the nonce.  The tag is computed first, from plaintext and associated
data; the ciphertext is the plaintext under the stream of bytes that the tag starts.

* `keystream` — the stream: it depends on key, tag and length, and on nothing else.
* `encrypt` — ciphertext and tag.
* `decrypt?` — the plaintext, if the tag is the one it leads to.
* **`decrypt?_encrypt`** — decryption undoes encryption.
-/

namespace SealedChunk.Crypto.GcmSiv

/-- The longest plaintext, and the longest associated data, in bytes. -/
def maxLength : Nat := 1 <<< 36

/-- The two keys that a key and a nonce lead to. -/
structure SubKeys where
  /-- Keys the hash, as a polynomial. -/
  authentication : Nat
  /-- Round keys for the tag and the stream. -/
  encryption : List Block

/-- Half a block of key material for each counter. -/
def material (keys : List Block) (nonce : Bytes) (counters : List Nat) : Bytes :=
  counters.flatMap fun counter =>
    (Aes.encryptBlock keys (Block.ofBytes (Bytes.ofNatLE 4 counter ++ nonce))).toBytes.take 8

/-- Derives the sub-keys. -/
def deriveKeys (key nonce : Bytes) : SubKeys :=
  let keys := Aes.roundKeys key
  ⟨Bytes.toNatLE (material keys nonce [0, 1]), Aes.roundKeys (material keys nonce [2, 3, 4, 5])⟩

/-- Bytes as polynomials, the last row filled up with zeros. -/
def polynomials (bytes : Bytes) : List Nat := (Bytes.rows 16 bytes).map Bytes.toNatLE

/-- The tag of a plaintext and associated data. -/
def tag (keys : SubKeys) (nonce plaintext aad : Bytes) : Block :=
  let lengths := 8 * aad.length + (8 * plaintext.length) <<< 64
  let hash := polyval keys.authentication (polynomials aad ++ polynomials plaintext ++ [lengths])
  let mixed := (Block.ofBytes (Bytes.ofNatLE 16 hash)).xor (Block.ofBytes nonce)
  let cleared := mixed.set 15 (mixed.cell 15 &&& 0x7f)
  Aes.encryptBlock keys.encryption cleared

/-- The block that the stream's row `i` is enciphered from: the tag with its highest bit set, and
`i` added to its first four bytes, which wrap around. -/
def counterBlock (tag : Block) (i : Nat) : Block :=
  let start := Block.toBytes (tag.set 15 (tag.cell 15 ||| 0x80))
  Block.ofBytes (Bytes.ofNatLE 4 (Bytes.toNatLE (start.take 4) + i) ++ start.drop 4)

/-- At least `length` bytes of the stream that a tag starts. -/
def keystream (keys : SubKeys) (tag : Block) (length : Nat) : Bytes :=
  (List.range ((length + 15) / 16)).flatMap fun i =>
    (Aes.encryptBlock keys.encryption (counterBlock tag i)).toBytes

/-- Ciphertext and tag. -/
def encrypt (key nonce plaintext aad : Bytes) : Option Bytes :=
  if maxLength < plaintext.length ∨ maxLength < aad.length then none
  else
    let keys := deriveKeys key nonce
    let tag := tag keys nonce plaintext aad
    some (Bytes.xor plaintext (keystream keys tag plaintext.length) ++ tag.toBytes)

/-- The plaintext of ciphertext and tag, if the tag is right. -/
def decrypt? (key nonce sealedBody aad : Bytes) : Option Bytes :=
  if sealedBody.length < 16 then none
  else
    let length := sealedBody.length - 16
    if maxLength < length ∨ maxLength < aad.length then none
    else
      let keys := deriveKeys key nonce
      let given := Block.ofBytes (sealedBody.drop length)
      let plaintext := Bytes.xor (sealedBody.take length) (keystream keys given length)
      if tag keys nonce plaintext aad = given then some plaintext else none

/-! ## Decryption undoes encryption -/

theorem le_length_keystream (keys : SubKeys) (tag : Block) (length : Nat) :
    length ≤ (keystream keys tag length).length := by
  have rows (n : Nat) : ((List.range n).flatMap fun i =>
      (Aes.encryptBlock keys.encryption (counterBlock tag i)).toBytes).length = n * 16 := by
    simp [List.length_flatMap, Block.length_toBytes, List.map_const']
  rw [keystream, rows]
  omega

/-- A ciphertext is as long as its plaintext and a tag. -/
theorem length_encrypt {key nonce plaintext aad body : Bytes}
    (h : encrypt key nonce plaintext aad = some body) : body.length = plaintext.length + 16 := by
  simp only [encrypt] at h
  split at h
  · simp at h
  · simp only [Option.some.injEq] at h
    rw [← h, List.length_append, Block.length_toBytes,
      Bytes.length_xor_of_le (le_length_keystream _ _ _)]

/-- What decryption makes of a ciphertext and the tag behind it. -/
theorem decrypt?_append (key nonce ciphertext : Bytes) (given : Block) (aad : Bytes) :
    decrypt? key nonce (ciphertext ++ given.toBytes) aad =
      if maxLength < ciphertext.length ∨ maxLength < aad.length then none
      else
        let keys := deriveKeys key nonce
        let plaintext := Bytes.xor ciphertext (keystream keys given ciphertext.length)
        if tag keys nonce plaintext aad = given then some plaintext else none := by
  have hlength : (ciphertext ++ given.toBytes).length = ciphertext.length + 16 := by
    rw [List.length_append, Block.length_toBytes]
  rw [decrypt?, if_neg (by omega)]
  simp only [hlength, Nat.add_sub_cancel, List.take_left, List.drop_left, Block.ofBytes_toBytes]

/-- Decryption undoes encryption. -/
theorem decrypt?_encrypt {key nonce plaintext aad body : Bytes}
    (h : encrypt key nonce plaintext aad = some body) :
    decrypt? key nonce body aad = some plaintext := by
  simp only [encrypt] at h
  split at h
  · simp at h
  · rename_i hmax
    obtain rfl := Option.some.inj h
    have hstream := le_length_keystream (deriveKeys key nonce)
      (tag (deriveKeys key nonce) nonce plaintext aad) plaintext.length
    rw [decrypt?_append, Bytes.length_xor_of_le hstream, if_neg hmax]
    simp only [Bytes.xor_xor_of_le hstream, if_true]

end SealedChunk.Crypto.GcmSiv
