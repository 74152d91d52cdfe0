import SealedChunk.Proofs.Crypto.Sealing

/-!
# What opens is what was sealed

The cipher computes its tag from the plaintext, and decryption computes it again.  So a tag that is
accepted is the very tag that encryption would have put there, and the ciphertext in front of it is
the plaintext under the stream that this tag starts: decryption accepts what encryption gives, and
nothing else.  No property of the block cipher or of the hash is needed for this.  The stream
cancels, whatever it consists of, because under one key and nonce it depends on the tag and the
length only.

A sealed value carries its nonce, so the same can be said of it: **it opens exactly if sealing its
plaintext under this nonce gives it back**.  Under one key, for one plaintext and one nonce, there
is only one value that opens.

* `GcmSiv.exists_append_toBytes` — ciphertext and tag apart.
* `GcmSiv.decrypt?_eq_some_iff` — what decryption accepts.
* `openSealed_append_iff` — what opens.
* **`opens_iff_sealed`** — the same for sealing with the nonces of a supply.
-/

namespace SealedChunk.Crypto

namespace GcmSiv

variable {key nonce plaintext aad body : Bytes}

/-- What is long enough ends in a tag. -/
lemma exists_append_toBytes (h : 16 ≤ body.length) :
    ∃ (ciphertext : Bytes) (given : Block), body = ciphertext ++ given.toBytes := by
  have hlast : (body.drop (body.length - 16)).length = 16 := by
    rw [List.length_drop]
    omega
  refine ⟨body.take (body.length - 16), Block.ofBytes (body.drop (body.length - 16)), ?_⟩
  rw [Block.toBytes_ofBytes hlast, List.take_append_drop]

/-- What is decrypted is what its plaintext is encrypted to. -/
lemma encrypt_of_decrypt? (h : decrypt? key nonce body aad = some plaintext) :
    encrypt key nonce plaintext aad = some body := by
  have hlong : 16 ≤ body.length := by
    rw [decrypt?] at h
    split_ifs at h
    omega
  obtain ⟨ciphertext, given, rfl⟩ := exists_append_toBytes hlong
  have hstream := le_length_keystream (deriveKeys key nonce) given ciphertext.length
  rw [decrypt?_append] at h
  dsimp only at h
  split_ifs at h with hmax htag
  obtain rfl := Option.some.inj h
  -- the tag that was given is the one that encryption computes, so both take the same stream
  rw [encrypt, Bytes.length_xor_of_le hstream, if_neg hmax]
  simp only [htag, Bytes.xor_xor_of_le hstream]

/-- **Decryption accepts what encryption gives**, and nothing else. -/
theorem decrypt?_eq_some_iff :
    decrypt? key nonce body aad = some plaintext ↔ encrypt key nonce plaintext aad = some body :=
  ⟨encrypt_of_decrypt?, decrypt?_encrypt⟩

end GcmSiv

/-! ## Sealed values -/

variable {key plaintext aad sealedBytes body : Bytes} {nonce : Nonce}

lemma Nonce.eq_of_bytes {other : Nonce} (h : nonce.bytes = other.bytes) : nonce = other := by
  cases nonce
  cases other
  cases h
  rfl

/-- What is long enough begins with a nonce. -/
lemma exists_append_of_le_length (h : sealOverhead ≤ sealedBytes.length) :
    ∃ (nonce : Nonce) (body : Bytes), sealedBytes = nonce.bytes ++ body := by
  rw [sealOverhead] at h
  have hfirst : (sealedBytes.take 12).length = 12 := by
    rw [List.length_take]
    omega
  exact ⟨⟨sealedBytes.take 12, hfirst⟩, sealedBytes.drop 12, (List.take_append_drop 12 _).symm⟩

lemma le_length_of_openSealed (h : openSealed sealedBytes key aad = .ok plaintext) :
    sealOverhead ≤ sealedBytes.length := by
  rw [openSealed] at h
  split_ifs at h with hkey hshort
  omega

lemma openSealed_append_eq_ok_iff (hkey : key.length = keyLength) :
    openSealed (nonce.bytes ++ body) key aad = .ok plaintext
      ↔ GcmSiv.decrypt? key nonce.bytes body aad = some plaintext := by
  rw [openSealed, if_neg (by simp [hkey]), nonce.take_append, nonce.drop_append]
  split_ifs with hshort
  · -- then there is no room for a tag, and decryption says the same
    rw [List.length_append, nonce.length_eq, sealOverhead] at hshort
    rw [GcmSiv.decrypt?, if_pos (by omega)]
    simp
  · cases GcmSiv.decrypt? key nonce.bytes body aad <;> simp

lemma sealWith_eq_append_iff : sealWith nonce plaintext key aad = .ok (nonce.bytes ++ body)
    ↔ GcmSiv.encrypt key nonce.bytes plaintext aad = some body := by
  rw [sealWith]
  cases GcmSiv.encrypt key nonce.bytes plaintext aad <;> simp

/-- **What opens** is what sealing gives with the nonce that it carries. -/
theorem openSealed_append_iff (hkey : key.length = keyLength) :
    openSealed (nonce.bytes ++ body) key aad = .ok plaintext
      ↔ sealWith nonce plaintext key aad = .ok (nonce.bytes ++ body) := by
  rw [openSealed_append_eq_ok_iff hkey, sealWith_eq_append_iff, GcmSiv.decrypt?_eq_some_iff]

/-- The same with the nonces of a supply, of which sealing takes the next. -/
lemma openSealed_eq_ok_iff (hkey : key.length = keyLength) :
    openSealed sealedBytes key aad = .ok plaintext ↔ sealOverhead ≤ sealedBytes.length
      ∧ ∀ nonces : Nonces, nonces.draw.1.bytes = sealedBytes.take 12 →
          (sealBytes plaintext key aad).run nonces = (.ok sealedBytes, nonces.draw.2) := by
  constructor
  · intro h
    have hlong := le_length_of_openSealed h
    obtain ⟨nonce, body, rfl⟩ := exists_append_of_le_length hlong
    refine ⟨hlong, fun nonces hdraw => ?_⟩
    rw [nonce.take_append] at hdraw
    rw [run_sealBytes hkey, Nonce.eq_of_bytes hdraw, (openSealed_append_iff hkey).1 h]
  · rintro ⟨hlong, hsealed⟩
    obtain ⟨nonce, body, rfl⟩ := exists_append_of_le_length hlong
    -- a supply that begins with the nonce
    have hrun := hsealed ⟨fun _ => nonce, 0⟩ (nonce.take_append body).symm
    rw [run_sealBytes hkey] at hrun
    exact (openSealed_append_iff hkey).2 (Prod.mk.inj hrun).1

/-- Two values that carry one nonce and open to one plaintext are the same. -/
lemma eq_of_openSealed (hkey : key.length = keyLength) {other : Bytes}
    (h : openSealed sealedBytes key aad = .ok plaintext)
    (hother : openSealed other key aad = .ok plaintext)
    (hnonce : sealedBytes.take 12 = other.take 12) : sealedBytes = other := by
  obtain ⟨nonce, body, rfl⟩ := exists_append_of_le_length (le_length_of_openSealed h)
  obtain ⟨nonce', body', rfl⟩ := exists_append_of_le_length (le_length_of_openSealed hother)
  rw [nonce.take_append, nonce'.take_append] at hnonce
  obtain rfl := Nonce.eq_of_bytes hnonce
  rw [openSealed_append_iff hkey] at h hother
  exact Except.ok.inj (h.symm.trans hother)

/-- **Opening accepts exactly what sealing gives.**  Under a key of the right length, a value opens
to a plaintext exactly if it is long enough for a nonce and a tag and sealing the plaintext gives it
back whenever the next nonce is the one at its front.  Whatever the next nonce is, a plaintext can
be sealed exactly if the cipher takes its length and that of the associated data, and what it is
sealed to opens to it.  No two values with the same nonce open to the same plaintext. -/
theorem opens_iff_sealed (hkey : key.length = keyLength) (aad : Bytes) :
    (∀ sealedBytes plaintext, openSealed sealedBytes key aad = .ok plaintext
        ↔ sealOverhead ≤ sealedBytes.length
          ∧ ∀ nonces : Nonces, nonces.draw.1.bytes = sealedBytes.take 12 →
              (sealBytes plaintext key aad).run nonces = (.ok sealedBytes, nonces.draw.2))
      ∧ (∀ plaintext nonces,
          (∃ sealedBytes later, (sealBytes plaintext key aad).run nonces = (.ok sealedBytes, later))
            ↔ plaintext.length ≤ GcmSiv.maxLength ∧ aad.length ≤ GcmSiv.maxLength)
      ∧ (∀ plaintext nonces sealedBytes later,
          (sealBytes plaintext key aad).run nonces = (.ok sealedBytes, later) →
            openSealed sealedBytes key aad = .ok plaintext)
      ∧ ∀ plaintext sealedBytes other, openSealed sealedBytes key aad = .ok plaintext →
          openSealed other key aad = .ok plaintext →
          sealedBytes.take 12 = other.take 12 → sealedBytes = other := by
  refine ⟨fun _ _ => openSealed_eq_ok_iff hkey, fun _ nonces => sealBytes_isOk_iff hkey nonces,
    fun _ _ _ _ h => (opens_of_sealBytes hkey h).2, fun _ _ _ h hother hnonce => ?_⟩
  exact eq_of_openSealed hkey h hother hnonce

/-- Seventeen bytes, one more than a block. -/
theorem opens_iff_sealed_second_block :
    (List.replicate 32 (7 : UInt8)).length = keyLength
      ∧ ∃ sealedBytes later,
          (sealBytes (List.replicate 17 1) (List.replicate 32 7) [2]).run (.ofBytes [3])
            = (.ok sealedBytes, later)
          ∧ sealOverhead ≤ sealedBytes.length
          ∧ openSealed sealedBytes (List.replicate 32 7) [2] = .ok (List.replicate 17 1)
          ∧ ∀ other, openSealed other (List.replicate 32 7) [2] = .ok (List.replicate 17 1) →
              sealedBytes.take 12 = other.take 12 → sealedBytes = other := by
  have hkey : (List.replicate 32 (7 : UInt8)).length = keyLength := rfl
  obtain ⟨hiff, hfits, hopens, hunique⟩ := opens_iff_sealed hkey [2]
  obtain ⟨sealedBytes, later, hsealed⟩ := (hfits (List.replicate 17 1) (.ofBytes [3])).2 (by decide)
  have hopened := hopens _ _ _ _ hsealed
  exact ⟨hkey, sealedBytes, later, hsealed, ((hiff _ _).1 hopened).1, hopened,
    fun other hother => hunique _ _ _ hopened hother⟩

end SealedChunk.Crypto
