import Mathlib.Tactic.SplitIfs
import SealedChunk.Crypto.Sealed
import SealedChunk.Proofs.Outcome

/-!
# When bytes can be sealed

Under a key of the right length only size stands in the way: neither the plaintext nor the
associated data may be longer than the cipher takes.  Which nonce comes next makes no difference to
that, and none to opening.

* `run_sealBytes` — the nonce that is taken.
* `sealBytes_eq_ok`, `opens_of_sealBytes` — what was sealed was sealed with some nonce, has a
  certain length, and opens.
* **`sealBytes_isOk_iff`**, `sealBytes_eq_error` — what can be sealed, and what becomes of the rest.
-/

namespace SealedChunk.Crypto

variable {plaintext key aad body : Bytes} {nonces later : Nonces}

/-- Sealing takes the next nonce. -/
lemma run_sealBytes (hkey : key.length = keyLength) (nonces : Nonces) :
    (sealBytes plaintext key aad).run nonces
      = (sealWith nonces.draw.1 plaintext key aad, nonces.draw.2) := by
  have hdraw : (Drawing.draw : Drawing SealError Nonce).run nonces
      = (.ok nonces.draw.1, nonces.draw.2) := rfl
  rw [sealBytes, if_neg (by simp [hkey]), Drawing.run_bind_ok hdraw, Drawing.run_lift]

lemma sealBytes_eq_ok (h : (sealBytes plaintext key aad).run nonces = (.ok body, later)) :
    ∃ nonce, sealWith nonce plaintext key aad = .ok body := by
  rw [sealBytes] at h
  split_ifs at h with hkey
  · cases h
  · rw [Drawing.run_bind_eq_ok_iff] at h
    obtain ⟨nonce, between, -, h⟩ := h
    exact ⟨nonce, (Drawing.run_lift_eq_ok_iff.1 h).1⟩

/-- What was sealed is longer by a nonce and a tag, and it opens. -/
lemma opens_of_sealBytes (hkey : key.length = keyLength)
    (h : (sealBytes plaintext key aad).run nonces = (.ok body, later)) :
    body.length = sealOverhead + plaintext.length ∧ openSealed body key aad = .ok plaintext := by
  obtain ⟨nonce, hsealed⟩ := sealBytes_eq_ok h
  refine ⟨?_, openSealed_sealWith hkey hsealed⟩
  rw [sealWith] at hsealed
  split at hsealed
  · rename_i ciphertext hciphertext
    obtain rfl := Except.ok.inj hsealed
    rw [List.length_append, nonce.length_eq, GcmSiv.length_encrypt hciphertext, sealOverhead]
    omega
  · cases hsealed

lemma sealWith_isOk_iff (nonce : Nonce) : (∃ body, sealWith nonce plaintext key aad = .ok body) ↔
    plaintext.length ≤ GcmSiv.maxLength ∧ aad.length ≤ GcmSiv.maxLength := by
  rw [sealWith, GcmSiv.encrypt]
  split_ifs with hlong
  · refine iff_of_false ?_ (by omega)
    rintro ⟨_, ⟨⟩⟩
  · exact iff_of_true ⟨_, rfl⟩ (by omega)

/-- **What can be sealed.** -/
theorem sealBytes_isOk_iff (hkey : key.length = keyLength) (nonces : Nonces) :
    (∃ body later, (sealBytes plaintext key aad).run nonces = (.ok body, later)) ↔
      plaintext.length ≤ GcmSiv.maxLength ∧ aad.length ≤ GcmSiv.maxLength := by
  constructor
  · rintro ⟨body, later, h⟩
    obtain ⟨nonce, hbody⟩ := sealBytes_eq_ok h
    exact (sealWith_isOk_iff nonce).1 ⟨body, hbody⟩
  · intro h
    obtain ⟨body, hbody⟩ : ∃ body, sealWith nonces.draw.1 plaintext key aad = .ok body :=
      (sealWith_isOk_iff _).2 h
    rw [run_sealBytes hkey, hbody]
    exact ⟨_, _, rfl⟩

/-- What cannot be sealed is refused by the cipher. -/
lemma sealBytes_eq_error (hkey : key.length = keyLength) {error : SealError}
    (h : (sealBytes plaintext key aad).run nonces = (.error error, later)) :
    error = .refused
      ∧ (GcmSiv.maxLength < plaintext.length ∨ GcmSiv.maxLength < aad.length) := by
  have hlong : ¬ (plaintext.length ≤ GcmSiv.maxLength ∧ aad.length ≤ GcmSiv.maxLength) := by
    intro hshort
    obtain ⟨body, after, hsealed⟩ := (sealBytes_isOk_iff hkey nonces).2 hshort
    cases hsealed.symm.trans h
  rw [run_sealBytes hkey, sealWith] at h
  refine ⟨?_, by omega⟩
  split at h <;> cases h
  rfl

end SealedChunk.Crypto
