import SealedChunk.Engine.Opening
import SealedChunk.Proofs.Attribute.Slots

/-!
# Which records can be opened

A record is of use if its secret is a secret and both of its texts are readable.  Signatures and
protected values decide what is found on opening it, but not whether it opens, and neither id nor
secret nor signatures of the key are anything but the record's.

* `exists_slots_of_openKey`, `openKey_eq_ok` — what a key has from its record.
* **`openKey_isOk_iff`** — the records that open.
* `KeyRecord.Useless`, `openKey_of_useless` — the others, and why.
-/

namespace SealedChunk

open Broker Attribute AttributeMap Envelope

lemma Secret.bytes_ne_nil (secret : Secret) : secret.bytes ≠ [] := by
  intro h
  have hlength := secret.length_eq
  rw [h] at hlength
  cases hlength

/-- A secret that repeats one byte. -/
def Secret.ofByte (byte : UInt8) : Secret :=
  ⟨List.replicate Crypto.keyLength byte, List.length_replicate⟩

/-- A secret is read back from its spelling. -/
lemma Secret.ofBase64_toBase64 (secret : Secret) : ofBase64 secret.toBase64 = .ok secret := by
  rw [ofBase64, toBase64, Attribute.trim_encode, Base64.decode?_encode]
  exact dif_pos secret.length_eq

namespace Engine

variable {v : Variant} {record : KeyRecord} {opened : OpenedKey}

lemma openSlot_eq_ok_iff {keyId : String} {secret : Secret} {slot : Slot}
    {signed : SignedAttributes} {decoded : DecodedSlot} :
    openSlot v keyId secret slot signed = .ok decoded ↔
      decodeSlot signed secret.bytes (.ofSlot slot keyId) = .ok decoded := by
  rw [openSlot, mapError_eq_ok_iff]

/-- A key is made of its record, with both slots decoded under its own secret. -/
lemma exists_slots_of_openKey (h : openKey v record = .ok opened) :
    ∃ secret fixed current, Secret.ofBase64 record.secret = .ok secret
      ∧ decodeSlot record.attributes secret.bytes (.ofSlot .immutable record.id) = .ok fixed
      ∧ decodeSlot record.mutableAttributes secret.bytes (.ofSlot .mutable record.id) = .ok current
      ∧ opened.key.secret = secret ∧ opened.key.id = record.id
      ∧ opened.key.mutableSignature = current.signature
      ∧ opened.findings = (Findings.addSlot {} .immutable fixed).addSlot .mutable current := by
  rw [openKey, bind_eq_ok_iff] at h
  obtain ⟨secret, hsecret, h⟩ := h
  rw [bind_eq_ok_iff] at h
  obtain ⟨fixed, hfixed, h⟩ := h
  rw [bind_eq_ok_iff] at h
  obtain ⟨current, hcurrent, h⟩ := h
  obtain rfl := Except.ok.inj h
  exact ⟨secret, fixed, current, mapError_eq_ok_iff.1 hsecret, openSlot_eq_ok_iff.1 hfixed,
    openSlot_eq_ok_iff.1 hcurrent, rfl, rfl, rfl, rfl⟩

/-- What a key has from its record. -/
lemma openKey_eq_ok (h : openKey v record = .ok opened) :
    Secret.ofBase64 record.secret = .ok opened.key.secret ∧ opened.key.id = record.id
      ∧ opened.key.mutableSignature = record.mutableAttributes.signature
      ∧ Readable record.attributes.text ∧ Readable record.mutableAttributes.text := by
  obtain ⟨_, fixed, current, hsecret, hfixed, hcurrent, rfl, hid, hsignature, -⟩ :=
    exists_slots_of_openKey h
  exact ⟨hsecret, hid, hsignature.trans (decodeSlot_eq_ok hcurrent).2.1,
    (decodeSlot_eq_ok hfixed).1, (decodeSlot_eq_ok hcurrent).1⟩

/-- **The records that open.** -/
theorem openKey_isOk_iff : (∃ opened, openKey v record = .ok opened) ↔
    (∃ secret, Secret.ofBase64 record.secret = .ok secret)
      ∧ Readable record.attributes.text ∧ Readable record.mutableAttributes.text := by
  constructor
  · rintro ⟨opened, h⟩
    obtain ⟨hsecret, -, -, hfixed, hcurrent⟩ := openKey_eq_ok h
    exact ⟨⟨_, hsecret⟩, hfixed, hcurrent⟩
  · rintro ⟨⟨secret, hsecret⟩, hfixed, hcurrent⟩
    obtain ⟨fixed, hfixed⟩ := (decodeSlot_isOk_iff secret.bytes_ne_nil record.attributes
      (.ofSlot .immutable record.id)).2 hfixed
    obtain ⟨current, hcurrent⟩ := (decodeSlot_isOk_iff secret.bytes_ne_nil record.mutableAttributes
      (.ofSlot .mutable record.id)).2 hcurrent
    exact ⟨_, bind_eq_ok_iff.2 ⟨secret, mapError_eq_ok_iff.2 hsecret,
      bind_eq_ok_iff.2 ⟨fixed, openSlot_eq_ok_iff.2 hfixed,
        bind_eq_ok_iff.2 ⟨current, openSlot_eq_ok_iff.2 hcurrent, rfl⟩⟩⟩⟩

end Engine

/-! ## Records that are of no use -/

/-- Why a record does not open, with the text of the reason. -/
inductive Broker.KeyRecord.Useless (record : KeyRecord) : (reason : String) → Prop where
  | secret {error : SecretError} (h : Secret.ofBase64 record.secret = .error error) :
    Useless record error.message
  | attributes {secret : Secret} (hsecret : Secret.ofBase64 record.secret = .ok secret)
    {fault : Json.Fault} (h : AttributeMap.parse record.attributes.text = .error fault) :
    Useless record (SlotError.malformed fault).message
  | mutableAttributes {secret : Secret} (hsecret : Secret.ofBase64 record.secret = .ok secret)
    (hattributes : Readable record.attributes.text) {fault : Json.Fault}
    (h : AttributeMap.parse record.mutableAttributes.text = .error fault) :
    Useless record (SlotError.malformed fault).message

namespace Engine

variable {v : Variant} {record : KeyRecord} {reason : String}

lemma openSlot_of_unreadable (keyId : String) (secret : Secret) (slot : Slot)
    {signed : SignedAttributes} {fault : Json.Fault}
    (h : AttributeMap.parse signed.text = .error fault) :
    openSlot v keyId secret slot signed
      = .error (malformed v keyId (SlotError.malformed fault).message) := by
  rw [openSlot, decodeSlot_of_unreadable secret.bytes_ne_nil _ h]
  rfl

lemma exists_openSlot (keyId : String) (secret : Secret) (slot : Slot) {signed : SignedAttributes}
    (h : Readable signed.text) : ∃ decoded, openSlot v keyId secret slot signed = .ok decoded := by
  obtain ⟨decoded, hdecoded⟩ :=
    (decodeSlot_isOk_iff secret.bytes_ne_nil signed (.ofSlot slot keyId)).2 h
  exact ⟨decoded, openSlot_eq_ok_iff.2 hdecoded⟩

/-- A record that is of no use fails with the reason. -/
lemma openKey_of_useless (h : record.Useless reason) :
    openKey v record = .error (malformed v record.id reason) := by
  cases h with
  | secret h =>
    rw [openKey, h]
    rfl
  | attributes hsecret h =>
    rw [openKey, hsecret]
    show (openSlot v record.id _ .immutable record.attributes >>= fun _ => _) = _
    rw [openSlot_of_unreadable _ _ _ h]
    rfl
  | mutableAttributes hsecret hattributes h =>
    obtain ⟨fixed, hfixed⟩ := exists_openSlot (v := v) record.id _ .immutable hattributes
    rw [openKey, hsecret]
    show (openSlot v record.id _ .immutable record.attributes >>= fun _ => _) = _
    rw [hfixed]
    show (openSlot v record.id _ .mutable record.mutableAttributes >>= fun _ => _) = _
    rw [openSlot_of_unreadable _ _ _ h]
    rfl

/-- A record is of no use, or it is all that a key needs. -/
lemma useless_or_useful (record : KeyRecord) : (∃ reason, record.Useless reason) ∨
    ∃ secret, Secret.ofBase64 record.secret = .ok secret ∧ Readable record.attributes.text
      ∧ Readable record.mutableAttributes.text := by
  cases hsecret : Secret.ofBase64 record.secret with
  | error error => exact .inl ⟨_, .secret hsecret⟩
  | ok secret =>
    cases hfixed : AttributeMap.parse record.attributes.text with
    | error fault => exact .inl ⟨_, .attributes hsecret hfixed⟩
    | ok fixed =>
      cases hcurrent : AttributeMap.parse record.mutableAttributes.text with
      | error fault => exact .inl ⟨_, .mutableAttributes hsecret ⟨fixed, hfixed⟩ hcurrent⟩
      | ok current => exact .inr ⟨secret, rfl, ⟨fixed, hfixed⟩, ⟨current, hcurrent⟩⟩

end Engine

end SealedChunk
