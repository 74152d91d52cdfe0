import SealedChunk.Broker.Memory
import SealedChunk.Engine.Engine
import SealedChunk.Proofs.Attribute.SigningText
import SealedChunk.Proofs.Engine.Opening

/-!
# Orders that are turned into overwrites

An order to replace mutable attributes names the signature that it replaces, so that a broker can
refuse it once the attributes are others.  An order by force is not refused for that.  Its signature
covers the mark of force.  But the mark stands where the signature that is replaced ends, and that
one is whatever text the broker sent: nobody has checked that it is Base64.  If it ends like the
mark, then an order that was signed without force reads like one with force, and whoever carries it
can make it one.

* `UpdateSpec.signedText` — the text that an order's signature must cover.
* `EndsInForce` — texts that end like the mark of force; strict Base64 does not.
* `prepareUpdate_eq_ok` — what an order is made of.
* **`forced_overwrite_iff`** — an order without force can be taken for one with force exactly if the
  signature that it replaces ends like the mark.
-/

namespace SealedChunk

open Attribute Attribute.SigningContext Broker Crypto Engine Envelope

/-- The text that a broker checks the signature of an order over. -/
def Broker.UpdateSpec.signedText (spec : UpdateSpec) : String :=
  (MemoryBroker.updateContext spec).signingText spec.mutableAttributes.text

/-- A text that ends like the mark of force: with its colon, or as a whole without it. -/
def EndsInForce (signature : String) : Prop :=
  signature = "force" ∨ ∃ earlier, signature = earlier ++ ":force"

/-- What reads like a signature does not end like the mark of force. -/
lemma not_endsInForce_of_decode? {signature : String}
    (h : (Base64.decode? signature).isSome = true) : ¬ EndsInForce signature := by
  rintro (rfl | ⟨earlier, rfl⟩)
  · exact absurd h (by decide)
  · exact colon_notMem_of_decode? h (by simp)

namespace Engine

variable {u spec : UpdateSpec} {nonces later : Nonces}

/-! ## Orders -/

/-- What an order is made of. -/
lemma prepareUpdate_eq_ok {key : Key} {attributes : AttributeMap} {force : Bool}
    (h : (prepareUpdate key attributes force).run nonces = (.ok u, later)) :
    u.keyId = key.id ∧ u.previous = key.mutableSignature ∧ u.force = force
      ∧ AttributeMap.Readable u.mutableAttributes.text
      ∧ ∃ signature, u.mutableAttributes.signature = some signature
        ∧ sign (MemoryBroker.updateContext u) u.mutableAttributes.text key.secret.bytes
          = .ok signature := by
  rw [prepareUpdate, Drawing.run_bind_eq_ok_iff] at h
  obtain ⟨signed, between, hsigned, h⟩ := h
  obtain ⟨rfl, -⟩ := Drawing.run_pure_eq_ok_iff.1 h
  obtain ⟨closed, signature, hsign, rfl⟩ :=
    encodeSlot_eq_ok (Drawing.run_mapError_eq_ok_iff.1 hsigned)
  exact ⟨rfl, rfl, rfl, ⟨closed, AttributeMap.parse_canonical closed⟩, signature, rfl, hsign⟩

lemma exists_prepareUpdate (key : Key) (attributes : AttributeMap)
    (h : ∀ entry ∈ attributes.entries, isProtected entry.1 = false) (force : Bool)
    (nonces : Nonces) :
    ∃ u, (prepareUpdate key attributes force).run nonces = (.ok u, nonces) := by
  obtain ⟨signed, hsigned⟩ := run_encodeSlot_of_unprotected key.secret.bytes_ne_nil h
    key.secret.bytes
    { id := key.id, mutable := true, previous := key.mutableSignature, force } nonces
  rw [prepareUpdate, Drawing.run_bind_ok (Drawing.run_mapError_eq_ok_iff.2 hsigned)]
  exact ⟨_, rfl⟩

/-! ## Orders that were changed on their way -/

/-- With the same attributes for the same key, only what stands behind the attributes counts. -/
lemma signedText_eq_iff (spec u : UpdateSpec) (hid : spec.keyId = u.keyId)
    (hattributes : spec.mutableAttributes = u.mutableAttributes) : spec.signedText = u.signedText ↔
      (MemoryBroker.updateContext spec).ending = (MemoryBroker.updateContext u).ending := by
  rw [UpdateSpec.signedText, UpdateSpec.signedText, hattributes, ← String.toList_inj,
    toList_signingText, toList_signingText]
  simp [MemoryBroker.updateContext, hid]

/-- What stands behind the attributes with the mark of force is what could stand there without it,
exactly if the signature that is replaced ends like the mark. -/
lemma exists_forced_ending_iff {c : SigningContext} (hforce : c.force = false) :
    (∃ previous, ({ c with previous, force := true } : SigningContext).ending = c.ending)
      ↔ ∃ signature, c.previous = some signature ∧ EndsInForce signature := by
  constructor
  · rintro ⟨previous, h⟩
    cases hp : c.previous with
    | none =>
      rw [ending_eq_nil_iff.2 ⟨hp, hforce⟩, ending_eq_nil_iff] at h
      cases h.2
    | some signature =>
      refine ⟨signature, rfl, ?_⟩
      rw [ending, ending, hp, hforce] at h
      cases previous with
      | none =>
        have htail : "force".toList = signature.toList ++ [] := (List.cons.inj h).2
        rw [List.append_nil, String.toList_inj] at htail
        exact .inl htail.symm
      | some earlier =>
        have htail : earlier.toList ++ ":force".toList = signature.toList ++ [] :=
          (List.cons.inj h).2
        rw [List.append_nil, ← String.toList_append, String.toList_inj] at htail
        exact .inr ⟨earlier, htail.symm⟩
  · rintro ⟨signature, hp, rfl | ⟨earlier, rfl⟩⟩
    · exact ⟨none, by simp [ending, forceMark, hp, hforce]⟩
    · exact ⟨some earlier, by simp [ending, forceMark, hp, hforce]⟩

/-- An order without force has the text of one with force, with the same attributes for the same
key, exactly if the signature that it replaces ends like the mark. -/
lemma exists_forced_iff (hforce : u.force = false) :
    (∃ spec : UpdateSpec, spec.keyId = u.keyId ∧ spec.mutableAttributes = u.mutableAttributes
        ∧ spec.force = true ∧ spec.signedText = u.signedText)
      ↔ ∃ signature, u.previous = some signature ∧ EndsInForce signature := by
  have hcontext : (MemoryBroker.updateContext u).previous = u.previous := rfl
  rw [← hcontext, ← exists_forced_ending_iff (c := MemoryBroker.updateContext u) hforce]
  constructor
  · rintro ⟨spec, hid, hattributes, hforced, h⟩
    refine ⟨spec.previous, ?_⟩
    rw [← (signedText_eq_iff spec u hid hattributes).1 h]
    simp [MemoryBroker.updateContext, hid, hforced]
  · rintro ⟨previous, h⟩
    have hsigned := signedText_eq_iff { u with previous, force := true } u rfl rfl
    exact ⟨{ u with previous, force := true }, rfl, rfl, rfl, hsigned.2 h⟩

/-- What has the text of an order that was prepared passes the check of a broker. -/
lemma valid_of_signedText {key : Key} {attributes : AttributeMap} {force : Bool}
    (hu : (prepareUpdate key attributes force).run nonces = (.ok u, later))
    (hattributes : spec.mutableAttributes = u.mutableAttributes)
    (h : spec.signedText = u.signedText) :
    ∃ decoded, decodeSlot spec.mutableAttributes key.secret.bytes (MemoryBroker.updateContext spec)
      = .ok decoded ∧ decoded.status = .valid := by
  obtain ⟨-, -, -, hreadable, signature, hsignature, hsign⟩ := prepareUpdate_eq_ok hu
  rw [UpdateSpec.signedText, UpdateSpec.signedText, hattributes] at h
  obtain ⟨decoded, hdecoded⟩ := (decodeSlot_isOk_iff key.secret.bytes_ne_nil u.mutableAttributes
    (MemoryBroker.updateContext spec)).2 hreadable
  refine ⟨decoded, hattributes ▸ hdecoded, ?_⟩
  have hstatus := (decodeSlot_eq_ok hdecoded).2.2
  rw [signatureStatus, hsignature] at hstatus
  dsimp only at hstatus
  rw [verify_of_sign hsign h] at hstatus
  exact (Except.ok.inj hstatus).symm

/-- **Orders that can be turned into overwrites.**  An order that was prepared without force carries
the signature of its text.  There is one by force, with the same attributes for the same key, that
has this very text, exactly if the signature that the broker sent for the attributes to be replaced
ends like the mark of force.  And whatever has this text passes the broker's check. -/
theorem forced_overwrite_iff {v : Variant} {record : KeyRecord} {opened : OpenedKey}
    {attributes : AttributeMap} (hopened : openKey v record = .ok opened)
    (hu : (prepareUpdate opened.key attributes false).run nonces = (.ok u, later)) :
    (∃ tag, Mac.tag opened.key.secret.bytes (Bytes.ofText u.signedText) = .ok tag
        ∧ u.mutableAttributes.signature = some (Base64.encode tag))
      ∧ ((∃ spec : UpdateSpec, spec.keyId = u.keyId
            ∧ spec.mutableAttributes = u.mutableAttributes ∧ spec.force = true
            ∧ spec.signedText = u.signedText)
          ↔ ∃ signature, record.mutableAttributes.signature = some signature
            ∧ EndsInForce signature)
      ∧ ∀ spec : UpdateSpec, spec.mutableAttributes = u.mutableAttributes →
          spec.signedText = u.signedText →
            ∃ decoded, decodeSlot spec.mutableAttributes opened.key.secret.bytes
              (MemoryBroker.updateContext spec) = .ok decoded ∧ decoded.status = .valid := by
  obtain ⟨-, -, hold, -⟩ := openKey_eq_ok hopened
  obtain ⟨-, hprevious, hforce, -, signature, hsignature, hsign⟩ := prepareUpdate_eq_ok hu
  refine ⟨?_, ?_, fun spec hattributes h => valid_of_signedText hu hattributes h⟩
  · obtain ⟨tag, htag, rfl⟩ := map_eq_ok_iff.1 hsign
    exact ⟨tag, htag, hsignature⟩
  · rw [exists_forced_iff hforce, hprevious, hold]

/-! ## Two orders for one key -/

/-- A key in a certain state, with a certain signature for it. -/
def stateRecord (state signature : String) : KeyRecord :=
  { id := "abc.def"
    secret := (Secret.ofByte 1).toBase64
    mutableAttributes :=
      { text := AttributeMap.canonical (OrderedMap.ofList [("state", [state])]), signature } }

/-- Another state. -/
def archived : AttributeMap := OrderedMap.ofList [("state", ["archived"])]

lemma exists_update_stateRecord (state signature : String) : ∃ opened u,
    openKey .v2 (stateRecord state signature) = .ok opened
      ∧ (prepareUpdate opened.key archived false).run (.ofBytes []) = (.ok u, .ofBytes []) := by
  have hsecret : Secret.ofBase64 (stateRecord state signature).secret
      = .ok (.ofByte 1) := Secret.ofBase64_toBase64 _
  have hfixed : AttributeMap.Readable (stateRecord state signature).attributes.text := ⟨_, rfl⟩
  have hcurrent : AttributeMap.Readable (stateRecord state signature).mutableAttributes.text :=
    ⟨_, AttributeMap.parse_canonical _⟩
  obtain ⟨opened, hopened⟩ := (openKey_isOk_iff (v := .v2)).2 ⟨⟨_, hsecret⟩, hfixed, hcurrent⟩
  obtain ⟨u, hu⟩ := exists_prepareUpdate opened.key archived (by decide) false (.ofBytes [])
  exact ⟨opened, u, hopened, hu⟩

/-- Nothing is to be feared behind a signature that reads like one. -/
theorem forced_overwrite_iff_signed : ∃ opened u,
    openKey .v2 (stateRecord "draft" "AAAA") = .ok opened
      ∧ (prepareUpdate opened.key archived false).run (.ofBytes []) = (.ok u, .ofBytes [])
      ∧ ¬ ∃ spec : UpdateSpec, spec.keyId = u.keyId ∧ spec.mutableAttributes = u.mutableAttributes
        ∧ spec.force = true ∧ spec.signedText = u.signedText := by
  obtain ⟨opened, u, hopened, hu⟩ := exists_update_stateRecord "draft" "AAAA"
  refine ⟨opened, u, hopened, hu, fun h => ?_⟩
  obtain ⟨signature, hsignature, hends⟩ := (forced_overwrite_iff hopened hu).2.1.1 h
  obtain rfl : "AAAA" = signature := Option.some.inj hsignature
  exact not_endsInForce_of_decode? rfl hends

/-- Behind the bare mark an order is turned into an overwrite that a broker accepts. -/
theorem forced_overwrite_of_mark : ∃ opened u,
    openKey .v2 (stateRecord "draft" "force") = .ok opened
      ∧ (prepareUpdate opened.key archived false).run (.ofBytes []) = (.ok u, .ofBytes [])
      ∧ ∃ spec : UpdateSpec, spec.keyId = u.keyId ∧ spec.mutableAttributes = u.mutableAttributes
        ∧ spec.force = true ∧ spec.signedText = u.signedText := by
  obtain ⟨opened, u, hopened, hu⟩ := exists_update_stateRecord "draft" "force"
  obtain ⟨-, -, hsignature, -⟩ := openKey_eq_ok hopened
  obtain ⟨-, hprevious, hforce, -⟩ := prepareUpdate_eq_ok hu
  refine ⟨opened, u, hopened, hu, (exists_forced_iff hforce).2 ⟨"force", ?_, .inl rfl⟩⟩
  rw [hprevious, hsignature]
  rfl

end Engine

end SealedChunk
