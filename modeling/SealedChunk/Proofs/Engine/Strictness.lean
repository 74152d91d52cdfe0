import SealedChunk.Proofs.Broker.Records
import SealedChunk.Proofs.Engine.Endings

/-!
# What a strict engine withholds

A strict engine does all that a lenient one does: it asks for the same and notes the same.  Only
when it has a plaintext does it look at what was found on the key, and if that is anything at all,
the first finding takes the place of the plaintext.

Findings are kept in the order in which they come up, first those on the immutable attributes, then
those on the mutable ones, and signatures apart from values.  So the first finding is known from
which signatures hold, and only if both do does it matter which values opened.

* `Findings.Foremost` — the failure that comes first.
* `judge_of_unclean` — it is what a strict engine makes of a plaintext.
* `Withholds` — how a lenient and a strict run differ.
* **`strict_withholds`** — decryptions differ so.
-/

namespace SealedChunk.Engine

open Broker Attribute Envelope Crypto

/-! ## Findings -/

/-- The failure that comes first: for the first slot whose signature does not hold, or if both hold,
for the first attribute that did not open. -/
inductive Findings.Foremost (f : Findings) (variant keyId : String) : Failure → Prop where
  | attributes (h : .immutable ∈ f.failedSlots) :
    Foremost f variant keyId (.attributeIntegrity variant keyId .immutable)
  | mutableAttributes (hfixed : .immutable ∉ f.failedSlots) (h : .mutable ∈ f.failedSlots) :
    Foremost f variant keyId (.attributeIntegrity variant keyId .mutable)
  | unopened {first : UnopenedAttribute} {rest : List UnopenedAttribute}
    (hslots : f.failedSlots = []) (h : f.unopened = first :: rest) :
    Foremost f variant keyId (.protectedAttribute keyId first.name)

lemma Findings.isClean_iff {f : Findings} :
    f.isClean = true ↔ f.failedSlots = [] ∧ f.unopened = [] := by
  rw [isClean, Bool.and_eq_true, List.isEmpty_iff, List.isEmpty_iff]

variable {v : Variant} {record : KeyRecord} {opened : OpenedKey} {e : Engine} {keyId : String}

/-- Nothing is found only on a record in good order. -/
lemma holds_of_clean (hopened : openKey v record = .ok opened)
    (hclean : opened.findings.isClean = true) :
    ∃ secret fixed current, record.Holds record.id secret fixed current := by
  obtain ⟨secret, fixed, current, hsecret, hfixed, hcurrent, -, -, -, hfindings⟩ :=
    exists_slots_of_openKey hopened
  rw [hfindings, Findings.isClean_iff] at hclean
  simp only [Findings.addSlot, List.append_eq_nil_iff, List.map_eq_nil_iff, ite_eq_left_iff,
    reduceCtorEq, imp_false, Decidable.not_not, true_and] at hclean
  obtain ⟨⟨hfixedStatus, hcurrentStatus⟩, hfixedUnopened, hcurrentUnopened⟩ := hclean
  exact ⟨secret, fixed.attributes, current.attributes, rfl, hsecret,
    reads_of_decodeSlot hfixed hfixedStatus hfixedUnopened,
    reads_of_decodeSlot hcurrent hcurrentStatus hcurrentUnopened⟩

/-- The failures of findings begin with the foremost. -/
lemma exists_foremost (hopened : openKey v record = .ok opened)
    (hclean : opened.findings.isClean = false) (variant keyId : String) :
    ∃ failure rest, opened.findings.integrityFailures variant keyId
          ++ opened.findings.protectedFailures keyId = failure :: rest
      ∧ opened.findings.Foremost variant keyId failure := by
  obtain ⟨-, fixed, current, -, -, -, -, -, -, hfindings⟩ := exists_slots_of_openKey hopened
  have hslots : opened.findings.failedSlots = (if fixed.status = .valid then [] else [.immutable])
      ++ if current.status = .valid then [] else [.mutable] := by
    rw [hfindings]
    rfl
  generalize opened.findings = findings at hclean hslots ⊢
  rw [Findings.integrityFailures, Findings.protectedFailures]
  by_cases hfixed : fixed.status = .valid
  · rw [if_pos hfixed, List.nil_append] at hslots
    by_cases hcurrent : current.status = .valid
    · rw [if_pos hcurrent] at hslots
      cases hunopened : findings.unopened with
      | nil => exact absurd (Findings.isClean_iff.2 ⟨hslots, hunopened⟩) (by simp [hclean])
      | cons first rest =>
        rw [hslots]
        exact ⟨_, _, rfl, .unopened hslots hunopened⟩
    · rw [if_neg hcurrent] at hslots
      refine ⟨_, _, by rw [hslots]; rfl, .mutableAttributes ?_ ?_⟩ <;> simp [hslots]
  · rw [if_neg hfixed] at hslots
    exact ⟨_, _, by rw [hslots]; rfl, .attributes (by simp [hslots])⟩

/-! ## Plaintexts -/

lemma judge_of_lenient (hlenient : e.strict = false) (v : Variant) (keyId : String)
    (findings : Findings) (plaintext : Bytes) :
    e.judge v keyId findings plaintext = .ok plaintext := by
  rw [judge, hlenient]

lemma judge_of_clean {findings : Findings} (hclean : findings.isClean = true) (plaintext : Bytes) :
    e.judge v keyId findings plaintext = .ok plaintext := by
  obtain ⟨hslots, hunopened⟩ := Findings.isClean_iff.1 hclean
  rw [judge, Findings.integrityFailures, hslots, Findings.protectedFailures, hunopened]
  cases e.strict <;> rfl

lemma judge_of_unclean (hstrict : e.strict = true) (hopened : openKey v record = .ok opened)
    (hclean : opened.findings.isClean = false) (keyId : String) (plaintext : Bytes) :
    ∃ failure, opened.findings.Foremost v.id keyId failure
      ∧ e.judge v keyId opened.findings plaintext = .error failure := by
  obtain ⟨failure, rest, hfailures, hforemost⟩ := exists_foremost hopened hclean v.id keyId
  refine ⟨failure, hforemost, ?_⟩
  rw [judge, hstrict, hfailures]

/-! ## Two runs -/

/-- A strict run withholds from a lenient one, over the same reply, what is not clean. -/
structure Withholds (v : Variant) (envelope : String) (reply : Reply)
    (lenient strict : Report Bytes) : Prop where
  capture_eq : strict.capture = lenient.capture
  /-- If there is no plaintext, or nothing was found on its key, the results are the same. -/
  result_eq (hclean : ∀ plaintext, lenient.result = .ok plaintext →
    lenient.capture.findings.isClean = true) : strict.result = lenient.result
  withheld {plaintext : Bytes} (hplaintext : lenient.result = .ok plaintext)
    (hclean : lenient.capture.findings.isClean = false) :
    ∃ parts failure, Envelope.decode v envelope = .ok parts
      ∧ lenient.capture.findings.Foremost v.id parts.keyId failure
      ∧ strict.result = .error failure
  /-- A plaintext that is not withheld belongs to a record in good order. -/
  trusted {plaintext : Bytes} (hplaintext : strict.result = .ok plaintext) :
    ∃ parts response record rest secret fixed current, Envelope.decode v envelope = .ok parts
      ∧ reply = .response response ∧ response.keys = record :: rest
      ∧ record.Holds parts.keyId secret fixed current

variable {envelope : String} {reply : Reply} {lenient strict : Report Bytes}

lemma withholds_of_error {failure : Failure} (hlenient : lenient.result = .error failure)
    (hstrict : strict.result = .error failure) (hcapture : strict.capture = lenient.capture) :
    Withholds v envelope reply lenient strict where
  capture_eq := hcapture
  result_eq _ := hstrict.trans hlenient.symm
  withheld h := by cases hlenient.symm.trans h
  trusted h := by cases hstrict.symm.trans h

/-- A plaintext stands or falls with the findings on its key. -/
lemma withholds_of_ok {parts : Parts} {response : KeysResponse} {rest : List KeyRecord}
    {plaintext : Bytes} (hparts : Envelope.decode v envelope = .ok parts)
    (hkeys : response.keys = record :: rest) (hid : record.id = parts.keyId)
    (hopened : openKey v record = .ok opened) (hlenient : lenient.result = .ok plaintext)
    (hfindings : lenient.capture.findings = opened.findings) (he : e.strict = true)
    (hstrict : strict.result = e.judge v parts.keyId opened.findings plaintext)
    (hcapture : strict.capture = lenient.capture) :
    Withholds v envelope (.response response) lenient strict := by
  cases hclean : opened.findings.isClean with
  | true =>
    have hsame : strict.result = lenient.result := by
      rw [hstrict, judge_of_clean hclean, hlenient]
    obtain ⟨secret, fixed, current, hholds⟩ := holds_of_clean hopened hclean
    refine ⟨hcapture, fun _ => hsame, fun _ hunclean => ?_, fun _ => ?_⟩
    · cases hunclean.symm.trans ((congrArg Findings.isClean hfindings).trans hclean)
    · exact ⟨parts, response, record, rest, secret, fixed, current, hparts, rfl, hkeys,
        hid ▸ hholds⟩
  | false =>
    obtain ⟨failure, hforemost, hjudge⟩ :=
      judge_of_unclean he hopened hclean parts.keyId plaintext
    have hwithheld : strict.result = .error failure := hstrict.trans hjudge
    refine ⟨hcapture, fun hallClean => ?_, fun _ _ => ?_, fun h => ?_⟩
    · cases ((congrArg Findings.isClean hfindings).trans hclean).symm.trans
        (hallClean plaintext hlenient)
    · exact ⟨parts, failure, hparts, hfindings ▸ hforemost, hwithheld⟩
    · cases hwithheld.symm.trans h

/-- Decryptions by a lenient and a strict engine that wait equally long. -/
lemma withholds_decryptAs {d e : Engine} (hd : d.strict = false) (he : e.strict = true)
    (htimeout : e.timeout = d.timeout) (v : Variant) (envelope : String) (metadata : Metadata)
    (capture : Capture) (reply : Reply) :
    Withholds v envelope reply ((d.decryptAs v envelope metadata capture).answered reply)
      ((e.decryptAs v envelope metadata capture).answered reply) := by
  rcases decryptAs_cases v envelope d.timeout reply with
    ⟨failure, -, hends⟩ | ⟨parts, body, response, hparts, -, rfl, ⟨failure, -, hends⟩ |
      ⟨record, rest, opened, hkeys, hid, hopened, hends⟩⟩
  · obtain ⟨-, hlenient, hbefore⟩ := hends d metadata capture rfl
    obtain ⟨-, hstrict, hafter⟩ := hends e metadata capture htimeout
    exact withholds_of_error hlenient hstrict (hafter.trans hbefore.symm)
  · obtain ⟨-, hlenient, hbefore⟩ := hends d metadata capture
    obtain ⟨-, hstrict, hafter⟩ := hends e metadata capture
    exact withholds_of_error hlenient hstrict (hafter.trans hbefore.symm)
  · obtain ⟨-, hlenient, hbefore⟩ := hends d metadata capture
    obtain ⟨-, hstrict, hafter⟩ := hends e metadata capture
    have hcapture := hafter.trans hbefore.symm
    cases hbody : openSealed body opened.key.secret.bytes (v.payloadAad parts.keyId) with
    | error error =>
      rw [hbody] at hlenient hstrict
      exact withholds_of_error hlenient hstrict hcapture
    | ok plaintext =>
      rw [hbody] at hlenient hstrict
      exact withholds_of_ok hparts hkeys hid hopened
        (hlenient.trans (judge_of_lenient hd v parts.keyId opened.findings plaintext))
        (congrArg Capture.findings hbefore) he hstrict hcapture

/-- **A strict engine withholds what is not clean, and nothing else.**  It asks for the same as a
lenient engine with the same settings, whatever comes of it the notes are the same, and the results
differ only where there are findings on the key of a plaintext. -/
theorem strict_withholds (e : Engine) (envelope : String) (metadata : Metadata)
    (capture : Capture) :
    let lenient := { e with strict := false }
    let strict := { e with strict := true }
    ((strict.decrypt envelope metadata capture).request?
          = (lenient.decrypt envelope metadata capture).request?
        ∧ ∀ reply, Withholds e.variant envelope reply
          ((lenient.decrypt envelope metadata capture).answered reply)
          ((strict.decrypt envelope metadata capture).answered reply))
      ∧ (strict.decryptAuto envelope metadata capture).request?
          = (lenient.decryptAuto envelope metadata capture).request?
        ∧ ∃ v ∈ e.variant :: Variant.builtIn, ∀ reply, Withholds v envelope reply
          ((lenient.decryptAuto envelope metadata capture).answered reply)
          ((strict.decryptAuto envelope metadata capture).answered reply) := by
  intro lenient strict
  have hdecryptAs (v : Variant) (reply : Reply) :
      Withholds v envelope reply ((lenient.decryptAs v envelope metadata capture).answered reply)
        ((strict.decryptAs v envelope metadata capture).answered reply) :=
    withholds_decryptAs (d := lenient) (e := strict) rfl rfl rfl v envelope metadata capture reply
  refine ⟨⟨request?_decryptAs strict lenient e.variant envelope metadata capture capture,
    hdecryptAs e.variant⟩, ?_⟩
  rcases decryptAuto_cases e.variant envelope with ⟨v, hv, hauto⟩ | ⟨-, hauto⟩
  · rw [hauto strict metadata capture rfl, hauto lenient metadata capture rfl]
    exact ⟨request?_decryptAs strict lenient v envelope metadata capture capture, v, hv,
      hdecryptAs v⟩
  · rw [hauto strict metadata capture rfl, hauto lenient metadata capture rfl]
    exact ⟨rfl, e.variant, List.mem_cons_self, fun _ => withholds_of_error rfl rfl rfl⟩

end SealedChunk.Engine
