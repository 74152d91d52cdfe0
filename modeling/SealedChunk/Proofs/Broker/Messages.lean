import SealedChunk.Broker.Message
import SealedChunk.Json.RoundTrip.Record
import SealedChunk.Json.RoundTrip.Value
import SealedChunk.Proofs.Attribute.Canonical

/-!
# Messages are read as they were written

A message travels as the record that describes it.  No two fields of a record have the same name,
each field carries its value, and a field that is left out has the value that it gets where it is
missing.  So a message is read back from its text, whatever its values are.

Only obligations need a word more.  They may be JSON values of any shape, but a reader opens only so
many brackets inside each other, and those of the message around them count.  In a record of its own
an obligation has two brackets less to open than there are, and in an answer four.

* `faithful_signedAttributes`, …, `faithful_keysResponse` — one lemma for each kind of message, with
  the brackets that it takes.
* **`decode_encode_message`** — all of them, from whole texts.
-/

namespace SealedChunk.Broker

open Attribute Json Json.Codec Json.Field

variable (levels : Nat)

/-! ## Parts of messages -/

lemma faithful_attributeMap (m : AttributeMap) : AttributeMap.codec.Faithful (levels + 2) m :=
  faithful_ordered fun entry _ => AttributeMap.faithful_valuesCodec levels entry.2

lemma faithful_texts (texts : List String) : (list text).Faithful (levels + 1) texts :=
  faithful_list fun s _ => faithful_text levels s

lemma faithful_metadata (m : Metadata) : (sorted text).Faithful (levels + 1) m :=
  faithful_sorted fun entry _ => faithful_text levels entry.2

lemma faithful_optionalText (s : Option String) : (optional text).Faithful levels s := by
  cases s with
  | none => exact faithful_optional_none text levels
  | some s => exact faithful_optional_some (faithful_text levels s) (by simp [text, writeText])

/-- Obligations are carried if none of them is nested too deep. -/
lemma faithful_obligations {m : Obligations} (h : ∀ entry ∈ m.entries, entry.2.Fits levels) :
    (sorted value).Faithful (levels + 1) m :=
  faithful_sorted fun entry hentry => faithful_value (h entry hentry)

/-! ## Records -/

lemma faithful_signedAttributes (m : SignedAttributes) :
    signedAttributes.codec.Faithful (levels + 1) m := by
  refine Record.faithful_codec (by decide) ?_ ?_
  · simp only [signedAttributes, List.forall_mem_cons]
    exact ⟨carries_needed (faithful_text levels _),
      carries_sparing fun _ => faithful_optionalText levels _, List.forall_mem_nil _⟩
  · obtain ⟨text, _ | signature⟩ := m
    · rfl
    · rfl

lemma faithful_createSpec (m : CreateSpec) : createSpec.codec.Faithful (levels + 2) m := by
  refine Record.faithful_codec (by decide) ?_ rfl
  simp only [createSpec, List.forall_mem_cons]
  exact ⟨carries_needed (faithful_text _ _), carries_needed (faithful_uint32 _ _),
    carries_needed (faithful_signedAttributes levels _),
    carries_needed (faithful_signedAttributes levels _), List.forall_mem_nil _⟩

lemma faithful_createRequest (m : CreateRequest) :
    createRequest.codec.Faithful (levels + 4) m := by
  refine Record.faithful_codec (by decide) ?_ rfl
  simp only [createRequest, List.forall_mem_cons]
  exact ⟨carries_spare (faithful_metadata (levels + 2) _),
    carries_needed (faithful_list fun spec _ => faithful_createSpec levels spec),
    List.forall_mem_nil _⟩

lemma faithful_fetchRequest (m : FetchRequest) : fetchRequest.codec.Faithful (levels + 2) m := by
  refine Record.faithful_codec (by decide) ?_ ?_
  · simp only [fetchRequest, List.forall_mem_cons]
    exact ⟨carries_spare (faithful_metadata levels _), carries_spare (faithful_texts levels _),
      carries_sparing fun _ => faithful_texts levels _, List.forall_mem_nil _⟩
  · obtain ⟨metadata, keyIds, _ | ⟨externalId, externalIds⟩⟩ := m
    · rfl
    · rfl

lemma faithful_updateSpec (m : UpdateSpec) : updateSpec.codec.Faithful (levels + 2) m := by
  refine Record.faithful_codec (by decide) ?_ ?_
  · simp only [updateSpec, List.forall_mem_cons]
    exact ⟨carries_needed (faithful_text _ _),
      carries_needed (faithful_signedAttributes levels _),
      carries_sparing fun _ => faithful_optionalText _ _, carries_spare (faithful_flag _ _),
      List.forall_mem_nil _⟩
  · obtain ⟨keyId, mutableAttributes, _ | previous, force⟩ := m
    · rfl
    · rfl

variable {levels} in
lemma faithful_keyRecord {m : KeyRecord}
    (h : ∀ entry ∈ m.obligations.entries, entry.2.Fits levels) :
    keyRecord.codec.Faithful (levels + 2) m := by
  refine Record.faithful_codec (by decide) ?_ ?_
  · simp only [keyRecord, List.forall_mem_cons]
    exact ⟨carries_needed (faithful_text _ _), carries_needed (faithful_text _ _),
      carries_spare (faithful_text _ _), carries_spare (faithful_signedAttributes levels _),
      carries_spare (faithful_signedAttributes levels _),
      carries_spare (faithful_obligations levels h), carries_spare (faithful_text _ _),
      List.forall_mem_nil _⟩
  · cases m
    rfl

lemma faithful_condition (m : Condition) : condition.codec.Faithful (levels + 1) m := by
  refine Record.faithful_codec (by decide) ?_ rfl
  simp only [condition, List.forall_mem_cons]
  exact ⟨carries_needed (faithful_int32 _ _), carries_spare (faithful_text _ _),
    List.forall_mem_nil _⟩

lemma faithful_keyCondition (m : KeyCondition) : keyCondition.codec.Faithful (levels + 1) m := by
  refine Record.faithful_codec (by decide) ?_ rfl
  simp only [keyCondition, List.forall_mem_cons]
  exact ⟨carries_needed (faithful_text _ _), carries_spare (faithful_int32 _ _),
    carries_spare (faithful_int32 _ _), carries_spare (faithful_text _ _), List.forall_mem_nil _⟩

lemma faithful_optionalCondition (c : Option Condition) :
    (optional condition.codec).Faithful (levels + 1) c := by
  cases c with
  | none => exact faithful_optional_none _ _
  | some c =>
    exact faithful_optional_some (faithful_condition levels c)
      (by simp [Record.codec, Record.write, writeObject])

variable {levels} in
lemma faithful_keysResponse {m : KeysResponse}
    (h : ∀ record ∈ m.keys, ∀ entry ∈ record.obligations.entries, entry.2.Fits levels) :
    keysResponse.codec.Faithful (levels + 4) m := by
  refine Record.faithful_codec (by decide) ?_ ?_
  · simp only [keysResponse, List.forall_mem_cons]
    exact ⟨carries_spare
        (faithful_list fun record hrecord => faithful_keyRecord (h record hrecord)),
      carries_sparing fun _ => faithful_optionalCondition (levels + 2) _,
      carries_sparing fun _ => faithful_list fun c _ => faithful_keyCondition (levels + 1) c,
      List.forall_mem_nil _⟩
  · obtain ⟨keys, _ | condition, _ | ⟨c, keyConditions⟩⟩ := m
    · rfl
    · rfl
    · rfl
    · rfl

/-! ## Whole texts -/

/-- **Every message is read as it was written**: with any text, any numbers of their range, and
whatever is absent, empty or there.  What is asked of obligations is that their numbers are whole
and within 64 bits, and that they open no more brackets inside each other than the message
leaves. -/
theorem decode_encode_message :
    (∀ m : AttributeMap, AttributeMap.codec.decode (AttributeMap.codec.encode m) = .ok m)
      ∧ (∀ m, signedAttributes.codec.decode (signedAttributes.codec.encode m) = .ok m)
      ∧ (∀ m, createSpec.codec.decode (createSpec.codec.encode m) = .ok m)
      ∧ (∀ m, createRequest.codec.decode (createRequest.codec.encode m) = .ok m)
      ∧ (∀ m, fetchRequest.codec.decode (fetchRequest.codec.encode m) = .ok m)
      ∧ (∀ m, updateSpec.codec.decode (updateSpec.codec.encode m) = .ok m)
      ∧ (∀ m : KeyRecord, (∀ entry ∈ m.obligations.entries, entry.2.Fits (maxLevels - 2)) →
          keyRecord.codec.decode (keyRecord.codec.encode m) = .ok m)
      ∧ (∀ m, condition.codec.decode (condition.codec.encode m) = .ok m)
      ∧ (∀ m, keyCondition.codec.decode (keyCondition.codec.encode m) = .ok m)
      ∧ ∀ m : KeysResponse, (∀ record ∈ m.keys, ∀ entry ∈ record.obligations.entries,
            entry.2.Fits (maxLevels - 4)) →
          keysResponse.codec.decode (keysResponse.codec.encode m) = .ok m := by
  refine ⟨?_, ?_, ?_, ?_, ?_, ?_, ?_, ?_, ?_, ?_⟩
  · exact fun m => decode_encode (faithful_attributeMap _ m)
  · exact fun m => decode_encode (faithful_signedAttributes _ m)
  · exact fun m => decode_encode (faithful_createSpec _ m)
  · exact fun m => decode_encode (faithful_createRequest _ m)
  · exact fun m => decode_encode (faithful_fetchRequest _ m)
  · exact fun m => decode_encode (faithful_updateSpec _ m)
  · exact fun m h => decode_encode (faithful_keyRecord h)
  · exact fun m => decode_encode (faithful_condition _ m)
  · exact fun m => decode_encode (faithful_keyCondition _ m)
  · exact fun m h => decode_encode (faithful_keysResponse h)

/-- An answer with a nested obligation, with a condition, and with no condition of a key. -/
theorem decode_encode_message_nested :
    let limits : Value := .array [.object [("máx", .number (.integer (-1)))], .null]
    let record : KeyRecord := { id := "abc.def", obligations := .ofList [("limits", limits)] }
    let m : KeysResponse := { keys := [record], condition := some { code := -1 } }
    limits.Fits (maxLevels - 4)
      ∧ keysResponse.codec.decode (keysResponse.codec.encode m) = .ok m := by
  intro limits record m
  have hlimits : limits.Fits (121 + 2) := by
    refine .array (List.forall_mem_cons.2 ⟨.object (List.pairwise_singleton _ _) ?_, ?_⟩)
    · exact List.forall_mem_singleton.2 (.integer (by decide) (by decide))
    · exact List.forall_mem_singleton.2 .null
  obtain ⟨-, -, -, -, -, -, -, -, -, hresponse⟩ := decode_encode_message
  refine ⟨hlimits, hresponse m ?_⟩
  exact List.forall_mem_singleton.2 (List.forall_mem_singleton.2 hlimits)

end SealedChunk.Broker
