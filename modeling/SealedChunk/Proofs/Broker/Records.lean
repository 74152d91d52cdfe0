import SealedChunk.Broker.Memory
import SealedChunk.Engine.Engine
import SealedChunk.Proofs.Attribute.SlotRoundTrip
import SealedChunk.Proofs.Engine.Opening

/-!
# What the broker in memory does with its records

An engine closes attributes twice over before they come back: for the order, under the secret that
it shares with the broker, and there they are opened and closed again under the secret of the new
key.  An update goes the same way, only under the key's own secret from the start.  Either way the
broker ends up with a slot that reads as the map that was sent, and everything else is as it was.

* `SignedAttributes.Reads` — a slot in good order, and the map that it stands for.
* `KeyRecord.Holds` — a record in good order, and the key that is opened from it.
* `Accepts`, **`mint_dichotomy`** — what the broker asks of an order, and what comes of it.
* `create_cases` — what comes of a request for one key.
* `keys_fetch`, `mem_keys_fetch` — what is handed out.
* `Admits` — what the broker asks of an update.
* `run_update_eq_ok_iff`, **`update_isOk_iff`** — what comes of an update, and when it is accepted.
-/

namespace SealedChunk

open Attribute Crypto

/-! ## Records in good order -/

/-- A slot whose signature holds and that opens in full, as this map. -/
def Attribute.SignedAttributes.Reads (signed : SignedAttributes) (key : Bytes)
    (ctx : SigningContext) (m : AttributeMap) : Prop :=
  decodeSlot signed key ctx
    = .ok { attributes := m, signature := signed.signature, status := .valid, unopened := [] }

lemma reads_of_decodeSlot {signed : SignedAttributes} {key : Bytes} {ctx : SigningContext}
    {decoded : DecodedSlot} (h : decodeSlot signed key ctx = .ok decoded)
    (hstatus : decoded.status = .valid) (hunopened : decoded.unopened = []) :
    signed.Reads key ctx decoded.attributes := by
  obtain ⟨-, hsignature, -⟩ := decodeSlot_eq_ok h
  rw [SignedAttributes.Reads, h, ← hsignature, ← hstatus, ← hunopened]

lemma reads_of_encodeSlot {secret : Secret} {ctx : SigningContext} {m : AttributeMap}
    {signed : SignedAttributes} {nonces later : Nonces}
    (h : (encodeSlot m secret.bytes secret.bytes ctx).run nonces = (.ok signed, later)) :
    signed.Reads secret.bytes ctx m :=
  decodeSlot_of_encodeSlot secret.length_eq h

/-- A slot reads as one map at most. -/
lemma Attribute.SignedAttributes.Reads.unique {signed : SignedAttributes} {key : Bytes}
    {ctx : SigningContext} {m n : AttributeMap} (hm : signed.Reads key ctx m)
    (hn : signed.Reads key ctx n) : m = n := by
  have hsame := Except.ok.inj (hm.symm.trans hn)
  exact congrArg DecodedSlot.attributes hsame

/-- A record of a key with this id and this secret, and with these attributes in good order. -/
structure Broker.KeyRecord.Holds (record : Broker.KeyRecord) (id : String) (secret : Secret)
    (fixed current : AttributeMap) : Prop where
  id_eq : record.id = id
  secret_eq : Secret.ofBase64 record.secret = .ok secret
  fixed : record.attributes.Reads secret.bytes (.ofSlot .immutable id) fixed
  current : record.mutableAttributes.Reads secret.bytes (.ofSlot .mutable id) current

/-- From a record in good order its key is opened, and there is nothing to report. -/
lemma Broker.KeyRecord.Holds.exists_openKey {record : Broker.KeyRecord} {id : String}
    {secret : Secret} {fixed current : AttributeMap} (h : record.Holds id secret fixed current)
    (v : Envelope.Variant) : ∃ opened, Engine.openKey v record = .ok opened ∧ opened.key.id = id
      ∧ opened.key.secret = secret ∧ opened.key.attributes = fixed
      ∧ opened.key.mutableAttributes = current ∧ opened.findings = {} := by
  have hfixed := h.fixed
  have hcurrent := h.current
  rw [← h.id_eq] at hfixed hcurrent
  have hopened : Engine.openKey v record = .ok _ :=
    bind_eq_ok_iff.2 ⟨secret, mapError_eq_ok_iff.2 h.secret_eq,
      bind_eq_ok_iff.2 ⟨_, Engine.openSlot_eq_ok_iff.2 hfixed,
        bind_eq_ok_iff.2 ⟨_, Engine.openSlot_eq_ok_iff.2 hcurrent, rfl⟩⟩⟩
  exact ⟨_, hopened, h.id_eq, rfl, rfl, rfl, rfl⟩

/-! ## Orders and updates as they are sent -/

namespace Engine

open Broker

lemma signOutbound_eq_ok {e : Engine} {m : AttributeMap} {slot : Slot} {signed : SignedAttributes}
    {nonces later : Nonces} (h : (e.signOutbound m slot).run nonces = (.ok signed, later)) :
    signed.Reads e.clientSecret.bytes (.ofSlot slot e.variant.id) m :=
  reads_of_encodeSlot (Drawing.run_mapError_eq_ok_iff.1 h)

/-- An order is for one key, and its slots read as the maps that were given. -/
lemma order_eq_ok {e : Engine} {inputs : EncryptInputs} {request : CreateRequest}
    {nonces later : Nonces} (h : (e.order inputs).run nonces = (.ok request, later)) :
    ∃ spec, request.keys = [spec] ∧ spec.quantity = 1
      ∧ spec.attributes.Reads e.clientSecret.bytes (.ofSlot .immutable spec.ref) inputs.attributes
      ∧ spec.mutableAttributes.Reads e.clientSecret.bytes (.ofSlot .mutable spec.ref)
          inputs.mutableAttributes := by
  obtain ⟨fixed, between, hfixed, h⟩ := Drawing.run_bind_eq_ok_iff.1 h
  obtain ⟨current, after, hcurrent, h⟩ := Drawing.run_bind_eq_ok_iff.1 h
  obtain ⟨rfl, -⟩ := Drawing.run_pure_eq_ok_iff.1 h
  exact ⟨_, rfl, rfl, signOutbound_eq_ok hfixed, signOutbound_eq_ok hcurrent⟩

/-- An update names its key, and reads under that key's secret as the map that was given. -/
lemma reads_of_prepareUpdate {key : Key} {m : AttributeMap} {force : Bool} {u : UpdateSpec}
    {nonces later : Nonces} (h : (prepareUpdate key m force).run nonces = (.ok u, later)) :
    u.keyId = key.id
      ∧ u.mutableAttributes.Reads key.secret.bytes (MemoryBroker.updateContext u) m := by
  obtain ⟨signed, between, hsigned, h⟩ := Drawing.run_bind_eq_ok_iff.1 h
  obtain ⟨rfl, -⟩ := Drawing.run_pure_eq_ok_iff.1 h
  exact ⟨rfl, reads_of_encodeSlot (Drawing.run_mapError_eq_ok_iff.1 hsigned)⟩

end Engine

namespace Broker.MemoryBroker

variable {b : MemoryBroker} {nonces later : Nonces} {record : KeyRecord} {secret : Secret}
  {fixed current m : AttributeMap}

/-! ## Creating keys -/

/-- Only the queue and the counter change when the next id is taken. -/
lemma eq_of_nextKey {key : String × Secret} {after : MemoryBroker}
    (h : b.nextKey = (key, after)) : ∃ queue counter, after = { b with queue, counter } := by
  rw [nextKey] at h
  split at h
  · cases h
    exact ⟨_, b.counter, rfl⟩
  · cases h
    exact ⟨b.queue, b.counter + 1, rfl⟩

/-- Of a slot that reads as a map nothing can come but a slot that reads as that map. -/
lemma reseal_of_reads {signed : SignedAttributes} {slot : Slot} {ref keyId : String}
    (h : signed.Reads b.clientSecret.bytes (.ofSlot slot ref) m) :
    b.reseal signed slot ref keyId secret nonces
      = match (encodeSlot m secret.bytes secret.bytes (.ofSlot slot keyId)).run nonces with
        | (.ok signed, nonces) => (some signed, nonces)
        | (.error _, nonces) => (none, nonces) := by
  rw [reseal, h]
  rfl

/-- A slot is not closed again only if it is too long. -/
lemma not_sealable_of_reseal {signed : SignedAttributes} {slot : Slot} {ref keyId : String}
    (h : signed.Reads b.clientSecret.bytes (.ofSlot slot ref) m)
    (hnone : b.reseal signed slot ref keyId secret nonces = (none, later)) :
    ¬ Sealable m keyId := by
  intro hm
  have hsealable : Sealable m (SigningContext.ofSlot slot keyId).id := hm
  obtain ⟨encoded, after, hencoded⟩ := (encodeSlot_isOk_iff secret.length_eq nonces).2 hsealable
  rw [reseal_of_reads h, hencoded] at hnone
  cases hnone

/-- What is closed again read as something before, there was room for it, and it reads as the same
now. -/
lemma exists_reads_of_reseal {signed resealed : SignedAttributes} {slot : Slot} {ref keyId : String}
    (h : b.reseal signed slot ref keyId secret nonces = (some resealed, later)) :
    ∃ m, signed.Reads b.clientSecret.bytes (.ofSlot slot ref) m ∧ Sealable m keyId
      ∧ resealed.Reads secret.bytes (.ofSlot slot keyId) m := by
  have hreads : ∃ m, signed.Reads b.clientSecret.bytes (.ofSlot slot ref) m := by
    rw [reseal] at h
    split at h
    · cases h
    · rename_i decoded hdecoded
      split_ifs at h with hgood
      · exact ⟨_, reads_of_decodeSlot hdecoded hgood.1 hgood.2⟩
      · cases h
  obtain ⟨m, hm⟩ := hreads
  refine ⟨m, hm, ?_⟩
  rw [reseal_of_reads hm] at h
  split at h
  · rename_i encoded between hencoded
    cases h
    have hroom := (encodeSlot_isOk_iff secret.length_eq nonces).1 ⟨resealed, later, hencoded⟩
    exact ⟨hroom, reads_of_encodeSlot hencoded⟩
  · cases h

/-- All that the broker asks of an order for the next key: its slots read as maps under the secret
of the clients, and there is room to close them again. -/
structure Accepts (b : MemoryBroker) (spec : CreateSpec) (fixed current : AttributeMap) : Prop where
  sealable : Sealable fixed b.nextKey.1.1 ∧ Sealable current b.nextKey.1.1
  fixed : spec.attributes.Reads b.clientSecret.bytes (.ofSlot .immutable spec.ref) fixed
  current : spec.mutableAttributes.Reads b.clientSecret.bytes (.ofSlot .mutable spec.ref) current

/-- **What comes of minting a key.**  An order that is not accepted costs an id.  For one that is
accepted there is a key with the next id, which holds the attributes of the order, and it is put in
place. -/
theorem mint_dichotomy (b : MemoryBroker) (spec : CreateSpec) (nonces : Nonces) :
    let minted := b.mint spec nonces
    let id := b.nextKey.1.1
    ((¬ ∃ fixed current, b.Accepts spec fixed current)
        ∧ (∃ reason, minted.result = .error reason) ∧ minted.broker = b.nextKey.2)
      ∨ ∃ record fixed current, b.Accepts spec fixed current ∧ minted.result = .ok record
        ∧ record.ref = spec.ref ∧ record.Holds id b.nextKey.1.2 fixed current
        ∧ minted.broker = { b.nextKey.2 with records := b.records.insert id record } := by
  intro minted id
  rcases hkey : b.nextKey with ⟨⟨taken, secret⟩, next⟩
  obtain rfl : taken = id := (congrArg (·.1.1) hkey).symm
  obtain ⟨queue, counter, rfl⟩ := eq_of_nextKey hkey
  simp only [minted, mint, hkey]
  rcases hattributes :
    reseal { b with queue, counter } spec.attributes .immutable spec.ref id secret nonces with
    ⟨_ | attributes, between⟩
  · refine .inl ⟨?_, ⟨_, rfl⟩, rfl⟩
    rintro ⟨fixed, current, haccepts⟩
    exact not_sealable_of_reseal haccepts.fixed hattributes haccepts.sealable.1
  · dsimp only
    obtain ⟨fixed, hfixed, hroom, hholds⟩ := exists_reads_of_reseal hattributes
    rcases hmutable : reseal { b with queue, counter } spec.mutableAttributes .mutable spec.ref id
      secret between with ⟨_ | mutableAttributes, later⟩
    · refine .inl ⟨?_, ⟨_, rfl⟩, rfl⟩
      rintro ⟨fixed, current, haccepts⟩
      exact not_sealable_of_reseal haccepts.current hmutable haccepts.sealable.2
    · obtain ⟨current, hcurrent, hroom', hholds'⟩ := exists_reads_of_reseal hmutable
      exact .inr ⟨_, fixed, current, ⟨⟨hroom, hroom'⟩, hfixed, hcurrent⟩, rfl, rfl,
        ⟨rfl, Secret.ofBase64_toBase64 secret, hholds, hholds'⟩, rfl⟩

/-- Minting loses an id if one of the maps is too long to be sealed for it.  Else the broker has a
new record, and it holds the attributes of the order. -/
lemma mint_cases {spec : CreateSpec} {id : String} {after : MemoryBroker}
    (hkey : b.nextKey = ((id, secret), after))
    (hfixed : spec.attributes.Reads b.clientSecret.bytes (.ofSlot .immutable spec.ref) fixed)
    (hcurrent : spec.mutableAttributes.Reads b.clientSecret.bytes (.ofSlot .mutable spec.ref)
      current) (nonces : Nonces) :
    let minted := b.mint spec nonces
    (¬ (Sealable fixed id ∧ Sealable current id)
        ∧ (∃ reason, minted.result = .error reason) ∧ minted.broker = after)
      ∨ ∃ record, minted.result = .ok record ∧ record.Holds id secret fixed current
        ∧ minted.broker = { after with records := after.records.insert id record } := by
  intro minted
  have hrecords : after.records = b.records := by
    obtain ⟨queue, counter, rfl⟩ := eq_of_nextKey hkey
    rfl
  rcases mint_dichotomy b spec nonces with
    ⟨hnot, hreason, hbroker⟩ | ⟨record, fixed', current', haccepts, hresult, -, hholds, hbroker⟩
  · rw [hkey] at hbroker
    refine .inl ⟨fun hroom => hnot ⟨fixed, current, ?_, hfixed, hcurrent⟩, hreason, hbroker⟩
    rw [hkey]
    exact hroom
  · obtain rfl := haccepts.fixed.unique hfixed
    obtain rfl := haccepts.current.unique hcurrent
    rw [hkey] at hholds hbroker
    rw [hrecords]
    exact .inr ⟨record, hresult, hholds, hbroker⟩

/-- An order for one key is answered with that key, or without any. -/
theorem create_cases {request : CreateRequest} {spec : CreateSpec} {id : String}
    {after : MemoryBroker} (hdeny : b.deny = false) (hkey : b.nextKey = ((id, secret), after))
    (hkeys : request.keys = [spec]) (hquantity : spec.quantity = 1)
    (hfixed : spec.attributes.Reads b.clientSecret.bytes (.ofSlot .immutable spec.ref) fixed)
    (hcurrent : spec.mutableAttributes.Reads b.clientSecret.bytes (.ofSlot .mutable spec.ref)
      current) (nonces : Nonces) :
    let answered := b.create request nonces
    (¬ (Sealable fixed id ∧ Sealable current id)
        ∧ answered.1.keys = [] ∧ answered.2.1 = after)
      ∨ ∃ record, answered.1.keys = [record] ∧ record.Holds id secret fixed current
        ∧ answered.2.1 = { after with records := after.records.insert id record } := by
  have hall : mintAll request.keys b nonces
      = { b.mint spec nonces with result := (b.mint spec nonces).result.map ([·]) } := by
    have hone : (1 : UInt32).toNat = 1 := rfl
    rw [hkeys, mintAll, hquantity, hone, mintCopies]
    cases (b.mint spec nonces).result <;> rfl
  intro answered
  simp only [answered, create, hdeny, hall]
  rcases mint_cases hkey hfixed hcurrent nonces with
    ⟨hlong, ⟨reason, hresult⟩, hbroker⟩ | ⟨record, hresult, hholds, hbroker⟩
  · rw [hresult]
    exact .inl ⟨hlong, rfl, hbroker⟩
  · rw [hresult]
    exact .inr ⟨record, rfl, hholds, hbroker⟩

/-! ## Fetching keys -/

/-- What is handed out comes from the records. -/
lemma exists_record_of_mem_fetch {request : FetchRequest} {handed : KeyRecord}
    (hmem : handed ∈ (b.fetch request).keys) :
    ∃ id record, b.records.find? id = some record ∧ handed = b.handOut record := by
  rw [fetch] at hmem
  split_ifs at hmem
  · cases hmem
  · obtain ⟨record, hrecord, rfl⟩ := List.mem_map.1 hmem
    rcases List.mem_append.1 hrecord with hrecord | hrecord
    · obtain ⟨id, -, hfind⟩ := List.mem_filterMap.1 hrecord
      exact ⟨id, record, hfind, rfl⟩
    · rw [fetchByExternalId] at hrecord
      split_ifs at hrecord
      · cases hrecord
      · rw [List.mem_mergeSort, List.mem_filter] at hrecord
        obtain ⟨⟨id, found⟩, hentry, rfl⟩ := List.mem_map.1 hrecord.1
        exact ⟨id, found, b.records.find?_eq_some_iff.2 hentry, rfl⟩

/-- A broker that answers every request, and has its records under their own ids. -/
structure Orderly (b : MemoryBroker) : Prop where
  deny : b.deny = false
  answerAs : b.answerAs = none
  id_eq : ∀ {id record}, b.records.find? id = some record → record.id = id

lemma handOut_of_orderly (h : b.Orderly) (record : KeyRecord) :
    b.handOut record = { record with ref := "" } := by
  rw [handOut, h.answerAs]
  rfl

lemma Orderly.insert (h : b.Orderly) {id : String} (hrecord : record.id = id) :
    Orderly { b with records := b.records.insert id record } where
  deny := h.deny
  answerAs := h.answerAs
  id_eq := by
    intro other found hfind
    rcases b.records.find?_insert_eq_some_iff.1 hfind with ⟨rfl, rfl⟩ | ⟨-, hfind⟩
    · exact hrecord
    · exact h.id_eq hfind

lemma mem_keys_fetch (h : b.Orderly) {request : FetchRequest} {handed : KeyRecord}
    (hmem : handed ∈ (b.fetch request).keys) :
    ∃ record, b.records.find? record.id = some record ∧ handed = { record with ref := "" } := by
  obtain ⟨id, record, hfind, rfl⟩ := exists_record_of_mem_fetch hmem
  exact ⟨record, by rw [h.id_eq hfind, hfind], handOut_of_orderly h record⟩

/-- Of a broker that answers, a key is asked for by its id, and is handed out if it is there. -/
lemma keys_fetch_eq_toList (hdeny : b.deny = false) (id : String) (metadata : Metadata) :
    (b.fetch { metadata, keyIds := [id] }).keys = ((b.records.find? id).map b.handOut).toList := by
  cases hfind : b.records.find? id <;> simp [fetch, hdeny, fetchById, hfind, fetchByExternalId]

/-- A key that is asked for by its id is handed out. -/
lemma keys_fetch (h : b.Orderly) {id : String} (hfind : b.records.find? id = some record)
    (metadata : Metadata) :
    (b.fetch { metadata, keyIds := [id] }).keys = [{ record with ref := "" }] := by
  rw [keys_fetch_eq_toList h.deny, hfind, Option.map_some, handOut_of_orderly h]
  rfl

/-! ## Replacing mutable attributes -/

/-- All that the broker asks of an update but that there is room for it: there is such a key, the
update replaces what is there or whatever is there, and it is signed with the secret of the key. -/
structure Admits (b : MemoryBroker) (spec : UpdateSpec) (record : KeyRecord) (secret : Secret)
    (decoded : DecodedSlot) : Prop where
  found : b.records.find? spec.keyId = some record
  timely : spec.force = true ∨ spec.previous = record.mutableAttributes.signature
  secret_eq : Secret.ofBase64 record.secret = .ok secret
  decodes : decodeSlot spec.mutableAttributes secret.bytes (updateContext spec) = .ok decoded
  valid : decoded.status = .valid

section Update

variable {spec : UpdateSpec} {decoded : DecodedSlot}

/-- The check of the signature that is replaced. -/
lemma late_iff {record : KeyRecord} :
    (!spec.force && spec.previous ≠ record.mutableAttributes.signature) = true
      ↔ spec.force = false ∧ spec.previous ≠ record.mutableAttributes.signature := by
  cases spec.force <;> simp

lemma timely_iff {record : KeyRecord} :
    ¬ ((!spec.force && spec.previous ≠ record.mutableAttributes.signature) = true)
      ↔ spec.force = true ∨ spec.previous = record.mutableAttributes.signature := by
  rw [late_iff, not_and_or, Bool.not_eq_false, not_not]

lemma run_replacement_eq_ok_iff {signed : SignedAttributes} :
    (replacement record spec).run nonces = (.ok signed, later) ↔
      (spec.force = true ∨ spec.previous = record.mutableAttributes.signature)
        ∧ ∃ secret decoded, Secret.ofBase64 record.secret = .ok secret
          ∧ decodeSlot spec.mutableAttributes secret.bytes (updateContext spec) = .ok decoded
          ∧ decoded.status = .valid
          ∧ (encodeSlot decoded.attributes secret.bytes secret.bytes
              (.ofSlot .mutable spec.keyId)).run nonces = (.ok signed, later) := by
  rw [← timely_iff, replacement]
  constructor
  · intro h
    split_ifs at h with hlate
    · cases h
    · refine ⟨hlate, ?_⟩
      split at h
      · cases h
      · rename_i secret hsecret
        split at h
        · cases h
        · rename_i decoded hdecoded
          split_ifs at h with hvalid
          · exact ⟨secret, decoded, hsecret, hdecoded, hvalid, Drawing.run_mapError_eq_ok_iff.1 h⟩
          · cases h
  · rintro ⟨htimely, secret, decoded, hsecret, hdecoded, hvalid, h⟩
    simp only [if_neg htimely, hsecret, hdecoded, if_pos hvalid]
    exact Drawing.run_mapError_eq_ok_iff.2 h

/-- Only what is admitted is closed again. -/
lemma run_update_eq_ok_iff {after : MemoryBroker} :
    (b.update spec).run nonces = (.ok after, later) ↔
      ∃ record secret decoded signed, b.Admits spec record secret decoded
        ∧ (encodeSlot decoded.attributes secret.bytes secret.bytes
            (.ofSlot .mutable spec.keyId)).run nonces = (.ok signed, later)
        ∧ after = { b with records :=
            b.records.insert spec.keyId { record with mutableAttributes := signed } } := by
  constructor
  · intro h
    rw [update] at h
    split at h
    · cases h
    · rename_i record hfind
      obtain ⟨signed, between, hreplaced, h⟩ := Drawing.run_bind_eq_ok_iff.1 h
      obtain ⟨rfl, rfl⟩ := Drawing.run_pure_eq_ok_iff.1 h
      obtain ⟨htimely, secret, decoded, hsecret, hdecoded, hvalid, hsigned⟩ :=
        run_replacement_eq_ok_iff.1 hreplaced
      exact ⟨record, secret, decoded, signed, ⟨hfind, htimely, hsecret, hdecoded, hvalid⟩,
        hsigned, rfl⟩
  · rintro ⟨record, secret, decoded, signed, h, hsigned, rfl⟩
    have hreplaced : (replacement record spec).run nonces = (.ok signed, later) :=
      run_replacement_eq_ok_iff.2
        ⟨h.timely, secret, decoded, h.secret_eq, h.decodes, h.valid, hsigned⟩
    rw [update, h.found]
    exact Drawing.run_bind_eq_ok_iff.2 ⟨signed, later, hreplaced, rfl⟩

/-- **When an update is accepted.**  It is admitted, and what it opens as is not too long to be
sealed for the key. -/
theorem update_isOk_iff (nonces : Nonces) :
    (∃ after later, (b.update spec).run nonces = (.ok after, later)) ↔
      ∃ record secret decoded, b.Admits spec record secret decoded
        ∧ Sealable decoded.attributes spec.keyId := by
  have hseal (secret : Secret) (m : AttributeMap) : (∃ signed later, (encodeSlot m secret.bytes
      secret.bytes (.ofSlot .mutable spec.keyId)).run nonces = (.ok signed, later))
        ↔ Sealable m spec.keyId := encodeSlot_isOk_iff secret.length_eq nonces
  constructor
  · rintro ⟨after, later, h⟩
    obtain ⟨record, secret, decoded, signed, hadmits, hsigned, -⟩ := run_update_eq_ok_iff.1 h
    exact ⟨record, secret, decoded, hadmits, (hseal secret _).1 ⟨signed, later, hsigned⟩⟩
  · rintro ⟨record, secret, decoded, hadmits, hm⟩
    obtain ⟨signed, later, hsigned⟩ := (hseal secret _).2 hm
    exact ⟨_, later, run_update_eq_ok_iff.2
      ⟨record, secret, decoded, signed, hadmits, hsigned, rfl⟩⟩

variable (hfind : b.records.find? spec.keyId = some record)
  (hsecret : Secret.ofBase64 record.secret = .ok secret)
  (hreads : spec.mutableAttributes.Reads secret.bytes (updateContext spec) m)

include hfind hsecret hreads in
/-- What reads under the secret of its key is admitted unless it is too late. -/
lemma admits_iff_of_reads {found : KeyRecord} {other : Secret} :
    b.Admits spec found other decoded ↔
      (spec.force = true ∨ spec.previous = record.mutableAttributes.signature)
        ∧ found = record ∧ other = secret
        ∧ decoded = { attributes := m, signature := spec.mutableAttributes.signature,
                      status := .valid, unopened := [] } := by
  constructor
  · intro h
    obtain rfl := Option.some.inj (h.found.symm.trans hfind)
    obtain rfl := Except.ok.inj (h.secret_eq.symm.trans hsecret)
    exact ⟨h.timely, rfl, rfl, Except.ok.inj (h.decodes.symm.trans hreads)⟩
  · rintro ⟨htimely, rfl, rfl, rfl⟩
    exact ⟨hfind, htimely, hsecret, hreads, rfl⟩

end Update

end Broker.MemoryBroker

end SealedChunk
