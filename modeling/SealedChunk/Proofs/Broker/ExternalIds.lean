import SealedChunk.Proofs.Broker.Changes

/-!
# Keys that are found by an external id

A client may give a key external ids, as the values of one of its immutable attributes.  The broker
looks for them in the text of the attributes, as it has it: with what is protected closed, and
closed under the secret of the key.  But external ids are not protected, so they stand in that text
as they were given.

The broker goes through its records in no particular order.  They are sorted by their ids before
they are handed out, and since each record has an id of its own, that leaves only one order.

* `KeyRecord.Fixed` — what the immutable attributes of a record read as.
* `hasExternalId_iff` — the records that are found.
* `Lists`, **`Lists.change`** — the keys that a broker has, all of them, with what they were given.
* `pairwise_fetchByExternalId`, `exists_mem_keys_iff` — what is found, and in which order.
* `exists_finishFetch` — what is opened.
-/

namespace SealedChunk

open Attribute Broker Crypto Engine

/-- The text is one of the external ids in the map. -/
def AttributeMap.HasExternalId (m : AttributeMap) (externalId : String) : Prop :=
  ∃ values, m.find? externalIdName = some values ∧ externalId ∈ values

namespace Broker

variable {record : KeyRecord} {id : String} {secret : Secret} {fixed current m : AttributeMap}

/-! ## Immutable attributes -/

/-- The immutable attributes of a record, as those of a key with this id, read as the map. -/
def KeyRecord.Fixed (record : KeyRecord) (id : String) (m : AttributeMap) : Prop :=
  ∃ secret, Secret.ofBase64 record.secret = .ok secret
    ∧ record.attributes.Reads secret.bytes (.ofSlot .immutable id) m

lemma KeyRecord.Holds.fixed_iff (h : record.Holds id secret fixed current) :
    record.Fixed id m ↔ m = fixed := by
  constructor
  · rintro ⟨other, hother, hm⟩
    obtain rfl := Except.ok.inj (hother.symm.trans h.secret_eq)
    exact hm.unique h.fixed
  · rintro rfl
    exact ⟨secret, h.secret_eq, h.fixed⟩

namespace MemoryBroker

variable {b after : MemoryBroker} {given minted : List (String × AttributeMap)}
  {externalId : String}

/-- External ids are found as they were given. -/
lemma hasExternalId_iff (h : record.Fixed id m) :
    hasExternalId record [externalId] = true ↔ m.HasExternalId externalId := by
  obtain ⟨secret, -, hreads⟩ := h
  obtain ⟨-, -, closed, hclosed, hopen⟩ := decodeSlot_eq_ok_iff.1 hreads
  have hname : isProtected externalIdName = false := by decide
  have hsame := find?_openMap_of_unprotected hname closed secret.bytes
    (SigningContext.ofSlot .immutable id).id
  rw [hopen] at hsame
  dsimp only at hsame
  rw [AttributeMap.HasExternalId, hsame, hasExternalId, hclosed]
  dsimp only
  cases closed.find? externalIdName with
  | none => simp
  | some values => simp

/-! ## All keys of a broker -/

/-- The broker has these keys and no others, with these immutable attributes. -/
def Lists (b : MemoryBroker) (given : List (String × AttributeMap)) : Prop :=
  ∀ id m, (id, m) ∈ given ↔ ∃ record, b.records.find? id = some record ∧ record.Fixed id m

lemma lists_of_empty (hempty : b.records = .empty) : b.Lists [] := by
  intro id m
  rw [hempty]
  constructor
  · rintro ⟨⟩
  · rintro ⟨record, ⟨⟩, -⟩

/-- **What one change adds to the keys.**  A key under a new id comes to the others, and an update
leaves all immutable attributes as they were. -/
theorem Lists.change (hb : b.Lists given) (h : b.Change minted after)
    (hnew : ∀ entry ∈ minted, b.records.find? entry.1 = none) : after.Lists (minted ++ given) := by
  intro id m
  rw [List.mem_append]
  cases h with
  | kept queue counter =>
    simp only [List.not_mem_nil, false_or]
    exact hb id m
  | @put queue counter other secret record fixed current holds =>
    have hnone : b.records.find? other = none := hnew _ List.mem_cons_self
    simp only [List.mem_singleton, Prod.mk.injEq, OrderedMap.find?_insert_eq_some_iff]
    rw [hb id m]
    constructor
    · rintro (⟨rfl, rfl⟩ | ⟨found, hfind, hfixed⟩)
      · exact ⟨record, .inl ⟨rfl, rfl⟩, holds.fixed_iff.2 rfl⟩
      · have hother : other ≠ id := by
          rintro rfl
          cases hnone.symm.trans hfind
        exact ⟨found, .inr ⟨hother, hfind⟩, hfixed⟩
    · rintro ⟨found, ⟨rfl, rfl⟩ | ⟨-, hfind⟩, hfixed⟩
      · exact .inl ⟨rfl, holds.fixed_iff.1 hfixed⟩
      · exact .inr ⟨found, hfind, hfixed⟩
  | @replaced other secret record signed brought hfound =>
    simp only [List.not_mem_nil, false_or, OrderedMap.find?_insert_eq_some_iff]
    rw [hb id m]
    constructor
    · rintro ⟨found, hfind, hfixed⟩
      by_cases hsame : other = id
      · subst hsame
        obtain rfl := Option.some.inj (hfound.symm.trans hfind)
        exact ⟨_, .inl ⟨rfl, rfl⟩, hfixed⟩
      · exact ⟨found, .inr ⟨hsame, hfind⟩, hfixed⟩
    · rintro ⟨found, ⟨rfl, rfl⟩ | ⟨-, hfind⟩, hfixed⟩
      · exact ⟨record, hfound, hfixed⟩
      · exact ⟨found, hfind, hfixed⟩

/-! ## What is found -/

lemma mem_fetchByExternalId (h : b.Orderly) :
    record ∈ b.fetchByExternalId [] [externalId] ↔
      b.records.find? record.id = some record ∧ hasExternalId record [externalId] = true := by
  rw [fetchByExternalId, if_neg (by simp), List.mem_mergeSort, List.mem_filter]
  refine and_congr ?_ (by simp)
  rw [List.mem_map]
  constructor
  · rintro ⟨⟨id, found⟩, hentry, rfl⟩
    have hfind := b.records.find?_eq_some_iff.2 hentry
    rw [h.id_eq hfind]
    exact hfind
  · exact fun hfind => ⟨_, b.records.find?_eq_some_iff.1 hfind, rfl⟩

/-- What is found is in ascending order of the ids, and no id comes twice. -/
lemma pairwise_fetchByExternalId (h : b.Orderly) (externalId : String) :
    ((b.fetchByExternalId [] [externalId]).map (·.id)).Pairwise (· < ·) := by
  have hids : (b.records.entries.map Prod.snd).map (·.id) = b.records.entries.map Prod.fst := by
    rw [List.map_map]
    exact List.map_congr_left fun entry hentry => h.id_eq (b.records.find?_eq_some_iff.2 hentry)
  have hnodup : ((b.records.entries.map Prod.snd).map (·.id)).Nodup := hids ▸ b.records.nodup
  rw [fetchByExternalId, if_neg (by simp)]
  generalize hfound : (b.records.entries.map Prod.snd).filter _ = found
  have hsublist : found.Sublist (b.records.entries.map Prod.snd) := hfound ▸ List.filter_sublist
  have hsorted : (found.mergeSort fun r s => decide (r.id ≤ s.id)).Pairwise
      fun r s => decide (r.id ≤ s.id) = true :=
    List.pairwise_mergeSort (by simpa using fun r s t => String.le_trans)
      (by simpa using fun r s => String.le_total _ _) found
  have hdistinct : ((found.mergeSort fun r s => decide (r.id ≤ s.id)).map (·.id)).Nodup :=
    ((List.mergeSort_perm found _).map _).nodup_iff.2 ((hsublist.map _).nodup hnodup)
  rw [List.pairwise_map]
  exact (hsorted.and (List.pairwise_map.1 hdistinct)).imp fun h =>
    Std.lt_of_le_of_ne (of_decide_eq_true h.1) h.2

lemma keys_fetch_externalId (h : b.Orderly) (externalId : String) (metadata : Metadata) :
    (b.fetch { metadata, externalIds := [externalId] }).keys
      = (b.fetchByExternalId [] [externalId]).map fun record => { record with ref := "" } := by
  simp [fetch, h.deny, fetchById, handOut_of_orderly h]

/-- A key is found if it was given the external id. -/
lemma exists_mem_keys_iff (h : b.Orderly) (hlists : b.Lists given) (metadata : Metadata) :
    (∃ handed ∈ (b.fetch { metadata, externalIds := [externalId] }).keys,
        handed.id = id ∧ handed.Fixed id m)
      ↔ (id, m) ∈ given ∧ m.HasExternalId externalId := by
  rw [keys_fetch_externalId h, hlists id m]
  simp only [List.mem_map, mem_fetchByExternalId h]
  constructor
  · rintro ⟨_, ⟨record, ⟨hfind, hfound⟩, rfl⟩, rfl, hfixed⟩
    exact ⟨⟨record, hfind, hfixed⟩, (hasExternalId_iff hfixed).1 hfound⟩
  · rintro ⟨⟨record, hfind, hfixed⟩, hm⟩
    obtain rfl := h.id_eq hfind
    exact ⟨_, ⟨record, ⟨hfind, (hasExternalId_iff hfixed).2 hm⟩, rfl⟩, rfl, hfixed⟩

end MemoryBroker

end Broker

/-! ## What is opened -/

namespace Engine

variable {b : MemoryBroker} {given : List (String × AttributeMap)}

/-- Records in good order are opened one by one, and there is nothing to report of any. -/
lemma exists_openAll (v : Envelope.Variant) {records : List KeyRecord}
    (h : ∀ record ∈ records, ∃ secret fixed current, record.Holds record.id secret fixed current) :
    ∃ fetched, (openAll v records).1 = .ok fetched
      ∧ fetched.map (·.key.id) = records.map (·.id) ∧ (∀ f ∈ fetched, f.findings = {})
      ∧ ∀ id m, (∃ f ∈ fetched, f.key.id = id ∧ f.key.attributes = m)
        ↔ ∃ record ∈ records, record.id = id ∧ record.Fixed id m := by
  induction records with
  | nil => exact ⟨[], rfl, rfl, List.forall_mem_nil _, by simp⟩
  | cons record rest ih =>
    obtain ⟨hrecord, hrest⟩ := List.forall_mem_cons.1 h
    obtain ⟨secret, fixed, current, hholds⟩ := hrecord
    obtain ⟨opened, hopened, hid, -, hfixed, -, hclean⟩ := hholds.exists_openKey v
    obtain ⟨others, hothers, hids, hfindings, hmem⟩ := ih hrest
    refine ⟨⟨opened.key, opened.findings⟩ :: others, ?_, ?_, ?_, ?_⟩
    · rw [openAll, hopened]
      exact map_eq_ok_iff.2 ⟨others, hothers, rfl⟩
    · rw [List.map_cons, List.map_cons, hids, hid]
    · exact List.forall_mem_cons.2 ⟨hclean, hfindings⟩
    · intro id m
      rw [List.exists_mem_cons_iff, List.exists_mem_cons_iff, hmem]
      refine or_congr_left ?_
      rw [hid, hfixed]
      constructor
      · rintro ⟨rfl, rfl⟩
        exact ⟨rfl, hholds.fixed_iff.2 rfl⟩
      · rintro ⟨rfl, hm⟩
        exact ⟨rfl, (hholds.fixed_iff.1 hm).symm⟩

/-- What an engine makes of the answer to a request by an external id. -/
lemma exists_finishFetch (h : b.Orderly) (hsound : b.Sound) (hlists : b.Lists given) (e : Engine)
    (externalId : String) (metadata : Metadata) :
    ∃ fetched, (e.finishFetch externalId {}
        (.response (b.fetch { metadata, externalIds := [externalId] }))).result = .ok fetched
      ∧ (fetched.map (·.key.id)).Pairwise (· < ·) ∧ (∀ f ∈ fetched, f.findings = {})
      ∧ ∀ id m, (∃ f ∈ fetched, f.key.id = id ∧ f.key.attributes = m)
        ↔ (id, m) ∈ given ∧ m.HasExternalId externalId := by
  have hgood : ∀ handed ∈ (b.fetch { metadata, externalIds := [externalId] }).keys,
      ∃ secret fixed current, handed.Holds handed.id secret fixed current := by
    intro handed hmem
    obtain ⟨record, hfind, rfl⟩ := MemoryBroker.mem_keys_fetch h hmem
    obtain ⟨secret, fixed, current, hholds⟩ := hsound hfind
    exact ⟨secret, fixed, current, rfl, hholds.secret_eq, hholds.fixed, hholds.current⟩
  obtain ⟨fetched, hfetched, hids, hfindings, hmem⟩ := exists_openAll e.variant hgood
  refine ⟨fetched, ?_, ?_, hfindings, ?_⟩
  · rw [finishFetch, receive]
    dsimp only
    rcases hall : openAll e.variant (b.fetch { metadata, externalIds := [externalId] }).keys with
      ⟨failure | keys, events⟩
    · rw [hall] at hfetched
      cases hfetched
    · rw [hall] at hfetched
      exact hfetched
  · rw [hids, MemoryBroker.keys_fetch_externalId h, List.map_map]
    exact MemoryBroker.pairwise_fetchByExternalId h externalId
  · intro id m
    rw [hmem, MemoryBroker.exists_mem_keys_iff h hlists]

end Engine

end SealedChunk
