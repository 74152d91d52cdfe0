import Mathlib.Data.List.Induction
import Mathlib.Logic.Relation
import SealedChunk.Proofs.Broker.Records

/-!
# What can become of the records of a broker

Clients may ask a broker for anything.  Still its records change in two ways only: one is put under
an id, or the mutable attributes of one are replaced.  What is written is in both cases a slot that
the broker has just closed itself, under the secret of the record, and such a slot opens again.
So **whatever was asked of it, a broker has no record that does not open clean.**  Forged
signatures, values that do not open, ids that come up twice and orders that are refused half way
make no difference.

An order for several keys is not carried out in one go: between two of its keys the broker may do
other things.  Therefore a demand may also be for a single key of an order.

* `Change` — the ways in which the records change.
* `change_mint`, `change_update` — one key, one update.
* `Demand`, `meet`, `meetAll` — what is asked of a broker, and the broker after it.
* `changes_meet`, `meetAll_induction` — whatever every change preserves is preserved.
* `Sound`, **`sound_meetAll`** — records in good order.
* **`opens_clean_meetAll`** — the same, said of what is decoded and of what is handed out.
-/

namespace SealedChunk.Broker

open Attribute Crypto

/-- What is signed in one of the slots of a record. -/
def KeyRecord.signed (record : KeyRecord) : Slot → SignedAttributes
  | .immutable => record.attributes
  | .mutable => record.mutableAttributes

lemma KeyRecord.Holds.exists_decodeSlot {record : KeyRecord} {id : String} {secret : Secret}
    {fixed current : AttributeMap} (h : record.Holds id secret fixed current) (slot : Slot) :
    ∃ decoded, decodeSlot (record.signed slot) secret.bytes (.ofSlot slot id) = .ok decoded
      ∧ decoded.status = .valid ∧ decoded.unopened = [] := by
  cases slot with
  | immutable => exact ⟨_, h.fixed, rfl, rfl⟩
  | mutable => exact ⟨_, h.current, rfl, rfl⟩

namespace MemoryBroker

variable {b after : MemoryBroker} {nonces later : Nonces}

/-! ## The ways in which the records change -/

/-- What one event does to a broker, with the ids and the attributes of the keys that come of it. -/
inductive Change (b : MemoryBroker) : List (String × AttributeMap) → MemoryBroker → Prop
  /-- No record changes. -/
  | kept (queue : List (String × Secret)) (counter : UInt8) : Change b [] { b with queue, counter }
  /-- A record is put under its id, and over another if there is one. -/
  | put (queue : List (String × Secret)) (counter : UInt8) {id : String} {secret : Secret}
    {record : KeyRecord} {fixed current : AttributeMap}
    (holds : record.Holds id secret fixed current) :
    Change b [(id, fixed)] { b with queue, counter, records := b.records.insert id record }
  /-- The mutable attributes of a record are replaced. -/
  | replaced {id : String} {secret : Secret} {record : KeyRecord} {signed : SignedAttributes}
    {m : AttributeMap} (found : b.records.find? id = some record)
    (secret_eq : Secret.ofBase64 record.secret = .ok secret)
    (reads : signed.Reads secret.bytes (.ofSlot .mutable id) m) :
    Change b []
      { b with records := b.records.insert id { record with mutableAttributes := signed } }

/-- Minting a key puts a record under its id, or it fails and changes no record. -/
lemma change_mint (b : MemoryBroker) (spec : CreateSpec) (nonces : Nonces) :
    ∃ minted, b.Change minted (b.mint spec nonces).broker := by
  have hkey : b.nextKey = (b.nextKey.1, b.nextKey.2) := rfl
  obtain ⟨queue, counter, hnext⟩ := eq_of_nextKey hkey
  rcases mint_dichotomy b spec nonces with
    ⟨-, -, hbroker⟩ | ⟨record, fixed, current, -, -, -, hholds, hbroker⟩
  · rw [hbroker, hnext]
    exact ⟨[], .kept queue counter⟩
  · rw [hbroker, hnext]
    exact ⟨[(b.nextKey.1.1, fixed)], .put queue counter hholds⟩

/-- An update that is accepted replaces mutable attributes by what it opens as. -/
lemma change_update {spec : UpdateSpec} (h : (b.update spec).run nonces = (.ok after, later)) :
    b.Change [] after := by
  obtain ⟨record, secret, decoded, signed, hadmits, hsigned, rfl⟩ := run_update_eq_ok_iff.1 h
  exact .replaced hadmits.found hadmits.secret_eq (reads_of_encodeSlot hsigned)

/-! ## Demands -/

/-- What may be asked of a broker, with the nonces that it draws for it. -/
inductive Demand where
  /-- One key of an order. -/
  | mint (spec : CreateSpec) (nonces : Nonces)
  | create (request : CreateRequest) (nonces : Nonces)
  | update (spec : UpdateSpec) (nonces : Nonces)

/-- The broker after a demand.  An update that is refused leaves it as it is. -/
def meet (b : MemoryBroker) : Demand → MemoryBroker
  | .mint spec nonces => (b.mint spec nonces).broker
  | .create request nonces => (b.create request nonces).2.1
  | .update spec nonces =>
    match (b.update spec).run nonces with
    | (.ok after, _) => after
    | (.error _, _) => b

/-- The broker after some demands, one after the other. -/
def meetAll (b : MemoryBroker) (demands : List Demand) : MemoryBroker := demands.foldl meet b

lemma meetAll_concat (b : MemoryBroker) (demands : List Demand) (demand : Demand) :
    b.meetAll (demands ++ [demand]) = (b.meetAll demands).meet demand := by
  rw [meetAll, List.foldl_append]
  rfl

/-- Any number of changes. -/
def Changes : MemoryBroker → MemoryBroker → Prop :=
  Relation.ReflTransGen fun b after => ∃ minted, b.Change minted after

/-- What every change preserves is preserved by any number of them. -/
lemma Changes.preserves {P : MemoryBroker → Prop} (h : b.Changes after)
    (hstep : ∀ {b minted after}, P b → b.Change minted after → P after) (hb : P b) : P after := by
  induction h using Relation.ReflTransGen.rec with
  | refl => exact hb
  | tail _ hlast ih =>
    obtain ⟨minted, hchange⟩ := hlast
    exact hstep ih hchange

lemma changes_mintCopies (spec : CreateSpec) (count : Nat) (b : MemoryBroker) (nonces : Nonces) :
    b.Changes (mintCopies spec count b nonces).broker := by
  induction count generalizing b nonces with
  | zero => exact .refl
  | succ count ih =>
    have hfirst : b.Changes (b.mint spec nonces).broker := .single (change_mint b spec nonces)
    rw [mintCopies]
    cases (b.mint spec nonces).result with
    | error reason => exact hfirst
    | ok record => exact hfirst.trans (ih _ _)

lemma changes_mintAll (specs : List CreateSpec) (b : MemoryBroker) (nonces : Nonces) :
    b.Changes (mintAll specs b nonces).broker := by
  induction specs generalizing b nonces with
  | nil => exact .refl
  | cons spec specs ih =>
    have hfirst := changes_mintCopies spec spec.quantity.toNat b nonces
    rw [mintAll]
    cases (mintCopies spec spec.quantity.toNat b nonces).result with
    | error reason => exact hfirst
    | ok records => exact hfirst.trans (ih _ _)

lemma changes_create (b : MemoryBroker) (request : CreateRequest) (nonces : Nonces) :
    b.Changes (b.create request nonces).2.1 := by
  have hall := changes_mintAll request.keys b nonces
  rw [create]
  split_ifs
  · exact .refl
  · dsimp only
    cases (mintAll request.keys b nonces).result with
    | error reason => exact hall
    | ok keys => exact hall

/-- **Every demand comes down to changes.** -/
theorem changes_meet (b : MemoryBroker) (demand : Demand) : b.Changes (b.meet demand) := by
  cases demand with
  | mint spec nonces => exact .single (change_mint b spec nonces)
  | create request nonces => exact changes_create b request nonces
  | update spec nonces =>
    rw [meet]
    split
    · rename_i hupdate
      exact .single ⟨[], change_update hupdate⟩
    · exact .refl

/-- What every change preserves is preserved by all demands. -/
theorem meetAll_induction {P : MemoryBroker → Prop}
    (hstep : ∀ {b minted after}, P b → b.Change minted after → P after) (hb : P b)
    (demands : List Demand) : P (b.meetAll demands) := by
  induction demands using List.reverseRecOn with
  | nil => exact hb
  | append_singleton demands demand ih =>
    rw [meetAll_concat]
    exact (changes_meet _ demand).preserves hstep ih

/-! ## Keys that are there -/

/-- A record that is there stays, or another takes its place. -/
lemma Change.contains {minted : List (String × AttributeMap)} (h : b.Change minted after)
    {id : String} (hid : (b.records.find? id).isSome = true) :
    (after.records.find? id).isSome = true := by
  cases h with
  | kept queue counter => exact hid
  | put queue counter holds =>
    rw [OrderedMap.find?_insert]
    split_ifs
    · rfl
    · exact hid
  | replaced found secret_eq reads =>
    rw [OrderedMap.find?_insert]
    split_ifs
    · rfl
    · exact hid

lemma contains_meetAll {id : String} (hid : (b.records.find? id).isSome = true)
    (demands : List Demand) : ((b.meetAll demands).records.find? id).isSome = true :=
  meetAll_induction (P := fun b => (b.records.find? id).isSome = true)
    (fun h hchange => hchange.contains h) hid demands

lemma Change.deny_eq {minted : List (String × AttributeMap)} (h : b.Change minted after) :
    after.deny = b.deny := by
  cases h <;> rfl

lemma Change.answerAs_eq {minted : List (String × AttributeMap)} (h : b.Change minted after) :
    after.answerAs = b.answerAs := by
  cases h <;> rfl

/-! ## Records in good order -/

/-- Every record is under its own id, has a secret, and has both of its slots in good order. -/
def Sound (b : MemoryBroker) : Prop :=
  ∀ {id record}, b.records.find? id = some record →
    ∃ secret fixed current, record.Holds id secret fixed current

/-- **What one change preserves.**  What is written was closed under the id and the secret of its
record, and the rest is as it was. -/
theorem Sound.change {minted : List (String × AttributeMap)} (hb : b.Sound)
    (h : b.Change minted after) : after.Sound := by
  cases h with
  | kept queue counter => exact hb
  | put queue counter holds =>
    intro other found hfind
    rcases b.records.find?_insert_eq_some_iff.1 hfind with ⟨rfl, rfl⟩ | ⟨-, hfind⟩
    · exact ⟨_, _, _, holds⟩
    · exact hb hfind
  | replaced found secret_eq reads =>
    intro other record hfind
    rcases b.records.find?_insert_eq_some_iff.1 hfind with ⟨rfl, rfl⟩ | ⟨-, hfind⟩
    · obtain ⟨secret, fixed, current, hholds⟩ := hb found
      obtain rfl := Except.ok.inj (secret_eq.symm.trans hholds.secret_eq)
      exact ⟨_, fixed, _, hholds.id_eq, secret_eq, hholds.fixed, reads⟩
    · exact hb hfind

/-- **What all demands preserve.** -/
theorem sound_meetAll (hb : b.Sound) (demands : List Demand) : (b.meetAll demands).Sound :=
  meetAll_induction Sound.change hb demands

lemma sound_of_empty (hempty : b.records = .empty) : b.Sound := by
  intro id record hfind
  rw [hempty] at hfind
  cases hfind

/-- **Whatever a broker is asked, what it has opens clean.**  Let it begin without records, and let
it meet any demands: orders with forged slots, or with slots that do not open, orders under ids that
are taken, updates by anyone for any key, and orders that are refused half way.  Then each record is
under its own id, its secret is one, and each of its slots can be decoded under that secret, with a
signature that holds and with nothing left closed.  Whatever is handed out is such a record without
its reference, and under its own id it is opened with nothing to report.  Only a broker that is told
to answer under one id for all keys hands it out under another. -/
theorem opens_clean_meetAll (hempty : b.records = .empty) (demands : List Demand) :
    let after := b.meetAll demands
    (∀ id record, after.records.find? id = some record →
        record.id = id ∧ ∃ secret, Secret.ofBase64 record.secret = .ok secret
          ∧ ∀ slot, ∃ decoded,
            decodeSlot (record.signed slot) secret.bytes (.ofSlot slot id) = .ok decoded
              ∧ decoded.status = .valid ∧ decoded.unopened = [])
      ∧ ∀ request, ∀ handed ∈ (after.fetch request).keys,
          ∃ id record, after.records.find? id = some record
            ∧ handed = { record with ref := "", id := b.answerAs.getD id }
            ∧ (handed.id = id → ∀ v, ∃ opened, Engine.openKey v handed = .ok opened
                ∧ opened.key.id = id ∧ opened.findings.isClean = true) := by
  intro after
  have hsound : after.Sound := sound_meetAll (sound_of_empty hempty) demands
  have hanswerAs : after.answerAs = b.answerAs :=
    meetAll_induction (P := fun later => later.answerAs = b.answerAs)
      (fun h hchange => hchange.answerAs_eq.trans h) rfl demands
  constructor
  · intro id record hfind
    obtain ⟨secret, fixed, current, hholds⟩ := hsound hfind
    exact ⟨hholds.id_eq, secret, hholds.secret_eq, hholds.exists_decodeSlot⟩
  · intro request handed hmem
    obtain ⟨id, record, hfind, rfl⟩ := exists_record_of_mem_fetch hmem
    obtain ⟨secret, fixed, current, hholds⟩ := hsound hfind
    refine ⟨id, record, hfind, by rw [handOut, hanswerAs, hholds.id_eq], ?_⟩
    intro hid v
    have hhanded : (after.handOut record).Holds id secret fixed current :=
      ⟨hid, hholds.secret_eq, hholds.fixed, hholds.current⟩
    obtain ⟨opened, hopened, hsame, -, -, -, hclean⟩ := hhanded.exists_openKey v
    refine ⟨opened, hopened, hsame, ?_⟩
    rw [hclean]
    rfl

/-- A broker that has an id for one key. -/
def oneKeyBroker : MemoryBroker :=
  { clientSecret := .ofByte 5, queue := [("abc.def", .ofByte 1)] }

/-- Nothing that anyone has signed. -/
def forgery : UpdateSpec :=
  { keyId := "abc.def", mutableAttributes := { text := "[", signature := some "AAAA" },
    force := true }

/-- An order that is carried out. -/
lemma exists_create_oneKeyBroker (nonces : Nonces) : ∃ request,
    ((oneKeyBroker.meet (.create request nonces)).records.find? "abc.def").isSome = true := by
  have hunprotected : ∀ entry ∈ (OrderedMap.empty : AttributeMap).entries,
      isProtected entry.1 = false := List.forall_mem_nil _
  have hsealable : Sealable .empty "abc.def" := List.forall_mem_nil _
  obtain ⟨fixed, hfixed⟩ := run_encodeSlot_of_unprotected (Secret.ofByte 5).bytes_ne_nil
    hunprotected (Secret.ofByte 5).bytes (.ofSlot .immutable "x") nonces
  obtain ⟨current, hcurrent⟩ := run_encodeSlot_of_unprotected (Secret.ofByte 5).bytes_ne_nil
    hunprotected (Secret.ofByte 5).bytes (.ofSlot .mutable "x") nonces
  have hkey : oneKeyBroker.nextKey
      = (("abc.def", .ofByte 1), { oneKeyBroker with queue := [] }) := rfl
  have hkeys : ({ keys := [⟨"x", 1, fixed, current⟩] } : CreateRequest).keys
      = [⟨"x", 1, fixed, current⟩] := rfl
  refine ⟨{ keys := [⟨"x", 1, fixed, current⟩] }, ?_⟩
  rcases create_cases rfl hkey hkeys rfl (reads_of_encodeSlot hfixed) (reads_of_encodeSlot hcurrent)
    nonces with ⟨hlong, -⟩ | ⟨record, -, -, hbroker⟩
  · exact absurd ⟨hsealable, hsealable⟩ hlong
  · rw [meet, hbroker, OrderedMap.find?_insert, if_pos rfl]
    rfl

/-- A key that was ordered, after an attempt to forge its mutable attributes. -/
theorem opens_clean_meetAll_forged : ∃ request record,
    (oneKeyBroker.meetAll
        [.create request (.ofBytes []), .update forgery (.ofBytes [])]).records.find? "abc.def"
        = some record
      ∧ record.id = "abc.def" ∧ ∃ secret, Secret.ofBase64 record.secret = .ok secret
        ∧ ∀ slot, ∃ decoded,
          decodeSlot (record.signed slot) secret.bytes (.ofSlot slot "abc.def") = .ok decoded
            ∧ decoded.status = .valid ∧ decoded.unopened = [] := by
  obtain ⟨request, hcreated⟩ := exists_create_oneKeyBroker (.ofBytes [])
  have hthere := contains_meetAll hcreated [.update forgery (.ofBytes [])]
  obtain ⟨record, hfind⟩ := Option.isSome_iff_exists.1 hthere
  have hclean := opens_clean_meetAll (b := oneKeyBroker) rfl
    [.create request (.ofBytes []), .update forgery (.ofBytes [])]
  exact ⟨request, record, hfind, hclean.1 "abc.def" record hfind⟩

end MemoryBroker

end SealedChunk.Broker
