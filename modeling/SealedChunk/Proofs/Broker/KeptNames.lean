import SealedChunk.Proofs.Attribute.Opening
import SealedChunk.Proofs.Broker.Minting
import SealedChunk.Proofs.Broker.Replacement

/-!
# Which names a broker keeps

Attributes come to a broker in the orders for new keys and in updates.  Either way it opens them
and closes them again, and what it has afterwards has the names of what was opened.  Opening leaves
out what does not open.  An order is refused as soon as it leaves out anything.  Of an update only
the signature is looked at, so one with values that do not open goes through, without them.

Hence **an order keeps every name, and an update keeps every name exactly if all its protected
values open** under the secret of the key and for its id.  The updates that clients prepare are
sealed for just that.

* `names_of_reads`, `exists_names_of_reads` — closing and opening, in terms of names.
* `exists_kept_of_update` — the names that are left after an update.
* `KeepsNames`, `exists_keepsNames_of_create` — the names of a new key.
* **`update_keeps_names`** — when an update keeps every name, and that orders do.
* `update_drops_name` — an update with a value that does not open.
-/

namespace SealedChunk

open Attribute Crypto

/-- A slot that opens in full has the names of what it opens as. -/
lemma names_of_reads {signed : SignedAttributes} {key : Bytes} {ctx : SigningContext}
    {m : AttributeMap} (h : signed.Reads key ctx m) :
    ∃ closed, AttributeMap.parse signed.text = .ok closed
      ∧ (∀ entry ∈ closed.entries, opensEntry key ctx.id entry = true)
      ∧ closed.names = m.names := by
  obtain ⟨-, -, closed, hclosed, hopened⟩ := decodeSlot_eq_ok_iff.1 h
  have hopens : ∀ entry ∈ closed.entries, opensEntry key ctx.id entry = true :=
    unopened_openMap_eq_nil_iff.1 (congrArg Opened.unopened hopened)
  have hnames := names_openMap_eq_iff.2 hopens
  rw [hopened] at hnames
  exact ⟨closed, hclosed, hopens, hnames.symm⟩

/-- Slots that read as the same map have the same names. -/
lemma exists_names_of_reads {signed other : SignedAttributes} {key secret : Bytes}
    {ctx there : SigningContext} {m : AttributeMap} (h : signed.Reads key ctx m)
    (hother : other.Reads secret there m) :
    ∃ received kept, AttributeMap.parse signed.text = .ok received
      ∧ AttributeMap.parse other.text = .ok kept ∧ kept.names = received.names := by
  obtain ⟨received, hreceived, -, hsame⟩ := names_of_reads h
  obtain ⟨kept, hkept, -, hnames⟩ := names_of_reads hother
  exact ⟨received, kept, hreceived, hkept, hnames.trans hsame.symm⟩

/-- What is signed in one of the slots of an order. -/
def Broker.CreateSpec.signed (spec : Broker.CreateSpec) : Slot → SignedAttributes
  | .immutable => spec.attributes
  | .mutable => spec.mutableAttributes

namespace Broker.MemoryBroker

variable {b after : MemoryBroker} {nonces later : Nonces}

/-! ## Updates -/

/-- What an update leaves has the names of the entries that open. -/
lemma exists_kept_of_update {spec : UpdateSpec}
    (h : (b.update spec).run nonces = (.ok after, later)) :
    ∃ record secret received stored kept, b.records.find? spec.keyId = some record
      ∧ Secret.ofBase64 record.secret = .ok secret
      ∧ AttributeMap.parse spec.mutableAttributes.text = .ok received
      ∧ after.records.find? spec.keyId = some stored
      ∧ AttributeMap.parse stored.mutableAttributes.text = .ok kept
      ∧ kept.names = (openMap received secret.bytes spec.keyId).attributes.names := by
  obtain ⟨record, secret, received, signed, hfind, hsecret, hreceived, hreads, rfl, -⟩ :=
    exists_replaced_of_update h
  obtain ⟨kept, hkept, -, hnames⟩ := names_of_reads hreads
  refine ⟨record, secret, received, { record with mutableAttributes := signed }, kept, hfind,
    hsecret, hreceived, ?_, hkept, hnames⟩
  rw [OrderedMap.find?_insert, if_pos rfl]

/-- An update that a client has prepared under the secret of the key keeps the names it was
given. -/
lemma exists_kept_of_prepareUpdate {key : Key} {m : AttributeMap} {force : Bool} {u : UpdateSpec}
    {drawn left : Nonces} {record : KeyRecord}
    (hu : (Engine.prepareUpdate key m force).run drawn = (.ok u, left))
    (h : (b.update u).run nonces = (.ok after, later))
    (hfind : b.records.find? key.id = some record)
    (hsecret : Secret.ofBase64 record.secret = .ok key.secret) :
    ∃ stored kept, after.records.find? key.id = some stored
      ∧ AttributeMap.parse stored.mutableAttributes.text = .ok kept ∧ kept.names = m.names := by
  obtain ⟨hid, hreads⟩ := Engine.reads_of_prepareUpdate hu
  obtain ⟨closed, hclosed, hopens, hsame⟩ := names_of_reads hreads
  obtain ⟨found, secret, received, stored, kept, hfound, hsecret', hreceived, hstored, hkept,
    hnames⟩ := exists_kept_of_update h
  rw [hid] at hfound hstored
  obtain rfl := Option.some.inj (hfound.symm.trans hfind)
  obtain rfl := Except.ok.inj (hsecret'.symm.trans hsecret)
  obtain rfl := Except.ok.inj (hreceived.symm.trans hclosed)
  refine ⟨stored, kept, hstored, hkept, ?_⟩
  rw [hnames, ← hsame]
  exact names_openMap_eq_iff.2 hopens

/-! ## Orders -/

/-- The key was made for the order, and has its names in each of its slots. -/
def KeepsNames (order : CreateSpec) (record : KeyRecord) : Prop :=
  record.ref = order.ref ∧ ∀ slot, ∃ received kept,
    AttributeMap.parse (order.signed slot).text = .ok received
      ∧ AttributeMap.parse (record.signed slot).text = .ok kept ∧ kept.names = received.names

lemma keepsNames_of_mint {spec : CreateSpec} {record : KeyRecord}
    (h : (b.mint spec nonces).result = .ok record) : KeepsNames spec record := by
  rcases mint_dichotomy b spec nonces with
    ⟨-, ⟨reason, hreason⟩, -⟩ | ⟨minted, fixed, current, haccepts, hminted, href, hholds, -⟩
  · cases hreason.symm.trans h
  · obtain rfl := Except.ok.inj (hminted.symm.trans h)
    refine ⟨href, fun slot => ?_⟩
    cases slot with
    | immutable => exact exists_names_of_reads haccepts.fixed hholds.fixed
    | mutable => exact exists_names_of_reads haccepts.current hholds.current

lemma keepsNames_of_mintCopies {spec : CreateSpec} {count : Nat} {keys : List KeyRecord}
    (h : (mintCopies spec count b nonces).result = .ok keys) :
    ∀ record ∈ keys, KeepsNames spec record := by
  induction count generalizing b nonces keys with
  | zero =>
    obtain rfl := Except.ok.inj h
    exact List.forall_mem_nil _
  | succ count ih =>
    rw [mintCopies] at h
    cases hfirst : (b.mint spec nonces).result with
    | error reason =>
      rw [hfirst] at h
      cases h
    | ok record =>
      rw [hfirst] at h
      obtain ⟨others, hothers, rfl⟩ := map_eq_ok_iff.1 h
      exact List.forall_mem_cons.2 ⟨keepsNames_of_mint hfirst, ih hothers⟩

lemma exists_keepsNames_of_mintAll {specs : List CreateSpec} {keys : List KeyRecord}
    (h : (mintAll specs b nonces).result = .ok keys) :
    ∀ record ∈ keys, ∃ order ∈ specs, KeepsNames order record := by
  induction specs generalizing b nonces keys with
  | nil =>
    obtain rfl := Except.ok.inj h
    exact List.forall_mem_nil _
  | cons spec specs ih =>
    rw [mintAll] at h
    cases hfirst : (mintCopies spec spec.quantity.toNat b nonces).result with
    | error reason =>
      rw [hfirst] at h
      cases h
    | ok copies =>
      rw [hfirst] at h
      obtain ⟨others, hothers, rfl⟩ := map_eq_ok_iff.1 h
      intro record hmem
      rcases List.mem_append.1 hmem with hmem | hmem
      · exact ⟨spec, List.mem_cons_self, keepsNames_of_mintCopies hfirst record hmem⟩
      · obtain ⟨order, horder, hkeeps⟩ := ih hothers record hmem
        exact ⟨order, List.mem_cons_of_mem spec horder, hkeeps⟩

/-- Every key that is handed out for a request has the names of one of its orders. -/
lemma exists_keepsNames_of_create (b : MemoryBroker) (request : CreateRequest) (nonces : Nonces) :
    ∀ record ∈ (b.create request nonces).1.keys,
      ∃ order ∈ request.keys, KeepsNames order record := by
  intro record hmem
  rw [create] at hmem
  split_ifs at hmem
  · cases hmem
  · dsimp only at hmem
    cases hall : (mintAll request.keys b nonces).result with
    | error reason =>
      rw [hall] at hmem
      cases hmem
    | ok keys =>
      rw [hall] at hmem
      exact exists_keepsNames_of_mintAll hall record hmem

/-! ## Both -/

/-- **What a broker keeps of the names that it is sent.**

* After an update has gone through, the key has the names of those entries that open under its
  secret and for its id, in the order in which they arrived.  These are all names that arrived
  exactly if every entry opens.
* So it is with an update that a client has prepared under that secret: the names are those that the
  client gave, in their order.
* Every key that is handed out for a request has, in each of its slots, the names that arrived with
  its order, in their order. -/
theorem update_keeps_names (b : MemoryBroker) :
    (∀ (spec : UpdateSpec) (nonces later : Nonces) (after : MemoryBroker),
        (b.update spec).run nonces = (.ok after, later) →
          ∃ record secret received stored kept, b.records.find? spec.keyId = some record
            ∧ Secret.ofBase64 record.secret = .ok secret
            ∧ AttributeMap.parse spec.mutableAttributes.text = .ok received
            ∧ after.records.find? spec.keyId = some stored
            ∧ AttributeMap.parse stored.mutableAttributes.text = .ok kept
            ∧ kept.names
              = (received.entries.filter (opensEntry secret.bytes spec.keyId)).map Prod.fst
            ∧ (kept.names = received.names
              ↔ ∀ entry ∈ received.entries, opensEntry secret.bytes spec.keyId entry = true))
      ∧ (∀ (key : Key) (m : AttributeMap) (force : Bool) (u : UpdateSpec) (drawn left : Nonces)
          (nonces later : Nonces) (after : MemoryBroker) (record : KeyRecord),
          (Engine.prepareUpdate key m force).run drawn = (.ok u, left) →
          (b.update u).run nonces = (.ok after, later) →
          b.records.find? key.id = some record →
          Secret.ofBase64 record.secret = .ok key.secret →
            ∃ stored kept, after.records.find? key.id = some stored
              ∧ AttributeMap.parse stored.mutableAttributes.text = .ok kept ∧ kept.names = m.names)
      ∧ ∀ (request : CreateRequest) (nonces : Nonces), ∀ record ∈ (b.create request nonces).1.keys,
          ∃ order ∈ request.keys, KeepsNames order record := by
  refine ⟨?_, ?_, exists_keepsNames_of_create b⟩
  · intro spec nonces later after h
    obtain ⟨record, secret, received, stored, kept, hfind, hsecret, hreceived, hstored, hkept,
      hnames⟩ := exists_kept_of_update h
    refine ⟨record, secret, received, stored, kept, hfind, hsecret, hreceived, hstored, hkept,
      ?_, ?_⟩
    · rw [hnames, names_openMap]
    · rw [hnames, names_openMap_eq_iff]
  · intro key m force u drawn left nonces later after record hu h hfind hsecret
    exact exists_kept_of_prepareUpdate hu h hfind hsecret

/-- What fits under a key can be prepared as an update of it. -/
lemma exists_prepareUpdate_of_sealable {key : Key} {m : AttributeMap} (hm : Sealable m key.id)
    (force : Bool) (nonces : Nonces) :
    ∃ u later, (Engine.prepareUpdate key m force).run nonces = (.ok u, later) := by
  let ctx : SigningContext :=
    { id := key.id, mutable := true, previous := key.mutableSignature, force }
  have hroom : Sealable m ctx.id := hm
  obtain ⟨signed, later, hsigned⟩ := (encodeSlot_isOk_iff key.secret.length_eq nonces).2 hroom
  rw [Engine.prepareUpdate, Drawing.run_bind_ok (Drawing.run_mapError_eq_ok_iff.2 hsigned)]
  exact ⟨_, later, rfl⟩

/-- A note that is sealed beside the state. -/
def noted : AttributeMap := OrderedMap.ofList [("state", ["archived"]), ("protected-note", ["né"])]

/-- The draft is archived with a note, and a key is ordered. -/
theorem update_keeps_names_noted :
    (∃ opened u left after later stored kept,
        Engine.openKey .v2 (Engine.stateRecord "draft" "AAAA") = .ok opened
          ∧ (Engine.prepareUpdate opened.key noted false).run (.ofBytes []) = (.ok u, left)
          ∧ (draftBroker.update u).run (.ofBytes []) = (.ok after, later)
          ∧ after.records.find? "abc.def" = some stored
          ∧ AttributeMap.parse stored.mutableAttributes.text = .ok kept
          ∧ kept.names = ["state", "protected-note"])
      ∧ ∃ record ∈ (oneKeyBroker.create { keys := [signedOrder] } (.ofBytes [])).1.keys,
          KeepsNames signedOrder record := by
  constructor
  · obtain ⟨opened, -, hopened, -⟩ := Engine.exists_update_stateRecord "draft" "AAAA"
    obtain ⟨hsecret, hid, hsignature, -⟩ := Engine.openKey_eq_ok hopened
    change opened.key.id = "abc.def" at hid
    have hsame : opened.key.secret = .ofByte 1 :=
      Except.ok.inj (hsecret.symm.trans (Secret.ofBase64_toBase64 (.ofByte 1)))
    have hroom : Sealable noted "abc.def" := by decide
    obtain ⟨u, left, hu⟩ := exists_prepareUpdate_of_sealable (hid ▸ hroom) false (.ofBytes [])
    obtain ⟨after, later, haccepted, -⟩ :=
      exists_update_draftBroker hid hsame hsignature hroom hu (.ofBytes [])
    have hfind : draftBroker.records.find? opened.key.id
        = some (Engine.stateRecord "draft" "AAAA") := by
      rw [hid]
      rfl
    obtain ⟨-, hprepared, -⟩ := update_keeps_names draftBroker
    obtain ⟨stored, kept, hstored, hkept, hnames⟩ :=
      hprepared _ _ _ _ _ _ _ _ _ _ hu haccepted hfind hsecret
    rw [hid] at hstored
    exact ⟨opened, u, left, after, later, stored, kept, hopened, hu, haccepted, hstored, hkept,
      hnames⟩
  · let request : CreateRequest := { keys := [signedOrder] }
    have hfirst : firstOrder? request = some signedOrder := rfl
    obtain ⟨record, hresult⟩ :=
      exists_mintAll_of_accepts hfirst accepts_signedOrder (by decide) (.ofBytes [])
    have hmem : record ∈ (oneKeyBroker.create request (.ofBytes [])).1.keys := by
      rw [(create_eq_of_answers rfl request (.ofBytes [])).2, hresult]
      exact List.mem_singleton_self record
    obtain ⟨-, -, hcreated⟩ := update_keeps_names oneKeyBroker
    obtain ⟨order, horder, hkeeps⟩ := hcreated request (.ofBytes []) record hmem
    obtain rfl := List.mem_singleton.1 horder
    exact ⟨record, hmem, hkeeps⟩

/-- A note beside the state in the place of a seal that nobody sealed. -/
def unsealed : AttributeMap :=
  OrderedMap.ofList [("state", ["archived"]), ("protected-note", ["AAAA"])]

/-- The same with a signature, for the draft. -/
def unsealedUpdate : UpdateSpec :=
  { keyId := "abc.def", previous := some "AAAA"
    mutableAttributes := signedText (.ofByte 1)
      { id := "abc.def", mutable := true, previous := some "AAAA" } unsealed.canonical }

/-- **An update that loses a name.**  It is signed as it should be, and of its two attributes one
does not open.  It goes through, and the key has the other one alone. -/
theorem update_drops_name : ∃ after later stored kept,
    (draftBroker.update unsealedUpdate).run (.ofBytes []) = (.ok after, later)
      ∧ AttributeMap.parse unsealedUpdate.mutableAttributes.text = .ok unsealed
      ∧ unsealed.names = ["state", "protected-note"]
      ∧ after.records.find? "abc.def" = some stored
      ∧ AttributeMap.parse stored.mutableAttributes.text = .ok kept
      ∧ kept.names = ["state"] := by
  have hparse : AttributeMap.parse unsealedUpdate.mutableAttributes.text = .ok unsealed :=
    AttributeMap.parse_canonical unsealed
  have hadmits :
      draftBroker.Admits unsealedUpdate (Engine.stateRecord "draft" "AAAA") (.ofByte 1) _ :=
    ⟨rfl, .inr rfl, Secret.ofBase64_toBase64 _,
      decodeSlot_signedText hparse (.ofByte 1) (updateContext unsealedUpdate), rfl⟩
  obtain ⟨after, later, haccepted⟩ :=
    (update_isOk_iff (.ofBytes [])).2 ⟨_, _, _, hadmits, by decide⟩
  obtain ⟨record, secret, received, stored, kept, hfind, hsecret, hreceived, hstored, hkept,
    hnames⟩ := exists_kept_of_update haccepted
  obtain rfl := Except.ok.inj (hreceived.symm.trans hparse)
  obtain rfl : Engine.stateRecord "draft" "AAAA" = record := Option.some.inj hfind
  obtain rfl := Except.ok.inj (hsecret.symm.trans (Secret.ofBase64_toBase64 (.ofByte 1)))
  exact ⟨after, later, stored, kept, haccepted, hparse, rfl, hstored, hkept, hnames⟩

end Broker.MemoryBroker

end SealedChunk
