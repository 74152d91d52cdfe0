import SealedChunk.Proofs.Session.Course

/-!
# What holds throughout a session

In the course of a session the broker's records change in two ways only: a new one is added, and the
mutable attributes of one are replaced.  So for every envelope that was returned there is a record
that opens it, with the attributes that went in, and with the mutable attributes of the last update.
What makes this hold throughout is that ids are not minted twice: a second record under an id would
take the place of the first.

The keys that come up are those of the records.  Hence an update that was prepared from one of them
is signed with the secret of its record, and if the broker accepts it, it brings the map that it was
prepared with, no matter when, or how often.

* `Written.Kept` — an envelope with a record; `Written.Kept.decrypt` — what that is good for.
* `Course.Keeps` — all that holds throughout.
* `Keeps.create`, `Keeps.replace` — the two ways in which the records change.
-/

namespace SealedChunk

open Attribute Broker Crypto Engine Envelope Session

/-! ## Updates and envelopes -/

/-- The update reads as this map under the secret of its key. -/
def Broker.MemoryBroker.Reads (b : MemoryBroker) (u : UpdateSpec) (m : AttributeMap) : Prop :=
  ∃ record secret, b.records.find? u.keyId = some record
    ∧ Secret.ofBase64 record.secret = .ok secret
    ∧ u.mutableAttributes.Reads secret.bytes (MemoryBroker.updateContext u) m

/-- The broker has a record that opens the envelope, with the attributes that were encrypted, and
with what the updates made of the mutable ones. -/
def Written.Kept (w : Written) (b : MemoryBroker) (current : String → AttributeMap → AttributeMap) :
    Prop :=
  ∃ id secret record body, w.keyId = some id
    ∧ Envelope.decode w.variant w.envelope = .ok ⟨id, Base64.encode body⟩
    ∧ openSealed body secret.bytes (w.variant.payloadAad id) = .ok w.plaintext
    ∧ b.records.find? id = some record
    ∧ record.Holds id secret w.inputs.attributes (current id w.inputs.mutableAttributes)

/-- A record that opens an envelope is all that it takes to decrypt it, and nothing is found on the
way that a strict engine would object to. -/
lemma Written.Kept.decrypt {w : Written} {s : Session} {b : MemoryBroker}
    {current : String → AttributeMap → AttributeMap} (h : w.Kept b current)
    (hs : s.backend = .memory b) (hb : b.Orderly) {d : Engine} (hd : d.variant = w.variant)
    (metadata : Metadata) {cancellation : Cancellation} (hcancellation : cancellation ≠ .before) :
    let report := (s.decrypt d w.envelope metadata cancellation).1.report
    ∃ key, report.result = .ok w.plaintext ∧ report.capture.key = some key
      ∧ report.capture.findings = {} ∧ w.keyId = some key.id ∧ key.attributes = w.inputs.attributes
      ∧ key.mutableAttributes = current key.id w.inputs.mutableAttributes := by
  obtain ⟨id, secret, record, body, hid, hdecode, hbody, hfind, hholds⟩ := h
  rw [← hd] at hdecode hbody
  have hhanded : ({ record with ref := "" } : KeyRecord).Holds id secret w.inputs.attributes
      (current id w.inputs.mutableAttributes) :=
    ⟨hholds.id_eq, hholds.secret_eq, hholds.fixed, hholds.current⟩
  obtain ⟨opened, hopened, hsame, hsecret, hfixed, hcurrent, hclean⟩ :=
    hhanded.exists_openKey d.variant
  rw [← hsecret] at hbody
  have hkeys := MemoryBroker.keys_fetch hb hfind metadata
  obtain ⟨-, hreport⟩ := carry_fetch hs d cancellation { metadata, keyIds := [id] }
    (d.finishDecrypt d.variant id body {})
  rw [if_neg hcancellation, finishDecrypt_of_id hkeys hholds.id_eq] at hreport
  intro report
  simp only [report, Session.decrypt, Engine.decrypt,
    decryptAs_eq_awaiting hdecode (Base64.decode?_encode body), hreport]
  rw [capture_openPayload hopened]
  exact ⟨opened.key, result_openPayload_of_clean hopened hclean hbody _, rfl, hclean,
    hsame ▸ hid, hfixed, hsame ▸ hcurrent⟩

/-! ## Changes of the records -/

namespace Broker.MemoryBroker

variable {b after : MemoryBroker}

/-- Every key keeps a record, and its secret. -/
def Retains (b after : MemoryBroker) : Prop :=
  ∀ id record, b.records.find? id = some record →
    ∃ kept, after.records.find? id = some kept ∧ kept.secret = record.secret

lemma Has.of_retains {key : Key} (h : b.Has key) (hafter : b.Retains after) : after.Has key := by
  obtain ⟨record, hfind, hsecret⟩ := h
  obtain ⟨kept, hkept, hsame⟩ := hafter _ _ hfind
  exact ⟨kept, hkept, hsame ▸ hsecret⟩

lemma Reads.of_retains {u : UpdateSpec} {m : AttributeMap} (h : b.Reads u m)
    (hafter : b.Retains after) : after.Reads u m := by
  obtain ⟨record, secret, hfind, hsecret, hreads⟩ := h
  obtain ⟨kept, hkept, hsame⟩ := hafter _ _ hfind
  exact ⟨kept, secret, hkept, hsame ▸ hsecret, hreads⟩

end Broker.MemoryBroker

/-! ## What holds throughout -/

/-- All that holds throughout the course of a session. -/
structure Course.Keeps (c : Course) (secret : Secret) (b : MemoryBroker) : Prop where
  backend : c.session.backend = .memory b
  clientSecret : b.clientSecret = secret
  orderly : b.Orderly
  minted : ∀ {id record}, b.records.find? id = some record → id ∈ c.minted
  accepted : ∀ brought ∈ c.accepted, brought.1 ∈ c.minted
  keys : ∀ key ∈ c.keys, b.Has key
  prepared : ∀ order ∈ c.prepared, b.Reads order.1 order.2
  written : ∀ w ∈ c.written, w.Kept b c.current

namespace Course

variable {c : Course} {secret : Secret} {b after : MemoryBroker}

lemma keeps_start (hempty : b.records = .empty) (hdeny : b.deny = false)
    (hanswerAs : b.answerAs = none) (nonces : Nonces) :
    (start b nonces).Keeps b.clientSecret b where
  backend := rfl
  clientSecret := rfl
  orderly := ⟨hdeny, hanswerAs, by rw [hempty]; rintro _ _ ⟨⟩⟩
  minted := by rw [hempty]; rintro _ _ ⟨⟩
  accepted := by rintro _ ⟨⟩
  keys := by rintro _ ⟨⟩
  prepared := by rintro _ ⟨⟩
  written := by rintro _ ⟨⟩

/-- Taking the next id changes no record. -/
lemma Keeps.next (h : c.Keeps secret b) {key : String × Secret} (hkey : b.nextKey = (key, after))
    {session : Session} (hs : session.backend = .memory after) :
    ({ c with session } : Course).Keeps secret after := by
  obtain ⟨queue, counter, rfl⟩ := MemoryBroker.eq_of_nextKey hkey
  exact
    { backend := hs
      clientSecret := h.clientSecret
      orderly := ⟨h.orderly.deny, h.orderly.answerAs, h.orderly.id_eq⟩
      minted := h.minted
      accepted := h.accepted
      keys := h.keys
      prepared := h.prepared
      written := h.written }

/-- A record under a new id leaves the others where they are. -/
lemma Keeps.insert (h : c.Keeps secret b) {id : String} (hid : id ∉ c.minted) {record : KeyRecord}
    (hrecord : record.id = id) {session : Session}
    (hs : session.backend = .memory { b with records := b.records.insert id record }) :
    ({ c with session, minted := id :: c.minted } : Course).Keeps secret
      { b with records := b.records.insert id record } := by
  -- whatever has a record was minted, and so has another id
  have hother (other : String) (found : KeyRecord) (hfind : b.records.find? other = some found) :
      (b.records.insert id record).find? other = some found := by
    have hne : id ≠ other := by
      rintro rfl
      exact hid (h.minted hfind)
    exact b.records.find?_insert_eq_some_iff.2 (.inr ⟨hne, hfind⟩)
  have hretains : b.Retains { b with records := b.records.insert id record } :=
    fun other found hfind => ⟨found, hother other found hfind, rfl⟩
  exact
    { backend := hs
      clientSecret := h.clientSecret
      orderly := h.orderly.insert hrecord
      minted := by
        intro other found hfind
        rcases b.records.find?_insert_eq_some_iff.1 hfind with ⟨rfl, -⟩ | ⟨-, hfind⟩
        · exact List.mem_cons_self
        · exact List.mem_cons_of_mem _ (h.minted hfind)
      accepted := fun brought hbrought => List.mem_cons_of_mem _ (h.accepted brought hbrought)
      keys := fun key hkey => (h.keys key hkey).of_retains hretains
      prepared := fun order horder => (h.prepared order horder).of_retains hretains
      written := by
        intro w hw
        obtain ⟨other, secret, found, body, hkeyId, hdecode, hbody, hfind, hholds⟩ := h.written w hw
        have hfound := hother other found hfind
        exact ⟨other, secret, found, body, hkeyId, hdecode, hbody, hfound, hholds⟩ }

lemma current_cons (c : Course) (session : Session) (keyId id : String) (m first : AttributeMap) :
    ({ c with session, accepted := (keyId, m) :: c.accepted } : Course).current id first
      = if id = keyId then m else c.current id first := by
  rw [current, current, List.lookup_cons]
  by_cases h : id = keyId
  · simp [h]
  · rw [beq_eq_false_iff_ne.2 h, if_neg h]

/-- A key that was not minted has not been updated. -/
lemma Keeps.current_of_not_mem (h : c.Keeps secret b) {id : String} (hid : id ∉ c.minted)
    (first : AttributeMap) : c.current id first = first := by
  have hnone : c.accepted.lookup id = none := by
    rw [List.lookup_eq_none_iff]
    intro brought hbrought
    rw [bne_iff_ne]
    rintro rfl
    exact hid (h.accepted brought hbrought)
  rw [current, hnone]
  rfl

/-- An order for one key is answered with no key, or with a key under a new id. -/
lemma Keeps.create (h : c.Keeps secret b) {request : CreateRequest} {spec : CreateSpec}
    (hkeys : request.keys = [spec]) (hquantity : spec.quantity = 1) {fixed current : AttributeMap}
    (hfixed : spec.attributes.Reads secret.bytes (.ofSlot .immutable spec.ref) fixed)
    (hcurrent : spec.mutableAttributes.Reads secret.bytes (.ofSlot .mutable spec.ref) current)
    (nonces : Nonces) {session : Session}
    (hs : session.backend = .memory (b.create request nonces).2.1)
    (hminted : ((b.create request nonces).1.keys.map (·.id) ++ c.minted).Nodup) :
    ({ c with session, minted := (b.create request nonces).1.keys.map (·.id) ++ c.minted } :
        Course).Keeps secret (b.create request nonces).2.1
      ∧ ∀ record ∈ (b.create request nonces).1.keys, ∃ id keySecret,
        (b.create request nonces).2.1.records.find? id = some record
          ∧ record.Holds id keySecret fixed (c.current id current) := by
  rcases hnext : b.nextKey with ⟨⟨id, keySecret⟩, after⟩
  rw [← h.clientSecret] at hfixed hcurrent
  rcases MemoryBroker.create_cases h.orderly.deny hnext hkeys hquantity hfixed hcurrent nonces with
    ⟨-, hnone, hbroker⟩ | ⟨record, hone, hholds, hbroker⟩
  · rw [hnone, hbroker]
    rw [hbroker] at hs
    exact ⟨h.next hnext hs, List.forall_mem_nil _⟩
  · rw [hone, hbroker, List.map_singleton, hholds.id_eq]
    rw [hone, List.map_singleton, hholds.id_eq] at hminted
    rw [hbroker] at hs
    have hid : id ∉ c.minted := (List.nodup_cons.1 hminted).1
    have hafter : ({ c with session := ⟨.memory after, nonces⟩ } : Course).Keeps secret after :=
      h.next hnext rfl
    refine ⟨hafter.insert hid hholds.id_eq hs, ?_⟩
    rw [List.forall_mem_singleton]
    refine ⟨id, keySecret, after.records.find?_insert_eq_some_iff.2 (.inl ⟨rfl, rfl⟩), ?_⟩
    rw [h.current_of_not_mem hid]
    exact hholds

/-- New mutable attributes under an id become those of its envelopes, and of no others. -/
lemma Keeps.replace (h : c.Keeps secret b) {id : String} {record : KeyRecord}
    (hfind : b.records.find? id = some record) {keySecret : Secret}
    (hsecret : Secret.ofBase64 record.secret = .ok keySecret) {signed : SignedAttributes}
    {m : AttributeMap} (hsigned : signed.Reads keySecret.bytes (.ofSlot .mutable id) m)
    {session : Session}
    (hs : session.backend = .memory
      { b with records := b.records.insert id { record with mutableAttributes := signed } }) :
    ({ c with session, accepted := (id, m) :: c.accepted } : Course).Keeps secret
      { b with records := b.records.insert id { record with mutableAttributes := signed } } := by
  have hretains : b.Retains
      { b with records := b.records.insert id { record with mutableAttributes := signed } } := by
    intro other found hfound
    by_cases hsame : id = other
    · subst hsame
      obtain rfl := Option.some.inj (hfind.symm.trans hfound)
      exact ⟨_, b.records.find?_insert_eq_some_iff.2 (.inl ⟨rfl, rfl⟩), rfl⟩
    · exact ⟨found, b.records.find?_insert_eq_some_iff.2 (.inr ⟨hsame, hfound⟩), rfl⟩
  have hid : record.id = id := h.orderly.id_eq hfind
  exact
    { backend := hs
      clientSecret := h.clientSecret
      orderly := h.orderly.insert hid
      minted := by
        intro other found hfound
        rcases b.records.find?_insert_eq_some_iff.1 hfound with ⟨rfl, -⟩ | ⟨-, hfound⟩
        · exact h.minted hfind
        · exact h.minted hfound
      accepted := List.forall_mem_cons.2 ⟨h.minted hfind, h.accepted⟩
      keys := fun key hkey => (h.keys key hkey).of_retains hretains
      prepared := fun order horder => (h.prepared order horder).of_retains hretains
      written := by
        intro w hw
        obtain ⟨other, otherSecret, found, body, hkeyId, hdecode, hbody, hfound, hholds⟩ :=
          h.written w hw
        -- the envelopes of this key come by the new map, the others keep theirs
        by_cases hsame : other = id
        · subst hsame
          obtain rfl := Option.some.inj (hfind.symm.trans hfound)
          obtain rfl := Except.ok.inj (hsecret.symm.trans hholds.secret_eq)
          refine ⟨other, keySecret, _, body, hkeyId, hdecode, hbody,
            b.records.find?_insert_eq_some_iff.2 (.inl ⟨rfl, rfl⟩), ?_⟩
          rw [current_cons, if_pos rfl]
          exact ⟨hholds.id_eq, hsecret, hholds.fixed, hsigned⟩
        · refine ⟨other, otherSecret, found, body, hkeyId, hdecode, hbody,
            b.records.find?_insert_eq_some_iff.2 (.inr ⟨Ne.symm hsame, hfound⟩), ?_⟩
          rwa [current_cons, if_neg hsame] }

/-- What comes up may be noted if it fits the records. -/
lemma Keeps.note (h : c.Keeps secret b) {session : Session} (hs : session.backend = .memory b)
    {keys : List Key} (hkeys : ∀ key ∈ keys, b.Has key) {written : List Written}
    (hwritten : ∀ w ∈ written, w.Kept b c.current) :
    ({ c with session, keys := keys ++ c.keys, written := written ++ c.written } : Course).Keeps
      secret b :=
  { h with
    backend := hs
    keys := List.forall_mem_append.2 ⟨hkeys, h.keys⟩
    written := List.forall_mem_append.2 ⟨hwritten, h.written⟩ }

end Course

end SealedChunk
