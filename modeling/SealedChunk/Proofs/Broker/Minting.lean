import SealedChunk.Proofs.Broker.Changes

/-!
# How far a request for keys gets

A request may be for any number of keys.  They are minted one after the other, and each is put in
place before the next one is looked at.  The first slot that is not in good order ends the request,
and then the answer is without any key; but what was put in place until then stays.

So a request that is answered without a key leaves the records alone **if it is refused at its first
key**, and only then.  If it is refused later, the broker has a key that nobody was given, and hands
it out to whoever asks for it.  The orders of a request that are for no key are passed over, so its
first key belongs to the first of the others.  A request for one key has no later.

* `mint_of_accepts`, `mint_of_not_accepts` — one key.
* `firstOrder?`, `mintAll_of_firstOrder?_some` — where a request begins.
* `mintAll_of_not_accepts`, `contains_mintAll_of_accepts` — what its first key decides.
* `RefusesAtOnce` — a request that is refused at its first key.
* **`denied_request_keeps_records`** — a request that is answered without a key.
* `denied_request_leaves_key` — one that is refused at its second.
-/

namespace SealedChunk.Broker

open Attribute Crypto

namespace MemoryBroker

variable {b : MemoryBroker} {spec : CreateSpec} {fixed current : AttributeMap} {nonces : Nonces}

/-! ## One key -/

lemma mint_of_not_accepts (h : ¬ ∃ fixed current, b.Accepts spec fixed current) (nonces : Nonces) :
    (∃ reason, (b.mint spec nonces).result = .error reason)
      ∧ (b.mint spec nonces).broker = b.nextKey.2 := by
  rcases mint_dichotomy b spec nonces with ⟨-, hminted⟩ | ⟨_, fixed, current, haccepts, -⟩
  · exact hminted
  · exact absurd ⟨fixed, current, haccepts⟩ h

lemma mint_of_accepts (h : b.Accepts spec fixed current) (nonces : Nonces) :
    ∃ record, (b.mint spec nonces).result = .ok record
      ∧ (b.mint spec nonces).broker
        = { b.nextKey.2 with records := b.records.insert b.nextKey.1.1 record } := by
  rcases mint_dichotomy b spec nonces with ⟨hnot, -⟩ | ⟨record, _, _, -, hresult, -, -, hbroker⟩
  · exact absurd ⟨fixed, current, h⟩ hnot
  · exact ⟨record, hresult, hbroker⟩

/-! ## Many keys -/

/-- Orders for no key are passed over. -/
lemma mintAll_append_of_empty {specs : List CreateSpec} (h : ∀ spec ∈ specs, spec.quantity = 0)
    (others : List CreateSpec) (b : MemoryBroker) (nonces : Nonces) :
    mintAll (specs ++ others) b nonces = mintAll others b nonces := by
  induction specs with
  | nil => rfl
  | cons spec specs ih =>
    obtain ⟨hspec, hspecs⟩ := List.forall_mem_cons.1 h
    have hzero : spec.quantity.toNat = 0 := by rw [hspec]; rfl
    rw [List.cons_append, mintAll, hzero, mintCopies]
    dsimp only
    rw [ih hspecs]
    cases hothers : (mintAll others b nonces).result with
    | error reason => rw [Except.map, ← hothers]
    | ok keys => rw [Except.map, List.nil_append, ← hothers]

lemma mintAll_of_empty {specs : List CreateSpec} (h : ∀ spec ∈ specs, spec.quantity = 0)
    (b : MemoryBroker) (nonces : Nonces) : mintAll specs b nonces = ⟨.ok [], b, nonces⟩ := by
  rw [← List.append_nil specs, mintAll_append_of_empty h]
  rfl

/-- The first order of a request that is for any key. -/
def firstOrder? (request : CreateRequest) : Option CreateSpec :=
  request.keys.find? (·.quantity != 0)

/-- How many keys some orders are for. -/
def keyCount : List CreateSpec → Nat
  | [] => 0
  | spec :: specs => spec.quantity.toNat + keyCount specs

lemma toNat_quantity_eq_zero_iff : spec.quantity.toNat = 0 ↔ spec.quantity = 0 :=
  UInt32.toNat_inj (b := 0)

lemma keyCount_append (specs others : List CreateSpec) :
    keyCount (specs ++ others) = keyCount specs + keyCount others := by
  induction specs with
  | nil => simp [keyCount]
  | cons spec specs ih => simp [keyCount, ih, Nat.add_assoc]

lemma keyCount_eq_zero_iff {specs : List CreateSpec} :
    keyCount specs = 0 ↔ ∀ spec ∈ specs, spec.quantity = 0 := by
  induction specs with
  | nil => simp [keyCount]
  | cons spec specs ih =>
    rw [List.forall_mem_cons, ← ih, ← toNat_quantity_eq_zero_iff, keyCount, Nat.add_eq_zero_iff]

/-- A request begins with the first order that is for any key. -/
lemma mintAll_of_firstOrder?_some {request : CreateRequest} (h : firstOrder? request = some spec)
    (b : MemoryBroker) (nonces : Nonces) : ∃ count rest, spec.quantity.toNat = count + 1
      ∧ keyCount request.keys = count + 1 + keyCount rest
      ∧ mintAll request.keys b nonces = mintAll (spec :: rest) b nonces := by
  obtain ⟨hpositive, passed, rest, hkeys, hpassed⟩ := List.find?_eq_some_iff_append.1 h
  have hempty : ∀ spec ∈ passed, spec.quantity = 0 := by simpa using hpassed
  have hcount : spec.quantity.toNat ≠ 0 := by
    rw [Ne, toNat_quantity_eq_zero_iff]
    simpa using hpositive
  obtain ⟨count, hcount⟩ := Nat.exists_eq_succ_of_ne_zero hcount
  have hzero : keyCount passed = 0 := keyCount_eq_zero_iff.2 hempty
  refine ⟨count, rest, hcount, ?_, ?_⟩
  · rw [hkeys, keyCount_append, hzero, keyCount, hcount, Nat.zero_add]
  · rw [hkeys, mintAll_append_of_empty hempty]

section FirstOrder

variable {request : CreateRequest} (hfirst : firstOrder? request = some spec)

include hfirst in
/-- If the first key is refused, that is all there is. -/
lemma mintAll_of_not_accepts (h : ¬ ∃ fixed current, b.Accepts spec fixed current)
    (nonces : Nonces) :
    (∃ reason, (mintAll request.keys b nonces).result = .error reason)
      ∧ (mintAll request.keys b nonces).broker = b.nextKey.2 := by
  obtain ⟨count, rest, hcount, -, hall⟩ := mintAll_of_firstOrder?_some hfirst b nonces
  obtain ⟨⟨reason, hresult⟩, hbroker⟩ := mint_of_not_accepts h nonces
  rw [hall, mintAll, hcount, mintCopies, hresult]
  exact ⟨⟨reason, rfl⟩, hbroker⟩

include hfirst in
/-- If the first key is accepted, it is put in place, and nothing after it takes it away. -/
lemma contains_mintAll_of_accepts (h : b.Accepts spec fixed current) (nonces : Nonces) :
    ((mintAll request.keys b nonces).broker.records.find? b.nextKey.1.1).isSome = true := by
  obtain ⟨count, rest, hcount, -, hall⟩ := mintAll_of_firstOrder?_some hfirst b nonces
  obtain ⟨record, hresult, hbroker⟩ := mint_of_accepts h nonces
  have hput : ((b.mint spec nonces).broker.records.find? b.nextKey.1.1).isSome = true := by
    rw [hbroker, OrderedMap.find?_insert, if_pos rfl]
    rfl
  have hrest : (b.mint spec nonces).broker.Changes (mintAll request.keys b nonces).broker := by
    rw [hall, mintAll, hcount, mintCopies, hresult]
    dsimp only
    have hcopies :=
      changes_mintCopies spec count (b.mint spec nonces).broker (b.mint spec nonces).nonces
    cases
      (mintCopies spec count (b.mint spec nonces).broker (b.mint spec nonces).nonces).result with
    | error reason => exact hcopies
    | ok keys => exact hcopies.trans (changes_mintAll rest _ _)
  exact hrest.preserves (fun hthere hchange => hchange.contains hthere) hput

include hfirst in
/-- A request for one key has no other. -/
lemma exists_mintAll_of_accepts (h : b.Accepts spec fixed current)
    (hone : keyCount request.keys ≤ 1) (nonces : Nonces) :
    ∃ record, (mintAll request.keys b nonces).result = .ok [record] := by
  obtain ⟨count, rest, hcount, hsum, hall⟩ := mintAll_of_firstOrder?_some hfirst b nonces
  obtain ⟨record, hresult, -⟩ := mint_of_accepts h nonces
  obtain rfl : count = 0 := by omega
  have hrest : keyCount rest = 0 := by omega
  rw [hall, mintAll, hcount, mintCopies, hresult]
  dsimp only [mintCopies, Except.map]
  rw [mintAll_of_empty (keyCount_eq_zero_iff.1 hrest)]
  exact ⟨record, rfl⟩

end FirstOrder

/-! ## Requests -/

/-- The broker refuses the request at its first key if it is for any: because it denies everything,
or because it does not accept the first order that is for any key. -/
def RefusesAtOnce (b : MemoryBroker) (request : CreateRequest) : Prop :=
  b.deny = true ∨ ∀ spec, firstOrder? request = some spec →
    ¬ ∃ fixed current, b.Accepts spec fixed current

lemma not_refusesAtOnce_iff {request : CreateRequest} : ¬ b.RefusesAtOnce request ↔
    b.deny = false ∧ ∃ spec fixed current, firstOrder? request = some spec
      ∧ b.Accepts spec fixed current := by
  simp [RefusesAtOnce]

lemma create_eq_of_answers (hdeny : b.deny = false) (request : CreateRequest) (nonces : Nonces) :
    (b.create request nonces).2.1 = (mintAll request.keys b nonces).broker
      ∧ (b.create request nonces).1.keys
        = (mintAll request.keys b nonces).result.toOption.getD [] := by
  rw [create, hdeny]
  dsimp only
  cases (mintAll request.keys b nonces).result <;> exact ⟨rfl, rfl⟩

lemma deny_create (b : MemoryBroker) (request : CreateRequest) (nonces : Nonces) :
    (b.create request nonces).2.1.deny = b.deny :=
  (changes_create b request nonces).preserves (P := fun after => after.deny = b.deny)
    (fun h hchange => hchange.deny_eq.trans h) rfl

/-- Of a request that is refused at once there is no trace but the id that it costs. -/
lemma exists_create_of_refusesAtOnce {request : CreateRequest} (h : b.RefusesAtOnce request)
    (nonces : Nonces) :
    ∃ queue counter, (b.create request nonces).2.1 = { b with queue, counter } := by
  by_cases hdeny : b.deny = true
  · rw [create, if_pos hdeny]
    exact ⟨b.queue, b.counter, rfl⟩
  · rw [Bool.not_eq_true] at hdeny
    rw [(create_eq_of_answers hdeny request nonces).1]
    cases hfirst : firstOrder? request with
    | none =>
      have hempty : ∀ spec ∈ request.keys, spec.quantity = 0 := by
        simpa [firstOrder?] using hfirst
      rw [mintAll_of_empty hempty]
      exact ⟨b.queue, b.counter, rfl⟩
    | some spec =>
      have hrefused : ¬ ∃ fixed current, b.Accepts spec fixed current := by
        rcases h with h | h
        · cases hdeny.symm.trans h
        · exact h spec hfirst
      rw [(mintAll_of_not_accepts hfirst hrefused nonces).2]
      have hkey : b.nextKey = (b.nextKey.1, b.nextKey.2) := rfl
      exact eq_of_nextKey hkey

/-- If the first key is accepted, it is there afterwards, and whoever asks for it is given it. -/
lemma exists_handed_of_accepts {request : CreateRequest} (hdeny : b.deny = false)
    (hfirst : firstOrder? request = some spec) (h : b.Accepts spec fixed current)
    (nonces : Nonces) :
    let after := (b.create request nonces).2.1
    (after.records.find? b.nextKey.1.1).isSome = true
      ∧ ∃ handed, (after.fetch { keyIds := [b.nextKey.1.1] }).keys = [handed] := by
  intro after
  have hafter : after = (mintAll request.keys b nonces).broker :=
    (create_eq_of_answers hdeny request nonces).1
  have hthere : (after.records.find? b.nextKey.1.1).isSome = true := by
    rw [hafter]
    exact contains_mintAll_of_accepts hfirst h nonces
  obtain ⟨record, hfind⟩ := Option.isSome_iff_exists.1 hthere
  refine ⟨hthere, after.handOut record, ?_⟩
  rw [keys_fetch_eq_toList ((deny_create b request nonces).trans hdeny), hfind]
  rfl

/-- **What a request leaves behind that is answered without a key.**

* If it is refused at once, every record is as it was, and so is whatever the broker answers to
  those who ask for keys.
* If it is not, then its first key is there.  Unless there was another under the same id, whoever
  asks for that id is given a key, and before the request nobody was.
* A request for one key is refused at once if it is refused. -/
theorem denied_request_keeps_records {request : CreateRequest}
    (hnone : (b.create request nonces).1.keys = []) :
    let after := (b.create request nonces).2.1
    let id := b.nextKey.1.1
    (b.RefusesAtOnce request →
        after.records = b.records ∧ ∀ sought, after.fetch sought = b.fetch sought)
      ∧ (¬ b.RefusesAtOnce request → (after.records.find? id).isSome = true
        ∧ (b.records.find? id = none →
          (b.fetch { keyIds := [id] }).keys = []
            ∧ ∃ handed, (after.fetch { keyIds := [id] }).keys = [handed]))
      ∧ (keyCount request.keys ≤ 1 → b.RefusesAtOnce request) := by
  refine ⟨fun hrefused => ?_, fun haccepted => ?_, fun hone => ?_⟩
  · obtain ⟨queue, counter, hafter⟩ := exists_create_of_refusesAtOnce hrefused nonces
    rw [hafter]
    exact ⟨rfl, fun sought => rfl⟩
  · obtain ⟨hdeny, spec, fixed, current, hfirst, haccepts⟩ := not_refusesAtOnce_iff.1 haccepted
    obtain ⟨hthere, hhanded⟩ := exists_handed_of_accepts hdeny hfirst haccepts nonces
    refine ⟨hthere, fun hnew => ⟨?_, hhanded⟩⟩
    rw [keys_fetch_eq_toList hdeny, hnew]
    rfl
  · by_contra haccepted
    obtain ⟨hdeny, spec, fixed, current, hfirst, haccepts⟩ := not_refusesAtOnce_iff.1 haccepted
    obtain ⟨record, hresult⟩ := exists_mintAll_of_accepts hfirst haccepts hone nonces
    rw [(create_eq_of_answers hdeny request nonces).2, hresult] at hnone
    cases hnone

/-- An order that nobody has signed. -/
def unsignedOrder (quantity : UInt32) : CreateSpec :=
  { ref := "second", quantity, attributes := { text := "\x7b\x7d" },
    mutableAttributes := { text := "\x7b\x7d" } }

/-- No broker accepts what is not signed. -/
lemma mint_of_unsigned (h : spec.attributes.signature = none) (b : MemoryBroker) (nonces : Nonces) :
    (b.mint spec nonces).result = .error "attribute signature" := by
  rcases hkey : b.nextKey with ⟨⟨id, secret⟩, next⟩
  have hreseal : next.reseal spec.attributes .immutable spec.ref id secret nonces
      = (none, nonces) := by
    rw [reseal]
    split
    · rfl
    · rename_i decoded hdecoded
      obtain ⟨-, -, hstatus⟩ := decodeSlot_eq_ok hdecoded
      rw [signatureStatus, h] at hstatus
      rw [← Except.ok.inj hstatus, if_neg (by simp)]
  simp only [mint, hkey, hreseal]

/-- An order for no key is passed over, and the next one is refused. -/
theorem denied_request_keeps_records_unsigned :
    let request : CreateRequest := { keys := [unsignedOrder 0, unsignedOrder 2] }
    let answered := oneKeyBroker.create request (.ofBytes [])
    answered.1.keys = [] ∧ answered.2.1.records = oneKeyBroker.records
      ∧ answered.2.1.fetch { keyIds := ["abc.def"] }
        = oneKeyBroker.fetch { keyIds := ["abc.def"] } := by
  intro request answered
  have hnone : answered.1.keys = [] := rfl
  have hrefused : oneKeyBroker.RefusesAtOnce request := by
    refine .inr fun spec hfirst ⟨fixed, current, haccepts⟩ => ?_
    obtain rfl : unsignedOrder 2 = spec := Option.some.inj hfirst
    obtain ⟨record, hresult, -⟩ := mint_of_accepts haccepts (.ofBytes [])
    cases (mint_of_unsigned rfl oneKeyBroker (.ofBytes [])).symm.trans hresult
  obtain ⟨hrecords, hfetch⟩ := (denied_request_keeps_records hnone).1 hrefused
  exact ⟨hnone, hrecords, hfetch _⟩

/-- A text with the signature that signing it makes. -/
def signedText (secret : Secret) (ctx : SigningContext) (text : String) : SignedAttributes :=
  { text, signature := some (Base64.encode (Mac.hmac secret.bytes
      (Bytes.ofText (ctx.signingText text)))) }

lemma decodeSlot_signedText {text : String} {m : AttributeMap}
    (hparse : AttributeMap.parse text = .ok m) (secret : Secret) (ctx : SigningContext) :
    decodeSlot (signedText secret ctx text) secret.bytes ctx
      = .ok { attributes := (openMap m secret.bytes ctx.id).attributes
              signature := (signedText secret ctx text).signature
              status := .valid
              unopened := (openMap m secret.bytes ctx.id).unopened } := by
  have hsign := (sign_eq_ok_iff secret.bytes_ne_nil ctx text).2 rfl
  have hstatus : signatureStatus (signedText secret ctx text) secret.bytes ctx = .ok .valid :=
    signatureStatus_eq_valid_iff.2 ⟨_, rfl, verify_of_sign hsign rfl⟩
  exact decodeSlot_eq_ok_iff.2 ⟨hstatus, rfl, m, hparse, rfl⟩

/-- An order for a key without attributes. -/
def signedOrder : CreateSpec :=
  { ref := "first", quantity := 1
    attributes := signedText (.ofByte 5) (.ofSlot .immutable "first") "\x7b\x7d"
    mutableAttributes := signedText (.ofByte 5) (.ofSlot .mutable "first") "\x7b\x7d" }

lemma accepts_signedOrder : oneKeyBroker.Accepts signedOrder .empty .empty := by
  have hparse : AttributeMap.parse "\x7b\x7d" = .ok .empty := rfl
  have hroom : Sealable .empty "abc.def" := List.forall_mem_nil _
  exact ⟨⟨hroom, hroom⟩, decodeSlot_signedText hparse (.ofByte 5) (.ofSlot .immutable "first"),
    decodeSlot_signedText hparse (.ofByte 5) (.ofSlot .mutable "first")⟩

/-- If the order for the second of two keys is not signed, the refusal comes too late for the
first. -/
lemma exists_create_of_unsigned {first second : CreateSpec} (hdeny : b.deny = false)
    (hfirst : first.quantity = 1) (hsecond : second.quantity = 1)
    (haccepts : b.Accepts first fixed current)
    (hunsigned : second.attributes.signature = none) (nonces : Nonces) :
    ∃ after later, b.create { keys := [first, second] } nonces
        = (denied "attribute signature", after, later)
      ∧ (after.records.find? b.nextKey.1.1).isSome = true
      ∧ ∃ handed, (after.fetch { keyIds := [b.nextKey.1.1] }).keys = [handed] := by
  have hone : (1 : UInt32).toNat = 1 := rfl
  have hbegins : firstOrder? { keys := [first, second] } = some first := by
    simp [firstOrder?, hfirst]
  obtain ⟨minted, hminted, -⟩ := mint_of_accepts haccepts nonces
  have hrefused : (mintAll [first, second] b nonces).result = .error "attribute signature" := by
    simp only [mintAll, hfirst, hsecond, hone, mintCopies, hminted, mint_of_unsigned hunsigned,
      Except.map]
  have hcreate : (b.create { keys := [first, second] } nonces).1
      = denied "attribute signature" := by
    simp only [create, hdeny, hrefused]
    rfl
  exact ⟨_, _, Prod.ext hcreate rfl, exists_handed_of_accepts hdeny hbegins haccepts nonces⟩

/-- **A refusal comes too late for the keys before it.**  Two keys are ordered, and the order for
the second is not signed.  The request is denied, and no key is handed out.  But the first key has
been put in place, and whoever asks for it is given it. -/
theorem denied_request_leaves_key : ∃ after later handed,
    oneKeyBroker.create { keys := [signedOrder, unsignedOrder 1] } (.ofBytes [])
        = (denied "attribute signature", after, later)
      ∧ (denied "attribute signature").keys = []
      ∧ after.records ≠ oneKeyBroker.records
      ∧ (oneKeyBroker.fetch { keyIds := ["abc.def"] }).keys = []
      ∧ (after.fetch { keyIds := ["abc.def"] }).keys = [handed] := by
  have hunsigned : (unsignedOrder 1).attributes.signature = none := rfl
  obtain ⟨after, later, hcreate, hthere, handed, hhanded⟩ :=
    exists_create_of_unsigned rfl rfl rfl accepts_signedOrder hunsigned (.ofBytes [])
  refine ⟨after, later, handed, hcreate, rfl, ?_, rfl, hhanded⟩
  intro hsame
  rw [hsame] at hthere
  cases hthere

end MemoryBroker

end SealedChunk.Broker
