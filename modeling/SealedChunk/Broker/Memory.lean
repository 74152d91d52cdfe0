import SealedChunk.Broker.Message

/-!
# A broker that keeps its keys in memory

The simplest broker there is.  It shares a secret with its clients, under which the attributes of an
order arrive signed and sealed.  For every key it mints it opens them, and seals and signs them
again under the key's own secret.  A slot that does not verify, or does not open in full, is
refused, and with it the whole order; keys minted before the refusal stay.

* `MemoryBroker` — the broker's state.
* `create`, `fetch`, `update` — what it does with a request.
-/

namespace SealedChunk.Broker

open Attribute Crypto

/-- A broker with all it knows. -/
structure MemoryBroker where
  /-- Shared with the clients. -/
  clientSecret : Secret
  /-- Ids and secrets of the keys to mint next. -/
  queue : List (String × Secret) := []
  /-- How many keys were minted without an id in the queue. -/
  counter : UInt8 := 0
  /-- The keys, by the id under which they were minted. -/
  records : OrderedMap KeyRecord := .empty
  /-- Whether every request is denied. -/
  deny : Bool := false
  /-- An id that takes the place of the id of every key that is fetched. -/
  answerAs : Option String := none
  /-- A condition that goes with every answer. -/
  degraded : Option Condition := none

namespace MemoryBroker

/-- The code of a denial. -/
def deniedCode : Int32 := 40003

/-- The code for a key that is not there. -/
def unknownKeyCode : Int32 := 40004

/-- A denial. -/
def denied (message : String) : KeysResponse :=
  { condition := some { code := deniedCode, message } }

/-! ## Creating keys -/

/-- The id and the secret for the next key: from the queue, or else from the counter. -/
def nextKey (b : MemoryBroker) : (String × Secret) × MemoryBroker :=
  match b.queue with
  | next :: queue => (next, { b with queue })
  | [] =>
    let counter := b.counter + 1
    let secret : Secret := ⟨List.replicate Crypto.keyLength counter, List.length_replicate⟩
    (("key." ++ Decimal.text counter.toNat, secret), { b with counter })

/-- Opens a slot that a client made for `ref`, and closes it again for a key.  Nothing comes of a
slot that does not verify or does not open in full. -/
def reseal (b : MemoryBroker) (signed : SignedAttributes) (slot : Slot) (ref keyId : String)
    (secret : Secret) (nonces : Nonces) : Option SignedAttributes × Nonces :=
  match decodeSlot signed b.clientSecret.bytes (.ofSlot slot ref) with
  | .error _ => (none, nonces)
  | .ok decoded =>
    if decoded.status = .valid ∧ decoded.unopened = [] then
      match (encodeSlot decoded.attributes secret.bytes secret.bytes (.ofSlot slot keyId)).run
        nonces with
      | (.ok signed, nonces) => (some signed, nonces)
      | (.error _, nonces) => (none, nonces)
    else (none, nonces)

/-- What comes of minting: a result, or the reason of a denial, and in both cases a broker and the
nonces that are left. -/
structure Minted (α : Type) where
  result : Except String α
  broker : MemoryBroker
  nonces : Nonces

/-- Mints one key for an order. -/
def mint (b : MemoryBroker) (spec : CreateSpec) (nonces : Nonces) : Minted KeyRecord :=
  let ((id, secret), b) := b.nextKey
  match b.reseal spec.attributes .immutable spec.ref id secret nonces with
  | (none, nonces) => ⟨.error "attribute signature", b, nonces⟩
  | (some attributes, nonces) =>
    match b.reseal spec.mutableAttributes .mutable spec.ref id secret nonces with
    | (none, nonces) => ⟨.error "mutable attribute signature", b, nonces⟩
    | (some mutableAttributes, nonces) =>
      let record : KeyRecord :=
        { id, secret := secret.toBase64, ref := spec.ref, attributes, mutableAttributes,
          origin := "memory" }
      ⟨.ok record, { b with records := b.records.insert id record }, nonces⟩

/-- Mints `count` keys for an order. -/
def mintCopies (spec : CreateSpec) : (count : Nat) → MemoryBroker → Nonces → Minted (List KeyRecord)
  | 0, b, nonces => ⟨.ok [], b, nonces⟩
  | count + 1, b, nonces =>
    let first := b.mint spec nonces
    match first.result with
    | .error reason => ⟨.error reason, first.broker, first.nonces⟩
    | .ok record =>
      let others := mintCopies spec count first.broker first.nonces
      { others with result := others.result.map (record :: ·) }

/-- Mints the keys of some orders. -/
def mintAll : List CreateSpec → MemoryBroker → Nonces → Minted (List KeyRecord)
  | [], b, nonces => ⟨.ok [], b, nonces⟩
  | spec :: specs, b, nonces =>
    let first := mintCopies spec spec.quantity.toNat b nonces
    match first.result with
    | .error reason => ⟨.error reason, first.broker, first.nonces⟩
    | .ok records =>
      let others := mintAll specs first.broker first.nonces
      { others with result := others.result.map (records ++ ·) }

/-- Answers a request to create keys. -/
def create (b : MemoryBroker) (request : CreateRequest) (nonces : Nonces) :
    KeysResponse × MemoryBroker × Nonces :=
  if b.deny then (denied "policy", b, nonces)
  else
    let minted := mintAll request.keys b nonces
    match minted.result with
    | .error reason => (denied reason, minted.broker, minted.nonces)
    | .ok keys => ({ keys, condition := b.degraded }, minted.broker, minted.nonces)

/-! ## Fetching keys -/

/-- The records with the requested ids, and conditions for the ids that no record has. -/
def fetchById (b : MemoryBroker) (keyIds : List String) : List KeyRecord × List KeyCondition :=
  (keyIds.filterMap b.records.find?,
   (keyIds.filter fun id => !b.records.contains id).map fun keyId =>
    { keyId, serverCode := unknownKeyCode, message := "unknown key" })

/-- Whether a record has one of the external ids. -/
def hasExternalId (record : KeyRecord) (wanted : List String) : Bool :=
  match AttributeMap.parse record.attributes.text with
  | .error _ => false
  | .ok attributes =>
    match attributes.find? externalIdName with
    | some values => values.any wanted.contains
    | none => false

/-- The records with one of the external ids, but not those that were requested by id, in ascending
order of their ids. -/
def fetchByExternalId (b : MemoryBroker) (keyIds externalIds : List String) : List KeyRecord :=
  if externalIds.isEmpty then []
  else
    ((b.records.entries.map Prod.snd).filter fun record =>
        !keyIds.contains record.id && hasExternalId record externalIds).mergeSort
      fun r s => decide (r.id ≤ s.id)

/-- A record as it is handed out: without the reference of its order, and under another id if the
broker answers so. -/
def handOut (b : MemoryBroker) (record : KeyRecord) : KeyRecord :=
  { record with ref := "", id := b.answerAs.getD record.id }

/-- Answers a request to fetch keys. -/
def fetch (b : MemoryBroker) (request : FetchRequest) : KeysResponse :=
  if b.deny then denied "policy"
  else
    let (found, keyConditions) := b.fetchById request.keyIds
    let keys := found ++ b.fetchByExternalId request.keyIds request.externalIds
    { keys := keys.map b.handOut, condition := b.degraded, keyConditions }

/-! ## Replacing mutable attributes -/

/-- Why mutable attributes were not replaced. -/
inductive UpdateError where
  | unknownKey
  /-- The order replaces another signature than the one that is there. -/
  | stale
  | badSecret
  | malformed
  | badSignature
  | resealFailed
deriving DecidableEq, Repr

/-- The text of the error. -/
def UpdateError.message : UpdateError → String
  | .unknownKey => "unknown key"
  | .stale => "stale update"
  | .badSecret => "bad secret"
  | .malformed => "malformed update"
  | .badSignature => "bad signature"
  | .resealFailed => "reseal failed"

/-- The circumstances that the signature of an order must cover. -/
def updateContext (spec : UpdateSpec) : SigningContext :=
  { id := spec.keyId, mutable := true, previous := spec.previous, force := spec.force }

/-- The mutable attributes that an order leads to, if the record admits it. -/
def replacement (record : KeyRecord) (spec : UpdateSpec) :
    Drawing UpdateError SignedAttributes :=
  if !spec.force && spec.previous ≠ record.mutableAttributes.signature then .lift (.error .stale)
  else
    match Secret.ofBase64 record.secret with
    | .error _ => .lift (.error .badSecret)
    | .ok secret =>
      match decodeSlot spec.mutableAttributes secret.bytes (updateContext spec) with
      | .error _ => .lift (.error .malformed)
      | .ok decoded =>
        if decoded.status = .valid then
          (encodeSlot decoded.attributes secret.bytes secret.bytes
            (.ofSlot .mutable spec.keyId)).mapError fun _ => .resealFailed
        else .lift (.error .badSignature)

/-- Carries out an order to replace mutable attributes. -/
def update (b : MemoryBroker) (spec : UpdateSpec) : Drawing UpdateError MemoryBroker :=
  match b.records.find? spec.keyId with
  | none => .lift (.error .unknownKey)
  | some record => do
    let mutableAttributes ← replacement record spec
    pure { b with records := b.records.insert spec.keyId { record with mutableAttributes } }

/-- The broker with one of its records changed, as by someone who has access to its memory. -/
def tamper (b : MemoryBroker) (id : String) (change : KeyRecord → KeyRecord) : MemoryBroker :=
  match b.records.find? id with
  | none => b
  | some record => { b with records := b.records.insert id (change record) }

end MemoryBroker

end SealedChunk.Broker
