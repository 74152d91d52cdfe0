import SealedChunk.Attribute.Slot
import SealedChunk.Json.Record
import SealedChunk.Key.Key

/-!
# Messages to and from a broker

A broker mints keys and hands them out again.  It is asked to create keys, to fetch keys by their id
or by an external id, and to replace the mutable attributes of a key; it answers with key records,
and with the conditions that kept it from doing more.

Each message is a structure with a `Json.Record` that says how it travels.

* `CreateRequest`, `FetchRequest`, `UpdateSpec` — what a broker is asked.
* `KeysResponse` — what it answers: records, a condition for the whole, and conditions for keys.
* `KeysResponse.conditionFor` — the condition that matters to one who asked for a certain key.
-/

namespace SealedChunk.Broker

open Json Attribute

/-- Texts that go to the broker with every request. -/
abbrev Metadata := SortedMap String

/-! ## Attributes -/

/-- How signed attributes travel. -/
def signedAttributes : Record SignedAttributes where
  blank := {}
  fields := [
    .needed "attrs" .text (·.text) (fun text m => { m with text }),
    .sparing "sig" (.optional .text) (·.signature) (fun signature m => { m with signature })
      Option.isNone]

/-! ## Requests -/

/-- An order for new keys with the same attributes. -/
structure CreateSpec where
  /-- Stands for the ids of the keys until they are minted. -/
  ref : String := ""
  quantity : UInt32 := 0
  attributes : SignedAttributes := {}
  mutableAttributes : SignedAttributes := {}
deriving DecidableEq

/-- How an order for new keys travels. -/
def createSpec : Record CreateSpec where
  blank := {}
  fields := [
    .needed "ref" .text (·.ref) (fun ref m => { m with ref }),
    .needed "qty" .uint32 (·.quantity) (fun quantity m => { m with quantity }),
    .needed "attributes" signedAttributes.codec (·.attributes)
      (fun attributes m => { m with attributes }),
    .needed "mutable_attributes" signedAttributes.codec (·.mutableAttributes)
      (fun mutableAttributes m => { m with mutableAttributes })]

/-- A request to create keys. -/
structure CreateRequest where
  metadata : Metadata := .empty
  keys : List CreateSpec := []
deriving DecidableEq

/-- How a request to create keys travels. -/
def createRequest : Record CreateRequest where
  blank := {}
  fields := [
    .spare "metadata" (.sorted .text) (·.metadata) (fun metadata m => { m with metadata }),
    .needed "keys" (.list createSpec.codec) (·.keys) (fun keys m => { m with keys })]

/-- The attribute whose values are the external ids of a key. -/
def externalIdName : String := "external-id"

/-- A request to fetch keys: all those with one of the ids, and all those with one of the external
ids. -/
structure FetchRequest where
  metadata : Metadata := .empty
  keyIds : List String := []
  externalIds : List String := []
deriving DecidableEq

/-- How a request to fetch keys travels. -/
def fetchRequest : Record FetchRequest where
  blank := {}
  fields := [
    .spare "metadata" (.sorted .text) (·.metadata) (fun metadata m => { m with metadata }),
    .spare "key_ids" (.list .text) (·.keyIds) (fun keyIds m => { m with keyIds }),
    .sparing "external_ids" (.list .text) (·.externalIds)
      (fun externalIds m => { m with externalIds }) List.isEmpty]

/-- An order to replace the mutable attributes of a key. -/
structure UpdateSpec where
  keyId : String := ""
  mutableAttributes : SignedAttributes := {}
  /-- The signature that the new one replaces. -/
  previous : Option String := none
  /-- Whether to replace them even if they carry another signature by now. -/
  force : Bool := false
deriving DecidableEq

/-- How an order to replace mutable attributes travels. -/
def updateSpec : Record UpdateSpec where
  blank := {}
  fields := [
    .needed "id" .text (·.keyId) (fun keyId m => { m with keyId }),
    .needed "mutable_attributes" signedAttributes.codec (·.mutableAttributes)
      (fun mutableAttributes m => { m with mutableAttributes }),
    .sparing "previous_sig" (.optional .text) (·.previous) (fun previous m => { m with previous })
      Option.isNone,
    .spare "force" .flag (·.force) (fun force m => { m with force })]

/-! ## Responses -/

/-- A key as a broker hands it out. -/
structure KeyRecord where
  id : String := ""
  /-- The secret as Base64. -/
  secret : String := ""
  /-- What stood for the id in the order; empty for a key that was fetched. -/
  ref : String := ""
  attributes : SignedAttributes := {}
  mutableAttributes : SignedAttributes := {}
  obligations : Obligations := .empty
  origin : String := ""

/-- How a key travels. -/
def keyRecord : Record KeyRecord where
  blank := {}
  fields := [
    .needed "id" .text (·.id) (fun id m => { m with id }),
    .needed "secret" .text (·.secret) (fun secret m => { m with secret }),
    .spare "ref" .text (·.ref) (fun ref m => { m with ref }),
    .spare "attributes" signedAttributes.codec (·.attributes)
      (fun attributes m => { m with attributes }),
    .spare "mutable_attributes" signedAttributes.codec (·.mutableAttributes)
      (fun mutableAttributes m => { m with mutableAttributes }),
    .spare "obligations" (.sorted .value) (·.obligations)
      (fun obligations m => { m with obligations }),
    .spare "origin" .text (·.origin) (fun origin m => { m with origin })]

/-- A condition that kept a broker from doing all it was asked. -/
structure Condition where
  code : Int32 := 0
  message : String := ""
deriving DecidableEq

/-- How a condition travels. -/
def condition : Record Condition where
  blank := {}
  fields := [
    .needed "code" .int32 (·.code) (fun code m => { m with code }),
    .spare "message" .text (·.message) (fun message m => { m with message })]

/-- The text of a condition. -/
def Condition.render (c : Condition) : String :=
  "broker error " ++ Decimal.text c.code.toInt
    ++ (if c.message.isEmpty then "" else ": " ++ c.message)

/-- A condition that concerns one key. -/
structure KeyCondition where
  keyId : String := ""
  /-- A code from the client side of the broker, zero for none. -/
  clientCode : Int32 := 0
  /-- A code from the broker itself, zero for none. -/
  serverCode : Int32 := 0
  message : String := ""
deriving DecidableEq

/-- How a condition of a key travels. -/
def keyCondition : Record KeyCondition where
  blank := {}
  fields := [
    .needed "id" .text (·.keyId) (fun keyId m => { m with keyId }),
    .spare "client_error" .int32 (·.clientCode) (fun clientCode m => { m with clientCode }),
    .spare "server_error" .int32 (·.serverCode) (fun serverCode m => { m with serverCode }),
    .spare "message" .text (·.message) (fun message m => { m with message })]

/-- The condition without the key: the broker's own code counts, if it gave one. -/
def KeyCondition.toCondition (c : KeyCondition) : Condition :=
  ⟨if c.serverCode ≠ 0 then c.serverCode else c.clientCode, c.message⟩

/-- The answer to a request for keys. -/
structure KeysResponse where
  keys : List KeyRecord := []
  /-- The condition that concerns the whole request. -/
  condition : Option Condition := none
  keyConditions : List KeyCondition := []

/-- How an answer travels. -/
def keysResponse : Record KeysResponse where
  blank := {}
  fields := [
    .spare "keys" (.list keyRecord.codec) (·.keys) (fun keys m => { m with keys }),
    .sparing "error" (.optional Broker.condition.codec) (·.condition)
      (fun condition m => { m with condition }) Option.isNone,
    .sparing "key_errors" (.list keyCondition.codec) (·.keyConditions)
      (fun keyConditions m => { m with keyConditions }) List.isEmpty]

namespace KeysResponse

/-- Whether the broker reported no condition at all. -/
def isOk (r : KeysResponse) : Bool := r.condition.isNone && r.keyConditions.isEmpty

/-- The condition that applies to a key: its own before that of the whole request.  For no key in
particular the first condition of any key stands in. -/
def conditionFor (r : KeysResponse) (keyId : Option String) : Option Condition :=
  let own : Option KeyCondition := match keyId with
    | some id => r.keyConditions.find? fun c => c.keyId == id
    | none => r.keyConditions.head?
  match own with
  | some c => some c.toCondition
  | none => r.condition

end KeysResponse

end SealedChunk.Broker
