import SealedChunk.Config.Name
import SealedChunk.Engine.Engine

/-!
# Configuration

An engine can be set up from the variables of the environment whose names begin with
`CHUNK_CIPHER_`.  Only the client secret has to be there.  Variables of other fields are ignored.

* `Configuration` — the fields.
* `Configuration.ofEnvironment` — from variables; the result is valid.
* `Configuration.validate` — what a configuration must satisfy.
* `Engine.ofConfiguration` — the engine that a configuration describes.
-/

namespace SealedChunk

open Envelope

/-- The settings of an engine, as they are written down. -/
structure Configuration where
  /-- The name of the variant for new envelopes. -/
  variant : String := "chunk-v2"
  /-- How many milliseconds the broker may take to answer. -/
  timeoutMillis : UInt64 := 30000
  strict : Bool := false
  /-- The client secret as Base64. -/
  clientSecret : String
  logLevel : String := "info"

namespace Config

/-- What is wrong with a configuration. -/
inductive ConfigError where
  /-- A variable is missing or has a value that its field cannot take. -/
  | unreadable
  /-- A field is blank that must not be. -/
  | blank (name : String)
  | zeroTimeout
  | unknownVariant (id : String)
  | badSecret (error : SecretError)
deriving DecidableEq

/-- The text of the error. -/
def ConfigError.message : ConfigError → String
  | .unreadable => "failed to deserialise configuration"
  | .blank name => name ++ " is required and must not be empty"
  | .zeroTimeout => "CHUNK_CIPHER_BROKER_TIMEOUT_MS must be > 0"
  | .unknownVariant id =>
    "CHUNK_CIPHER_VARIANT " ++ Text.quoted id ++ " is not a known cipher variant"
  | .badSecret _ => "CHUNK_CIPHER_CLIENT_SECRET is invalid"

/-- The texts of the errors that led to the error. -/
def ConfigError.causes : ConfigError → List String
  | .badSecret error => [error.message]
  | _ => []

/-! ## Variables -/

/-- What the environment holds for a field; of several variables, the last counts. -/
def setting? (environment : List (String × String)) (field : String) : Option Setting :=
  environment.reverse.findSome? fun entry =>
    match FieldPath.ofName? entry.1 with
    | none => none
    | some path =>
      if path.field ≠ field then none
      else if path.steps.isEmpty then some (.ofText entry.2)
      else some .composite

/-- The value of a field: a default if no variable holds it. -/
def fieldValue {α : Type} (environment : List (String × String)) (field : String)
    (convert : Setting → Option α) (default : Option α) : Except ConfigError α :=
  match setting? environment field with
  | none =>
    match default with
    | some value => .ok value
    | none => .error .unreadable
  | some setting =>
    match convert setting with
    | some value => .ok value
    | none => .error .unreadable

end Config

namespace Configuration

open Config

/-! ## Validity -/

/-- The variant of a configuration. -/
def cipherVariant (c : Configuration) : Except ConfigError Variant :=
  match Variant.ofId? c.variant with
  | some v => .ok v
  | none => .error (.unknownVariant c.variant)

/-- The client secret of a configuration. -/
def secret (c : Configuration) : Except ConfigError Secret :=
  (Secret.ofBase64 c.clientSecret).mapError .badSecret

/-- How long the broker may take to answer. -/
def timeout (c : Configuration) : Duration := .ofMillis c.timeoutMillis.toNat

/-- Checks all fields, and reports the first that is wrong. -/
def validate (c : Configuration) : Except ConfigError Unit := do
  if Text.isBlankText c.clientSecret then .error (.blank "CHUNK_CIPHER_CLIENT_SECRET")
  if Text.isBlankText c.logLevel then .error (.blank "CHUNK_CIPHER_LOG_LEVEL")
  if c.timeoutMillis = 0 then .error .zeroTimeout
  let _ ← c.cipherVariant
  let _ ← c.secret
  .ok ()

/-- The configuration that the variables describe. -/
def ofEnvironment (environment : List (String × String)) : Except ConfigError Configuration := do
  let variant ← fieldValue environment "variant" Setting.toText? (some "chunk-v2")
  let timeoutMillis ← fieldValue environment "broker_timeout_ms" Setting.toCount? (some 30000)
  let strict ← fieldValue environment "strict_attribute_integrity" Setting.toFlag? (some false)
  let clientSecret ← fieldValue environment "client_secret" Setting.toText? none
  let logLevel ← fieldValue environment "log_level" Setting.toText? (some "info")
  let c : Configuration := { variant, timeoutMillis, strict, clientSecret, logLevel }
  c.validate
  .ok c

/-- How a log shows a configuration: without its secret. -/
def redacted (c : Configuration) : String :=
  "EngineConfig \x7b variant: " ++ Text.quoted c.variant
    ++ ", broker_timeout_ms: " ++ Decimal.text c.timeoutMillis.toNat
    ++ ", strict_attribute_integrity: " ++ (if c.strict then "true" else "false")
    ++ ", client_secret: " ++ Text.quoted "[REDACTED]"
    ++ ", log_level: " ++ Text.quoted c.logLevel ++ " \x7d"

end Configuration

/-! ## Engines -/

/-- Why no engine could be set up. -/
inductive Engine.SetupError where
  | config (error : Config.ConfigError)
  | engine (failure : Engine.Failure)

/-- The engine that a configuration describes, whether all of it is valid or not. -/
def Engine.ofConfiguration (c : Configuration) : Except Engine.SetupError Engine := do
  let variant ← c.cipherVariant.mapError .config
  let secret ← c.secret.mapError .config
  let engine ← (Engine.make variant secret).mapError .engine
  .ok { engine with timeout := c.timeout, strict := c.strict }

end SealedChunk
