import SealedChunk.Base64
import SealedChunk.Text.Cut
import SealedChunk.Text.Quoted

/-!
# Variants of the envelope

An envelope is a text with a key id and a ciphertext between three tokens:

`keyTag ++ key id ++ bodyStart ++ ciphertext ++ bodyEnd`

A variant settles the tokens, and whether the ciphertext is bound to the key id.  Tokens are of use
only if they cannot be mistaken for the ciphertext or for each other, and variants can be used side
by side only if neither's key tag begins with the other's.

* `Variant` — the tokens; `Variant.v1` and `Variant.v2` are built in.
* `Variant.validate` — whether a variant is of use by itself.
* `Variant.validateAlongside` — and whether it is of use among others.
-/

namespace SealedChunk.Envelope

/-- What the tag of a payload covers beyond the payload. -/
inductive Binding where
  | nothing
  | keyId
deriving DecidableEq, Repr

/-- The tokens of an envelope, under the name of their combination. -/
structure Variant where
  id : String
  keyTag : String
  bodyStart : String
  bodyEnd : String
  binding : Binding
deriving DecidableEq, Repr

/-- Why a variant is of no use. -/
inductive VariantError where
  | emptyDelimiter (variant : String)
  | duplicateDelimiter (variant : String)
  | indistinguishable (variant other : String)
  /-- A token might occur in a ciphertext. -/
  | base64Delimiter (variant token : String)
deriving DecidableEq, Repr

/-- The text of the error. -/
def VariantError.message : VariantError → String
  | .emptyDelimiter variant => "variant " ++ variant ++ " has an empty delimiter"
  | .duplicateDelimiter variant =>
    "variant " ++ variant ++ " reuses the same token for two delimiters"
  | .indistinguishable variant other =>
    "variant " ++ variant ++ " cannot be told apart from variant " ++ other
  | .base64Delimiter variant token =>
    "variant " ++ variant ++ " delimiter " ++ Text.quoted token ++ " only uses base64 characters"

namespace Variant

/-! ## The variants that are built in -/

/-- Tokens with the digit 1; the payload stands for itself. -/
def v1 : Variant := ⟨"chunk-v1", "~!1!", "!1!", "!1!~", .nothing⟩

/-- Tokens with the digit 2; the payload is bound to the key id. -/
def v2 : Variant := ⟨"chunk-v2", "~!2!", "!2!", "!2!~", .keyId⟩

/-- The built-in variants, in the order in which they are tried. -/
def builtIn : List Variant := [v2, v1]

/-- The built-in variant of a name. -/
def ofId? (id : String) : Option Variant := builtIn.find? fun v => v.id == id

/-! ## Tokens -/

/-- The three tokens, in their order in an envelope. -/
def delimiters (v : Variant) : List String := [v.keyTag, v.bodyStart, v.bodyEnd]

/-- How many bytes the three tokens have together. -/
def delimiterLength (v : Variant) : Nat :=
  Text.utf8Length v.keyTag.toList + Text.utf8Length v.bodyStart.toList
    + Text.utf8Length v.bodyEnd.toList

/-- The associated data of a payload under a key. -/
def payloadAad (v : Variant) (keyId : String) : Bytes :=
  match v.binding with
  | .nothing => []
  | .keyId => Bytes.ofText keyId

/-! ## Fitness -/

/-- Checks tokens in their order: each must be there, differ from the earlier ones, and hold a
character that is foreign to Base64. -/
def checkDelimiters (id : String) (earlier : List String) : List String → Except VariantError Unit
  | [] => .ok ()
  | token :: rest =>
    if token.isEmpty then .error (.emptyDelimiter id)
    else if earlier.contains token then .error (.duplicateDelimiter id)
    else if token.toList.all Base64.isBase64Char then .error (.base64Delimiter id token)
    else checkDelimiters id (earlier ++ [token]) rest

/-- Checks that the tokens cannot be mistaken for Base64 or for each other. -/
def validate (v : Variant) : Except VariantError Unit := checkDelimiters v.id [] v.delimiters

/-- Whether neither key tag begins with the other, so that no text can begin with both. -/
def distinguishable (v other : Variant) : Bool :=
  !(Text.startsWith other.keyTag.toList v.keyTag.toList
    || Text.startsWith v.keyTag.toList other.keyTag.toList)

/-- Checks a variant by itself, and that none of the others shares its name or can be taken for it.
The variant itself may be among the others. -/
def validateAlongside (v : Variant) (others : List Variant) : Except VariantError Unit :=
  match v.validate with
  | .error e => .error e
  | .ok () =>
    match others.find? fun other =>
        other ≠ v && (other.id == v.id || !v.distinguishable other) with
    | some other => .error (.indistinguishable v.id other.id)
    | none => .ok ()

end Variant

end SealedChunk.Envelope
