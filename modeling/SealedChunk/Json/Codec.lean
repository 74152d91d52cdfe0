import SealedChunk.Json.Value

/-!
# Codecs

A codec is the pair of a reader and a writer for one type.  Its reader starts at a character that is
no blank and is told how many brackets may still be opened; a value of another kind than the one it
asks for is refused.

* `Codec.text`, `Codec.flag`, `Codec.integer` — values without parts.
* `Codec.list`, `Codec.optional` — built from a codec for the part.
* `Codec.ordered`, `Codec.sorted` — objects with arbitrary names.
* `Codec.decode`, `Codec.encode` — whole texts.
-/

namespace SealedChunk.Json

/-- A reader and a writer for one type. -/
structure Codec (α : Type) where
  /-- Reads a value that opens no more than the given number of brackets inside each other. -/
  read : (levels : Nat) → List Char → Except Fault (α × List Char)
  write : α → List Char

namespace Codec

/-- Reads behind a bracket that the value must begin with, with one level less. -/
def behindBracket {α : Type} (bracket : Char)
    (inside : (levels : Nat) → List Char → Except Fault (α × List Char)) (levels : Nat)
    (s : List Char) : Except Fault (α × List Char) :=
  match s with
  | [] => .error .cutShort
  | c :: rest =>
    if c = bracket then
      match levels with
      | 0 => .error .malformed
      | levels + 1 => inside levels rest
    else .error (refuse (c :: rest))

/-! ## Values without parts -/

/-- A string. -/
def text : Codec String where
  read _ s := match s with
    | '"' :: rest => readText rest
    | s => .error (refuse s)
  write := writeText

/-- A truth value. -/
def flag : Codec Bool where
  read _ s := match s with
    | [] => .error .cutShort
    | c :: rest => if c = 't' || c = 'f' then readFlag (c :: rest) else .error (refuse (c :: rest))
  write b := if b then ['t', 'r', 'u', 'e'] else ['f', 'a', 'l', 's', 'e']

/-- A whole number of a range.  One that is written with a fraction or an exponent, and minus zero,
is no whole number. -/
def integer {α : Type} (ofInt? : Int → Option α) (toInt : α → Int) : Codec α where
  read _ s := match s with
    | [] => .error .cutShort
    | c :: rest =>
      if beginsNumber c then
        match readNumber (c :: rest) with
        | .error fault => .error fault
        | .ok (.double _, _) => .error .mismatch
        | .ok (.integer n, rest) =>
          match ofInt? n with
          | some x => .ok (x, rest)
          | none => .error .mismatch
      else .error (refuse (c :: rest))
  write x := Decimal.integer (toInt x)

/-- A signed number of 32 bits. -/
def int32 : Codec Int32 :=
  integer (fun n => if -0x80000000 ≤ n ∧ n < 0x80000000 then some (Int32.ofInt n) else none)
    Int32.toInt

/-- An unsigned number of 32 bits. -/
def uint32 : Codec UInt32 :=
  integer (fun n => if 0 ≤ n ∧ n < 0x100000000 then some (UInt32.ofNat n.toNat) else none)
    fun n => (n.toNat : Int)

/-! ## Values with parts -/

/-- A list, as an array. -/
def list {α : Type} (element : Codec α) : Codec (List α) where
  read := behindBracket '[' fun levels => readArray (element.read levels)
  write xs := writeArray (xs.map element.write)

/-- A value or `null`. -/
def optional {α : Type} (some? : Codec α) : Codec (Option α) where
  read levels s := match s with
    | 'n' :: rest => (readNull ('n' :: rest)).map (none, ·)
    | s => (some?.read levels s).map fun p => (some p.1, p.2)
  write
    | none => ['n', 'u', 'l', 'l']
    | some x => some?.write x

/-- Reads a member of an object and puts it to the others. -/
def member {α σ : Type} (value : Codec α) (put : σ → String → α → σ) (levels : Nat) (gathered : σ)
    (name : String) (behind : List Char) : Except Fault (σ × List Char) :=
  match skipColon behind with
  | .error fault => .error fault
  | .ok s => (value.read levels s).map fun p => (put gathered name p.1, p.2)

/-- A map in order of arrival, as an object. -/
def ordered {α : Type} (value : Codec α) : Codec (OrderedMap α) where
  read := behindBracket '\x7b' fun levels =>
    readObject (value.member OrderedMap.insert levels) OrderedMap.empty
  write m := writeObject (m.entries.map fun entry => writeMember entry.1 (value.write entry.2))

/-- A map in order of its names, as an object. -/
def sorted {α : Type} (value : Codec α) : Codec (SortedMap α) where
  read := behindBracket '\x7b' fun levels =>
    readObject (value.member SortedMap.insert levels) SortedMap.empty
  write m := writeObject (m.entries.map fun entry => writeMember entry.1 (value.write entry.2))

/-- Any value. -/
def value : Codec Value := ⟨Value.read, Value.write⟩

/-! ## Whole texts -/

/-- How many brackets a text may open inside each other. -/
def maxLevels : Nat := 127

/-- The value that a whole text holds. -/
def decode {α : Type} (codec : Codec α) (s : String) : Except Fault α :=
  parse? (codec.read maxLevels) s.toList

/-- The text of a value. -/
def encode {α : Type} (codec : Codec α) (x : α) : String := String.ofList (codec.write x)

end Codec

end SealedChunk.Json
