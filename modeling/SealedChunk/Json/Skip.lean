import SealedChunk.Json.Scalar

/-!
# Skipping a value

The value of a field that nobody asked for is skipped.  It has to be JSON, but nothing is kept of
it, so some checks fall away: surrogates need no partner, numbers may exceed the doubles, and
nesting has no limit.  The brackets that are still open are kept on a stack, so skipping needs no
room beyond that.

* `skipScalar` — skips a value without parts.
* `skipValue` — skips any value.
-/

namespace SealedChunk.Json

/-- A kind of bracket that is still open. -/
inductive Bracket where
  | square
  | curly
deriving DecidableEq, Repr

/-- The character that closes a bracket. -/
def Bracket.close : Bracket → Char
  | .square => ']'
  | .curly => '\x7d'

/-- Skips a value without parts.  A number that ends too early is malformed here. -/
def skipScalar : List Char → Except Fault (List Char)
  | [] => .error .cutShort
  | c :: rest =>
    if c = '"' then skipBody rest
    else if c = 'n' then readNull (c :: rest)
    else if c = 't' || c = 'f' then (readFlag (c :: rest)).map Prod.snd
    else if beginsNumber c then
      match readNumeral (c :: rest) with
      | .ok (_, rest) => .ok rest
      | .error _ => .error .malformed
    else .error .malformed

/-- Skips a name and the colon behind it. -/
def skipName (s : List Char) : Except Fault (List Char) :=
  match skipBlanks s with
  | [] => .error .cutShort
  | c :: rest =>
    if c = '"' then
      match skipBody rest with
      | .error fault => .error fault
      | .ok rest =>
        match skipBlanks rest with
        | [] => .error .cutShort
        | ':' :: rest => .ok rest
        | _ => .error .malformed
    else .error .malformed

/-- What has to be skipped next. -/
inductive Awaiting where
  /-- A value. -/
  | value
  /-- The first part of the innermost bracket, or its end. -/
  | firstPart
  /-- Another part of the innermost bracket, or its end. -/
  | nextPart

/-- Skips what is awaited and then everything up to the end of the outermost of the open brackets,
innermost first.  Every step takes up a character or brings the end nearer, so twice the length of
the text, and some, is fuel enough. -/
def skipOpen : (fuel : Nat) → Awaiting → List Bracket → List Char → Except Fault (List Char)
  | 0, _, _, _ => .error .malformed
  | fuel + 1, .value, enclosing, s =>
    match skipBlanks s with
    | '[' :: rest => skipOpen fuel .firstPart (.square :: enclosing) rest
    | '\x7b' :: rest => skipOpen fuel .firstPart (.curly :: enclosing) rest
    | s =>
      match skipScalar s with
      | .error fault => .error fault
      | .ok rest => skipOpen fuel .nextPart enclosing rest
  | _ + 1, _, [], s => .ok s
  | fuel + 1, awaiting, bracket :: enclosing, s =>
    match skipBlanks s with
    | [] => .error .cutShort
    | c :: rest =>
      if c = bracket.close then skipOpen fuel .nextPart enclosing rest
      else
        match awaiting, c with
        | .firstPart, _ => skipPart fuel bracket enclosing (c :: rest)
        | _, ',' => skipPart fuel bracket enclosing rest
        | _, _ => .error .malformed
where
  /-- Skips an element, or a name with its value. -/
  skipPart (fuel : Nat) (bracket : Bracket) (enclosing : List Bracket) (s : List Char) :
      Except Fault (List Char) :=
    match bracket with
    | .square => skipOpen fuel .value (.square :: enclosing) s
    | .curly =>
      match skipName s with
      | .error fault => .error fault
      | .ok rest => skipOpen fuel .value (.curly :: enclosing) rest

/-- Skips one value at the front of a text. -/
def skipValue (s : List Char) : Except Fault (List Char) :=
  skipOpen (2 * s.length + 2) .value [] s

end SealedChunk.Json
