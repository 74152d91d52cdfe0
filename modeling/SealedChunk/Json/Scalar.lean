import SealedChunk.Json.Number
import SealedChunk.Json.Text

/-!
# Values without parts, and values of the wrong kind

`null`, the truth values, numbers and strings can be read one by one.  Whoever asks for one kind and
finds another gets a `Fault.mismatch`, but a reader never looks past the first problem: a value
without parts is read to its end first, and if it is malformed, or the text ends in it, that is the
fault.  An array or an object is refused at its opening bracket.

* `readNull`, `readFlag` — reading a word.
* **`refuse`** — what is wrong with a value of another kind than the one asked for.
-/

namespace SealedChunk.Json

/-- `null`. -/
def readNull (s : List Char) : Except Fault (List Char) := expectWord ['n', 'u', 'l', 'l'] s

/-- `true` or `false`, for a text that begins with the first letter of one of them. -/
def readFlag : List Char → Except Fault (Bool × List Char)
  | 't' :: rest => (expectWord ['r', 'u', 'e'] rest).map (true, ·)
  | 'f' :: rest => (expectWord ['a', 'l', 's', 'e'] rest).map (false, ·)
  | _ => .error .malformed

/-- Whether a character begins a number. -/
def beginsNumber (c : Char) : Bool := c = '-' || Decimal.isDigit c

/-- The fault of a reading that should not have succeeded. -/
def faultOr {α : Type} (outcome : Except Fault α) : Fault :=
  match outcome with
  | .error fault => fault
  | .ok _ => .mismatch

/-- What is wrong with a value that is not of the kind asked for. -/
def refuse : List Char → Fault
  | [] => .cutShort
  | c :: rest =>
    if c = '[' || c = '\x7b' then .mismatch
    else if c = '"' then faultOr (readText rest)
    else if c = 'n' then faultOr (readNull (c :: rest))
    else if c = 't' || c = 'f' then faultOr (readFlag (c :: rest))
    else if beginsNumber c then faultOr (readNumber (c :: rest))
    else .malformed

end SealedChunk.Json
