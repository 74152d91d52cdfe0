/-!
# What can be wrong with a JSON text

A reader goes through a text from left to right and stops at the first problem.  There are three
kinds of problem, and callers tell them apart: the text may end too early, it may be no JSON, or it
may be JSON of another shape than the one asked for.
-/

namespace SealedChunk.Json

/-- The first problem a reader met. -/
inductive Fault where
  /-- The text ends inside a value. -/
  | cutShort
  /-- Well formed so far, but not of the shape asked for. -/
  | mismatch
  /-- No JSON. -/
  | malformed
deriving DecidableEq, Repr

/-- Reads something from the front of a text and leaves the rest. -/
abbrev Reading (α : Type) := Except Fault (α × List Char)

/-- Whether a character may stand between the parts of a JSON text: space, tab, line feed and
carriage return, and no other white space. -/
def isJsonBlank (c : Char) : Bool := c = ' ' || c = '\t' || c = '\n' || c = '\r'

/-- The text after the blanks at its front. -/
def skipBlanks (s : List Char) : List Char := s.dropWhile isJsonBlank

/-- The text after a word that must stand at its front. -/
def expectWord : (word text : List Char) → Except Fault (List Char)
  | [], text => .ok text
  | _ :: _, [] => .error .cutShort
  | w :: word, c :: text => if c = w then expectWord word text else .error .malformed

end SealedChunk.Json
