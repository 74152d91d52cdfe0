import SealedChunk.Text.Cut

/-!
# Base64 without its padding

An envelope carries its ciphertext as Base64 without the `=` at the end, since the length alone
tells how many are missing: as many as it takes to a multiple of four bytes.

* `stripPadding` — takes the `=` at the end away.
* `restorePadding` — puts the missing ones back.
-/

namespace SealedChunk.Envelope

/-- The text without the `=` at its end. -/
def stripPadding (s : List Char) : List Char := (s.reverse.dropWhile (· = '=')).reverse

/-- The text with as many `=` behind it as it lacks to a multiple of four bytes. -/
def restorePadding (s : List Char) : List Char :=
  s ++ List.replicate ((4 - Text.utf8Length s % 4) % 4) '='

end SealedChunk.Envelope
