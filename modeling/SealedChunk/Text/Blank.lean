/-!
# White space

Signatures, key material and configuration values may be surrounded by white space, which is
removed before they are read.  White space means the Unicode property of that name: 25 characters
in ten ranges.  Characters that merely look empty — the zero width space U+200B, the byte order
mark U+FEFF, the Mongolian vowel separator U+180E, the separators U+001C to U+001F — do not have
the property and stay.
-/

namespace SealedChunk.Text

/-- The characters with the property White_Space, as closed ranges of code points. -/
def blankRanges : List (Nat × Nat) :=
  [(0x09, 0x0D), (0x20, 0x20), (0x85, 0x85), (0xA0, 0xA0), (0x1680, 0x1680), (0x2000, 0x200A),
   (0x2028, 0x2029), (0x202F, 0x202F), (0x205F, 0x205F), (0x3000, 0x3000)]

/-- Whether a character is white space. -/
def isBlank (c : Char) : Bool :=
  blankRanges.any fun range => range.1 ≤ c.toNat && c.toNat ≤ range.2

/-- The characters left when the blanks at both ends are taken away. -/
def trimChars (s : List Char) : List Char :=
  ((s.dropWhile isBlank).reverse.dropWhile isBlank).reverse

/-- A text without the white space around it. -/
def trim (s : String) : String := String.ofList (trimChars s.toList)

/-- Whether nothing is left of a text once it is trimmed. -/
def isBlankText (s : String) : Bool := s.toList.all isBlank

end SealedChunk.Text
