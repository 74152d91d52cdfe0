import SealedChunk.Text.Graphic

/-!
# Quoted text

Where a message names a token, a configuration value or a log level, it quotes it, so that blanks
and invisible characters can be told apart.  A quoted text stands between double quotes.  A quote
and a backslash get a backslash in front, NUL, tab, line feed and carriage return become `\0`, `\t`,
`\n` and `\r`, and any other character that does not show by itself becomes `\u{…}` with its code
point in lower-case hexadecimal.  Everything else, whatever its script, stands for itself.
-/

namespace SealedChunk.Text

/-- The lower-case hexadecimal digits of a number, without leading zeros. -/
def hexDigits (n : Nat) : List Char := Nat.toDigits 16 n

/-- How a character is written between the quotes. -/
def quotedChar (c : Char) : List Char :=
  if c = '\x00' then ['\\', '0']
  else if c = '\t' then ['\\', 't']
  else if c = '\r' then ['\\', 'r']
  else if c = '\n' then ['\\', 'n']
  else if c = '\\' then ['\\', '\\']
  else if c = '"' then ['\\', '"']
  else if isGraphic c then [c]
  else ['\\', 'u', '\x7b'] ++ hexDigits c.toNat ++ ['\x7d']

/-- A text between quotes. -/
def quoted (s : String) : String :=
  String.ofList ('"' :: s.toList.flatMap quotedChar ++ ['"'])

end SealedChunk.Text
