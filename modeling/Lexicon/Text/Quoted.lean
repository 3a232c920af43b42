import Lexicon.Unicode.Properties

/-!
# Lexicon.Text.Quoted

Text between double quotes.

Quotes, backslashes and the common control characters are escaped; every other
character that does not print by itself is shown by its number in braces.
-/

namespace Lexicon

namespace Text

/-- The lower-case hexadecimal digits of a number. -/
def hexDigits (n : Nat) : List Char := Nat.toDigits 16 n

/-- The characters that one character of quoted text is written as. -/
def quotedChar (c : Char) : List Char :=
  if c = '"' then ['\\', '"']
  else if c = '\\' then ['\\', '\\']
  else if c = '\n' then ['\\', 'n']
  else if c = '\r' then ['\\', 'r']
  else if c = '\t' then ['\\', 't']
  else if c = '\x00' then ['\\', '0']
  else if 0x20 ≤ c.toNat && c.toNat < 0x7f then [c]
  else if Unicode.isUnprintable c then ['\\', 'u', '\x7b'] ++ hexDigits c.toNat ++ ['\x7d']
  else [c]

/-- The text between quotes. -/
def quoted (s : String) : String := "\"" ++ String.ofList (s.toList.flatMap quotedChar) ++ "\""

/-- A list of texts in brackets. -/
def bracketed (items : List String) : String := "[" ++ String.intercalate ", " items ++ "]"

/-- A list of quoted texts in brackets. -/
def quotedList (items : List String) : String := bracketed (items.map quoted)

end Text

end Lexicon
