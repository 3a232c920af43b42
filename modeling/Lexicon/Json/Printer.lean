import Lexicon.Json.Basic
import Lexicon.Number.Shortest

/-!
# Lexicon.Json.Printer

The compact text of a JSON value: members in order, no spaces, and escapes
only where the grammar needs them.
-/

namespace Lexicon

namespace Json

/-- One lower-case hexadecimal digit. -/
def hexDigit (n : Nat) : Char := "0123456789abcdef".toList.getD n '0'

/-- The characters that one character of a string is written as. -/
def escapeChar (c : Char) : List Char :=
  if c = '"' then ['\\', '"']
  else if c = '\\' then ['\\', '\\']
  else if c = '\x08' then ['\\', 'b']
  else if c = '\x0c' then ['\\', 'f']
  else if c = '\n' then ['\\', 'n']
  else if c = '\r' then ['\\', 'r']
  else if c = '\t' then ['\\', 't']
  else if c.toNat < 0x20 then
    ['\\', 'u', '0', '0', hexDigit (c.toNat / 16), hexDigit (c.toNat % 16)]
  else [c]

/-- A string between quotes. -/
def quote (s : String) : String :=
  "\"" ++ String.ofList (s.toList.flatMap escapeChar) ++ "\""

mutual

/-- The compact text of a value. -/
def text : Json → String
  | null => "null"
  | bool true => "true"
  | bool false => "false"
  | int n => toString n
  | real x => x.text
  | str s => quote s
  | arr elements => "[" ++ String.intercalate "," (textElements elements) ++ "]"
  | obj members => "\x7b" ++ String.intercalate "," (textMembers members) ++ "\x7d"

/-- The texts of the elements of an array. -/
def textElements : List Json → List String
  | [] => []
  | value :: rest => text value :: textElements rest

/-- The texts of the members of an object, `key:value`. -/
def textMembers : List (String × Json) → List String
  | [] => []
  | (key, value) :: rest => (quote key ++ ":" ++ text value) :: textMembers rest

end

end Json

end Lexicon
