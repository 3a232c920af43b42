/-!
# Lexicon.Text.Ascii

The ASCII character classes and case maps.
-/

namespace Lexicon

namespace Text

/-- An ASCII letter in lower case. -/
def isAsciiLower (c : Char) : Bool := 'a' ≤ c && c ≤ 'z'

/-- An ASCII letter in upper case. -/
def isAsciiUpper (c : Char) : Bool := 'A' ≤ c && c ≤ 'Z'

/-- An ASCII letter. -/
def isAsciiLetter (c : Char) : Bool := isAsciiLower c || isAsciiUpper c

/-- An ASCII digit. -/
def isAsciiDigit (c : Char) : Bool := '0' ≤ c && c ≤ '9'

/-- An ASCII letter or digit. -/
def isAsciiAlphanumeric (c : Char) : Bool := isAsciiLetter c || isAsciiDigit c

/-- A hexadecimal digit. -/
def isHexDigit (c : Char) : Bool := isAsciiDigit c || ('a' ≤ c && c ≤ 'f') || ('A' ≤ c && c ≤ 'F')

/-- The value of a hexadecimal digit. -/
def hexDigitValue (c : Char) : Nat :=
  if c ≤ '9' then c.toNat - '0'.toNat
  else if c ≤ 'F' then c.toNat - 'A'.toNat + 10
  else c.toNat - 'a'.toNat + 10

/-- Lower-cases an ASCII letter and keeps every other character. -/
def asciiLower (c : Char) : Char :=
  if isAsciiUpper c then Char.ofNat (c.toNat + 32) else c

/-- Upper-cases an ASCII letter and keeps every other character. -/
def asciiUpper (c : Char) : Char :=
  if isAsciiLower c then Char.ofNat (c.toNat - 32) else c

/-- Lower-cases the ASCII letters of a text. -/
def asciiLowercase (s : String) : String := String.ofList (s.toList.map asciiLower)

/-- Whether two texts differ in the case of ASCII letters only. -/
def equalIgnoringAsciiCase (s t : String) : Bool := asciiLowercase s == asciiLowercase t

end Text

end Lexicon
