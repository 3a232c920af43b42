import Lexicon.Entries
import Lexicon.Json.Basic

/-!
# Lexicon.Json.Parser

Reading JSON text.

The text is read strictly: one value with nothing but blanks around it, at
most `maxDepth` nested arrays and objects, no lone surrogates, no control
characters inside strings, and no number beyond the range of a double. The
members of an object form an ordered dictionary, so a repeated key keeps its
first place and its last value.
-/

namespace Lexicon

namespace Json

/-- The deepest nesting of arrays and objects that is read. -/
def maxDepth : Nat := 127

/-- The blanks of JSON. -/
def isBlank (c : Char) : Bool := c == ' ' || c == '\t' || c == '\n' || c == '\r'

/-- The text after leading blanks. -/
def skipBlanks (s : List Char) : List Char := s.dropWhile isBlank

/-- The value of a decimal digit. -/
def digitValue (c : Char) : Nat := c.toNat - '0'.toNat

/-- The value of a hexadecimal digit. -/
def hexValue? (c : Char) : Option Nat :=
  if c.isDigit then some (c.toNat - '0'.toNat)
  else if 'a' ≤ c ∧ c ≤ 'f' then some (c.toNat - 'a'.toNat + 10)
  else if 'A' ≤ c ∧ c ≤ 'F' then some (c.toNat - 'A'.toNat + 10)
  else none

/-! ### Strings -/

/-- Four hexadecimal digits. -/
def readHex4 : List Char → Option (Nat × List Char)
  | a :: b :: c :: d :: rest => do
    let a ← hexValue? a
    let b ← hexValue? b
    let c ← hexValue? c
    let d ← hexValue? d
    some (((a * 16 + b) * 16 + c) * 16 + d, rest)
  | _ => none

/-- The character of a `\u` escape, behind the `u`. A high surrogate needs a low one after it. -/
def readUnicodeEscape (s : List Char) : Option (Char × List Char) := do
  let (unit, rest) ← readHex4 s
  if 0xD800 ≤ unit ∧ unit < 0xDC00 then
    match rest with
    -- Ten bits of the character are in each of the two surrogates.
    | '\\' :: 'u' :: rest =>
      let (low, rest) ← readHex4 rest
      if 0xDC00 ≤ low ∧ low < 0xE000 then
        some (Char.ofNat (0x10000 + (unit - 0xD800) * 0x400 + (low - 0xDC00)), rest)
      else none
    | _ => none
  else if 0xDC00 ≤ unit ∧ unit < 0xE000 then none
  else some (Char.ofNat unit, rest)

/-- The character of an escape, behind the backslash. -/
def readEscape : List Char → Option (Char × List Char)
  | '"' :: rest => some ('"', rest)
  | '\\' :: rest => some ('\\', rest)
  | '/' :: rest => some ('/', rest)
  | 'b' :: rest => some ('\x08', rest)
  | 'f' :: rest => some ('\x0c', rest)
  | 'n' :: rest => some ('\n', rest)
  | 'r' :: rest => some ('\r', rest)
  | 't' :: rest => some ('\t', rest)
  | 'u' :: rest => readUnicodeEscape rest
  | _ => none

/-- The characters of a string up to its closing quote. Each step takes at least one character,
so the length of the text is fuel enough. -/
def readStringBody : Nat → List Char → List Char → Option (String × List Char)
  | 0, _, _ => none
  | _ + 1, _, [] => none
  | fuel + 1, done, c :: rest =>
    if c = '"' then some (String.ofList done.reverse, rest)
    else if c = '\\' then
      match readEscape rest with
      | some (c, rest) => readStringBody fuel (c :: done) rest
      | none => none
    else if c.toNat < 0x20 then none
    else readStringBody fuel (c :: done) rest

/-- A string, behind its opening quote. -/
def readString (s : List Char) : Option (String × List Char) := readStringBody (s.length + 1) [] s

/-! ### Numbers -/

/-- The digits of a number as far as they fit an unsigned 64-bit word, and the count of the
digits that were left out. -/
def takeDigits (start : Nat) (digits : List Char) : Nat × Nat :=
  match digits with
  | [] => (start, 0)
  | c :: rest =>
    let next := start * 10 + digitValue c
    if next < UInt64.size then takeDigits next rest else (start, rest.length + 1)

/-- The exponent of a number, behind the `e`. It is bounded, since beyond `2 ^ 31` no digits
matter any more. -/
def readExponent (s : List Char) : Option (Int × List Char) := do
  let (negative, s) := match s with
    | '+' :: rest => (false, rest)
    | '-' :: rest => (true, rest)
    | rest => (false, rest)
  let digits := s.takeWhile Char.isDigit
  if digits.isEmpty then none
  else
    let magnitude := digits.foldl (fun n c => min (n * 10 + digitValue c) (Nat.pow 2 31)) 0
    some (if negative then -(magnitude : Int) else magnitude, s.dropWhile Char.isDigit)

/-- The decimal places behind the point, when there is a point. -/
def readFraction (s : List Char) : Option (Option (List Char) × List Char) :=
  match s with
  | '.' :: rest =>
    let places := rest.takeWhile Char.isDigit
    if places.isEmpty then none else some (some places, rest.dropWhile Char.isDigit)
  | _ => some (none, s)

/-- The exponent, when there is one. -/
def readPower (s : List Char) : Option (Option Int × List Char) :=
  match s with
  | 'e' :: rest | 'E' :: rest => (readExponent rest).map fun (power, rest) => (some power, rest)
  | _ => some (none, s)

/-- The integer of a sign and a magnitude, when a signed or unsigned 64-bit word holds it. Minus
zero is no integer. -/
def signedInteger? (negative : Bool) (magnitude : Nat) : Option Int :=
  if negative then
    if magnitude != 0 && decide (magnitude ≤ Nat.pow 2 63) then some (-(magnitude : Int))
    else none
  else some magnitude

/-- A number, behind its sign. -/
def readMagnitude (negative : Bool) (s : List Char) : Option (Json × List Char) := do
  let digits := s.takeWhile Char.isDigit
  if digits.isEmpty || (digits.head? == some '0' && 1 < digits.length) then none
  let (whole, omitted) := takeDigits 0 digits
  let (fraction, rest) ← readFraction (s.dropWhile Char.isDigit)
  let (power, rest) ← readPower rest
  -- All that is not spelled as an integer of 64 bits is read as a double.
  let integer :=
    if fraction.isNone && power.isNone && omitted == 0 then signedInteger? negative whole
    else none
  match integer with
  | some n => some (int n, rest)
  | none =>
    let places := fraction.getD []
    -- Digits of the whole part that were left out only shift the point.
    let (significand, dropped) := takeDigits whole places
    let shift : Int := omitted - (places.length - dropped : Nat) + power.getD 0
    let x ← Binary64.ofDigits? negative significand shift
    some (real x, rest)

/-- A number. -/
def readNumber : List Char → Option (Json × List Char)
  | '-' :: rest => readMagnitude true rest
  | s => readMagnitude false s

/-! ### Values -/

/-- Takes the given word off the front of the text. -/
def readWord (word : List Char) (value : Json) (s : List Char) : Option (Json × List Char) :=
  if word.isPrefixOf s then some (value, s.drop word.length) else none

/-- The elements of an array up to its closing bracket, behind a first blank-free position. -/
def readElements (readValue : List Char → Option (Json × List Char)) :
    Nat → List Json → List Char → Option (Json × List Char)
  | 0, _, _ => none
  | fuel + 1, done, s =>
    match readValue (skipBlanks s) with
    | none => none
    | some (value, rest) =>
      match skipBlanks rest with
      | ',' :: rest => readElements readValue fuel (value :: done) rest
      | ']' :: rest => some (arr (value :: done).reverse, rest)
      | _ => none

/-- The members of an object up to its closing brace. -/
def readMembers (readValue : List Char → Option (Json × List Char)) :
    Nat → List (String × Json) → List Char → Option (Json × List Char)
  | 0, _, _ => none
  | fuel + 1, done, s =>
    match skipBlanks s with
    | '"' :: s =>
      match readString s with
      | none => none
      | some (key, rest) =>
        match skipBlanks rest with
        | ':' :: rest =>
          match readValue (skipBlanks rest) with
          | none => none
          | some (value, rest) =>
            match skipBlanks rest with
            | ',' :: rest => readMembers readValue fuel ((key, value) :: done) rest
            | '\x7d' :: rest =>
              some (obj (Entries.ofPairs ((key, value) :: done).reverse), rest)
            | _ => none
        | _ => none
    | _ => none

/-- A value with at most `depth` nested arrays and objects. The text starts with no blank. -/
def readValue (depth : Nat) (s : List Char) : Option (Json × List Char) :=
  match s with
  | 'n' :: _ => readWord ['n', 'u', 'l', 'l'] null s
  | 't' :: _ => readWord ['t', 'r', 'u', 'e'] (bool true) s
  | 'f' :: _ => readWord ['f', 'a', 'l', 's', 'e'] (bool false) s
  | '"' :: rest => (readString rest).map fun (value, rest) => (str value, rest)
  | '[' :: rest =>
    match depth with
    | 0 => none
    | depth + 1 =>
      match skipBlanks rest with
      | ']' :: rest => some (arr [], rest)
      | rest => readElements (readValue depth) (rest.length + 1) [] rest
  | '\x7b' :: rest =>
    match depth with
    | 0 => none
    | depth + 1 =>
      match skipBlanks rest with
      | '\x7d' :: rest => some (obj [], rest)
      | rest => readMembers (readValue depth) (rest.length + 1) [] rest
  | _ => readNumber s

/-- The value that a text spells, if it spells one. -/
def parse? (text : String) : Option Json :=
  match readValue maxDepth (skipBlanks text.toList) with
  | some (value, rest) => if (skipBlanks rest).isEmpty then some value else none
  | none => none

end Json

end Lexicon
