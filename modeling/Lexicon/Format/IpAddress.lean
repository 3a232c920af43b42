import Lexicon.Text.Ascii
import Lexicon.Text.Split

/-!
# Lexicon.Format.IpAddress

The addresses that stand for hosts.

An address of version 4 has up to four numbers, decimal, octal or hexadecimal;
the last one fills all the bytes that are left. An address of version 6 has eight
groups of hexadecimal digits; `::` stands for groups of zeros, and the last two
may be an address of version 4 in decimal.

## Main definitions

- `endsInNumber` — whether a name must be an address of version 4
- `isVersion4` and `isVersion6` — what an address is
-/

namespace Lexicon

namespace Format

namespace IpAddress

/-! ### Version 4 -/

/-- The number that digits of a base spell. -/
def numberOf? (base : Nat) (isDigit : Char → Bool) (digits : List Char) : Option Nat :=
  if digits.all isDigit then some (digits.foldl (fun n c => n * base + Text.hexDigitValue c) 0)
  else none

/-- Reads a number: hexadecimal behind `0x`, octal behind `0`, decimal otherwise. -/
def number? : List Char → Option Nat
  | [] => none
  | '0' :: 'x' :: digits | '0' :: 'X' :: digits => numberOf? 16 Text.isHexDigit digits
  | '0' :: d :: digits => numberOf? 8 (fun c => '0' ≤ c && c ≤ '7') (d :: digits)
  | digits => numberOf? 10 Text.isAsciiDigit digits

/-- The labels without an empty one at the end. -/
def significant (labels : List (List Char)) : List (List Char) :=
  if labels.getLast? == some [] then labels.dropLast else labels

/-- Whether the last label of a name is a number. -/
def endsInNumber (labels : List (List Char)) : Bool :=
  match (significant labels).getLast? with
  | none => false
  | some last => (!last.isEmpty && last.all Text.isAsciiDigit) || (number? last).isSome

/-- Whether the labels of a name are an address of version 4. -/
def isVersion4 (labels : List (List Char)) : Bool :=
  match (significant labels).mapM number? with
  | none => false
  | some numbers =>
    match numbers.reverse with
    | [] => false
    | last :: earlier =>
      earlier.length ≤ 3 && last < Nat.pow 256 (4 - earlier.length) && earlier.all (· < 256)

/-! ### Version 6 -/

/-- How many groups an address of version 6 has. -/
def groupCount : Nat := 8

/-- A byte in decimal without a zero in front. -/
def isDecimalByte (digits : List Char) : Bool :=
  match digits with
  | [] => false
  | '0' :: _ :: _ => false
  | _ =>
    digits.length ≤ 3 && (numberOf? 10 Text.isAsciiDigit digits).any (· < 256)

/-- How many groups a piece between colons stands for; an address of version 4 at the end stands
for two. -/
def groupsOf? (piece : List Char) (isLast : Bool) : Option Nat :=
  if 1 ≤ piece.length && piece.length ≤ 4 && piece.all Text.isHexDigit then some 1
  else if isLast then
    let bytes := piece.splitOn '.'
    if bytes.length == 4 && bytes.all isDecimalByte then some 2 else none
  else none

/-- How many groups a sequence of pieces stands for. `isEnd` says that the address ends with it. -/
def countGroups? (isEnd : Bool) : List (List Char) → Option Nat
  | [] => some 0
  | piece :: rest => do
    let groups ← groupsOf? piece (isEnd && rest.isEmpty)
    let others ← countGroups? isEnd rest
    some (groups + others)

/-- The pieces between colons; a text without any characters has none. -/
def pieces (text : List Char) : List (List Char) :=
  if text.isEmpty then [] else text.splitOn ':'

/-- Divides a text at the first `::`. -/
def divideAtGap : List Char → List Char × Option (List Char)
  | [] => ([], none)
  | ':' :: ':' :: rest => ([], some rest)
  | c :: rest =>
    let (before, after) := divideAtGap rest
    (c :: before, after)

/-- Whether a text is an address of version 6. A gap may stand for no group at all if the address
is short of none. -/
def isVersion6 (text : List Char) : Bool :=
  match divideAtGap text with
  | (whole, none) => countGroups? true (pieces whole) == some groupCount
  | (before, some after) =>
    match countGroups? false (pieces before), countGroups? true (pieces after) with
    | some m, some n => m + n < groupCount
    | _, _ => false

end IpAddress

end Format

end Lexicon
