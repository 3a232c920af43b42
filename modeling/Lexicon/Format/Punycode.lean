import Lexicon.Text.Ascii

/-!
# Lexicon.Format.Punycode

Labels of hosts that spell other characters with ASCII letters and digits.

A label begins with its ASCII characters, up to the last hyphen. What follows is
a sequence of integers of variable length. Each says how far to count to the next
character: counting goes through the places of the text with one character after
the other, starting at the first place with U+0080.

## Main definitions

- `Progress.step` — one digit more
- `decode?` — the text that a label spells
-/

namespace Lexicon

namespace Format

namespace Punycode

/-- How many digits there are. -/
def base : Nat := 36

/-- The integers must fit into 32 bits. -/
def maxInteger : Nat := UInt32.size - 1

/-- The value of a digit: letters first, in either case. -/
def digitValue? (c : Char) : Option Nat :=
  if Text.isAsciiDigit c then some (c.toNat - '0'.toNat + 26)
  else if Text.isAsciiLetter c then some ((Text.asciiLower c).toNat - 'a'.toNat)
  else none

/-- The digit at which an integer ends is below the threshold. -/
def threshold (position bias : Nat) : Nat := max 1 (min 26 (position - bias))

/-- Divides a distance until it is small, and counts in `bias` how often that is needed. -/
def shrink (distance bias : Nat) : Nat :=
  if 455 < distance then shrink (distance / 35) (bias + base)
  else bias + base * distance / (distance + 38)
termination_by distance
decreasing_by exact Nat.div_lt_self (by omega) (by omega)

/-- The bias for the next integer, from the last one and the length of the text. -/
def adapt (distance length : Nat) (isFirst : Bool) : Nat :=
  let damped := if isFirst then distance / 700 else distance / 2
  shrink (damped + damped / length) 0

/-- The state between two digits. -/
structure Progress where
  /-- The text so far. -/
  text : List Char
  /-- The code point that is being counted with. -/
  code : Nat
  /-- How far counting has come. -/
  index : Nat
  bias : Nat
  /-- The value of `index` at the start of the integer that is being read. -/
  started : Nat
  /-- What the next digit counts. -/
  weight : Nat
  /-- The place of the next digit in its integer, as a multiple of the base. -/
  position : Nat

namespace Progress

/-- Before the first integer. -/
def start (ascii : List Char) : Progress :=
  { text := ascii, code := 0x80, index := 0, bias := 72, started := 0, weight := 1
    position := base }

/-- Whether no integer is being read. -/
def isBetween (p : Progress) : Bool := p.position == base

/-- Puts in the character that counting has come to; there is none if it is no character. -/
def insert? (p : Progress) : Option Progress :=
  let length := p.text.length + 1
  -- Counting goes through all places of the text, then on to the next code point.
  let code := p.code + p.index / length
  let place := p.index % length
  if code.isValidChar then
    some
      { text := p.text.insertIdx place (Char.ofNat code)
        code
        index := place + 1
        bias := adapt (p.index - p.started) length (p.started == 0)
        started := place + 1
        weight := 1
        position := base }
  else none

/-- Reads a digit. -/
def step (p : Progress) (c : Char) : Option Progress := do
  let digit ← digitValue? c
  let index := p.index + digit * p.weight
  let limit := threshold p.position p.bias
  if maxInteger < index then none
  else if digit < limit then insert? { p with index }
  else if maxInteger < p.weight * (base - limit) then none
  else
    some { p with index, weight := p.weight * (base - limit), position := p.position + base }

end Progress

/-- Divides a label at its last hyphen, unless it begins with that one. -/
def divide (label : List Char) : List Char × List Char :=
  let reversed := label.reverse
  match reversed.dropWhile (· != '-') with
  | [] | [_] => ([], label)
  | _ :: ascii => (ascii.reverse, (reversed.takeWhile (· != '-')).reverse)

/-- The text that a label spells. -/
def decode? (label : List Char) : Option (List Char) := do
  let (ascii, digits) := divide label
  let done ← digits.foldlM Progress.step (.start ascii)
  if done.isBetween then some done.text else none

end Punycode

end Format

end Lexicon
