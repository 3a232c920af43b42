import Lexicon.Text.Ascii
import Lexicon.Text.Split

/-!
# Lexicon.Unicode.RangeSet

Sets of characters as lists of code-point ranges.

Properties of Unicode are written as text, one range after the other in
hexadecimal: `41-5a` for a range and `aa` for a single code point.
-/

namespace Lexicon

namespace Unicode

/-- A set of characters: the ranges include both ends. -/
structure RangeSet where
  ranges : List (Nat × Nat)

namespace RangeSet

/-- Reads a hexadecimal number. -/
def hexOfText (text : String) : Nat :=
  text.toList.foldl (fun n c => n * 16 + Text.hexDigitValue c) 0

/-- Reads a range, or a single code point as a range of one. -/
def rangeOfText (text : String) : Nat × Nat :=
  match Text.cutAt '-' text with
  | (first, some last) => (hexOfText first, hexOfText last)
  | (first, none) => (hexOfText first, hexOfText first)

/-- Reads a set from lines of ranges with blanks between them. -/
def ofLines (lines : List String) : RangeSet :=
  { ranges := lines.flatMap fun line => (Text.splitOn ' ' line).map rangeOfText }

/-- Whether the character is in the set. -/
def has (set : RangeSet) (c : Char) : Bool :=
  set.ranges.any fun (first, last) => first ≤ c.toNat && c.toNat ≤ last

end RangeSet

end Unicode

end Lexicon
