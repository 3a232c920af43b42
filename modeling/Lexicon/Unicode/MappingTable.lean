import Lexicon.Unicode.RangeSet

/-!
# Lexicon.Unicode.MappingTable

Tables that map a character to several.

A table is written as text with blanks between its runs. In `41-5a=61` a range
maps to the range that begins at `61`, in `100-12e/2=101` every second character
of a range is mapped, and `132=69.6a,6b` gives the images of successive
characters one by one.
-/

namespace Lexicon

namespace Unicode

/-- A run of characters with their images. -/
inductive MappingRun where
  /-- Every `stride`-th character of a range, mapped to the one as far from `image` as it is from
  `first`. -/
  | shifted (first last stride image : Nat)
  /-- Successive characters, each with its image. -/
  | listed (first : Nat) (images : List (List Char))

namespace MappingRun

/-- Reads one run. -/
def ofText (text : String) : MappingRun :=
  let (source, target) := Text.cutAt '=' text
  let target := target.getD ""
  let (range, stride) := Text.cutAt '/' source
  let (first, last) := RangeSet.rangeOfText range
  if range.contains '-' then
    shifted first last (if stride.isSome then 2 else 1) (RangeSet.hexOfText target)
  else
    listed first ((Text.splitOn ',' target).map fun image =>
      (Text.splitOn '.' image).map fun code => Char.ofNat (RangeSet.hexOfText code))

/-- The image of a character of the run. -/
def image? (run : MappingRun) (c : Char) : Option (List Char) :=
  match run with
  | shifted first last stride image =>
    if first ≤ c.toNat && c.toNat ≤ last && (c.toNat - first) % stride == 0 then
      some [Char.ofNat (image + (c.toNat - first))]
    else none
  | listed first images => if first ≤ c.toNat then images[c.toNat - first]? else none

/-- The character that a run of images lists with the given image. -/
def preimage? (run : MappingRun) (image : List Char) : Option Char :=
  match run with
  | shifted .. => none
  | listed first images =>
    (images.findIdx? (· == image)).map fun index => Char.ofNat (first + index)

end MappingRun

/-- A table of characters and their images. -/
structure MappingTable where
  runs : List MappingRun

namespace MappingTable

/-- Reads a table from lines of runs with blanks between them. -/
def ofLines (lines : List String) : MappingTable :=
  { runs := lines.flatMap fun line => (Text.splitOn ' ' line).map MappingRun.ofText }

/-- The image of a character that the table maps. -/
def image? (table : MappingTable) (c : Char) : Option (List Char) :=
  table.runs.findSome? (·.image? c)

/-- The character that the table lists with the given image. -/
def preimage? (table : MappingTable) (image : List Char) : Option Char :=
  table.runs.findSome? (·.preimage? image)

end MappingTable

end Unicode

end Lexicon
