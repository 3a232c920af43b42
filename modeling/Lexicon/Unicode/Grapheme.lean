import Lexicon.Unicode.GraphemeBreak

/-!
# Lexicon.Unicode.Grapheme

Extended grapheme clusters, the characters that a reader perceives.

The text is walked once. What is known of the text so far (`Cluster`) decides
with the next character whether a new cluster starts.
-/

namespace Lexicon

namespace Unicode

/-- How far a conjunct has come. -/
inductive Conjunct where
  /-- No consonant is waiting. -/
  | absent
  /-- A consonant has been seen, and no linker after it. -/
  | begun
  /-- A consonant and a linker after it have been seen. -/
  | linked
deriving DecidableEq, Repr

/-- What the next boundary depends on. -/
structure Cluster where
  /-- The class of the last character; nothing at the start of the text. -/
  last : Option GraphemeBreak
  /-- The text ends in a pictograph and extenders. -/
  pictograph : Bool
  /-- The text ends in a pictograph, extenders and a joiner. -/
  joinedPictograph : Bool
  /-- The text ends in an odd number of regional indicators. -/
  oddRegional : Bool
  conjunct : Conjunct

namespace Cluster

/-- The start of a text. -/
def start : Cluster :=
  { last := none, pictograph := false, joinedPictograph := false, oddRegional := false,
    conjunct := .absent }

/-- Whether the class ends a cluster on both of its sides. -/
def standsAlone : GraphemeBreak → Bool
  | .carriageReturn | .lineFeed | .control => true
  | _ => false

/-- Whether two neighbours stay together because of their classes alone. -/
def joins : GraphemeBreak → GraphemeBreak → Bool
  | .leading, .leading | .leading, .vowel | .leading, .openSyllable
  | .leading, .closedSyllable => true
  | .openSyllable, .vowel | .openSyllable, .trailing | .vowel, .vowel | .vowel, .trailing => true
  | .closedSyllable, .trailing | .trailing, .trailing => true
  | _, .extend | _, .joiner | _, .spacingMark => true
  | .prepend, _ => true
  | _, _ => false

/-- Whether a new cluster starts at the character. -/
def breaksBefore (s : Cluster) (c : Char) : Bool :=
  match s.last with
  | none => true
  | some last =>
    let next := graphemeBreak c
    if last = .carriageReturn && next = .lineFeed then false
    else if standsAlone last || standsAlone next then true
    else if joins last next then false
    else if s.conjunct = .linked && conjunctBreak c = .consonant then false
    else if s.joinedPictograph && next = .pictographic then false
    else if s.oddRegional && next = .regional then false
    else true

/-- What is known after the character. -/
def next (s : Cluster) (c : Char) : Cluster :=
  let kind := graphemeBreak c
  { last := some kind
    pictograph := kind = .pictographic || (s.pictograph && kind = .extend)
    joinedPictograph := s.pictograph && kind = .joiner
    oddRegional := kind = .regional && !s.oddRegional
    conjunct :=
      match conjunctBreak c with
      | .consonant => .begun
      | .linker => if s.conjunct = .absent then .absent else .linked
      | .extend => s.conjunct
      | .none => .absent }

/-- The number of clusters that start in the text. -/
def count (s : Cluster) : List Char → Nat
  | [] => 0
  | c :: rest => (if s.breaksBefore c then 1 else 0) + count (s.next c) rest

end Cluster

/-- The number of grapheme clusters of a text. -/
def graphemeCount (text : String) : Nat := Cluster.start.count text.toList

end Unicode

end Lexicon
