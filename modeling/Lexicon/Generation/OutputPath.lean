import Lexicon.Text.Split

/-!
# Lexicon.Generation.OutputPath

Paths of generated files.

A path is taken apart at its slashes. Empty parts and dots do not count, but a
dot at the very start does. Paths are told apart and put in order by their
parts, whatever their spelling.

## Main definitions

- `OutputPath.parts`, `OutputPath.spell`: from text to parts and back.
- `OutputPath.isContained`: whether a path stays below the directory that it
  is taken from.
-/

namespace Lexicon

namespace OutputPath

/-- A part of a path. -/
inductive Part where
  /-- The slash at the start of an absolute path. -/
  | root
  /-- The directory at hand. -/
  | current
  /-- The directory above. -/
  | parent
  /-- A file or directory of that name. -/
  | named (name : String)
deriving DecidableEq, Repr

namespace Part

/-- The part as it is written. -/
def text : Part → String
  | root => "/"
  | current => "."
  | parent => ".."
  | named name => name

/-- The place of the kind of a part in the order of parts. -/
def rank : Part → Nat
  | root => 0
  | current => 1
  | parent => 2
  | named _ => 3

/-- The order of parts: by kind, and names by their characters. -/
def compare (a b : Part) : Ordering :=
  (Ord.compare a.rank b.rank).then (Ord.compare a.text b.text)

/-- Whether the part does not lead out of the directory it stands in. -/
def staysBelow : Part → Bool
  | current | named _ => true
  | root | parent => false

/-- The part that a piece between slashes is. -/
def ofPiece? (piece : String) : Option Part :=
  if piece = "" || piece = "." then none
  else if piece = ".." then some parent
  else some (named piece)

end Part

/-- The first part, where it is not named: a slash, or a dot. -/
def lead (pieces : List String) : List Part :=
  match pieces with
  -- The empty path has one empty piece and does not start with a slash.
  | "" :: _ :: _ => [.root]
  | "." :: _ => [.current]
  | _ => []

/-- The parts of a path. -/
def parts (path : String) : List Part :=
  let pieces := Text.splitOn '/' path
  lead pieces ++ pieces.filterMap Part.ofPiece?

/-- The path of parts. -/
def spell (parts : List Part) : String :=
  match parts with
  | .root :: rest => "/" ++ String.intercalate "/" (rest.map Part.text)
  | parts => String.intercalate "/" (parts.map Part.text)

/-- The order of paths: part by part, and a path before those it is the start of. -/
def compareParts : List Part → List Part → Ordering
  | [], [] => .eq
  | [], _ :: _ => .lt
  | _ :: _, [] => .gt
  | a :: as, b :: bs => (a.compare b).then (compareParts as bs)

/-- Whether the path is relative, not empty, and stays below the directory it is taken from. -/
def isContained (path : String) : Bool := !path.isEmpty && (parts path).all Part.staysBelow

end OutputPath

end Lexicon
