import Lexicon.Generation.FileSet
import Lexicon.Sorted

/-!
# Lexicon.Command.FileTree

Files and directories as a value.

A tree knows its text files by the names on the way to them, and the directory
that relative paths start from. A directory is there when a file or that
starting point lies in it.

## Main definitions

- `FileTree.read?`, `FileTree.isDirectory`: what is there.
- `FileTree.write`: the tree with a file written.
-/

namespace Lexicon

/-- The names on the way to a file or directory, outermost first. -/
abbrev Location := List String

/-- Text files, and the directory that relative paths start from. -/
structure FileTree where
  start : Location
  files : List (Location × String)

namespace FileTree

open OutputPath (Part)

/-! ### Places -/

/-- Whether there is a directory at a location. -/
def isDirectoryAt (tree : FileTree) (location : Location) : Bool :=
  location.isPrefixOf tree.start ||
    tree.files.any fun (other, _) => location.isPrefixOf other && location != other

/-- Where a part of a path leads to. -/
def step (location : Location) : Part → Location
  | .root => []
  | .current => location
  | .parent => location.dropLast
  | .named name => location ++ [name]

/-- No files, and relative paths that start from the given place. -/
def empty (start : String) : FileTree :=
  { start := (OutputPath.parts start).foldl step [], files := [] }

/-- The path from the outermost directory to a location. -/
def spell (location : Location) : String := "/" ++ String.intercalate "/" location

/-- Where a path leads to, whether anything is there or not. -/
def locate (tree : FileTree) (path : String) : Location :=
  (OutputPath.parts path).foldl step tree.start

/-- Where a path leads to through directories that are there. -/
def walk? (tree : FileTree) (location : Location) : List Part → Option Location
  | [] => some location
  | part :: rest =>
    if tree.isDirectoryAt location then tree.walk? (step location part) rest else none

/-- Whether the path can only be that of a directory. -/
def namesDirectory (path : String) : Bool := Text.hasEnd "/" path || Text.hasEnd "/." path

/-- Where a path leads to, if that can be there. -/
def find? (tree : FileTree) (path : String) : Option Location := do
  if path.isEmpty then none
  else
    let location ← tree.walk? tree.start (OutputPath.parts path)
    if namesDirectory path && !tree.isDirectoryAt location then none else some location

/-- Whether there is a directory at a path. -/
def isDirectory (tree : FileTree) (path : String) : Bool :=
  (tree.find? path).any tree.isDirectoryAt

/-- The text of the file at a location. -/
def readAt? (tree : FileTree) (location : Location) : Option String := tree.files.lookup location

/-- The text of the file at a path. -/
def read? (tree : FileTree) (path : String) : Option String :=
  (tree.find? path).bind tree.readAt?

/-! ### Names -/

/-- The name before its last dot and the ending behind it. A dot at the start counts as part of
the name. -/
def splitName (name : String) : String × Option String :=
  match Text.cutAtLast? '.' name with
  | some (stem, ending) => if stem.isEmpty then (name, none) else (stem, some ending)
  | none => (name, none)

/-- The ending of the last name of a path. -/
def ending? (path : String) : Option String :=
  match (OutputPath.parts path).getLast? with
  | some (.named name) => (splitName name).2
  | _ => none

/-- The order of locations below a directory. -/
def compareLocations (a b : Location) : Ordering :=
  OutputPath.compareParts (a.map .named) (b.map .named)

/-- The files below a location with the given ending, in order. -/
def filesBelow (tree : FileTree) (location : Location) (ending : String) : List Location :=
  let below := tree.files.filterMap fun (other, _) =>
    if location.isPrefixOf other && location != other then some (other.drop location.length)
    else none
  let wanted := below.filter fun names =>
    names.getLast?.any fun name => (splitName name).2 = some ending
  (Sorted.ofList compareLocations wanted).map (location ++ ·)

/-- The names in a directory in order. -/
def namesIn (tree : FileTree) (location : Location) : List String :=
  Sorted.texts (tree.files.filterMap fun (other, _) =>
    if location.isPrefixOf other then (other.drop location.length).head? else none)

/-! ### Writing -/

/-- The tree with a text in the place of the file at a location, if there is one. -/
def put (tree : FileTree) (location : Location) (text : String) : FileTree :=
  let files :=
    if (tree.readAt? location).isSome then
      tree.files.map fun (other, old) => (other, if other = location then text else old)
    else tree.files ++ [(location, text)]
  { tree with files }

/-- Whether a file can be written at a location: no directory is there, and no file is in the
way. -/
def accepts (tree : FileTree) (location : Location) : Bool :=
  !tree.isDirectoryAt location &&
    tree.files.all fun (other, _) => !(other.isPrefixOf location) || other == location

/-- The tree with a file written below a directory, which comes into being if needed. -/
def write (directory : String) : Writer FileTree := fun tree path text => do
  FileSet.check path
  let location := tree.locate (directory ++ "/" ++ path)
  if tree.accepts location then .ok (tree.put location text) else .error (.failed path)

end FileTree

end Lexicon
