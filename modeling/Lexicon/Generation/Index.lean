import Lexicon.Generation.FileSet
import Lexicon.Naming.Keyword
import Lexicon.Sorted

/-!
# Lexicon.Generation.Index

The index files of generated modules.

Every directory above a generated file gets a file `mod.rs` that declares the
modules in it, one for each file or directory.

## Main definition

`Index.ofPaths`: the index files for generated files at the given paths.
-/

namespace Lexicon

namespace Index

open OutputPath (Part)

/-- The directories on the way to a file, outermost first, each with the part that follows. -/
def stepsFrom (directory : List Part) : List Part → List (List Part × Part)
  | [] => []
  | part :: rest => (directory, part) :: stepsFrom (directory ++ [part]) rest

/-- The module that a part of a path is the file or directory of. -/
def moduleOf (part : Part) : String := (Text.dropEnd? ".rs" part.text).getD part.text

/-- The modules of the directories on the way to a file. -/
def declarations (path : String) : List (List Part × String) :=
  (stepsFrom [] (OutputPath.parts path)).map fun (directory, part) => (directory, moduleOf part)

/-- The text of the index of modules. -/
def text (modules : List String) : String :=
  "// @generated by lexgen. Do not edit.\n\n" ++
    String.join (modules.map fun name => "pub mod " ++ Keyword.escape name ++ ";\n")

/-- The parts of the path of the index of a directory. -/
def partsOf (directory : List Part) : List Part := directory ++ [.named "mod.rs"]

/-- The directories of the files in the order of their indexes. -/
def directories (declared : List (List Part × String)) : List (List Part) :=
  Sorted.ofList (fun a b => OutputPath.compareParts (partsOf a) (partsOf b))
    (declared.map Prod.fst)

/-- The modules of a directory. -/
def modulesOf (declared : List (List Part × String)) (directory : List Part) : List String :=
  Sorted.texts (declared.filterMap fun (other, name) =>
    if other = directory then some name else none)

/-- The index files for generated files at the given paths, in the order of their paths. -/
def ofPaths (paths : List String) : List (String × String) :=
  let declared := paths.flatMap declarations
  (directories declared).map fun directory =>
    (OutputPath.spell (partsOf directory), text (modulesOf declared directory))

/-- Writes the index files. What was written before an error stays. -/
def write {σ : Type} (writer : Writer σ) (state : σ) (indexes : List (String × String)) :
    σ × Except WriteError Unit :=
  match indexes with
  | [] => (state, .ok ())
  | (path, source) :: rest =>
    match writer state path source with
    | .ok state => write writer state rest
    | .error error => (state, .error error)

end Index

end Lexicon
