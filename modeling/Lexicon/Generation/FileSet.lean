import Lexicon.Generation.OutputPath

/-!
# Lexicon.Generation.FileSet

Generated files held in memory.

The files are in the order of their paths. A file that is written again takes
the new text under the old spelling of its path. A path that leads out of the
set is refused.

## Main definitions

- `Writer`: anything that takes files.
- `FileSet.write`: the set with a file written.
-/

namespace Lexicon

/-- Why a file is not written. -/
inductive WriteError where
  /-- The path leads out of the set. -/
  | refused (path : String)
  /-- The file system does not take the file. -/
  | failed (path : String)
deriving DecidableEq, Repr

/-- The error in words. -/
def WriteError.message : WriteError → String
  | refused path =>
    "refused to write " ++ path ++ ": path must be relative and stay below the output root"
  | failed path => "failed to write " ++ path

/-- Writes a text under a path into what holds files. -/
abbrev Writer (σ : Type) := σ → String → String → Except WriteError σ

/-- Files by path, in the order of their paths. -/
structure FileSet where
  files : List (String × String)

namespace FileSet

/-- The set without files. -/
def empty : FileSet := { files := [] }

/-- Whether a path may be written: the error if not. -/
def check (path : String) : Except WriteError Unit :=
  if OutputPath.isContained path then .ok () else .error (.refused path)

/-- Puts a text under a path, in its place in the order. -/
def place (path text : String) : List (String × String) → List (String × String)
  | [] => [(path, text)]
  | (other, old) :: rest =>
    match OutputPath.compareParts (OutputPath.parts path) (OutputPath.parts other) with
    | .lt => (path, text) :: (other, old) :: rest
    | .eq => (other, text) :: rest
    | .gt => (other, old) :: place path text rest

/-- Writes a file. -/
def write : Writer FileSet := fun set path text => do
  check path
  return { files := place path text set.files }

/-- The text of the file at a path. -/
def get? (set : FileSet) (path : String) : Option String :=
  (set.files.find? fun file => OutputPath.parts file.1 = OutputPath.parts path).map Prod.snd

/-- The paths in order. -/
def paths (set : FileSet) : List String := set.files.map Prod.fst

/-- The number of files. -/
def size (set : FileSet) : Nat := set.files.length

end FileSet

end Lexicon
