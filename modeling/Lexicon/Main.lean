import Lexicon.Command.Execution

/-!
# Lexicon.Main

The program `lexgen`: takes in the files that a command line reads, carries it
out, writes the files that have changed, prints, and ends with the exit code.
-/

namespace Lexicon

namespace Machine

/-- Takes in a file that is there and is text. -/
def addFile (tree : FileTree) (path : String) : IO FileTree := do
  let .ok text ← (IO.FS.readFile path).toBaseIO | return tree
  return tree.put (tree.locate path) text

/-- Takes in all files below a directory; one that is no text counts as empty. -/
partial def addDirectory (tree : FileTree) (path : String) : IO FileTree := do
  let .ok directory ← (IO.FS.realPath path).toBaseIO | return tree
  let .ok entries ← directory.readDir.toBaseIO | return tree
  let mut tree := tree
  for entry in entries do
    let inner := path ++ "/" ++ entry.fileName
    if ← entry.path.isDir then tree ← addDirectory tree inner
    else
      let text ← (IO.FS.readFile inner).toBaseIO
      tree := tree.put (tree.locate inner) (text.toOption.getD "")
  return tree

/-- Writes a file, and the directories on the way to it. -/
def writeFile (location : Location) (text : String) : IO Unit := do
  IO.FS.createDirAll (FileTree.spell location.dropLast)
  IO.FS.writeFile (FileTree.spell location) text

end Machine

end Lexicon

open Lexicon

/-- Carries out a command line on the files of the machine. -/
def main (arguments : List String) : IO UInt32 := do
  let here ← IO.currentDir
  let sources := Execution.sources arguments
  let tree ← sources.directories.foldlM Machine.addDirectory (.empty here.toString)
  let tree ← sources.files.foldlM Machine.addFile tree
  let execution := Execution.run tree arguments
  let writing := (execution.changes tree).forM fun (location, text) =>
    Machine.writeFile location text
  let .ok () ← writing.toBaseIO | return 2
  IO.print execution.output
  return execution.code.toUInt32
