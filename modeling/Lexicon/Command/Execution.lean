import Lexicon.Command.Arguments
import Lexicon.Command.Config
import Lexicon.Command.FileTree
import Lexicon.Generation.Generator
import Lexicon.Json.Parser
import Lexicon.Validation.Service

/-!
# Lexicon.Command.Execution

Carrying out a command line on a tree of files.

The exit code is 0 when all went well, 1 when a data file does not conform to
its schema, and 2 when the command could not be carried out; what has been
printed and written before that stays.

## Main definitions

- `Execution.sources`: what a command line reads.
- `Execution.run`: what it prints and leaves behind.
-/

namespace Lexicon

/-- What a command leaves behind. -/
structure Execution where
  code : Nat
  output : String
  tree : FileTree

namespace Execution

/-- A command that could not be carried out. -/
def failed (tree : FileTree) (output : String := "") : Execution := { code := 2, output, tree }

/-! ### Inputs -/

/-- The file that is read when no configuration is named. -/
def defaultConfig : String := "lexgen.yaml"

/-- The configuration in force. -/
def config? (tree : FileTree) (path : Option String) : Option Config :=
  match path with
  | some path => (tree.read? path).bind Config.parse?
  | none =>
    match tree.read? defaultConfig with
    | some text => Config.parse? text
    | none => some {}

/-- The schema documents below a directory, in the order of their paths. -/
def documents? (tree : FileTree) (directory : String) : Option (List Document) := do
  let location ← tree.find? directory
  if tree.isDirectoryAt location then
    (tree.filesBelow location "json").mapM fun file => do
      (Document.parseText (← tree.readAt? file)).toOption
  else none

/-- The value of a data file: YAML by its ending, and JSON otherwise. -/
def value? (tree : FileTree) (path : String) : Option Json := do
  let text ← tree.read? path
  match FileTree.ending? path with
  | some "yaml" | some "yml" => Yaml.value? text
  | _ => Json.parse? text

/-- The templates of a directory over those that are there from the start. -/
def stubs? (tree : FileTree) (directory : Option String) : Option Stubs :=
  match directory with
  | none => some .builtIn
  | some directory => do
    let location ← tree.find? directory
    if tree.isDirectoryAt location then
      (tree.namesIn location).foldlM (fun stubs name =>
        match FileTree.splitName name with
        | (stem, some "hbs") => do
          stubs.register? stem (← tree.readAt? (location ++ [name]))
        | _ => some stubs) .builtIn
    else none

/-- The files that a command line reads, and the directories that it reads all of. -/
structure Sources where
  files : List String
  directories : List String

/-- What a command line reads. -/
def sources (arguments : List String) : Sources :=
  match Arguments.parse arguments with
  | .error _ => { files := [], directories := [] }
  | .ok { config, command } =>
    let config := config.getD defaultConfig
    match command with
    | .validate command =>
      { files := config :: command.files, directories := [command.lexicons] }
    | .generate command =>
      { files := [config], directories := command.lexicons :: command.stubs.toList }

/-! ### Commands -/

/-- The lines about one data file, and whether it conforms. Nothing when that cannot be said. -/
def report? (tree : FileTree) (service : ValidationService) (schema : Nsid) (path : String) :
    Option (Bool × String) := do
  match service.validateId (← value? tree path) schema with
  | .ok () => some (true, "PASS: " ++ path ++ "\n")
  | .error (.validationFailed _ violations) =>
    some (false, "FAIL: " ++ path ++ "\n" ++ Violation.texts violations ++ "\n")
  | .error (.schemaNotFound _) => none

/-- The reports on data files up to the first that cannot be given, and whether all are there. -/
def reports (report : String → Option (Bool × String)) : List String → List (Bool × String) × Bool
  | [] => ([], true)
  | path :: rest =>
    match report path with
    | none => ([], false)
    | some entry =>
      let (entries, complete) := reports report rest
      (entry :: entries, complete)

/-- Validates data files. -/
def validate (tree : FileTree) (config : Config) (command : ValidateCommand) : Execution :=
  match (Nsid.parse command.schema).toOption, documents? tree command.lexicons with
  | some schema, some docs =>
    let service : ValidationService :=
      { registry := .ofDocuments docs, options := { mode := config.validationMode command.mode } }
    let (entries, complete) := reports (report? tree service schema) command.files
    let output := String.join (entries.map (·.2))
    if complete then
      let passed := (entries.filter (·.1)).length
      let summary := s!"{passed}/{command.files.length} passed\n"
      { code := if passed = command.files.length then 0 else 1, output := output ++ summary, tree }
    else failed tree output
  | _, _ => failed tree

/-- The line about a generated file. -/
def generatedLine (file : GeneratedFile) : String :=
  "  " ++ file.id.text ++ " -> " ++ file.path ++ "\n"

/-- The last line of a run. -/
def summaryLine (report : RunReport) (out : String) : String :=
  "Generated " ++ toString report.generated.length ++ " module(s) in " ++ out ++ " (" ++
    toString report.skipped.length ++ " schema(s) without a record or object skipped).\n"

/-- Generates modules. -/
def generate (tree : FileTree) (config : Config) (command : GenerateCommand) : Execution :=
  match documents? tree command.lexicons, stubs? tree command.stubs with
  | some docs, some stubs =>
    let mapper : TypeMapper :=
      { layout := config.layout command.root command.order
        runtime := config.runtimePath command.runtime
        registry := some (.ofDocuments docs) }
    let generator : Generator := { mapper, stubs }
    match generator.run (FileTree.write command.out) tree docs with
    | (tree, .error _) => failed tree
    | (tree, .ok report) =>
      { code := 0
        output := String.join (report.generated.map generatedLine) ++
          summaryLine report command.out
        tree }
  | _, _ => failed tree

/-- The name and version of the program. -/
def versionLine : String := "lexgen 0.1.0\n"

/-- The files that differ from those of a tree, with what is in them now. -/
def changes (execution : Execution) (before : FileTree) : List (Location × String) :=
  execution.tree.files.filter fun (location, text) => before.readAt? location != some text

/-- How the program is used. -/
def usage : String :=
  "Usage: lexgen [--config FILE] validate --lexicons DIR --schema NSID [--mode MODE] FILE...\n" ++
  "       lexgen [--config FILE] generate --lexicons DIR --out DIR [--root-namespace PATH]\n" ++
  "              [--namespace-order ORDER] [--runtime-path PATH] [--stubs DIR]\n"

/-- Carries out a command line. -/
def run (tree : FileTree) (arguments : List String) : Execution :=
  match Arguments.parse arguments with
  | .error .version => { code := 0, output := versionLine, tree }
  | .error .help => { code := 0, output := usage, tree }
  | .error .invalid => failed tree
  | .ok { config, command } =>
    match config? tree config with
    | none => failed tree
    | some config =>
      match command with
      | .validate command => validate tree config command
      | .generate command => generate tree config command

end Execution

end Lexicon
