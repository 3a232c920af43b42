import Lexicon.Naming.Layout
import Lexicon.Text.Split
import Lexicon.Validation.Options

/-!
# Lexicon.Command.Arguments

The command line.

An option is `--name value` or `--name=value`; a value of its own must not look
like an option. What comes behind `--` is not an option. The options `--config`
and `--verbose` may stand before the command and behind it; all others belong to
a command, and none but `--verbose` may be repeated.

## Main definitions

- `Level.scan`: the options and other arguments of one level.
- `Arguments.parse`: what a command line asks for.
-/

namespace Lexicon

/-! ### Options -/

/-- What the value of an option has to be. -/
inductive ValueKind where
  | text
  /-- A path, which is not empty. -/
  | path
  | order
  | mode
deriving DecidableEq, Repr

/-- Whether a text is a value of that kind. -/
def ValueKind.admits : ValueKind → String → Bool
  | text, _ => true
  | path, value => !value.isEmpty
  | order, value => (NamespaceOrder.parse value).isOk
  | mode, value => (ValidationMode.parse value).isOk

/-- What an option does. -/
inductive OptionAction where
  | value (kind : ValueKind)
  /-- May be repeated and has no value. -/
  | count
  | showHelp
  | showVersion
deriving DecidableEq, Repr

/-- An option: its name, its letter, and what it does. -/
structure OptionSpec where
  name : String
  letter : Option Char := none
  action : OptionAction
deriving Repr

/-- What may stand in one part of the command line. -/
structure Level where
  options : List OptionSpec
  /-- The commands that end this level. -/
  commands : List String
  /-- Whether files may be named. -/
  takesFiles : Bool

/-- Why the reading of a command line ends early. -/
inductive Stop where
  | invalid
  | help
  | version
deriving DecidableEq, Repr

/-- What one part of the command line says. -/
structure Scanned where
  values : List (String × String) := []
  files : List String := []
  /-- The command and what comes behind it. -/
  command : Option (String × List String) := none

namespace Level

/-- The scanned arguments with the value of an option, which must not be there yet. -/
def addValue (scanned : Scanned) (name : String) (kind : ValueKind) (value : String) :
    Except Stop Scanned :=
  if (scanned.values.lookup name).isSome || !kind.admits value then .error .invalid
  else .ok { scanned with values := (name, value) :: scanned.values }

/-- The scanned arguments with a file. -/
def addFile (level : Level) (scanned : Scanned) (path : String) : Except Stop Scanned :=
  if level.takesFiles && ValueKind.path.admits path then
    .ok { scanned with files := scanned.files ++ [path] }
  else .error .invalid

/-- What an option without a value does. -/
def flag : OptionAction → Except Stop Unit
  | .count => .ok ()
  | .showHelp => .error .help
  | .showVersion => .error .version
  | .value _ => .error .invalid

/-- Options by their letters. -/
def letters (level : Level) : List Char → Except Stop Unit
  | [] => .ok ()
  | c :: rest => do
    match level.options.find? (·.letter = some c) with
    | some spec =>
      flag spec.action
      level.letters rest
    | none => .error .invalid

/-- The scanned arguments of one level. -/
def scanFrom (level : Level) (scanned : Scanned) : List String → Except Stop Scanned
  | [] => .ok scanned
  | argument :: rest =>
    if level.commands.contains argument then .ok { scanned with command := some (argument, rest) }
    else if argument = "--" then rest.foldlM level.addFile scanned
    else
      match Text.dropStart? "--" argument, argument.toList with
      | some long, _ =>
        let (name, value?) := Text.cutAt '=' long
        match level.options.find? (·.name = name), value?, rest with
        | some ⟨_, _, .value kind⟩, some value, rest => do
          level.scanFrom (← addValue scanned name kind value) rest
        | some ⟨_, _, .value kind⟩, none, value :: rest => do
          -- A lone `-` is a value like any other.
          if Text.hasStart "-" value && value ≠ "-" then .error .invalid
          else level.scanFrom (← addValue scanned name kind value) rest
        | some spec, none, rest => do
          flag spec.action
          level.scanFrom scanned rest
        | _, _, _ => .error .invalid
      | none, '-' :: c :: more => do
        level.letters (c :: more)
        level.scanFrom scanned rest
      | none, _ => do level.scanFrom (← level.addFile scanned argument) rest

/-- The options and other arguments of one level. -/
def scan (level : Level) (arguments : List String) : Except Stop Scanned :=
  level.scanFrom {} arguments

end Level

/-! ### Commands -/

/-- Asks for data files to be validated. -/
structure ValidateCommand where
  lexicons : String
  schema : String
  mode : Option ValidationMode
  files : List String
deriving DecidableEq, Repr

/-- Asks for modules to be generated. -/
structure GenerateCommand where
  lexicons : String
  out : String
  root : Option String
  order : Option NamespaceOrder
  runtime : Option String
  /-- A directory with templates. -/
  stubs : Option String
deriving DecidableEq, Repr

/-- What is asked for. -/
inductive Command where
  | validate (command : ValidateCommand)
  | generate (command : GenerateCommand)
deriving DecidableEq, Repr

/-- What a command line says. -/
structure Arguments where
  config : Option String
  command : Command
deriving DecidableEq, Repr

namespace Arguments

/-- The options that may stand everywhere. -/
def commonOptions : List OptionSpec :=
  [{ name := "verbose", letter := some 'v', action := .count },
   { name := "config", action := .value .path },
   { name := "help", letter := some 'h', action := .showHelp }]

/-- The part before the command. -/
def topLevel : Level :=
  { options := { name := "version", letter := some 'V', action := .showVersion } :: commonOptions
    commands := ["validate", "generate", "help"], takesFiles := false }

/-- The part behind `validate`. -/
def validateLevel : Level :=
  { options :=
      [{ name := "lexicons", action := .value .path }, { name := "schema", action := .value .text },
       { name := "mode", action := .value .mode }] ++ commonOptions
    commands := [], takesFiles := true }

/-- The part behind `generate`. -/
def generateLevel : Level :=
  { options :=
      [{ name := "lexicons", action := .value .path }, { name := "out", action := .value .path },
       { name := "root-namespace", action := .value .text },
       { name := "namespace-order", action := .value .order },
       { name := "runtime-path", action := .value .text },
       { name := "stubs", action := .value .path }] ++ commonOptions
    commands := [], takesFiles := false }

/-- The value of an option that has to be there. -/
def required (scanned : Scanned) (name : String) : Except Stop String :=
  match scanned.values.lookup name with
  | some value => .ok value
  | none => .error .invalid

/-- The command `validate`. At least one file has to be named. -/
def validateCommand (scanned : Scanned) : Except Stop ValidateCommand := do
  if scanned.files.isEmpty then .error .invalid
  else
    return {
      lexicons := ← required scanned "lexicons"
      schema := ← required scanned "schema"
      mode := (scanned.values.lookup "mode").bind fun name => (ValidationMode.parse name).toOption
      files := scanned.files }

/-- The command `generate`. -/
def generateCommand (scanned : Scanned) : Except Stop GenerateCommand := do
  return {
    lexicons := ← required scanned "lexicons"
    out := ← required scanned "out"
    root := scanned.values.lookup "root-namespace"
    order :=
      (scanned.values.lookup "namespace-order").bind fun name =>
        (NamespaceOrder.parse name).toOption
    runtime := scanned.values.lookup "runtime-path"
    stubs := scanned.values.lookup "stubs" }

/-- What a command line asks for. A configuration that is named behind the command goes before
one that is named in front of it. Help may be asked for about one command. -/
def parse (arguments : List String) : Except Stop Arguments := do
  let top ← topLevel.scan arguments
  let config := fun (inner : Scanned) =>
    (inner.values.lookup "config").or (top.values.lookup "config")
  match top.command with
  | some ("validate", rest) =>
    let inner ← validateLevel.scan rest
    return { config := config inner, command := .validate (← validateCommand inner) }
  | some ("generate", rest) =>
    let inner ← generateLevel.scan rest
    return { config := config inner, command := .generate (← generateCommand inner) }
  | some (_, rest) =>
    .error (if rest.length ≤ 1 && rest.all topLevel.commands.contains then .help else .invalid)
  | none => .error .invalid

end Arguments

end Lexicon
