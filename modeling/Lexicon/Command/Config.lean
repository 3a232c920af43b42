import Lexicon.Naming.Layout
import Lexicon.Text.Trim
import Lexicon.Validation.Options
import Lexicon.Yaml.Parser

/-!
# Lexicon.Command.Config

The configuration file.

A configuration is a YAML mapping with four keys, each of which may be absent
or null. Unknown keys and repeated keys are refused. A setting from the
command line goes before the one in the file, and that before the default.

## Main definitions

- `Config.parse?`: reads a configuration file.
- `Config.layout`, `Config.runtimePath`, `Config.validationMode`: the settings
  in force.
-/

namespace Lexicon

/-- The settings of a configuration file. -/
structure Config where
  root : Option String := none
  order : Option NamespaceOrder := none
  runtime : Option String := none
  mode : Option ValidationMode := none
deriving DecidableEq, Repr

namespace Config

/-! ### Reading -/

/-- The text of a setting: nothing when it is null, and an error when it is no scalar. -/
def setting? : Yaml.Node → Option (Option String)
  | .scalar plain text =>
    some (if plain && (text.isEmpty || Yaml.Scalar.nullWords.contains text) then none
      else some text)
  | .tagged tag (.scalar plain text) =>
    if plain && tag = Yaml.Scalar.corePrefix ++ "null" then
      if Yaml.Scalar.nullWords.contains text then some none else none
    else some (some text)
  | _ => none

/-- A setting that is one of several names. -/
def choice? {α : Type} (ofName? : String → Option α) (node : Yaml.Node) :
    Option (Option α) := do
  match ← setting? node with
  | none => return none
  | some name => return some (← ofName? name)

/-- The configuration with one more setting. -/
def add? (config : Config) (key : String) (node : Yaml.Node) : Option Config :=
  if key = "root_namespace" then
    (setting? node).map fun root => { config with root }
  else if key = "namespace_order" then
    (choice? NamespaceOrder.ofName? node).map fun order => { config with order }
  else if key = "runtime_path" then
    (setting? node).map fun runtime => { config with runtime }
  else if key = "mode" then
    (choice? ValidationMode.ofName? node).map fun mode => { config with mode }
  else none

/-- The configuration of the settings of a mapping; `seen` are the keys so far. -/
def ofPairs? (config : Config) (seen : List String) :
    List (Yaml.Node × Yaml.Node) → Option Config
  | [] => some config
  | (key, node) :: rest => do
    let key ← key.text?
    if seen.contains key then none
    else ofPairs? (← config.add? key node) (key :: seen) rest

/-- The configuration that a node stands for. -/
def ofNode? : Yaml.Node → Option Config
  | .scalar plain text => if plain && text.isEmpty then some {} else none
  | .map pairs => ofPairs? {} [] pairs
  | .tagged _ (.map pairs) => ofPairs? {} [] pairs
  | _ => none

/-- Reads a configuration file. A blank one sets nothing. -/
def parse? (text : String) : Option Config :=
  if Text.isBlankText text then some {} else (Yaml.parse? text).bind ofNode?

/-! ### Settings in force -/

/-- The layout of generated modules. -/
def layout (config : Config) (root : Option String) (order : Option NamespaceOrder) : Layout :=
  let default : Layout := {}
  { root := (root.or config.root).getD default.root
    order := (order.or config.order).getD default.order }

/-- The path of the support library in generated code. -/
def runtimePath (config : Config) (runtime : Option String) : String :=
  (runtime.or config.runtime).getD "lex_runtime"

/-- How strictly data is validated. -/
def validationMode (config : Config) (mode : Option ValidationMode) : ValidationMode :=
  (mode.or config.mode).getD .optimistic

end Config

end Lexicon
