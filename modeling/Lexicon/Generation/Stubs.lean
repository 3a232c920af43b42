import Lexicon.Sorted
import Lexicon.Template.Parser
import Lexicon.Template.Render

/-!
# Lexicon.Generation.Stubs

The templates that lay out generated source.

Templates are kept by name. Two are there from the start: `declaration` lays
out one struct with its methods, and `file` a whole module. Either may be
replaced.

## Main definitions

- `Stubs.builtIn`: the templates that are there from the start.
- `Stubs.register?`, `Stubs.render`: adding a template, and filling one.
-/

namespace Lexicon

/-- Templates by name. -/
structure Stubs where
  templates : List (String × Template)

namespace Stubs

/-- The stubs without templates. -/
def empty : Stubs := { templates := [] }

/-- Puts a template under a name, in place of an earlier one. -/
def put (stubs : Stubs) (name : String) (template : Template) : Stubs :=
  { templates := (name, template) :: stubs.templates.filter fun entry => entry.1 != name }

/-- Adds the template that a source text spells, if it spells one. -/
def register? (stubs : Stubs) (name source : String) : Option Stubs :=
  (Template.parse? source).map (stubs.put name)

/-- Whether there is a template of that name. -/
def has (stubs : Stubs) (name : String) : Bool := (stubs.templates.lookup name).isSome

/-- The names of the templates in order. -/
def names (stubs : Stubs) : List String := Sorted.texts (stubs.templates.map Prod.fst)

/-- The text of the template of that name for a value. -/
def render (stubs : Stubs) (name : String) (data : Json) :
    Except Template.RenderError String :=
  match stubs.templates.lookup name with
  | some template => template.render data
  | none => .error (.unknownTemplate name)

/-! ### The templates that are there from the start -/

/-- The name of the template of a struct. -/
def declarationName : String := "declaration"

/-- The name of the template of a module. -/
def fileName : String := "file"

/-- The struct itself. -/
def structNodes : List Template.Node :=
  [.comment "summary" [], .text "#[derive(Debug, Clone, PartialEq)]\npub struct ", .member "name",
   .text " \x7b\n",
   .forEach "fields"
    [.comment "description" [("indent", .literal (.str "    "))], .text "    pub ", .member "ident",
     .text ": ", .member "rust_type", .text ",\n"],
   .text "\x7d\n\nimpl ", .member "name", .text " \x7b\n"]

/-- The constants of the struct. -/
def constantNodes : List Template.Node :=
  [.text "    pub const NSID: &str = ", .member "nsid", .text ";\n",
   .ifTrue (.member "key") [.text "    pub const KEY: &str = ", .member "key", .text ";\n"],
   .text "    pub const REQUIRED: &[&str] = &[", .member "required", .text "];\n\n"]

/-- The constructor of the struct. -/
def constructorNodes : List Template.Node :=
  [.ifTrue (.member "many_params") [.text "    #[allow(clippy::too_many_arguments)]\n"],
   .text "    pub fn new(", .member "params", .text ") -> Self \x7b\n        Self \x7b ",
   .member "field_list", .text " \x7d\n    \x7d\n\n"]

/-- The method that reads the struct. -/
def readerNodes : List Template.Node :=
  [.text "    /// Read from a generic value. Constraints are not checked.\n",
   .text "    pub fn from_value(value: &serde_json::Value) -> Result<Self, ", .member "runtime",
   .text "::FromValueError> \x7b\n        let ",
   .choose (.member "fields") [.text "map"] [.text "_map"],
   .text " = ", .member "runtime", .text "::object(value)?;\n        Ok(Self \x7b\n",
   .forEach "fields" [.text "            ", .member "ident", .text ": ", .member "read",
     .text "?,\n"],
   .text "        \x7d)\n    \x7d\n"]

/-- The further methods of the struct. -/
def accessorNodes : List Template.Node :=
  [.forEach "accessors" [.text "\n", .value .this, .text "\n"], .text "\x7d\n"]

/-- The template of a struct with its methods. -/
def declarationTemplate : Template :=
  structNodes ++ constantNodes ++ constructorNodes ++ readerNodes ++ accessorNodes

/-- The template of a module. -/
def fileTemplate : Template :=
  [.text "// @generated by lexgen from ", .member "nsid", .text ". Do not edit.\n// Declares ",
   .member "count", .text " ",
   .call
    { name := "plural", operands := [.literal (.str "type"), .path (.member "count")],
      options := [] },
   .text ": ", .member "type_list", .text ".\n",
   .ifTrue (.member "description")
    [.text "\n", .comment "description" [("marker", .literal (.str "//!"))]],
   .forEach "imports"
    [.ifTrue (.loopVariable "first") [.text "\n"], .text "use ", .value .this, .text ";\n"],
   .forEach "declarations" [.text "\n", .value .this, .text "\n"]]

/-- The templates that are there from the start. -/
def builtIn : Stubs :=
  { templates := [(declarationName, declarationTemplate), (fileName, fileTemplate)] }

end Stubs

end Lexicon
