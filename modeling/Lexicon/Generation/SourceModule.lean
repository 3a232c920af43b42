import Lexicon.Generation.Declaration
import Lexicon.Generation.FileSet
import Lexicon.Generation.Stubs
import Lexicon.Sorted

/-!
# Lexicon.Generation.SourceModule

The generated module of a document.

A document can be generated when its main definition is a record or an object.
Its module declares the struct of the main definition, then one struct for
each other object definition that can be referred to, in the order of the
document. The module is data until the templates lay it out.

## Main definitions

- `SourceModule.ofDocument`: the module of a document.
- `SourceModule.render`, `Declaration.render`: their source text.
-/

namespace Lexicon

/-- Why a document cannot be generated. -/
inductive GenerationError where
  | missingMain (id : Nsid)
  | unsupportedMain (id : Nsid) (kind : String)
  | template (error : Template.RenderError)
  | writing (error : WriteError)

/-- The error in words. -/
def GenerationError.message : GenerationError → String
  | missingMain id => "cannot generate code for " ++ id.text ++ ": no main definition"
  | unsupportedMain id kind =>
    "cannot generate code for " ++ id.text ++ ": main definition is a " ++ kind ++
      ", expected record or object"
  | template error => "stub rendering failed: " ++ error.message
  | writing error => error.message

/-! ### Structs -/

namespace Declaration

/-- The most parameters that a constructor may have without a remark. -/
def maxPlainParameters : Nat := 7

/-- The values of a field for the template. -/
def fieldData (runtime : String) (field : StructField) : Json :=
  .obj [("ident", .str field.ident), ("rust_type", .str field.type.text),
    ("read", .str (field.read.text runtime field.property)), ("description", .str field.doc)]

/-- The values of a declaration for the template. -/
def data (runtime : String) (declaration : Declaration) : Json :=
  let fields := declaration.fields
  let params := fields.map fun field => field.ident ++ ": " ++ field.type.text
  .obj [("name", .str declaration.name), ("nsid", .str (Text.quoted declaration.id.text)),
    ("key", (declaration.key.map fun key => Json.str (Text.quoted key)).getD .null),
    ("summary", .str declaration.summary),
    ("required", .str (String.intercalate ", " (declaration.required.map Text.quoted))),
    ("many_params", .bool (maxPlainParameters < params.length)),
    ("params", .str (String.intercalate ", " params)),
    ("field_list", .str (String.intercalate ", " (fields.map (·.ident)))),
    ("runtime", .str runtime), ("fields", .arr (fields.map (fieldData runtime))),
    ("accessors", .arr (declaration.accessors.map fun accessor => .str accessor.text))]

/-- The source text of a declaration. -/
def render (stubs : Stubs) (runtime : String) (declaration : Declaration) :
    Except Template.RenderError String :=
  stubs.render Stubs.declarationName (declaration.data runtime)

end Declaration

/-! ### Modules -/

/-- A generated module before it is laid out. -/
structure SourceModule where
  id : Nsid
  description : Option String
  /-- The paths that have to be in scope. -/
  imports : List String
  declarations : List Declaration

namespace SourceModule

/-- What the struct of a definition is made of: its object, and its key if it is a record. -/
def structParts? : Definition → Option (ObjectType × Option String)
  | .record _ key object => some (object, key)
  | .data (.object object) => some (object, none)
  | _ => none

/-- The main definition of a document, its object and its key. -/
def main (doc : Document) : Except GenerationError (Definition × ObjectType × Option String) :=
  match doc.main? with
  | none => .error (.missingMain doc.id)
  | some definition =>
    match structParts? definition with
    | some parts => .ok (definition, parts)
    | none => .error (.unsupportedMain doc.id definition.kind)

/-- The object definitions besides the main one that can be referred to. -/
def others (doc : Document) : List (Nsid × Definition × ObjectType) :=
  doc.definitions.filterMap fun (name, definition) =>
    match definition with
    | .data (.object object) =>
      -- A name that makes no identifier cannot be referred to.
      if name = mainDefinition then none
      else (doc.idOf? name).map fun id => (id, definition, object)
    | _ => none

/-- The declaration of the main definition. -/
def mainDeclaration (mapper : TypeMapper) (doc : Document) :
    Except GenerationError Declaration := do
  let (definition, object, key) ← main doc
  return .ofObject mapper doc doc.id definition object key

/-- The module of a document. -/
def ofDocument (mapper : TypeMapper) (doc : Document) : Except GenerationError SourceModule := do
  let (definition, object, key) ← main doc
  let rest := others doc
  let objects := object :: rest.map fun (_, _, object) => object
  return {
    id := doc.id
    description := doc.description
    imports := Sorted.texts (objects.flatMap (Declaration.importsOf mapper doc))
    declarations :=
      .ofObject mapper doc doc.id definition object key ::
        rest.map fun (id, definition, object) =>
          .ofObject mapper doc id definition object none }

/-- The values of a module for the template; `sources` are its declarations laid out. -/
def data (module : SourceModule) (sources : List String) : Json :=
  let names := module.declarations.map (·.name)
  .obj [("nsid", .str module.id.text),
    ("description", (module.description.map Json.str).getD .null),
    ("count", .int names.length), ("type_list", .str (String.intercalate ", " names)),
    ("imports", .arr (module.imports.map .str)), ("declarations", .arr (sources.map .str))]

/-- The source text of a module. -/
def render (stubs : Stubs) (runtime : String) (module : SourceModule) :
    Except Template.RenderError String := do
  let sources ← module.declarations.mapM (·.render stubs runtime)
  stubs.render Stubs.fileName (module.data sources)

end SourceModule

end Lexicon
