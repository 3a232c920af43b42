import Lexicon.Generation.DocType
import Lexicon.Generation.Inline
import Lexicon.Naming.Plural
import Lexicon.Text.Quoted

/-!
# Lexicon.Generation.Declaration

The structs of a generated module.

A declaration lists what the struct of a record or object consists of: its
fields with the expressions that read them, its required list, its
documentation, and the accessors that go with its fields. It is data, and laid
out by the templates.

## Main definitions

- `Declaration.ofObject`: the declaration of a definition.
- `StructField`, `FieldRead`: a field and how it is read.
- `Accessor`: a method that goes with a field.
- `Declaration.uniqueIdent`: identifiers that differ from those before.
-/

namespace Lexicon

/-- How a field is read from the members of an object. -/
structure FieldRead where
  presence : Presence
  reader : ReaderExpr
deriving DecidableEq, Repr

namespace FieldRead

/-- The expression as it is written for a property. -/
def text (runtime property : String) (read : FieldRead) : String :=
  let reader := read.reader.text runtime
  match read.presence with
  | .required =>
    runtime ++ "::required(map, " ++ Text.quoted property ++ ", " ++ reader ++ ")"
  | .requiredNullable =>
    runtime ++ "::required(map, " ++ Text.quoted property ++ ", |v| " ++ runtime ++
      "::nullable(v, " ++ reader ++ "))"
  | .optional =>
    runtime ++ "::optional(map, " ++ Text.quoted property ++ ", " ++ reader ++ ")"

end FieldRead

/-- A field of a struct. -/
structure StructField where
  property : String
  ident : String
  type : GeneratedType
  read : FieldRead
  doc : String

/-- A method that goes with a field. -/
inductive Accessor where
  /-- The value of an optional field, or its default. -/
  | orDefault (property ident result body : String)
  /-- Appends to a list. -/
  | push (property ident : String) (item : GeneratedType) (optional : Bool)
deriving DecidableEq, Repr

namespace Accessor

def method : Accessor → String
  | orDefault _ ident _ _ => Keyword.bare ident ++ "_or_default"
  | push _ ident _ _ =>
    let plural := Keyword.bare ident
    let singular := Plural.singularize plural
    -- A name without a singular is told apart from the field by its ending.
    if singular = plural then "push_" ++ plural ++ "_item" else "push_" ++ singular

/-- The first line, which documents the method. -/
def docLine : Accessor → String
  | orDefault property _ _ _ => "    /// `" ++ property ++ "`, or its schema default when absent."
  | push property _ _ _ => "    /// Append to `" ++ property ++ "`."

/-- The lines behind the documentation. -/
def codeLines (accessor : Accessor) : List String :=
  match accessor with
  | orDefault _ _ result body =>
    ["    pub fn " ++ accessor.method ++ "(&self) -> " ++ result ++ " \x7b", "        " ++ body,
     "    \x7d"]
  | push _ ident item optional =>
    let list :=
      if optional then "self." ++ ident ++ ".get_or_insert_with(Vec::new)" else "self." ++ ident
    ["    pub fn " ++ accessor.method ++ "(&mut self, item: " ++ item.text ++ ") \x7b",
     "        " ++ list ++ ".push(item);", "    \x7d"]

def text (accessor : Accessor) : String :=
  String.intercalate "\n" (accessor.docLine :: accessor.codeLines)

/-- The accessor of a field that has a default in the schema and may be absent. -/
def ofDefault? (property ident : String) (node : TypeNode) (optional : Bool) : Option Accessor :=
  if !optional then none
  else
    match node with
    | .boolean t => t.default.map fun b =>
      orDefault property ident "bool" ("self." ++ ident ++ ".unwrap_or(" ++ toString b ++ ")")
    | .integer t => t.default.map fun n =>
      orDefault property ident "i64"
        ("self." ++ ident ++ ".unwrap_or(" ++ DocType.ofInt64 n ++ ")")
    | .string t =>
      -- A timestamp is no text once it has been read.
      if t.format = some .datetime then none
      else t.default.map fun s =>
        orDefault property ident "&str"
          ("self." ++ ident ++ ".as_deref().unwrap_or(" ++ Text.quoted s ++ ")")
    | _ => none

end Accessor

structure Declaration where
  name : String
  id : Nsid
  key : Option String
  summary : String
  required : List String
  fields : List StructField
  accessors : List Accessor

namespace Declaration

/-! ### Identifiers -/

/-- The identifier of a property before collisions are looked at. -/
def baseIdent (property : String) : String :=
  let ident := Keyword.field property
  if ident.isEmpty then "field" else ident

/-- The first of `stem_n`, `stem_(n+1)`, … that is not taken. Among as many candidates as there
are taken names, and one more, one is free. -/
def numbered (stem : String) (taken : List String) : Nat → Nat → String
  | 0, n => stem ++ "_" ++ toString n
  | fuel + 1, n =>
    let ident := stem ++ "_" ++ toString n
    if taken.contains ident then numbered stem taken fuel (n + 1) else ident

/-- An identifier for a property that differs from those taken. -/
def uniqueIdent (property : String) (taken : List String) : String :=
  let base := baseIdent property
  if taken.contains base then numbered (Keyword.bare base) taken taken.length 2 else base

/-- The identifiers of properties, one after the other; `taken` are those before. -/
def identsFrom (taken : List String) : List String → List String
  | [] => []
  | property :: rest =>
    let ident := uniqueIdent property taken
    ident :: identsFrom (ident :: taken) rest

/-! ### Documentation -/

/-- The default of a node as its documentation shows it. -/
def defaultText? : TypeNode → Option String
  | .boolean t => t.default.map toString
  | .integer t => t.default.map DocType.ofInt64
  | .string t => t.default.map Text.quoted
  | _ => none

/-- The documentation of a field: its description and its default. -/
def fieldDoc (node : TypeNode) : String :=
  let doc := node.description?.getD ""
  match defaultText? node with
  | none => doc
  | some default =>
    (if doc.isEmpty then doc else doc ++ "\n\n") ++ "Defaults to `" ++ default ++ "`."

/-- What has to be known of a property at a glance. -/
def flags (object : ObjectType) (property : String) : String :=
  match object.isRequired property, object.isNullable property with
  | true, true => " (required, nullable)"
  | true, false => " (required)"
  | false, true => " (nullable)"
  | false, false => ""

/-- The line about a property: its type and its constraints. -/
def propertyLine (doc : Document) (object : ObjectType) (property : String) (node : TypeNode) :
    String :=
  let head := "- `" ++ property ++ "`" ++ flags object property ++ ": `" ++
    DocType.ofNode doc node ++ "`"
  let constraints := DocType.constraints node
  if constraints.isEmpty then head else head ++ "; " ++ String.intercalate ", " constraints

/-- The documentation of a struct: description, origin, and every property. -/
def summaryOf (doc : Document) (id : Nsid) (definition : Definition) (object : ObjectType)
    (key : Option String) : String :=
  let description := (definition.description?.or object.description).map fun d => [d, ""]
  let origin :=
    match key with
    | some key => "Lexicon: `" ++ id.text ++ "` (" ++ definition.kind ++ ", key `" ++ key ++ "`)."
    | none => "Lexicon: `" ++ id.text ++ "` (" ++ definition.kind ++ ")."
  let title := if object.properties.isEmpty then [] else ["", "# Fields", ""]
  String.intercalate "\n"
    (description.getD [] ++ [origin] ++ title ++
      object.properties.map fun (property, node) => propertyLine doc object property node)

/-! ### The declaration -/

/-- The type and the reader of a property of a struct. A struct that leads back to the declaring
one is boxed. -/
def stored (mapper : TypeMapper) (doc : Document) (id : Nsid) (mapping : Mapping) :
    GeneratedType × ReaderExpr :=
  if mapping.target?.any fun target => mapper.leadsBack doc target id then
    (.boxed mapping.type, .boxed mapping.reader)
  else (mapping.type, mapping.reader)

def fieldOf (mapper : TypeMapper) (doc : Document) (id : Nsid) (object : ObjectType)
    (property ident : String) (node : TypeNode) : StructField :=
  -- Required and nullable fields are optional in the struct, but have to be there when it is read.
  let (type, reader) := stored mapper doc id (mapper.map node doc)
  { property, ident
    type := if object.isOptional property then .optional type else type
    read :=
      { presence := .ofFlags (object.isRequired property) (object.isNullable property), reader }
    doc := fieldDoc node }

def itemMapping (mapper : TypeMapper) (doc : Document) (array : ArrayType) : Mapping :=
  match array.items with
  | some items => mapper.map items doc
  | none => .unknown

/-- The accessors that go with a property. -/
def accessorsOf (mapper : TypeMapper) (doc : Document) (object : ObjectType)
    (property ident : String) (node : TypeNode) : List Accessor :=
  let optional := object.isOptional property
  (Accessor.ofDefault? property ident node optional).toList ++
    match node with
    | .array t => [.push property ident (itemMapping mapper doc t).type optional]
    | _ => []

/-- The declaration of an object that a definition of a document holds. -/
def ofObject (mapper : TypeMapper) (doc : Document) (id : Nsid) (definition : Definition)
    (object : ObjectType) (key : Option String) : Declaration :=
  let idents := identsFrom [] (Entries.keys object.properties)
  let properties := object.properties.zip idents
  { name := Layout.typeName id
    id
    key
    summary := summaryOf doc id definition object key
    required := object.required
    fields := properties.map fun ((property, node), ident) =>
      fieldOf mapper doc id object property ident node
    accessors := properties.flatMap fun ((property, node), ident) =>
      accessorsOf mapper doc object property ident node }

/-- The paths that the properties of an object need in scope. -/
def importsOf (mapper : TypeMapper) (doc : Document) (object : ObjectType) : List String :=
  object.properties.flatMap fun (_, node) => mapper.imports (mapper.map node doc)

end Declaration

end Lexicon
