import Lexicon.Schema.TypeNode

/-!
# Lexicon.Schema.Printer

Field types as they are written in schema documents.

The tag comes first, then the documentation, then the keys of the variant in a
fixed order. An absent constraint, an empty list of names and an empty
dictionary are left out.
-/

namespace Lexicon

namespace TypeNode

/-- A key that is left out when it has no value. -/
def member {α : Type} (key : String) (write : α → Json) : Option α → List (String × Json)
  | none => []
  | some a => [(key, write a)]

/-- An unsigned integer. -/
def jsonOfUInt64 (n : UInt64) : Json := .int n.toNat

/-- A signed integer. -/
def jsonOfInt64 (n : Int64) : Json := .int n.toInt

/-- A list of texts. -/
def jsonOfTexts (texts : List String) : Json := .arr (texts.map .str)

/-- A list of texts that is left out when it is empty. -/
def textsMember (key : String) (texts : List String) : List (String × Json) :=
  if texts.isEmpty then [] else [(key, jsonOfTexts texts)]

/-- The tag of a node and its documentation. -/
def header (tag : String) (description : Option String) : List (String × Json) :=
  ("type", .str tag) :: member "description" .str description

/-- The constraints of a truth value. -/
def booleanMembers (t : BooleanType) : List (String × Json) :=
  member "default" .bool t.default ++ member "const" .bool t.const

/-- The constraints of an integer. -/
def integerMembers (t : IntegerType) : List (String × Json) :=
  member "minimum" jsonOfInt64 t.minimum ++ member "maximum" jsonOfInt64 t.maximum ++
    member "enum" (fun ns => .arr (ns.map jsonOfInt64)) t.enum ++
    member "const" jsonOfInt64 t.const ++ member "default" jsonOfInt64 t.default

/-- The constraints of a string. -/
def stringMembers (t : StringType) : List (String × Json) :=
  member "format" (fun f => .str f.name) t.format ++
    member "minLength" jsonOfUInt64 t.minLength ++ member "maxLength" jsonOfUInt64 t.maxLength ++
    member "minGraphemes" jsonOfUInt64 t.minGraphemes ++
    member "maxGraphemes" jsonOfUInt64 t.maxGraphemes ++
    member "enum" jsonOfTexts t.enum ++ member "const" .str t.const ++
    member "knownValues" jsonOfTexts t.knownValues ++ member "default" .str t.default

mutual

/-- A node as it is written in a schema document. -/
def toJson : TypeNode → Json
  | null t => .obj (header "null" t.description)
  | boolean t => .obj (header "boolean" t.description ++ booleanMembers t)
  | integer t => .obj (header "integer" t.description ++ integerMembers t)
  | string t => .obj (header "string" t.description ++ stringMembers t)
  | bytes t =>
    .obj (header "bytes" t.description ++ member "minLength" jsonOfUInt64 t.minLength ++
      member "maxLength" jsonOfUInt64 t.maxLength)
  | cidLink t => .obj (header "cid-link" t.description)
  | blob t =>
    .obj (header "blob" t.description ++ member "accept" jsonOfTexts t.accept ++
      member "maxSize" jsonOfUInt64 t.maxSize)
  | array ⟨description, items, minLength, maxLength⟩ =>
    .obj (header "array" description ++ itemsMember items ++
      member "minLength" jsonOfUInt64 minLength ++ member "maxLength" jsonOfUInt64 maxLength)
  | object ⟨description, required, nullable, properties⟩ =>
    .obj (objectMembers "object" description required nullable (propertiesJson properties))
  | ref t => .obj (header "ref" t.description ++ [("ref", .str t.target)])
  | union t =>
    .obj (header "union" t.description ++ [("refs", jsonOfTexts t.refs)] ++
      if t.closed then [("closed", .bool true)] else [])
  | unknown t => .obj (header "unknown" t.description)

/-- The key for the type of the elements. -/
def itemsMember : Option TypeNode → List (String × Json)
  | none => []
  | some node => [("items", toJson node)]

/-- The properties by name. -/
def propertiesJson : List (String × TypeNode) → List (String × Json)
  | [] => []
  | (name, node) :: rest => (name, toJson node) :: propertiesJson rest

/-- The members of an object node under the given tag. -/
def objectMembers (tag : String) (description : Option String) (required nullable : List String)
    (properties : List (String × Json)) : List (String × Json) :=
  header tag description ++ textsMember "required" required ++ textsMember "nullable" nullable ++
    if properties.isEmpty then [] else [("properties", .obj properties)]

end

end TypeNode

namespace ObjectShape

/-- An object as it is written in a schema document under the given tag. -/
def toJson (tag : String) (object : ObjectType) : Json :=
  .obj (TypeNode.objectMembers tag object.description object.required object.nullable
    (TypeNode.propertiesJson object.properties))

end ObjectShape

end Lexicon
