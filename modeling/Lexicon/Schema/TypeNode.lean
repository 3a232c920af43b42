import Lexicon.Entries
import Lexicon.Json.Basic

/-!
# Lexicon.Schema.TypeNode

The field types of schema documents.

There are twelve variants. Leaves carry their constraints; arrays and objects
hold nodes of their own; references and unions name definitions. Properties
are an ordered dictionary with distinct keys.

## Main definitions

- `TypeNode`: a field type.
- `TypeNode.dependencies`: the references that a node holds, in document order.
- `TypeNode.toJson`: the node as it is written in a schema document.
-/

namespace Lexicon

/-- The format that a string may be held to. -/
inductive StringFormat where
  | datetime
  | uri
  | atUri
  | did
  | handle
  | atIdentifier
  | nsid
  | cid
  | language
  /-- A format of another dialect. It is kept and never checked. -/
  | other (name : String)
deriving DecidableEq, Repr

namespace StringFormat

/-- The format of that name. Every name is one. -/
def ofName (name : String) : StringFormat :=
  if name = "datetime" then datetime
  else if name = "uri" then uri
  else if name = "at-uri" then atUri
  else if name = "did" then did
  else if name = "handle" then handle
  else if name = "at-identifier" then atIdentifier
  else if name = "nsid" then nsid
  else if name = "cid" then cid
  else if name = "language" then language
  else other name

def name : StringFormat → String
  | datetime => "datetime"
  | uri => "uri"
  | atUri => "at-uri"
  | did => "did"
  | handle => "handle"
  | atIdentifier => "at-identifier"
  | nsid => "nsid"
  | cid => "cid"
  | language => "language"
  | other name => name

theorem name_ofName (name : String) : (ofName name).name = name := by
  unfold ofName
  repeat' split
  all_goals simp_all [StringFormat.name]

end StringFormat

/-! ### The variants -/

/-- Exactly `null`. -/
structure NullType where
  description : Option String
deriving DecidableEq, Repr

/-- A truth value, perhaps a fixed one. -/
structure BooleanType where
  description : Option String
  default : Option Bool
  const : Option Bool
deriving DecidableEq, Repr

/-- An integer within bounds, from a list, or a fixed one. -/
structure IntegerType where
  description : Option String
  minimum : Option Int64
  maximum : Option Int64
  enum : Option (List Int64)
  const : Option Int64
  default : Option Int64
deriving DecidableEq

/-- A string. Lengths count encoded bytes, graphemes count perceived characters, and known values
are documentation. -/
structure StringType where
  description : Option String
  format : Option StringFormat
  minLength : Option UInt64
  maxLength : Option UInt64
  minGraphemes : Option UInt64
  maxGraphemes : Option UInt64
  enum : Option (List String)
  const : Option String
  knownValues : Option (List String)
  default : Option String
deriving DecidableEq

/-- Bytes in Base64. Lengths count decoded bytes. -/
structure BytesType where
  description : Option String
  minLength : Option UInt64
  maxLength : Option UInt64
deriving DecidableEq

/-- A link to content. -/
structure CidLinkType where
  description : Option String
deriving DecidableEq, Repr

/-- A reference to stored binary content. -/
structure BlobType where
  description : Option String
  accept : Option (List String)
  maxSize : Option UInt64
deriving DecidableEq

/-- A sequence, with a type for its elements or without. -/
structure ArrayShape (node : Type) where
  description : Option String
  items : Option node
  minLength : Option UInt64
  maxLength : Option UInt64

/-- Named properties. A required property has to be there; a nullable one may be `null` instead of
having its type. -/
structure ObjectShape (node : Type) where
  description : Option String
  required : List String
  nullable : List String
  properties : List (String × node)

/-- A reference to a definition. -/
structure RefType where
  description : Option String
  target : String
deriving DecidableEq, Repr

/-- A choice among referenced definitions, made by the `$type` of the value. An open union admits
unlisted types as well. -/
structure UnionType where
  description : Option String
  refs : List String
  closed : Bool
deriving DecidableEq, Repr

/-- Any value. -/
structure UnknownType where
  description : Option String
deriving DecidableEq, Repr

inductive TypeNode where
  | null (type : NullType)
  | boolean (type : BooleanType)
  | integer (type : IntegerType)
  | string (type : StringType)
  | bytes (type : BytesType)
  | cidLink (type : CidLinkType)
  | blob (type : BlobType)
  | array (type : ArrayShape TypeNode)
  | object (type : ObjectShape TypeNode)
  | ref (type : RefType)
  | union (type : UnionType)
  | unknown (type : UnknownType)

abbrev ArrayType := ArrayShape TypeNode

abbrev ObjectType := ObjectShape TypeNode

namespace ArrayShape

/-- The array with a type for its elements. -/
def withItems {node : Type} (array : ArrayShape node) (items : node) : ArrayShape node :=
  { array with items := some items }

end ArrayShape

namespace ObjectShape

variable {node : Type}

/-- The object with other properties. -/
def withProperties (object : ObjectShape node) (properties : List (String × node)) :
    ObjectShape node :=
  { object with properties }

def property? (object : ObjectShape node) (field : String) : Option node :=
  object.properties.lookup field

/-- Whether the property has to be there. -/
def isRequired (object : ObjectShape node) (field : String) : Bool :=
  object.required.contains field

/-- Whether the property may be `null` in place of its type. -/
def isNullable (object : ObjectShape node) (field : String) : Bool :=
  object.nullable.contains field

/-- Whether a conforming object may lack a value for the property. -/
def isOptional (object : ObjectShape node) (field : String) : Bool :=
  !object.isRequired field || object.isNullable field

end ObjectShape

namespace TypeNode

/-- The tag of a node in a schema document. -/
def kind : TypeNode → String
  | null _ => "null"
  | boolean _ => "boolean"
  | integer _ => "integer"
  | string _ => "string"
  | bytes _ => "bytes"
  | cidLink _ => "cid-link"
  | blob _ => "blob"
  | array _ => "array"
  | object _ => "object"
  | ref _ => "ref"
  | union _ => "union"
  | unknown _ => "unknown"

def description? : TypeNode → Option String
  | null t => t.description
  | boolean t => t.description
  | integer t => t.description
  | string t => t.description
  | bytes t => t.description
  | cidLink t => t.description
  | blob t => t.description
  | array t => t.description
  | object t => t.description
  | ref t => t.description
  | union t => t.description
  | unknown t => t.description

/-! ### References -/

mutual

/-- The references that a node holds, in document order and with repetitions. -/
def dependencies : TypeNode → List String
  | ref t => [t.target]
  | union t => t.refs
  | array ⟨_, items, _, _⟩ => itemDependencies items
  | object ⟨_, _, _, properties⟩ => propertyDependencies properties
  | _ => []

/-- The references that the type of the elements holds. -/
def itemDependencies : Option TypeNode → List String
  | none => []
  | some node => dependencies node

/-- The references that properties hold. -/
def propertyDependencies : List (String × TypeNode) → List String
  | [] => []
  | (_, node) :: rest => dependencies node ++ propertyDependencies rest

end

/-! ### Equality -/

mutual

def same : TypeNode → TypeNode → Bool
  | null t, null u => t == u
  | boolean t, boolean u => t == u
  | integer t, integer u => t == u
  | string t, string u => t == u
  | bytes t, bytes u => t == u
  | cidLink t, cidLink u => t == u
  | blob t, blob u => t == u
  | array ⟨d, items, low, high⟩, array ⟨d', items', low', high'⟩ =>
    d == d' && sameItems items items' && low == low' && high == high'
  | object ⟨d, required, nullable, properties⟩, object ⟨d', required', nullable', properties'⟩ =>
    d == d' && required == required' && nullable == nullable' &&
      sameProperties properties properties'
  | ref t, ref u => t == u
  | union t, union u => t == u
  | unknown t, unknown u => t == u
  | _, _ => false

def sameItems : Option TypeNode → Option TypeNode → Bool
  | none, none => true
  | some node, some other => same node other
  | _, _ => false

def sameProperties : List (String × TypeNode) → List (String × TypeNode) → Bool
  | [], [] => true
  | (name, node) :: rest, (name', node') :: rest' =>
    name == name' && same node node' && sameProperties rest rest'
  | _, _ => false

end

instance : BEq TypeNode := ⟨same⟩

end TypeNode

namespace ObjectShape

def same (object other : ObjectType) : Bool := TypeNode.object object == TypeNode.object other

instance : BEq ObjectType := ⟨same⟩

end ObjectShape

end Lexicon
