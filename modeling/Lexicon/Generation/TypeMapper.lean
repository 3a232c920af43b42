import Lexicon.Generation.Mapping
import Lexicon.Schema.Registry
import Lexicon.Validation.Resolution

/-!
# Lexicon.Generation.TypeMapper

From schema types to mappings.

A reference to a record or an object is the struct of that definition. A
reference to any other data definition is an alias and stands for that
definition's own type; aliases are followed as many times as the validator
follows references, counted over the whole node. A target that cannot be found
is taken to be a struct that is generated elsewhere.

## Main definition

`TypeMapper.map`: the mapping of a node that stands in a document.
-/

namespace Lexicon

/-- What the mapping of types depends on. -/
structure TypeMapper where
  layout : Layout
  runtime : String
  registry : Option Registry

namespace TypeMapper

/-- The mapping of a node, where `follow` maps the references in it. -/
def mapWith (follow : String → Mapping) : TypeNode → Mapping
  | .null _ => .plain .null
  | .boolean _ => .plain .bool
  | .integer _ => .plain .integer
  | .string t => if t.format = some .datetime then .plain .datetime else .plain .string
  | .bytes _ => .plain .bytes
  | .cidLink _ => .plain .cidLink
  | .blob _ => .plain .blob
  | .array ⟨_, some items, _, _⟩ => .list (mapWith follow items)
  | .array ⟨_, none, _, _⟩ => .list .unknown
  | .object _ => .plain .map
  | .ref t => follow t.target
  | .union _ | .unknown _ => .unknown

/-- The document that a definition is looked up in, and whether it is another one. -/
def owner? (registry : Option Registry) (doc : Document) (id : Nsid) : Option Document :=
  if id.base = doc.id then some doc else registry.bind (·.get? id)

/-- The mapping of a reference that stands in a document, through at most `hops` aliases. -/
def mapReference (registry : Option Registry) : Nat → Document → String → Mapping
  | 0, _, _ => .unknown
  | hops + 1, doc, reference =>
    match (Reference.parse reference).bind (·.absolute doc.id) with
    | .error _ => .unknown
    | .ok id =>
      let external : Bool := id.base ≠ doc.id
      match owner? registry doc id with
      -- What cannot be found is taken to be a struct of another run of the generator.
      | none => .struct id external
      | some owner =>
        match owner.definition? id.definitionName with
        | none => .struct id external
        | some (.record ..) | some (.data (.object _)) => .struct id external
        -- An alias has no struct of its own, and stands for its type where it was written.
        | some (.data node) => mapWith (mapReference registry hops owner) node
        | some _ => .unknown

/-- The mapping of a node that stands in a document. -/
def map (mapper : TypeMapper) (node : TypeNode) (doc : Document) : Mapping :=
  mapWith (mapReference mapper.registry maxHops doc) node

/-- The paths that a mapping needs in scope. -/
def imports (mapper : TypeMapper) (mapping : Mapping) : List String :=
  mapping.imports mapper.layout mapper.runtime

/-- The type of a property, which is optional when a value may be lacking. -/
def fieldType? (mapper : TypeMapper) (object : ObjectType) (field : String) (doc : Document) :
    Option GeneratedType :=
  (object.property? field).map fun node =>
    let type := (mapper.map node doc).type
    if object.isOptional field then .optional type else type

end TypeMapper

end Lexicon
