import Lexicon.Schema.Union

/-!
# Lexicon.Generation.DocType

Schema types in words, for documentation.

A type is written in the vocabulary of schemas, with references made absolute
(`array<string>`, or the members of a closed union joined by bars); its
constraints are listed one by one.
-/

namespace Lexicon

namespace DocType

/-- A reference made absolute; a malformed one is kept. -/
def absolute (doc : Document) (reference : String) : String :=
  match (Reference.parse reference).bind (·.absolute doc.id) with
  | .ok id => id.text
  | .error _ => reference

/-- The members of a closed union, or any value. -/
def ofUnion (doc : Document) (union : UnionType) : String :=
  if union.closed && !union.refs.isEmpty then
    let resolver := UnionResolver.ofScope (some doc)
    String.intercalate " | " (union.refs.map resolver.normalize)
  else "unknown"

mutual

/-- The type of a node in words. -/
def ofNode (doc : Document) : TypeNode → String
  | .array ⟨_, items, _, _⟩ => "array<" ++ ofItems doc items ++ ">"
  | .object ⟨_, required, nullable, properties⟩ =>
    if properties.isEmpty then "\x7b\x7d"
    else
      "\x7b " ++ String.intercalate ", " (ofProperties doc required nullable properties) ++ " \x7d"
  | .ref t => absolute doc t.target
  | .union t => ofUnion doc t
  | node => node.kind

/-- The type of the elements of an array in words. -/
def ofItems (doc : Document) : Option TypeNode → String
  | none => "unknown"
  | some node => ofNode doc node

/-- The properties of an object in words, each with its name. -/
def ofProperties (doc : Document) (required nullable : List String) :
    List (String × TypeNode) → List String
  | [] => []
  | (name, node) :: rest =>
    (name ++ (if required.contains name then ": " else "?: ") ++ ofNode doc node ++
      (if nullable.contains name then " | null" else "")) ::
      ofProperties doc required nullable rest

end

/-- The type of a property in words. -/
def ofField? (object : ObjectType) (field : String) (doc : Document) : Option String :=
  (object.property? field).map fun node =>
    ofNode doc node ++ if object.isNullable field then " | null" else ""

/-! ### Constraints -/

/-- One constraint: its name and its value. -/
def constraint {α : Type} (name : String) (print : α → String) : Option α → List String
  | none => []
  | some a => [name ++ " " ++ print a]

/-- A constraint with a list of values. -/
def listConstraint {α : Type} (name : String) (print : α → String) (values : Option (List α)) :
    List String :=
  constraint name (fun values => "[" ++ String.intercalate ", " (values.map print) ++ "]") values

/-- A text between plain quotes. -/
def plainQuoted (s : String) : String := "\"" ++ s ++ "\""

/-- A signed integer in digits. -/
def ofInt64 (n : Int64) : String := toString n.toInt

/-- An unsigned integer in digits. -/
def ofUInt64 (n : UInt64) : String := toString n.toNat

/-- The constraints of a node, one entry each. -/
def constraints : TypeNode → List String
  | .boolean t => constraint "const" toString t.const ++ constraint "default" toString t.default
  | .integer t =>
    constraint "minimum" ofInt64 t.minimum ++ constraint "maximum" ofInt64 t.maximum ++
      listConstraint "enum" ofInt64 t.enum ++ constraint "const" ofInt64 t.const ++
      constraint "default" ofInt64 t.default
  | .string t =>
    constraint "format" StringFormat.name t.format ++
      constraint "minLength" ofUInt64 t.minLength ++ constraint "maxLength" ofUInt64 t.maxLength ++
      constraint "minGraphemes" ofUInt64 t.minGraphemes ++
      constraint "maxGraphemes" ofUInt64 t.maxGraphemes ++
      listConstraint "enum" id t.enum ++ listConstraint "knownValues" id t.knownValues ++
      constraint "const" plainQuoted t.const ++ constraint "default" plainQuoted t.default
  | .bytes t =>
    constraint "minLength" ofUInt64 t.minLength ++ constraint "maxLength" ofUInt64 t.maxLength
  | .blob t => listConstraint "accept" id t.accept ++ constraint "maxSize" ofUInt64 t.maxSize
  | .array ⟨_, some items, minLength, maxLength⟩ =>
    constraint "minLength" ofUInt64 minLength ++ constraint "maxLength" ofUInt64 maxLength ++
      (constraints items).map ("items " ++ ·)
  | .array ⟨_, none, minLength, maxLength⟩ =>
    constraint "minLength" ofUInt64 minLength ++ constraint "maxLength" ofUInt64 maxLength
  | .union t => if t.closed then ["closed"] else []
  | _ => []

end DocType

end Lexicon
