import Lexicon.Schema.Fields
import Lexicon.Schema.TypeNode

/-!
# Lexicon.Schema.Parser

Reading field types from schema documents.

A node is read in two steps: first its own keys (`TypeNode.parseShallow`), then
its children, which are attached to it (`TypeNode.parse`). So the faults of a
node come before those of its children. Unknown keys are ignored; unknown tags
are not.
-/

namespace Lexicon

/-- The tags of definitions that are no field types. -/
def definitionTags : List String := ["record", "query", "procedure", "subscription", "token"]

namespace IntegerType

/-- Reads the keys of an integer. -/
def ofFields (f : Fields) : Except ParseError IntegerType := do
  let parsed : IntegerType := {
    description := ← f.description
    minimum := ← f.int64? "minimum"
    maximum := ← f.int64? "maximum"
    enum := ← f.int64s? "enum"
    const := ← f.int64? "const"
    default := ← f.int64? "default" }
  -- An empty range is a fault of the node only when all of its keys can be read.
  match parsed.minimum, parsed.maximum with
  | some minimum, some maximum =>
    if maximum.toInt < minimum.toInt then
      .error (f.invalid "minimum" (.emptyRange minimum.toInt maximum.toInt))
    else .ok parsed
  | _, _ => .ok parsed

end IntegerType

namespace StringType

/-- Reads the keys of a string. -/
def ofFields (f : Fields) : Except ParseError StringType := do
  return {
    description := ← f.description
    format := (← f.text? "format").map StringFormat.ofName
    minLength := ← f.uint64? "minLength"
    maxLength := ← f.uint64? "maxLength"
    minGraphemes := ← f.uint64? "minGraphemes"
    maxGraphemes := ← f.uint64? "maxGraphemes"
    enum := ← f.texts? "enum"
    const := ← f.text? "const"
    knownValues := ← f.texts? "knownValues"
    default := ← f.text? "default" }

end StringType

namespace ObjectShape

/-- Reads the keys of an object, its properties apart. -/
def ofFields (f : Fields) : Except ParseError ObjectType := do
  return {
    description := ← f.description
    required := (← f.texts? "required").getD []
    nullable := (← f.texts? "nullable").getD []
    properties := [] }

end ObjectShape

namespace UnionType

/-- Reads the keys of a union. The members are read before the documentation. -/
def ofFields (f : Fields) : Except ParseError UnionType := do
  let refs ← f.required "refs" .texts (Fields.viewList Fields.viewText)
  return { description := ← f.description, refs, closed := (← f.bool? "closed").getD false }

end UnionType

namespace TypeNode

/-- Reads a node of the given tag without its children. -/
def ofMembers (tag : String) (members : List (String × Json)) : Except ParseError TypeNode :=
  let f : Fields := { variant := tag, members }
  match tag with
  | "null" => do return .null { description := ← f.description }
  | "boolean" => do
    return .boolean {
      description := ← f.description
      default := ← f.bool? "default"
      const := ← f.bool? "const" }
  | "integer" => do return .integer (← IntegerType.ofFields f)
  | "string" => do return .string (← StringType.ofFields f)
  | "bytes" => do
    return .bytes {
      description := ← f.description
      minLength := ← f.uint64? "minLength"
      maxLength := ← f.uint64? "maxLength" }
  | "cid-link" => do return .cidLink { description := ← f.description }
  | "blob" => do
    return .blob {
      description := ← f.description
      accept := ← f.texts? "accept"
      maxSize := ← f.uint64? "maxSize" }
  | "array" => do
    return .array {
      description := ← f.description
      items := none
      minLength := ← f.uint64? "minLength"
      maxLength := ← f.uint64? "maxLength" }
  | "object" => do return .object (← ObjectShape.ofFields f)
  | "ref" => do return .ref { description := ← f.description, target := ← f.text "ref" }
  | "union" => do return .union (← UnionType.ofFields f)
  | "unknown" => do return .unknown { description := ← f.description }
  | other =>
    if definitionTags.contains other then .error (.here (.misplacedTag other))
    else .error (.here (.unknownTag other))

/-- Reads a node without its children. -/
def parseShallow (value : Json) : Except ParseError TypeNode := do
  let f ← Fields.of "type" value
  ofMembers (← f.text "type") f.members

/-- Reads the properties of an object node. The reader is handed the children together with the
fact that they are smaller than the node. -/
def parsePropertiesWith (variant : String) (value : Json)
    (read : (child : Json) → sizeOf child < sizeOf value → Except ParseError TypeNode) :
    Except ParseError (List (String × TypeNode)) := do
  let f ← Fields.of variant value
  match h : value.get? "properties" with
  | none => .ok []
  | some (.obj members) =>
    let properties ← members.attach.mapM fun (entry : { e // e ∈ members }) =>
      let smaller : sizeOf entry.1.2 < sizeOf value :=
        Nat.lt_trans (Json.sizeOf_lt_of_mem_members entry.2) (Json.sizeOf_lt_of_get? h)
      match read entry.1.2 smaller with
      | .ok node => .ok (entry.1.1, node)
      | .error e => .error (e.inside ("properties/" ++ entry.1.1))
    .ok (Entries.ofPairs properties)
  | some other => .error (f.invalid "properties" (.wrongShape .object other.kind))

/-- Reads a node with all of its children. -/
def parse (value : Json) : Except ParseError TypeNode := do
  match ← parseShallow value with
  | .array t =>
    match h : value.get? "items" with
    | none => .ok (.array t)
    | some child =>
      have : sizeOf child < sizeOf value := Json.sizeOf_lt_of_get? h
      match parse child with
      | .ok items => .ok (.array (t.withItems items))
      | .error e => .error (e.inside "items")
  | .object t => do
    let properties ← parsePropertiesWith "object" value fun child _ => parse child
    .ok (.object (t.withProperties properties))
  | node => .ok node
termination_by sizeOf value

/-- Reads the properties of an object node with all of their children. -/
def parseProperties (variant : String) (value : Json) :
    Except ParseError (List (String × TypeNode)) :=
  parsePropertiesWith variant value fun child _ => parse child

end TypeNode

end Lexicon
