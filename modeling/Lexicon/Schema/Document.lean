import Lexicon.Identifier.Reference
import Lexicon.Json.Parser
import Lexicon.Schema.Definition

/-!
# Lexicon.Schema.Document

Schema documents: an identifier and named definitions in document order.

A document is read in two passes. The first fixes the names and reads every
definition without its children; the second attaches the children. So a fault
in the keys of any definition comes before a fault in the children of an
earlier one. Last come the references, which have to be well formed but may
name definitions that do not exist.

## Main definitions

- `Document.parse`: reads a document.
- `Document.definition?`: a definition by name.
- `Document.toJson`: writes a document.
-/

namespace Lexicon

/-- A schema document. -/
structure Document where
  /-- The version of the schema language. -/
  lexicon : UInt64
  /-- The identifier, which carries no fragment. -/
  id : Nsid
  revision : Option UInt64
  description : Option String
  /-- The definitions by name, in document order and with distinct names. -/
  definitions : List (String × Definition)

namespace Document

def definition? (doc : Document) (name : String) : Option Definition :=
  doc.definitions.lookup name

def main? (doc : Document) : Option Definition := doc.definition? mainDefinition

/-- A definition by a local reference: `#name`, the bare name, or nothing for the main one. -/
def resolveLocal? (doc : Document) (reference : String) : Option Definition :=
  let name := (Text.dropStart? "#" reference).getD reference
  doc.definition? (if name.isEmpty then mainDefinition else name)

/-- The identifier of a definition, when its name can be a fragment. -/
def idOf? (doc : Document) (name : String) : Option Nsid := (doc.id.withFragment name).toOption

/-! ### Reading -/

/-- The version of the schema language, which any unsigned integer may be. -/
def parseVersion (f : Fields) : Except ParseError UInt64 :=
  f.required "lexicon" .integer Fields.viewUInt64

/-- The identifier of the document. -/
def parseId (f : Fields) : Except ParseError Nsid := do
  let id ← (Nsid.parse (← f.text "id")).mapError .identifier
  if id.isMain then .ok id else .error (f.invalid "id" (.fragment id))

/-- The named raw definitions. -/
def rawDefinitions (f : Fields) : Except ParseError (List (String × Json)) :=
  match f.raw? "defs" with
  | some (.obj members) => .ok members
  | some other => .error (f.invalid "defs" (.wrongShape .object other.kind))
  | none => .error (f.missing "defs")

/-- The tag of a raw definition, or nothing when it is none. -/
def rawTag (raw : Json) : String := ((raw.get? "type").bind Json.asString?).getD ""

/-- Reads one definition without its children. Only the main definition may be a record or an
endpoint. -/
def parseShallowEntry (entry : String × Json) : Except ParseError (String × Definition) :=
  let (name, raw) := entry
  let tag := rawTag raw
  insideOf ("defs/" ++ name) do
    -- The place is checked by the raw tag, before the definition itself is read.
    if name ≠ mainDefinition && tag ≠ "token" && definitionTags.contains tag then
      .error (.here (.misplacedTag tag))
    else return (name, ← Definition.parseShallow raw)

/-- Attaches the children of one definition. -/
def attachEntry (raws : List (String × Json)) (entry : String × Definition) :
    Except ParseError (String × Definition) :=
  let (name, shallow) := entry
  insideOf ("defs/" ++ name) do
    return (name, ← shallow.attachChildren ((raws.lookup name).getD .null))

/-- The named definitions, in both passes. -/
def parseDefinitions (raws : List (String × Json)) :
    Except ParseError (List (String × Definition)) := do
  let shallow ← raws.mapM parseShallowEntry
  -- A repeated name keeps its first place and its last definition.
  let full ← (Entries.ofPairs shallow).mapM (attachEntry raws)
  return Entries.ofPairs full

/-- Refuses a malformed reference. -/
def checkReference (name reference : String) : Except ParseError Unit :=
  match Reference.parse reference with
  | .ok _ => .ok ()
  | .error reason =>
    .error (.node ["defs/" ++ name] (.invalidKey "ref" "ref" (.badReference reason)))

/-- Refuses the first malformed reference, in document order. -/
def checkReferences (definitions : List (String × Definition)) : Except ParseError Unit :=
  definitions.forM fun (name, definition) =>
    definition.dependencies.forM (checkReference name)

/-- Reads a document. -/
def parse (value : Json) : Except ParseError Document := do
  let f ← Fields.of "document" value
  let lexicon ← parseVersion f
  let id ← parseId f
  let definitions ← parseDefinitions (← rawDefinitions f)
  -- A fault in these two keys comes after every fault in a definition.
  let revision ← f.uint64? "revision"
  let description ← f.description
  checkReferences definitions
  return { lexicon, id, revision, description, definitions }

/-- Reads a document from its JSON text. -/
def parseText (text : String) : Except ParseError Document :=
  match Json.parse? text with
  | some value => parse value
  | none => .error .notJson

/-! ### Writing -/

def toJson (doc : Document) : Json :=
  .obj ([("lexicon", TypeNode.jsonOfUInt64 doc.lexicon), ("id", .str doc.id.text)] ++
    TypeNode.member "revision" TypeNode.jsonOfUInt64 doc.revision ++
    TypeNode.member "description" .str doc.description ++
    [("defs", .obj (doc.definitions.map fun (name, definition) => (name, definition.toJson)))])

/-- Whether two documents are the same. -/
def same (a b : Document) : Bool :=
  a.lexicon == b.lexicon && a.id == b.id && a.revision == b.revision &&
    a.description == b.description && a.definitions == b.definitions

instance : BEq Document := ⟨same⟩

end Document

end Lexicon
