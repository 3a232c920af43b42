import Lexicon.Schema.Document
import Lexicon.Sorted

/-!
# Lexicon.Schema.Registry

The known schema documents.

A registry holds at most one document under each identifier; a document that
is registered again takes the place of the earlier one.
-/

namespace Lexicon

/-- The known documents. -/
structure Registry where
  documents : List Document

namespace Registry

/-- The registry without documents. -/
def empty : Registry := { documents := [] }

/-- The document under an identifier. The fragment does not matter. -/
def get? (registry : Registry) (id : Nsid) : Option Document :=
  registry.documents.find? (·.id = id.base)

/-- Whether a document is known under an identifier. -/
def has (registry : Registry) (id : Nsid) : Bool := (registry.get? id).isSome

/-- Adds a document in place of an earlier one with its identifier. -/
def register (registry : Registry) (doc : Document) : Registry :=
  { documents :=
      if registry.has doc.id then
        registry.documents.map fun other => if other.id = doc.id.base then doc else other
      else registry.documents ++ [doc] }

/-- The registry of a list of documents. -/
def ofDocuments (documents : List Document) : Registry := documents.foldl register empty

/-- The number of documents. -/
def size (registry : Registry) : Nat := registry.documents.length

/-- The identifiers in order. -/
def ids (registry : Registry) : List Nsid :=
  Sorted.ofList Nsid.compare (registry.documents.map (·.id.base))

/-- The definition that an identifier names, and its document. -/
def resolve? (registry : Registry) (id : Nsid) : Option (Document × Definition) := do
  let doc ← registry.get? id
  let definition ← doc.definition? id.definitionName
  return (doc, definition)

end Registry

end Lexicon
