import Lexicon.Generation.TypeMapper

/-!
# Lexicon.Generation.Inline

Which structs lie inside which.

A struct holds another one inline when a property of it maps to that struct,
aliases followed and lists apart. Where the inline structs lead back to the
struct itself, a field has to be put on the heap. The structs that can be
reached are collected in rounds until a round adds none.

## Main definitions

- `Reach.close`: the closure of a list under a successor function.
- `TypeMapper.leadsBack`: whether a struct reaches another through its fields.
-/

namespace Lexicon

namespace Reach

variable {α : Type} [DecidableEq α]

/-- The list with the successors of its members that are not in it yet. -/
def step (next : α → List α) (seen : List α) : List α :=
  seen ++ ((seen.flatMap next).eraseDups.filter fun a => !seen.contains a)

/-- The list after at most `rounds` steps, or as soon as a step adds nothing. -/
def close (next : α → List α) : Nat → List α → List α
  | 0, seen => seen
  | rounds + 1, seen =>
    let larger := step next seen
    -- A step only appends, so an equal length means that nothing is missing.
    if larger.length = seen.length then seen else close next rounds larger

end Reach

namespace TypeMapper

/-- The object of the struct of an identifier, and the document that declares it. -/
def structOf? (registry : Option Registry) (doc : Document) (id : Nsid) :
    Option (Document × ObjectType) := do
  let owner ← owner? registry doc id
  let definition ← owner.definition? id.definitionName
  let object ← definition.object?
  return (owner, object)

/-- The structs that the struct of an identifier holds inline. -/
def inlineStructs (mapper : TypeMapper) (doc : Document) (id : Nsid) : List Nsid :=
  match structOf? mapper.registry doc id with
  | none => []
  | some (owner, object) =>
    object.properties.filterMap fun (_, node) => (mapper.map node owner).target?

/-- The number of properties that the structs of a document have. -/
def propertyCount (doc : Document) : Nat :=
  (doc.definitions.flatMap fun (_, definition) =>
    (definition.object?.map (·.properties)).getD []).length

/-- A bound on the number of structs that can be reached: each one but the first is named by a
property of a struct. -/
def structBound (mapper : TypeMapper) (doc : Document) : Nat :=
  let known := (mapper.registry.map (·.documents)).getD []
  (doc :: known).foldl (fun bound other => bound + propertyCount other) 1

/-- The structs that can be reached from a struct through inline fields, itself included. -/
def reachable (mapper : TypeMapper) (doc : Document) (start : Nsid) : List Nsid :=
  Reach.close (mapper.inlineStructs doc) (mapper.structBound doc) [start]

/-- Whether a struct reaches another one through inline fields. -/
def leadsBack (mapper : TypeMapper) (doc : Document) (start goal : Nsid) : Bool :=
  (mapper.reachable doc start).contains goal

end TypeMapper

end Lexicon
