import Lexicon.Schema.Definition

/-!
# Lexicon.Proofs.TypeParsing

Reading field types, as equations.

A node is read without its children, which are attached afterwards. The
definition by recursion hands every child over together with the fact that it
is smaller; here the same is said without such facts.

## Main results

- `TypeNode.parse_eq`: reading is reading without the children and attaching them.
- `TypeNode.parseProperties_eq`: the properties are read one after the other.
-/

namespace Lexicon

namespace TypeNode

/-- Reads one property. -/
def parseProperty (entry : String × Json) : Except ParseError (String × TypeNode) :=
  (insideOf ("properties/" ++ entry.1) (parse entry.2)).map fun node => (entry.1, node)

theorem mapM_attach_parseProperty {members : List (String × Json)}
    {read : { entry // entry ∈ members } → Except ParseError (String × TypeNode)}
    (agree : ∀ entry, read entry = parseProperty entry.1) :
    members.attach.mapM read = members.mapM parseProperty := by
  rw [List.mapM_subtype fun entry inside => agree ⟨entry, inside⟩, List.unattach_attach]

theorem parseProperties_eq (variant : String) (value : Json) :
    parseProperties variant value = (Fields.of variant value).bind fun f =>
      match value.get? "properties" with
      | none => .ok []
      | some (.obj members) => (members.mapM parseProperty).map Entries.ofPairs
      | some other => .error (f.invalid "properties" (.wrongShape .object other.kind)) := by
  unfold parseProperties parsePropertiesWith
  cases Fields.of variant value with
  | error e => rfl
  | ok f =>
    simp only [bind, Except.bind]
    split
    · next absent => simp only [absent]
    · next members found =>
      rw [mapM_attach_parseProperty]
      · simp only [found]
        cases members.mapM parseProperty <;> rfl
      · intro entry
        unfold parseProperty
        cases parse entry.1.2 <;> rfl
    · next other noObject found =>
      simp only [found]

/-- Reading a node is reading its own keys and attaching the children. -/
theorem parse_eq (value : Json) :
    parse value = (parseShallow value).bind (Definition.attachNode value) := by
  -- The children are read by the same function, so only the facts about sizes go away.
  rw [parse]
  cases parseShallow value with
  | error e => rfl
  | ok shallow =>
    simp only [bind, Except.bind]
    cases shallow with
    | array t =>
      simp only [Definition.attachNode]
      split
      · next absent => simp only [absent]
      · next child found =>
        simp only [found]
        cases parse child <;> rfl
    | _ => rfl

end TypeNode

end Lexicon
