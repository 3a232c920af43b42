import Lexicon.Schema.Document

/-!
# Lexicon.Proofs.WellFormed

Which schema documents are well formed.

The conditions are those that the types do not express: the bounds of integers
are in order, the formats of other dialects do not go by the name of a known
one, references can be read, keys are distinct, and only the main definition
is a record or an endpoint.

## Main definitions

- `TypeNode.WellFormed`: the conditions on a field type and all types inside it.
- `Document.WellFormed`: the conditions on a document.
-/

namespace Lexicon

/-! ### Field types -/

/-- When both bounds of an integer are set, they are in order. -/
def IntegerType.Ordered (t : IntegerType) : Prop :=
  ∀ minimum maximum, t.minimum = some minimum → t.maximum = some maximum →
    minimum.toInt ≤ maximum.toInt

/-- A format of another dialect does not have the name of any other format. -/
def StringFormat.Proper (format : StringFormat) : Prop :=
  ∀ name, format = .other name → ∀ known : StringFormat, known.name = name → known = .other name

/-- A reference can be read. -/
def Reference.Formed (text : String) : Prop := ∃ target, Reference.parse text = .ok target

/-- A field type is well formed: it satisfies its conditions, and so do all types inside it. -/
inductive TypeNode.WellFormed : TypeNode → Prop where
  | null (t : NullType) : WellFormed (.null t)
  | boolean (t : BooleanType) : WellFormed (.boolean t)
  | integer {t : IntegerType} (ordered : t.Ordered) : WellFormed (.integer t)
  | string {t : StringType} (proper : ∀ format, t.format = some format → format.Proper) :
      WellFormed (.string t)
  | bytes (t : BytesType) : WellFormed (.bytes t)
  | cidLink (t : CidLinkType) : WellFormed (.cidLink t)
  | blob (t : BlobType) : WellFormed (.blob t)
  | array {t : ArrayType} (items : ∀ node, t.items = some node → WellFormed node) :
      WellFormed (.array t)
  | object {t : ObjectType} (distinct : (Entries.keys t.properties).Nodup)
      (properties : ∀ name node, (name, node) ∈ t.properties → WellFormed node) :
      WellFormed (.object t)
  | ref {t : RefType} (formed : Reference.Formed t.target) : WellFormed (.ref t)
  | union {t : UnionType} (formed : ∀ reference ∈ t.refs, Reference.Formed reference) :
      WellFormed (.union t)
  | unknown (t : UnknownType) : WellFormed (.unknown t)

/-! ### Documents -/

namespace Definition

/-- The field types that a definition holds directly. -/
def nodes : Definition → List TypeNode
  | record _ _ object => [.object object]
  | query _ parameters output _ =>
    (parameters.map .object).toList ++ (output.bind (·.schema)).toList
  | procedure _ parameters input output _ =>
    (parameters.map .object).toList ++ (input.bind (·.schema)).toList ++
      (output.bind (·.schema)).toList
  | subscription _ parameters message _ =>
    (parameters.map .object).toList ++ (message.bind (·.schema)).toList
  | token _ => []
  | data node => [node]

/-- A definition is a record or an endpoint. -/
def IsPrimary : Definition → Prop
  | record .. | query .. | procedure .. | subscription .. => True
  | token _ | data _ => False

/-- All field types of a definition are well formed. -/
def WellFormed (definition : Definition) : Prop :=
  ∀ node ∈ definition.nodes, node.WellFormed

end Definition

/-- A document is well formed. -/
structure Document.WellFormed (doc : Document) : Prop where
  /-- Only reading makes identifiers. -/
  identifier : ∃ text, Nsid.parse text = .ok doc.id
  noFragment : doc.id.fragment = none
  distinct : (Entries.keys doc.definitions).Nodup
  primary : ∀ name definition, (name, definition) ∈ doc.definitions → definition.IsPrimary →
    name = mainDefinition
  definitions : ∀ name definition, (name, definition) ∈ doc.definitions → definition.WellFormed

/-! ### Parts of what is well formed -/

theorem TypeNode.WellFormed.of_items {t : ArrayType} {node : TypeNode}
    (wellFormed : (TypeNode.array t).WellFormed) (given : t.items = some node) :
    node.WellFormed := by
  cases wellFormed with
  | array items => exact items node given

theorem TypeNode.WellFormed.of_property {t : ObjectType} {name : String} {node : TypeNode}
    (wellFormed : (TypeNode.object t).WellFormed) (given : (name, node) ∈ t.properties) :
    node.WellFormed := by
  cases wellFormed with
  | object distinct properties => exact properties name node given

theorem TypeNode.WellFormed.of_ref {t : RefType} (wellFormed : (TypeNode.ref t).WellFormed) :
    Reference.Formed t.target := by
  cases wellFormed with
  | ref formed => exact formed

theorem Document.WellFormed.of_definition? {doc : Document} (wellFormed : doc.WellFormed)
    {name : String} {definition : Definition} (found : doc.definition? name = some definition) :
    definition.WellFormed :=
  wellFormed.definitions name definition (Json.mem_of_lookup found)

/-! ### Formats and references -/

/-- A format is proper exactly if its name stands for it. -/
theorem StringFormat.proper_iff {format : StringFormat} :
    format.Proper ↔ ofName format.name = format := by
  constructor
  · intro proper
    cases format with
    -- The format that goes by the name is a candidate, so it is the other dialect itself.
    | other name => exact proper name rfl (ofName name) (name_ofName name)
    | _ => rfl
  · rintro same name rfl known named
    subst named
    cases known with
    | other name => rfl
    | _ => simp [ofName, StringFormat.name] at same

namespace TypeNode

theorem mem_itemDependencies {items : Option TypeNode} {reference : String} :
    reference ∈ itemDependencies items ↔
      ∃ node, items = some node ∧ reference ∈ node.dependencies := by
  cases items <;> simp [itemDependencies]

theorem mem_propertyDependencies {properties : List (String × TypeNode)} {reference : String} :
    reference ∈ propertyDependencies properties ↔
      ∃ name node, (name, node) ∈ properties ∧ reference ∈ node.dependencies := by
  induction properties with
  | nil => simp [propertyDependencies]
  | cons property rest ih =>
    obtain ⟨key, type⟩ := property
    rw [propertyDependencies, List.mem_append, ih]
    constructor
    · rintro (here | ⟨name, node, inside, held⟩)
      · exact ⟨key, type, List.mem_cons_self, here⟩
      · exact ⟨name, node, List.mem_cons_of_mem _ inside, held⟩
    · rintro ⟨name, node, inside, held⟩
      rcases List.mem_cons.mp inside with same | inside
      · cases same
        exact .inl held
      · exact .inr ⟨name, node, inside, held⟩

/-- All references inside a well-formed type can be read. -/
theorem WellFormed.formed {node : TypeNode} (wellFormed : node.WellFormed) :
    ∀ reference ∈ node.dependencies, Reference.Formed reference := by
  induction wellFormed with
  | @array t items ih =>
    obtain ⟨description, inner, minLength, maxLength⟩ := t
    intro reference inside
    rw [dependencies] at inside
    obtain ⟨node, given, held⟩ := mem_itemDependencies.mp inside
    exact ih node given reference held
  | @object t distinct properties ih =>
    obtain ⟨description, required, nullable, inner⟩ := t
    intro reference inside
    rw [dependencies] at inside
    obtain ⟨name, node, given, held⟩ := mem_propertyDependencies.mp inside
    exact ih name node given reference held
  | ref formed =>
    intro reference inside
    rw [dependencies, List.mem_singleton] at inside
    exact inside ▸ formed
  | union formed => exact formed
  | _ =>
    intro reference inside
    simp [dependencies] at inside

end TypeNode

namespace Definition

theorem dependencies_toList (node : Option TypeNode) :
    node.toList.flatMap TypeNode.dependencies = TypeNode.itemDependencies node := by
  cases node <;> simp [TypeNode.itemDependencies]

theorem dependencies_object (object : ObjectType) :
    (TypeNode.object object).dependencies = TypeNode.propertyDependencies object.properties := by
  obtain ⟨description, required, nullable, properties⟩ := object
  rw [TypeNode.dependencies]

theorem dependencies_objects (object : Option ObjectType) :
    TypeNode.itemDependencies (object.map TypeNode.object) = objectDependencies object := by
  cases object with
  | none => rfl
  | some object => exact dependencies_object object

/-- The references of a definition are those of its field types. -/
theorem dependencies_eq (definition : Definition) :
    definition.dependencies = definition.nodes.flatMap TypeNode.dependencies := by
  cases definition <;>
    simp only [dependencies, nodes, List.flatMap_append, List.flatMap_nil, List.flatMap_singleton,
      dependencies_toList, dependencies_object, dependencies_objects, bodyDependencies]

theorem WellFormed.formed {definition : Definition} (wellFormed : definition.WellFormed) :
    ∀ reference ∈ definition.dependencies, Reference.Formed reference := by
  intro reference inside
  rw [dependencies_eq] at inside
  obtain ⟨node, held, inside⟩ := List.mem_flatMap.mp inside
  exact (wellFormed node held).formed reference inside

end Definition

end Lexicon
