import Lexicon.Proofs.Declarations
import Lexicon.Proofs.Reachability
import Lexicon.Proofs.Registries

/-!
# Lexicon.Proofs.Boxing

Generated structs have a finite size.

A struct that holds itself, directly or through other structs, would have no
size, so fields on such a cycle are put on the heap. Here the structs of a list
of registered documents form a graph, which is stated without the search that
the generator does.

## Main definitions

- `TypeMapper.Holds`: a property of one struct maps to another struct.
- `TypeMapper.Contains`: a generated field has another struct as its type.

## Main result

`TypeMapper.finiteSizes`: the search finds what can be reached, the boxed
fields are those on cycles, and what is left in place is well founded.

## Proof strategy

Where all documents are registered under their own identifiers, the graph that
the search looks at does not depend on the document that it starts from. A
field in place does not lead back, so fewer structs can be reached from its
type than from the struct that has it.
-/

namespace Lexicon

/-! ### The graph of structs -/

namespace TypeMapper

variable {mapper : TypeMapper} {docs : List Document} {doc : Document}

/-- A property of a struct maps to a struct, through aliases but not inside a list. -/
def HoldsAt (mapper : TypeMapper) (docs : List Document) (source : Nsid) (property : String)
    (target : Nsid) : Prop :=
  ∃ doc ∈ docs, ∃ definition object node, doc.id = source.base ∧
    doc.definition? source.definitionName = some definition ∧
    definition.object? = some object ∧ (property, node) ∈ object.properties ∧
    (mapper.map node doc).target? = some target

/-- Some property of a struct maps to a struct. -/
def Holds (mapper : TypeMapper) (docs : List Document) (source target : Nsid) : Prop :=
  ∃ property, mapper.HoldsAt docs source property target

/-- Zero or more properties lead from one struct to another one. -/
abbrev Leads (mapper : TypeMapper) (docs : List Document) : Nsid → Nsid → Prop :=
  Relation.ReflTransGen (mapper.Holds docs)

/-- The documents are accepted, have distinct identifiers, and are what the mapper knows. -/
structure Registered (mapper : TypeMapper) (docs : List Document) : Prop where
  wellFormed : ∀ doc ∈ docs, doc.WellFormed
  distinct : (docs.map (·.id)).Nodup
  known : mapper.registry = some (.ofDocuments docs)

namespace Registered

variable (registered : mapper.Registered docs)
include registered

theorem main : ∀ doc ∈ docs, doc.id.fragment = none :=
  fun doc inside => (registered.wellFormed doc inside).noFragment

theorem unique {other : Document} (inside : doc ∈ docs) (there : other ∈ docs)
    (same : doc.id = other.id) : doc = other :=
  List.inj_on_of_nodup_map registered.distinct inside there same

theorem owner?_iff (inside : doc ∈ docs) {owner : Document} {id : Nsid} :
    owner? mapper.registry doc id = some owner ↔ owner ∈ docs ∧ owner.id = id.base := by
  rw [owner?, registered.known]
  split
  · next own =>
    constructor
    · rintro ⟨⟩
      exact ⟨inside, own.symm⟩
    · rintro ⟨there, named⟩
      rw [registered.unique inside there (own.symm.trans named.symm)]
  · exact Registry.get?_ofDocuments_iff registered.main registered.distinct

theorem edge_iff (inside : doc ∈ docs) {source target : Nsid} :
    Reach.Edge (mapper.inlineStructs doc) source target ↔ mapper.Holds docs source target := by
  rw [Reach.Edge, mem_inlineStructs]
  constructor
  · rintro ⟨owner, definition, object, property, node, owned, defined, struct, held, mapped⟩
    obtain ⟨there, named⟩ := (registered.owner?_iff inside).mp owned
    exact ⟨property, owner, there, definition, object, node, named, defined, struct, held, mapped⟩
  · rintro ⟨property, owner, there, definition, object, node, named, defined, struct, held, mapped⟩
    have owned := (registered.owner?_iff inside).mpr ⟨there, named⟩
    exact ⟨owner, definition, object, property, node, owned, defined, struct, held, mapped⟩

theorem leadsBack_iff_leads (inside : doc ∈ docs) {start goal : Nsid} :
    mapper.leadsBack doc start goal = true ↔ mapper.Leads docs start goal := by
  have same : Reach.Edge (mapper.inlineStructs doc) = mapper.Holds docs := by
    funext source target
    exact propext (registered.edge_iff inside)
  rw [leadsBack_iff, same]

end Registered

end TypeMapper

/-! ### Boxed fields -/

namespace TypeMapper

variable {mapper : TypeMapper} {docs : List Document} {doc : Document} {declaration : Declaration}
  {field : StructField}

/-- A generated field has a struct as its type, neither boxed nor in a list. -/
def Contains (mapper : TypeMapper) (docs : List Document) (source target : Nsid) : Prop :=
  ∃ doc ∈ docs, ∃ declaration, mapper.Declares doc declaration ∧ declaration.id = source ∧
    ∃ field ∈ declaration.fields, mapper.HoldsAt docs source field.property target ∧
      field.type.present = .struct (Layout.typeName target)

namespace Registered

variable (registered : mapper.Registered docs)
include registered

theorem holdsAt_iff (inside : doc ∈ docs) {source target : Nsid} {definition : Definition}
    {object : ObjectType} (base : source.base = doc.id)
    (defined : doc.definition? source.definitionName = some definition)
    (struct : definition.object? = some object) {property : String} :
    mapper.HoldsAt docs source property target ↔
      ∃ node, (property, node) ∈ object.properties ∧
        (mapper.map node doc).target? = some target := by
  constructor
  · rintro ⟨owner, there, other, part, node, named, found, given, held, mapped⟩
    obtain rfl := registered.unique there inside (named.trans base)
    obtain rfl := Option.some.inj (found.symm.trans defined)
    obtain rfl := Option.some.inj (given.symm.trans struct)
    exact ⟨node, held, mapped⟩
  · rintro ⟨node, held, mapped⟩
    exact ⟨doc, inside, definition, object, node, base.symm, defined, struct, held, mapped⟩

/-- A field is stored for the one mapping that its property has. -/
theorem present_eq_stored (inside : doc ∈ docs) (declares : mapper.Declares doc declaration)
    (declared : field ∈ declaration.fields) :
    ∃ mapping, field.type.present = (Declaration.stored mapper doc declaration.id mapping).1 ∧
      ∀ target, mapper.HoldsAt docs declaration.id field.property target ↔
        mapping.target? = some target := by
  obtain ⟨definition, object, key, base, defined, parts, form⟩ := declares
  have struct := Definition.object?_of_structParts? parts
  have wellFormed := (registered.wellFormed doc inside).of_definition? defined
  rw [form] at declared
  obtain ⟨node, ident, listed, same⟩ := Declaration.mem_fields declared
  refine ⟨mapper.map node doc, ?_, fun target => ?_⟩
  · rw [same]
    exact Declaration.present_fieldOf mapper doc declaration.id object _ ident node
  · rw [registered.holdsAt_iff inside base defined struct]
    constructor
    · rintro ⟨other, held, mapped⟩
      -- Properties have distinct names, so the field is that of this property.
      have distinct := wellFormed.distinct_of_object? struct
      have found := Entries.lookup_of_mem distinct held
      have again := Entries.lookup_of_mem distinct listed
      rw [Option.some.inj (again.symm.trans found)]
      exact mapped
    · exact fun mapped => ⟨node, listed, mapped⟩

theorem present_of_holdsAt (inside : doc ∈ docs) (declares : mapper.Declares doc declaration)
    (declared : field ∈ declaration.fields) {target : Nsid}
    (holds : mapper.HoldsAt docs declaration.id field.property target) :
    (mapper.Leads docs target declaration.id ∧
        field.type.present = .boxed (.struct (Layout.typeName target))) ∨
      (¬mapper.Leads docs target declaration.id ∧
        field.type.present = .struct (Layout.typeName target)) := by
  obtain ⟨mapping, present, targets⟩ := registered.present_eq_stored inside declares declared
  rw [present, Declaration.stored_of_target ((targets target).mp holds),
    ← registered.leadsBack_iff_leads inside]
  by_cases back : mapper.leadsBack doc target declaration.id = true
  · exact .inl ⟨back, if_pos back⟩
  · exact .inr ⟨back, if_neg back⟩

theorem present_ne_boxed (inside : doc ∈ docs) (declares : mapper.Declares doc declaration)
    (declared : field ∈ declaration.fields)
    (plain : ∀ target, ¬mapper.HoldsAt docs declaration.id field.property target)
    (inner : GeneratedType) : field.type.present ≠ .boxed inner := by
  obtain ⟨mapping, present, targets⟩ := registered.present_eq_stored inside declares declared
  have none : mapping.target? = none := by
    rw [Option.eq_none_iff_forall_ne_some]
    exact fun target mapped => plain target ((targets target).mpr mapped)
  rw [present, Declaration.stored_of_no_target none]
  exact mapping.type_ne_boxed inner

theorem exists_field (inside : doc ∈ docs) (declares : mapper.Declares doc declaration)
    {property : String} {target : Nsid}
    (holds : mapper.HoldsAt docs declaration.id property target) :
    ∃ field ∈ declaration.fields, field.property = property := by
  obtain ⟨definition, object, key, base, defined, parts, form⟩ := declares
  have struct := Definition.object?_of_structParts? parts
  obtain ⟨node, held, _⟩ := (registered.holdsAt_iff inside base defined struct).mp holds
  rw [form]
  exact Declaration.exists_field held

/-! ### Fields in place -/

theorem holds_of_contains {source target : Nsid} (contains : mapper.Contains docs source target) :
    mapper.Holds docs source target ∧ ¬mapper.Leads docs target source := by
  obtain ⟨doc, inside, declaration, declares, rfl, field, declared, holds, inPlace⟩ := contains
  refine ⟨⟨field.property, holds⟩, fun back => ?_⟩
  rcases registered.present_of_holdsAt inside declares declared holds with
    ⟨_, boxed⟩ | ⟨forward, _⟩
  · rw [inPlace] at boxed
    cases boxed
  · exact forward back

theorem acyclic (id : Nsid) : ¬Relation.TransGen (mapper.Contains docs) id id := by
  intro cycle
  obtain ⟨target, first, rest⟩ := Relation.TransGen.head'_iff.mp cycle
  obtain ⟨_, forward⟩ := registered.holds_of_contains first
  have back : mapper.Leads docs target id :=
    Relation.ReflTransGen.mono (fun _ _ edge => (registered.holds_of_contains edge).1) _ _ rest
  exact forward back

theorem length_reachable_lt (inside : doc ∈ docs) {source target : Nsid}
    (contains : mapper.Contains docs source target) :
    (mapper.reachable doc target).length < (mapper.reachable doc source).length := by
  have mem_iff (start id : Nsid) :
      id ∈ mapper.reachable doc start ↔ mapper.Leads docs start id := by
    rw [← registered.leadsBack_iff_leads inside, leadsBack, List.contains_iff_mem]
  obtain ⟨edge, forward⟩ := registered.holds_of_contains contains
  have absent : source ∉ mapper.reachable doc target := mt (mem_iff target source).mp forward
  -- All that the target reaches the source reaches too, and besides it reaches itself.
  have distinct : (source :: mapper.reachable doc target).Nodup :=
    List.nodup_cons.mpr ⟨absent, Reach.nodup_close (List.nodup_singleton target) _⟩
  have subset : source :: mapper.reachable doc target ⊆ mapper.reachable doc source := by
    intro id member
    rcases List.mem_cons.mp member with rfl | there
    · exact (mem_iff _ _).mpr .refl
    · exact (mem_iff source id).mpr (.head edge ((mem_iff target id).mp there))
  exact distinct.length_le_of_subset subset

theorem contains_wellFounded :
    WellFounded fun target source => mapper.Contains docs source target := by
  cases docs with
  | nil =>
    refine ⟨fun source => ⟨source, fun target contains => ?_⟩⟩
    obtain ⟨doc, inside, _⟩ := contains
    cases inside
  | cons doc rest =>
    have smaller : ∀ target source, mapper.Contains (doc :: rest) source target →
        (mapper.reachable doc target).length < (mapper.reachable doc source).length :=
      fun _ _ => registered.length_reachable_lt List.mem_cons_self
    exact Subrelation.wf (smaller _ _) (measure fun id => (mapper.reachable doc id).length).wf

end Registered

/-! ### All structs of registered documents -/

/-- The generated structs of documents have a finite size, with no more boxes than needed. -/
structure FiniteSizes (mapper : TypeMapper) (docs : List Document) : Prop where
  /-- The rounds of the search are enough: it would find the same with more of them. -/
  ends : ∀ doc ∈ docs, ∀ start rounds, mapper.structBound doc ≤ rounds →
    Reach.close (mapper.inlineStructs doc) rounds [start] = mapper.reachable doc start
  search : ∀ doc ∈ docs, ∀ start goal,
    mapper.leadsBack doc start goal = true ↔ mapper.Leads docs start goal
  /-- What is said about declarations covers all that are generated. -/
  declared : ∀ doc ∈ docs, ∀ module, SourceModule.ofDocument mapper doc = .ok module →
    ∀ declaration ∈ module.declarations, mapper.Declares doc declaration
  /-- Every property that maps to a struct has a field. -/
  fields : ∀ doc ∈ docs, ∀ declaration, mapper.Declares doc declaration →
    ∀ property target, mapper.HoldsAt docs declaration.id property target →
      ∃ field ∈ declaration.fields, field.property = property
  /-- A field is boxed exactly if it lies on a cycle. -/
  boxed : ∀ doc ∈ docs, ∀ declaration, mapper.Declares doc declaration →
    ∀ field ∈ declaration.fields, ∀ target,
      mapper.HoldsAt docs declaration.id field.property target →
        (field.type.present = .boxed (.struct (Layout.typeName target)) ↔
          mapper.Leads docs target declaration.id)
  inPlace : ∀ doc ∈ docs, ∀ declaration, mapper.Declares doc declaration →
    ∀ field ∈ declaration.fields, ∀ target,
      mapper.HoldsAt docs declaration.id field.property target →
        (field.type.present = .struct (Layout.typeName target) ↔
          ¬mapper.Leads docs target declaration.id)
  /-- Nothing but structs is boxed. -/
  plain : ∀ doc ∈ docs, ∀ declaration, mapper.Declares doc declaration →
    ∀ field ∈ declaration.fields,
      (∀ target, ¬mapper.HoldsAt docs declaration.id field.property target) →
        ∀ inner, field.type.present ≠ .boxed inner
  acyclic : ∀ id, ¬Relation.TransGen (mapper.Contains docs) id id
  /-- No struct is nested in place without end. -/
  wellFounded : WellFounded fun target source => mapper.Contains docs source target

/-- Accepted documents with distinct identifiers that are all registered have structs of finite
size. -/
theorem finiteSizes (accepted : ∀ doc ∈ docs, ∃ value, Document.parse value = .ok doc)
    (distinct : (docs.map (·.id)).Nodup) (known : mapper.registry = some (.ofDocuments docs)) :
    mapper.FiniteSizes docs := by
  have wellFormed := Document.wellFormed_of_accepted accepted
  have registered : mapper.Registered docs := { wellFormed, distinct, known }
  constructor
  case ends => exact fun doc _ start rounds enough => mapper.close_eq_reachable doc start enough
  case search => exact fun doc inside start goal => registered.leadsBack_iff_leads inside
  case declared =>
    intro doc inside module generated declaration listed
    exact SourceModule.declares_of_mem (wellFormed doc inside) generated listed
  case fields =>
    intro doc inside declaration declares property target holds
    exact registered.exists_field inside declares holds
  case boxed =>
    intro doc inside declaration declares field declared target holds
    rcases registered.present_of_holdsAt inside declares declared holds with
      ⟨back, type⟩ | ⟨forward, type⟩
    · exact iff_of_true type back
    · exact iff_of_false (by rw [type]; nofun) forward
  case inPlace =>
    intro doc inside declaration declares field declared target holds
    rcases registered.present_of_holdsAt inside declares declared holds with
      ⟨back, type⟩ | ⟨forward, type⟩
    · exact iff_of_false (by rw [type]; nofun) (not_not_intro back)
    · exact iff_of_true type forward
  case plain =>
    intro doc inside declaration declares field declared plain
    exact registered.present_ne_boxed inside declares declared plain
  case acyclic => exact registered.acyclic
  case wellFounded => exact registered.contains_wellFounded

end TypeMapper

/-! ### An example across documents -/

theorem TypeNode.wellFormed_flags :
    (array ⟨none, some (.boolean ⟨none, none, none⟩), none, none⟩).WellFormed :=
  .array (by simpa using WellFormed.boolean ⟨none, none, none⟩)

/-- A document of one object with the given properties. -/
def objectDocument (id : Nsid) (properties : List (String × TypeNode)) : Document where
  lexicon := 1
  id
  revision := none
  description := none
  definitions := [("main", .data (.object
    { description := none, required := [], nullable := [], properties }))]

theorem wellFormed_objectDocument {id : Nsid} {properties : List (String × TypeNode)}
    (identifier : ∃ text, Nsid.parse text = .ok id) (noFragment : id.fragment = none)
    (distinct : (Entries.keys properties).Nodup)
    (each : ∀ property ∈ properties, property.2.WellFormed) :
    (objectDocument id properties).WellFormed where
  identifier
  noFragment
  distinct := by simp [objectDocument, Entries.keys]
  primary := by
    intro name definition inside primary
    cases List.mem_singleton.mp inside
    cases primary
  definitions := by
    intro name definition inside node held
    cases List.mem_singleton.mp inside
    cases List.mem_singleton.mp held
    exact .object distinct fun name node inside => each (name, node) inside

def nodeDocument : Document :=
  objectDocument ⟨["com", "example"], "node", none⟩
    [("edge", .ref ⟨none, "com.example.edge"⟩), ("label", .ref ⟨none, "com.example.label"⟩)]

def edgeDocument : Document :=
  objectDocument ⟨["com", "example"], "edge", none⟩
    [("end", .ref ⟨none, "com.example.node"⟩), ("label", .ref ⟨none, "com.example.label"⟩)]

def labelDocument : Document :=
  objectDocument ⟨["com", "example"], "label", none⟩ [("shown", .boolean ⟨none, none, none⟩)]

/-- A node has an edge, and an edge leads to a node; both have a label. -/
def graphDocuments : List Document := [nodeDocument, edgeDocument, labelDocument]

theorem wellFormed_graphDocuments : ∀ doc ∈ graphDocuments, doc.WellFormed := by
  have label : (TypeNode.ref ⟨none, "com.example.label"⟩).WellFormed :=
    .ref ⟨.external ⟨["com", "example"], "label", none⟩, by decide⟩
  have edge : (TypeNode.ref ⟨none, "com.example.edge"⟩).WellFormed :=
    .ref ⟨.external ⟨["com", "example"], "edge", none⟩, by decide⟩
  have node : (TypeNode.ref ⟨none, "com.example.node"⟩).WellFormed :=
    .ref ⟨.external ⟨["com", "example"], "node", none⟩, by decide⟩
  simp only [graphDocuments, List.forall_mem_cons, List.not_mem_nil, false_implies, implies_true,
    and_true]
  refine ⟨wellFormed_objectDocument ⟨"com.example.node", by decide⟩ rfl (by decide) ?_,
    wellFormed_objectDocument ⟨"com.example.edge", by decide⟩ rfl (by decide) ?_,
    wellFormed_objectDocument ⟨"com.example.label", by decide⟩ rfl (by decide) ?_⟩
  · simpa using ⟨edge, label⟩
  · simpa using ⟨node, label⟩
  · simpa using TypeNode.WellFormed.boolean ⟨none, none, none⟩

/-- The mapper that knows the documents of graphs. -/
def graphMapper : TypeMapper :=
  { layout := {}, runtime := "lex_runtime", registry := some (.ofDocuments graphDocuments) }

theorem finiteSizes_graphDocuments :
    (∀ doc ∈ graphDocuments, ∃ value, Document.parse value = .ok doc) ∧
      (graphDocuments.map (·.id)).Nodup ∧
      graphMapper.registry = some (.ofDocuments graphDocuments) ∧
      graphMapper.FiniteSizes graphDocuments := by
  have accepted : ∀ doc ∈ graphDocuments, ∃ value, Document.parse value = .ok doc :=
    fun doc inside => ⟨_, Document.parse_toJson (wellFormed_graphDocuments doc inside)⟩
  have distinct : (graphDocuments.map (·.id)).Nodup := by decide
  have known : graphMapper.registry = some (.ofDocuments graphDocuments) := rfl
  exact ⟨accepted, distinct, known, TypeMapper.finiteSizes accepted distinct known⟩

-- An edge and its node are boxed in each other, and no label is.
example : (graphDocuments.map fun doc =>
    (SourceModule.mainDeclaration graphMapper doc).toOption.map fun declaration =>
      declaration.fields.map (·.type)) =
    [some [.optional (.boxed (.struct "Edge")), .optional (.struct "Label")],
      some [.optional (.boxed (.struct "Node")), .optional (.struct "Label")],
      some [.optional .bool]] := by
  decide +kernel

end Lexicon
