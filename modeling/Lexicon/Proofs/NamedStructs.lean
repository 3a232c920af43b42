import Lexicon.Proofs.Boxing

/-!
# Lexicon.Proofs.NamedStructs

The structs that a mapped type names, and the paths that it brings into scope.

Inside its lists a type is a reference at most, and a reference leads through
aliases to a struct at most. The struct belongs to one document and is written
in another: in the one that holds the last reference of the chain. Whether its
path is imported depends on these two, and not on the document that the mapped
type stands in.

## Main definitions

- `TypeNode.reference?`: the reference inside the lists of a type.
- `TypeMapper.LeadsTo`: a reference leads to a struct that is written in a document.
- `TypeMapper.ImportedByPlace`: what a type names, and what it imports for it.

## Main result

`TypeMapper.importedByPlace`: the struct of a definition is in scope of the document
unless the last alias names a definition of its own document, which is another
one; and the path of an own struct is imported where an alias of another
document leads back to it.

## Proof strategy

Lists neither name nor import anything, so they are stripped off both the type
and its mapping. What is left is a reference, and the induction is on the
aliases that may still be followed.
-/

namespace Lexicon

/-! ### Inside lists -/

/-- The struct that a type is, or that it holds. -/
def GeneratedType.struct? : GeneratedType → Option String
  | struct name => some name
  | vec inner | boxed inner | optional inner => inner.struct?
  | _ => none

/-- The struct that an expression reads, or that it reads inside lists. -/
def ReaderExpr.struct? : ReaderExpr → Option String
  | plain _ => none
  | struct name => some name
  | array inner | boxed inner => inner.struct?

/-- The reference inside the lists of a type, if it is one. -/
def TypeNode.reference? : TypeNode → Option String
  | array ⟨_, some items, _, _⟩ => items.reference?
  | ref t => some t.target
  | _ => none

namespace Mapping

/-- The mapping inside lists. -/
def innermost : Mapping → Mapping
  | list item => item.innermost
  | mapping => mapping

variable {mapping : Mapping} {id : Nsid} {external : Bool}

theorem imports_innermost (layout : Layout) (runtime : String) (mapping : Mapping) :
    mapping.innermost.imports layout runtime = mapping.imports layout runtime := by
  induction mapping with
  | list item ih => exact ih
  | _ => rfl

theorem core?_eq_some_iff :
    mapping.core? = some id ↔ ∃ external, mapping.innermost = .struct id external := by
  induction mapping with
  | plain reader => simp [core?, innermost]
  | list item ih => exact ih
  | struct own external => simp [core?, innermost]

/-- The type and the reader of a mapping name the same struct. -/
theorem struct?_type (mapping : Mapping) :
    mapping.type.struct? = mapping.core?.map Layout.typeName := by
  induction mapping with
  | plain reader => cases reader <;> rfl
  | list item ih => exact ih
  | struct id external => rfl

theorem struct?_reader (mapping : Mapping) :
    mapping.reader.struct? = mapping.core?.map Layout.typeName := by
  induction mapping with
  | plain reader => rfl
  | list item ih => exact ih
  | struct id external => rfl

theorem imports_of_innermost (layout : Layout) (runtime : String)
    (inside : mapping.innermost = .struct id external) :
    mapping.imports layout runtime = if external then [layout.qualifiedTypeName id] else [] := by
  rw [← imports_innermost, inside, imports]

/-- What is imported without a struct comes from libraries. -/
theorem imports_of_core?_eq_none (layout : Layout) (runtime : String)
    (plain : mapping.core? = none) :
    ∀ path ∈ mapping.imports layout runtime,
      path ∈ ["chrono::DateTime", "chrono::Utc", runtime ++ "::BlobRef"] := by
  induction mapping with
  | plain reader => cases reader <;> simp +contextual [imports]
  | list item ih => exact ih plain
  | struct id external => cases plain

end Mapping

/-! ### References -/

namespace TypeMapper

variable {registry : Option Registry}

/-- The struct of an identifier is what a reference in a document means: its definition is a record
or an object, or it cannot be found. -/
def IsStruct (registry : Option Registry) (doc : Document) (id : Nsid) : Prop :=
  ∀ owner definition, owner? registry doc id = some owner →
    owner.definition? id.definitionName = some definition →
      ∃ object, definition.object? = some object

namespace IsStruct

variable {doc owner : Document} {id : Nsid}

theorem of_no_owner (owned : owner? registry doc id = none) : IsStruct registry doc id := by
  intro owner definition there
  rw [owned] at there
  cases there

theorem of_no_definition (owned : owner? registry doc id = some owner)
    (found : owner.definition? id.definitionName = none) : IsStruct registry doc id := by
  intro other definition there defined
  obtain rfl := Option.some.inj (owned.symm.trans there)
  rw [found] at defined
  cases defined

theorem of_object? {definition : Definition} {object : ObjectType}
    (owned : owner? registry doc id = some owner)
    (found : owner.definition? id.definitionName = some definition)
    (struct : definition.object? = some object) : IsStruct registry doc id := by
  intro other given there defined
  obtain rfl := Option.some.inj (owned.symm.trans there)
  obtain rfl := Option.some.inj (found.symm.trans defined)
  exact ⟨object, struct⟩

end IsStruct

/-- A reference in a document leads to the struct of an identifier, through fewer than `hops`
aliases. The last reference stands in `place`. -/
inductive LeadsTo (registry : Option Registry) (place : Document) (id : Nsid) :
    Nat → Document → String → Prop where
  | struct {hops : Nat} {reference : String}
      (absolute : (Reference.parse reference).bind (·.absolute place.id) = .ok id)
      (isStruct : IsStruct registry place id) : LeadsTo registry place id (hops + 1) place reference
  | alias {hops : Nat} {doc owner : Document} {reference next : String} {middle : Nsid}
      {node : TypeNode}
      (absolute : (Reference.parse reference).bind (·.absolute doc.id) = .ok middle)
      (owned : owner? registry doc middle = some owner)
      (found : owner.definition? middle.definitionName = some (.data node))
      (noStruct : (Definition.data node).object? = none)
      (refers : node.reference? = some next)
      (rest : LeadsTo registry place id hops owner next) :
      LeadsTo registry place id (hops + 1) doc reference

/-- The three ways in which a reference is mapped while aliases are followed. -/
theorem mapReference_cases (registry : Option Registry) (hops : Nat) (doc : Document)
    (reference : String) :
    mapReference registry (hops + 1) doc reference = .unknown ∨
      (∃ id, (Reference.parse reference).bind (·.absolute doc.id) = .ok id ∧
        IsStruct registry doc id ∧
        mapReference registry (hops + 1) doc reference = .struct id (id.base ≠ doc.id)) ∨
      ∃ id owner node, (Reference.parse reference).bind (·.absolute doc.id) = .ok id ∧
        owner? registry doc id = some owner ∧
        owner.definition? id.definitionName = some (.data node) ∧
        (Definition.data node).object? = none ∧
        mapReference registry (hops + 1) doc reference =
          mapWith (mapReference registry hops owner) node := by
  simp only [mapReference]
  cases absolute : (Reference.parse reference).bind (·.absolute doc.id) with
  | error malformed => exact .inl rfl
  | ok id =>
    dsimp only
    cases owned : owner? registry doc id with
    | none => exact .inr (.inl ⟨id, rfl, .of_no_owner owned, rfl⟩)
    | some owner =>
      dsimp only
      cases found : owner.definition? id.definitionName with
      | none => exact .inr (.inl ⟨id, rfl, .of_no_definition owned found, rfl⟩)
      | some definition =>
        cases definition with
        | record description key object =>
          exact .inr (.inl ⟨id, rfl, .of_object? owned found rfl, rfl⟩)
        | data node =>
          cases node with
          | object object => exact .inr (.inl ⟨id, rfl, .of_object? owned found rfl, rfl⟩)
          | _ => exact .inr (.inr ⟨id, owner, _, rfl, owned, found, rfl, rfl⟩)
        | _ => exact .inl rfl

theorem mapReference_of_isStruct {hops : Nat} {doc : Document} {reference : String} {id : Nsid}
    (absolute : (Reference.parse reference).bind (·.absolute doc.id) = .ok id)
    (isStruct : IsStruct registry doc id) :
    mapReference registry (hops + 1) doc reference = .struct id (id.base ≠ doc.id) := by
  simp only [mapReference, absolute]
  cases owned : owner? registry doc id with
  | none => rfl
  | some owner =>
    dsimp only
    cases found : owner.definition? id.definitionName with
    | none => rfl
    | some definition =>
      obtain ⟨object, struct⟩ := isStruct owner definition owned found
      rcases Definition.object?_eq_some_iff.mp struct with rfl | ⟨description, key, rfl⟩ <;> rfl

theorem mapReference_of_transparent {hops : Nat} {doc owner : Document} {reference : String}
    {id : Nsid}
    {node : TypeNode} (absolute : (Reference.parse reference).bind (·.absolute doc.id) = .ok id)
    (owned : owner? registry doc id = some owner)
    (found : owner.definition? id.definitionName = some (.data node))
    (noStruct : (Definition.data node).object? = none) :
    mapReference registry (hops + 1) doc reference =
      mapWith (mapReference registry hops owner) node := by
  simp only [mapReference, absolute, owned, found]
  cases node with
  | object object => cases noStruct
  | _ => rfl

/-- Inside its lists a type is mapped as its reference is. -/
theorem innermost_mapWith_iff {follow : String → Mapping} {node : TypeNode} {id : Nsid}
    {external : Bool} :
    (mapWith follow node).innermost = .struct id external ↔
      ∃ reference, node.reference? = some reference ∧
        (follow reference).innermost = .struct id external := by
  induction node using TypeNode.list_induction with
  | list description items minLength maxLength ih => exact ih
  | bare description minLength maxLength =>
    simp [mapWith, TypeNode.reference?, Mapping.innermost, Mapping.unknown]
  | single node noList =>
    cases node with
    | array t => exact absurd rfl (noList t)
    | ref t => simp [mapWith, TypeNode.reference?]
    | string t =>
      -- Whether it is a date or not, a string is no struct.
      rw [mapWith]
      split <;> simp [TypeNode.reference?, Mapping.innermost]
    | _ => simp [mapWith, TypeNode.reference?, Mapping.innermost, Mapping.unknown]

/-- A reference is mapped to the struct that it leads to, which counts as one of another document
where it is written in another document than its own. -/
theorem innermost_mapReference_iff {hops : Nat} {doc : Document} {reference : String} {id : Nsid}
    {external : Bool} :
    (mapReference registry hops doc reference).innermost = .struct id external ↔
      ∃ place, LeadsTo registry place id hops doc reference ∧
        external = decide (id.base ≠ place.id) := by
  -- Each alias takes a hop, and the chain goes on in the document that the alias stands in.
  induction hops generalizing doc reference with
  | zero =>
    constructor
    · intro none
      cases none
    · rintro ⟨place, ⟨⟩, _⟩
  | succ hops ih =>
    constructor
    · intro struct
      rcases mapReference_cases registry hops doc reference with
        unknown | ⟨own, absolute, isStruct, mapped⟩ |
          ⟨middle, owner, node, absolute, owned, found, noStruct, mapped⟩
      · rw [unknown] at struct
        cases struct
      · rw [mapped] at struct
        cases struct
        exact ⟨doc, .struct absolute isStruct, rfl⟩
      · rw [mapped] at struct
        obtain ⟨next, refers, struct⟩ := innermost_mapWith_iff.mp struct
        obtain ⟨place, leads, same⟩ := ih.mp struct
        exact ⟨place, .alias absolute owned found noStruct refers leads, same⟩
    · rintro ⟨place, leads, rfl⟩
      cases leads with
      | struct absolute isStruct =>
        rw [mapReference_of_isStruct absolute isStruct]
        rfl
      | «alias» absolute owned found noStruct refers rest =>
        rw [mapReference_of_transparent absolute owned found noStruct]
        exact innermost_mapWith_iff.mpr ⟨_, refers, ih.mpr ⟨place, rest, rfl⟩⟩

theorem LeadsTo.unique {hops : Nat} {doc place other : Document} {reference : String}
    {id otherId : Nsid} (left : LeadsTo registry place id hops doc reference)
    (right : LeadsTo registry other otherId hops doc reference) :
    place = other ∧ id = otherId := by
  induction left with
  | struct absolute isStruct =>
    cases right with
    | struct absolute' _ => exact ⟨rfl, Except.ok.inj (absolute.symm.trans absolute')⟩
    | «alias» absolute' owned found noStruct _ _ =>
      -- A definition is a struct or an alias, and not both.
      obtain rfl := Except.ok.inj (absolute.symm.trans absolute')
      obtain ⟨object, struct⟩ := isStruct _ _ owned found
      rw [noStruct] at struct
      cases struct
  | «alias» absolute owned found noStruct refers _ ih =>
    cases right with
    | struct absolute' isStruct =>
      obtain rfl := Except.ok.inj (absolute.symm.trans absolute')
      obtain ⟨object, struct⟩ := isStruct _ _ owned found
      rw [noStruct] at struct
      cases struct
    | «alias» absolute' owned' found' _ refers' rest' =>
      obtain rfl := Except.ok.inj (absolute.symm.trans absolute')
      obtain rfl := Option.some.inj (owned.symm.trans owned')
      cases found.symm.trans found'
      obtain rfl := Option.some.inj (refers.symm.trans refers')
      exact ih rest'

/-! ### Types -/

/-- A type of a document names the struct of an identifier, written in `place`. -/
def Names (mapper : TypeMapper) (doc : Document) (node : TypeNode) (place : Document)
    (id : Nsid) : Prop :=
  ∃ reference, node.reference? = some reference ∧
    LeadsTo mapper.registry place id maxHops doc reference

variable {mapper : TypeMapper} {doc place : Document} {node : TypeNode} {id : Nsid}

theorem innermost_map_iff {external : Bool} :
    (mapper.map node doc).innermost = .struct id external ↔
      ∃ place, mapper.Names doc node place id ∧ external = decide (id.base ≠ place.id) := by
  rw [map, innermost_mapWith_iff]
  constructor
  · rintro ⟨reference, refers, struct⟩
    obtain ⟨place, leads, same⟩ := innermost_mapReference_iff.mp struct
    exact ⟨place, ⟨reference, refers, leads⟩, same⟩
  · rintro ⟨place, ⟨reference, refers, leads⟩, same⟩
    exact ⟨reference, refers, innermost_mapReference_iff.mpr ⟨place, leads, same⟩⟩

theorem core?_map_iff :
    (mapper.map node doc).core? = some id ↔ ∃ place, mapper.Names doc node place id := by
  simp only [Mapping.core?_eq_some_iff, innermost_map_iff]
  constructor
  · rintro ⟨external, place, names, _⟩
    exact ⟨place, names⟩
  · rintro ⟨place, names⟩
    exact ⟨_, place, names, rfl⟩

theorem Names.imports_eq (names : mapper.Names doc node place id) :
    mapper.imports (mapper.map node doc) =
      if id.base = place.id then [] else [mapper.layout.qualifiedTypeName id] := by
  have inside := innermost_map_iff.mpr ⟨place, names, rfl⟩
  rw [imports, Mapping.imports_of_innermost _ _ inside]
  simp only [ne_eq, decide_not, Bool.not_eq_true', decide_eq_false_iff_not, ite_not]

theorem Names.unique {other : Document} {otherId : Nsid} (left : mapper.Names doc node place id)
    (right : mapper.Names doc node other otherId) : place = other ∧ id = otherId := by
  obtain ⟨reference, refers, leads⟩ := left
  obtain ⟨reference', refers', leads'⟩ := right
  obtain rfl := Option.some.inj (refers.symm.trans refers')
  exact leads.unique leads'

/-- What a type names in generated code, and what it imports for it. -/
structure ImportedByPlace (mapper : TypeMapper) (doc : Document) (node : TypeNode) : Prop where
  /-- A struct stands in the type at any depth exactly if the type names it. -/
  type : ∀ name, (mapper.map node doc).type.struct? = some name ↔
    ∃ place id, mapper.Names doc node place id ∧ name = Layout.typeName id
  reader : ∀ name, (mapper.map node doc).reader.struct? = some name ↔
    ∃ place id, mapper.Names doc node place id ∧ name = Layout.typeName id
  single : ∀ place id other otherId, mapper.Names doc node place id →
    mapper.Names doc node other otherId → place = other ∧ id = otherId
  /-- The document that the reference is written in decides what is imported. -/
  imports : ∀ place id, mapper.Names doc node place id →
    mapper.imports (mapper.map node doc) =
      if id.base = place.id then [] else [mapper.layout.qualifiedTypeName id]
  /-- The struct is in scope, except where an alias of another document names it locally. -/
  complete : ∀ place id, mapper.Names doc node place id →
    ((id.base = doc.id ∨ mapper.layout.qualifiedTypeName id ∈ mapper.imports (mapper.map node doc))
      ↔ (id.base = place.id → place.id = doc.id))
  /-- An own struct is imported exactly where another document leads back to it. -/
  own : ∀ place id, mapper.Names doc node place id → id.base = doc.id →
    (mapper.layout.qualifiedTypeName id ∈ mapper.imports (mapper.map node doc) ↔
      place.id ≠ doc.id)
  /-- Nothing else is imported but what comes from libraries. -/
  libraries : (∀ place id, ¬mapper.Names doc node place id) →
    ∀ path ∈ mapper.imports (mapper.map node doc),
      path ∈ ["chrono::DateTime", "chrono::Utc", mapper.runtime ++ "::BlobRef"]

theorem importedByPlace (mapper : TypeMapper) (doc : Document) (node : TypeNode) :
    mapper.ImportedByPlace doc node := by
  have named (name : String) : (mapper.map node doc).core?.map Layout.typeName = some name ↔
      ∃ place id, mapper.Names doc node place id ∧ name = Layout.typeName id := by
    rw [Option.map_eq_some_iff]
    constructor
    · rintro ⟨id, core, rfl⟩
      obtain ⟨place, names⟩ := core?_map_iff.mp core
      exact ⟨place, id, names, rfl⟩
    · rintro ⟨place, id, names, rfl⟩
      exact ⟨id, core?_map_iff.mpr ⟨place, names⟩, rfl⟩
  constructor
  case type =>
    intro name
    rw [Mapping.struct?_type, named]
  case reader =>
    intro name
    rw [Mapping.struct?_reader, named]
  case single => exact fun place id other otherId left right => left.unique right
  case imports => exact fun place id names => names.imports_eq
  case complete =>
    intro place id names
    rw [names.imports_eq]
    by_cases written : id.base = place.id
    · simp [written]
    · simp [written]
  case own =>
    intro place id names own
    rw [names.imports_eq, own]
    by_cases written : doc.id = place.id
    · simp [written]
    · simp [written, Ne.symm written]
  case libraries =>
    intro nothing
    have plain : (mapper.map node doc).core? = none := by
      rw [Option.eq_none_iff_forall_ne_some]
      intro id core
      obtain ⟨place, names⟩ := core?_map_iff.mp core
      exact nothing place id names
    exact Mapping.imports_of_core?_eq_none _ _ plain

end TypeMapper

/-! ### Aliases of another document -/

/-- A document of field types, with no record and no endpoint. -/
def dataDocument (id : Nsid) (types : List (String × TypeNode)) : Document where
  lexicon := 1
  id
  revision := none
  description := none
  definitions := types.map fun (name, node) => (name, .data node)

theorem wellFormed_dataDocument {id : Nsid} {types : List (String × TypeNode)}
    (identifier : ∃ text, Nsid.parse text = .ok id) (noFragment : id.fragment = none)
    (distinct : (Entries.keys types).Nodup) (each : ∀ type ∈ types, type.2.WellFormed) :
    (dataDocument id types).WellFormed where
  identifier
  noFragment
  distinct := by simpa [dataDocument, Entries.keys, Function.comp_def] using distinct
  primary := by
    intro name definition inside primary
    obtain ⟨type, _, same⟩ := List.mem_map.mp inside
    cases same
    cases primary
  definitions := by
    intro name definition inside node held
    obtain ⟨type, listed, same⟩ := List.mem_map.mp inside
    cases same
    cases List.mem_singleton.mp held
    exact each type listed

/-- An alias of an own struct, and an alias that leads out. -/
def sharedDocument : Document :=
  dataDocument ⟨["com", "example"], "defs", none⟩
    [("alias", .ref ⟨none, "#thing"⟩), ("back", .ref ⟨none, "com.example.post"⟩),
      ("thing", .object ⟨none, [], [], []⟩)]

def sharingDocument : Document :=
  objectDocument ⟨["com", "example"], "post", none⟩
    [("thing", .ref ⟨none, "com.example.defs#thing"⟩),
      ("alias", .ref ⟨none, "com.example.defs#alias"⟩),
      ("parent", .ref ⟨none, "com.example.defs#back"⟩)]

theorem wellFormed_sharedDocument : sharedDocument.WellFormed := by
  have own : (TypeNode.ref ⟨none, "#thing"⟩).WellFormed := .ref ⟨.fragment "thing", by decide⟩
  have back : (TypeNode.ref ⟨none, "com.example.post"⟩).WellFormed :=
    .ref ⟨.external ⟨["com", "example"], "post", none⟩, by decide⟩
  have thing : (TypeNode.object ⟨none, [], [], []⟩).WellFormed := .object List.nodup_nil (by simp)
  exact wellFormed_dataDocument ⟨"com.example.defs", by decide⟩ rfl (by decide)
    (by simpa using ⟨own, back, thing⟩)

theorem wellFormed_sharingDocument : sharingDocument.WellFormed := by
  have thing : (TypeNode.ref ⟨none, "com.example.defs#thing"⟩).WellFormed :=
    .ref ⟨.external ⟨["com", "example"], "defs", some "thing"⟩, by decide⟩
  have other : (TypeNode.ref ⟨none, "com.example.defs#alias"⟩).WellFormed :=
    .ref ⟨.external ⟨["com", "example"], "defs", some "alias"⟩, by decide⟩
  have parent : (TypeNode.ref ⟨none, "com.example.defs#back"⟩).WellFormed :=
    .ref ⟨.external ⟨["com", "example"], "defs", some "back"⟩, by decide⟩
  exact wellFormed_objectDocument ⟨"com.example.post", by decide⟩ rfl (by decide)
    (by simpa using ⟨thing, other, parent⟩)

def sharingDocuments : List Document := [sharedDocument, sharingDocument]

theorem wellFormed_sharingDocuments : ∀ doc ∈ sharingDocuments, doc.WellFormed := by
  simp only [sharingDocuments, List.forall_mem_cons, List.not_mem_nil, false_implies,
    implies_true, and_true]
  exact ⟨wellFormed_sharedDocument, wellFormed_sharingDocument⟩

/-- The mapper that knows both documents. -/
def sharingMapper : TypeMapper :=
  { layout := {}, runtime := "lex_runtime", registry := some (.ofDocuments sharingDocuments) }

/-- The alias leaves a struct out of scope, and the way back imports an own struct. -/
theorem imports_sharingDocument :
    (∀ doc ∈ sharingDocuments, ∃ value, Document.parse value = .ok doc) ∧
      (sharingMapper.map (.ref ⟨none, "com.example.defs#alias"⟩) sharingDocument).target? =
        some ⟨["com", "example"], "defs", some "thing"⟩ ∧
      sharingMapper.imports
        (sharingMapper.map (.ref ⟨none, "com.example.defs#alias"⟩) sharingDocument) = [] ∧
      (sharingMapper.map (.ref ⟨none, "com.example.defs#back"⟩) sharingDocument).target? =
        some sharingDocument.id ∧
      sharingMapper.imports
        (sharingMapper.map (.ref ⟨none, "com.example.defs#back"⟩) sharingDocument) =
        [sharingMapper.layout.qualifiedTypeName sharingDocument.id] := by
  refine ⟨?_, by decide +kernel, by decide +kernel, by decide +kernel, by decide +kernel⟩
  exact Document.accepted_of_wellFormed wellFormed_sharingDocuments

end Lexicon
