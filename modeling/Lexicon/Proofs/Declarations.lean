import Lexicon.Proofs.ValidatedReading

/-!
# Lexicon.Proofs.Declarations

The declarations of generated modules.

A module has one declaration for each struct definition that it generates, and
a declaration has one field for each property. What a field has as its type
follows from the mapping of its property.

## Main definition

`TypeMapper.Declares`: a declaration is that of a definition of a document.

## Main results

- `SourceModule.declares_of_mem`: every declaration of a module is one of these.
- `Declaration.mem_fields`, `Declaration.exists_field`: fields and properties.
- `Declaration.present_fieldOf`: the type of a field.
-/

namespace Lexicon

/-! ### Types of fields -/

/-- The type of a field's value when it is there. -/
def GeneratedType.present : GeneratedType → GeneratedType
  | .optional inner => inner
  | type => type

theorem Mapping.present_type (mapping : Mapping) : mapping.type.present = mapping.type := by
  cases mapping with
  | plain reader => cases reader <;> rfl
  | list item => rfl
  | struct id external => rfl

theorem Mapping.type_of_target {mapping : Mapping} {target : Nsid}
    (mapped : mapping.target? = some target) : mapping.type = .struct (Layout.typeName target) := by
  cases mapping <;> cases mapped
  rfl

theorem Mapping.type_ne_boxed (mapping : Mapping) (inner : GeneratedType) :
    mapping.type ≠ .boxed inner := by
  cases mapping with
  | plain reader => cases reader <;> nofun
  | list item => nofun
  | struct id external => nofun

/-! ### Fields of a declaration -/

namespace Declaration

variable {mapper : TypeMapper} {doc : Document} {id : Nsid} {definition : Definition}
  {object : ObjectType} {key : Option String}

theorem length_identsFrom (taken properties : List String) :
    (identsFrom taken properties).length = properties.length := by
  induction properties generalizing taken with
  | nil => rfl
  | cons property rest ih => rw [identsFrom, List.length_cons, ih, List.length_cons]

/-- Every field is that of a property. -/
theorem mem_fields {field : StructField}
    (declared : field ∈ (ofObject mapper doc id definition object key).fields) :
    ∃ node ident, (field.property, node) ∈ object.properties ∧
      field = fieldOf mapper doc id object field.property ident node := by
  obtain ⟨⟨⟨property, node⟩, ident⟩, zipped, rfl⟩ := List.mem_map.mp declared
  exact ⟨node, ident, (List.of_mem_zip zipped).1, rfl⟩

/-- Every property has a field. -/
theorem exists_field {property : String} {node : TypeNode}
    (inside : (property, node) ∈ object.properties) :
    ∃ field ∈ (ofObject mapper doc id definition object key).fields,
      field.property = property := by
  have lengths : object.properties.length ≤
      (identsFrom [] (Entries.keys object.properties)).length := by
    simp [length_identsFrom, Entries.keys]
  rw [← List.map_fst_zip lengths] at inside
  obtain ⟨⟨_, ident⟩, zipped, rfl⟩ := List.mem_map.mp inside
  exact ⟨_, List.mem_map.mpr ⟨_, zipped, rfl⟩, rfl⟩

/-- The fields go by the properties, in their order, and by their identifiers. -/
theorem map_names_fields (mapper : TypeMapper) (doc : Document) (id : Nsid)
    (definition : Definition) (object : ObjectType) (key : Option String) :
    (ofObject mapper doc id definition object key).fields.map (fun field =>
      (field.property, field.ident)) =
      (Entries.keys object.properties).zip (identsFrom [] (Entries.keys object.properties)) := by
  rw [ofObject, List.map_map, Entries.keys, List.zip_map_left]
  rfl

theorem map_property_fields :
    (ofObject mapper doc id definition object key).fields.map (·.property) =
      Entries.keys object.properties := by
  have names := congrArg (List.map Prod.fst)
    (map_names_fields mapper doc id definition object key)
  -- Each property has an identifier, so no field is missing.
  rwa [List.map_map, List.map_fst_zip (length_identsFrom _ _).ge] at names

theorem map_ident_fields :
    (ofObject mapper doc id definition object key).fields.map (·.ident) =
      identsFrom [] (Entries.keys object.properties) := by
  have names := congrArg (List.map Prod.snd)
    (map_names_fields mapper doc id definition object key)
  rwa [List.map_map, List.map_snd_zip (length_identsFrom _ _).le] at names

theorem present_fieldOf (mapper : TypeMapper) (doc : Document) (id : Nsid) (object : ObjectType)
    (property ident : String) (node : TypeNode) :
    (fieldOf mapper doc id object property ident node).type.present =
      (stored mapper doc id (mapper.map node doc)).1 := by
  have plain : (stored mapper doc id (mapper.map node doc)).1.present =
      (stored mapper doc id (mapper.map node doc)).1 := by
    unfold stored
    split
    · rfl
    · exact Mapping.present_type _
  unfold fieldOf
  dsimp only
  split
  · rfl
  · exact plain

theorem stored_of_target {mapping : Mapping} {target : Nsid}
    (mapped : mapping.target? = some target) :
    (stored mapper doc id mapping).1 =
      if mapper.leadsBack doc target id then .boxed (.struct (Layout.typeName target))
      else .struct (Layout.typeName target) := by
  unfold stored
  rw [mapped, Option.any_some, Mapping.type_of_target mapped]
  split <;> rfl

theorem stored_of_no_target {mapping : Mapping} (plain : mapping.target? = none) :
    (stored mapper doc id mapping).1 = mapping.type := by
  rw [stored, plain]
  rfl

end Declaration

/-! ### Declarations of a module -/

namespace TypeMapper

/-- A declaration is that of the struct of a definition of the document. -/
def Declares (mapper : TypeMapper) (doc : Document) (declaration : Declaration) : Prop :=
  ∃ definition object key, declaration.id.base = doc.id ∧
    doc.definition? declaration.id.definitionName = some definition ∧
    SourceModule.structParts? definition = some (object, key) ∧
    declaration = .ofObject mapper doc declaration.id definition object key

end TypeMapper

theorem Definition.object?_of_structParts? {definition : Definition} {object : ObjectType}
    {key : Option String} (parts : SourceModule.structParts? definition = some (object, key)) :
    definition.object? = some object := by
  unfold SourceModule.structParts? at parts
  split at parts <;> cases parts <;> rfl

theorem Document.id_of_idOf? {doc : Document} {name : String} {id : Nsid}
    (main : doc.id.fragment = none) (named : doc.idOf? name = some id) :
    id.base = doc.id ∧ id.definitionName = name := by
  unfold idOf? Nsid.withFragment at named
  split at named
  · next same =>
    cases named
    exact ⟨Nsid.base_eq_self main, same.symm⟩
  · split at named <;> cases named
    exact ⟨Nsid.base_eq_self main, rfl⟩

namespace SourceModule

variable {mapper : TypeMapper} {doc : Document}

theorem main_eq_ok {definition : Definition} {object : ObjectType} {key : Option String}
    (given : main doc = .ok (definition, object, key)) :
    doc.main? = some definition ∧ structParts? definition = some (object, key) := by
  unfold main at given
  split at given
  · cases given
  · next found =>
    split at given
    · next parts =>
      cases given
      exact ⟨found, parts⟩
    · cases given

theorem mem_others {id : Nsid} {definition : Definition} {object : ObjectType}
    (inside : (id, definition, object) ∈ others doc) :
    definition = .data (.object object) ∧
      ∃ name, (name, definition) ∈ doc.definitions ∧ doc.idOf? name = some id := by
  obtain ⟨⟨name, own⟩, held, given⟩ := List.mem_filterMap.mp inside
  dsimp only at given
  split at given
  · split at given
    · cases given
    · obtain ⟨named, found, same⟩ := Option.map_eq_some_iff.mp given
      cases same
      exact ⟨rfl, name, held, found⟩
  · cases given

/-- Every declaration of a generated module is that of a definition of its document. -/
theorem declares_of_mem {module : SourceModule} (wellFormed : doc.WellFormed)
    (generated : ofDocument mapper doc = .ok module) {declaration : Declaration}
    (inside : declaration ∈ module.declarations) : mapper.Declares doc declaration := by
  obtain ⟨⟨definition, object, key⟩, first, generated⟩ := bind_eq_ok_iff.mp generated
  cases generated
  have main := wellFormed.noFragment
  obtain ⟨found, parts⟩ := main_eq_ok first
  rcases List.mem_cons.mp inside with rfl | inside
  · have named : doc.id.definitionName = mainDefinition := by simp [Nsid.definitionName, main]
    exact ⟨definition, object, key, Nsid.base_eq_self main, named ▸ found, parts, rfl⟩
  · obtain ⟨⟨id, other, part⟩, listed, rfl⟩ := List.mem_map.mp inside
    obtain ⟨rfl, name, held, identified⟩ := mem_others listed
    obtain ⟨base, named⟩ := Document.id_of_idOf? main identified
    have defined := Entries.lookup_of_mem wellFormed.distinct held
    exact ⟨_, part, none, base, named ▸ defined, rfl, rfl⟩

end SourceModule

end Lexicon
