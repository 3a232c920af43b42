import Lexicon.Proofs.GenerationRuns
import Lexicon.Proofs.NamedStructs
import Lexicon.Proofs.NsidText

/-!
# Lexicon.Proofs.StructTargets

The structs that generated modules use are declared in generated modules.

A type is mapped to a struct by the definition that it refers to alone, while a
struct is declared only where the main definition of its document is a struct
as well. So in a run over registered documents a struct that is used is
declared in the module of its document, unless that document is skipped, and
then the report says so.

## Main definitions

- `SourceModule.objects`: the objects whose structs a module declares.
- `TypeMapper.Uses`: a property of one of them names the struct of an identifier.
- `Generator.TargetsDeclared`: what a report says about the structs in use.

## Main result

`Generator.targetsDeclared`: it holds of every successful run.
-/

namespace Lexicon

/-! ### Identifiers of definitions -/

namespace Nsid

variable {id : Nsid}

theorem withFragment_of_main (main : id.fragment = none) :
    id.base.withFragment id.definitionName = .ok id := by
  obtain ⟨labels, name, _⟩ := id
  cases main
  rfl

theorem withFragment_of_named {name : String} (given : id.fragment = some name)
    (other : name ≠ mainDefinition) (named : Label.isName name = true) :
    id.base.withFragment id.definitionName = .ok id := by
  obtain ⟨labels, own, _⟩ := id
  cases given
  exact (if_neg other).trans (if_pos named)

theorem withFragment_of_withFragment {document : Nsid} {name : String}
    (given : document.withFragment name = .ok id) :
    id.base.withFragment id.definitionName = .ok id := by
  obtain ⟨named, rfl⟩ := withFragment_eq_ok_iff.mp given
  by_cases main : name = mainDefinition
  · subst main
    exact withFragment_of_main dropMain_main
  · exact withFragment_of_named (dropMain_of_ne main) main named

/-- The definition that a text names has the identifier that was read from the text. -/
theorem withFragment_of_parse {text : String} (parsed : parse text = .ok id) :
    id.base.withFragment id.definitionName = .ok id := by
  cases given : id.fragment with
  | none => exact withFragment_of_main given
  | some name =>
    obtain ⟨named, other⟩ := isName_of_fragment parsed given
    exact withFragment_of_named given other named

end Nsid

theorem Reference.withFragment_of_absolute {text : String} {document id : Nsid}
    (absolute : (Reference.parse text).bind (·.absolute document) = .ok id) :
    id.base.withFragment id.definitionName = .ok id := by
  obtain ⟨target, parsed, absolute⟩ := bind_eq_ok_iff.mp absolute
  cases target with
  | fragment name => exact Nsid.withFragment_of_withFragment absolute
  | external other =>
    cases absolute
    unfold parse at parsed
    split at parsed
    · split at parsed <;> cases parsed
    · obtain ⟨read, parsed, same⟩ := map_eq_ok_iff.mp parsed
      cases same
      exact Nsid.withFragment_of_parse parsed

namespace TypeMapper

variable {mapper : TypeMapper} {doc place : Document} {node : TypeNode} {id : Nsid}

theorem LeadsTo.withFragment {registry : Option Registry} {hops : Nat} {reference : String}
    (leads : LeadsTo registry place id hops doc reference) :
    id.base.withFragment id.definitionName = .ok id := by
  induction leads with
  | struct absolute isStruct => exact Reference.withFragment_of_absolute absolute
  | «alias» _ _ _ _ _ _ ih => exact ih

theorem Names.withFragment (names : mapper.Names doc node place id) :
    id.base.withFragment id.definitionName = .ok id := by
  obtain ⟨reference, _, leads⟩ := names
  exact leads.withFragment

end TypeMapper

theorem Registry.resolve?_eq_some_iff {registry : Registry} {id : Nsid} {doc : Document}
    {definition : Definition} :
    registry.resolve? id = some (doc, definition) ↔
      registry.get? id = some doc ∧ doc.definition? id.definitionName = some definition := by
  simp only [resolve?, Option.bind_eq_bind, Option.bind_eq_some_iff]
  constructor
  · rintro ⟨held, given, other, found, same⟩
    cases same
    exact ⟨given, found⟩
  · rintro ⟨given, found⟩
    exact ⟨doc, given, definition, found, rfl⟩

/-! ### Structs that are declared -/

namespace SourceModule

variable {mapper : TypeMapper} {doc : Document} {module : SourceModule} {id : Nsid}

/-- The module of a document declares the struct of every record and object in it. -/
theorem exists_declaration (wellFormed : doc.WellFormed)
    (generated : ofDocument mapper doc = .ok module) (base : doc.id = id.base)
    (named : id.base.withFragment id.definitionName = .ok id) {definition : Definition}
    {object : ObjectType} (found : doc.definition? id.definitionName = some definition)
    (struct : definition.object? = some object) :
    ∃ declaration ∈ module.declarations, declaration.id = id ∧
      declaration.name = Layout.typeName id := by
  obtain ⟨⟨own, part, key⟩, first, generated⟩ := bind_eq_ok_iff.mp generated
  cases generated
  cases fragment : id.fragment with
  | none =>
    have same : doc.id = id := base.trans (Nsid.base_eq_self fragment)
    exact ⟨_, List.mem_cons_self, same, congrArg Layout.typeName same⟩
  | some name =>
    have inside := Json.mem_of_lookup found
    rw [Nsid.definitionName, fragment, Option.getD_some] at inside named
    have other : name ≠ mainDefinition := by
      rintro rfl
      -- The main definition is named without a fragment.
      have same : id.base = id := Except.ok.inj named
      rw [← same] at fragment
      cases fragment
    -- Records are main definitions, so what is left is an object.
    obtain rfl : definition = .data (.object object) := by
      rcases Definition.object?_eq_some_iff.mp struct with same | ⟨description, key, rfl⟩
      · exact same
      · exact absurd (wellFormed.primary _ _ inside trivial) other
    have listed : (id, .data (.object object), object) ∈ others doc := by
      refine List.mem_filterMap.mpr ⟨_, inside, ?_⟩
      simp only [if_neg other, Document.idOf?, base, named, Except.toOption, Option.map_some]
    exact ⟨_, List.mem_cons_of_mem _ (List.mem_map_of_mem listed), rfl, rfl⟩

/-! ### Structs that are used -/

/-- The objects whose structs a document declares. -/
def objects (doc : Document) : List ObjectType :=
  ((main doc).toOption.map fun (_, object, _) => object).toList ++
    (others doc).map fun (_, _, object) => object

theorem imports_eq (generated : ofDocument mapper doc = .ok module) :
    module.imports = Sorted.texts ((objects doc).flatMap (Declaration.importsOf mapper doc)) := by
  obtain ⟨parts, first, generated⟩ := bind_eq_ok_iff.mp generated
  cases generated
  simp only [objects, first, Except.toOption, Option.map_some, Option.toList_some,
    List.singleton_append]

theorem exists_object_of_mem (generated : ofDocument mapper doc = .ok module)
    {declaration : Declaration} (inside : declaration ∈ module.declarations) :
    ∃ object ∈ objects doc, ∃ id definition key,
      declaration = .ofObject mapper doc id definition object key := by
  obtain ⟨⟨definition, object, key⟩, first, generated⟩ := bind_eq_ok_iff.mp generated
  cases generated
  simp only [objects, first, Except.toOption, Option.map_some, Option.toList_some,
    List.singleton_append]
  rcases List.mem_cons.mp inside with rfl | inside
  · exact ⟨object, List.mem_cons_self, _, _, _, rfl⟩
  · obtain ⟨⟨id, other, part⟩, listed, rfl⟩ := List.mem_map.mp inside
    exact ⟨part, List.mem_cons_of_mem _ (List.mem_map_of_mem listed), _, _, _, rfl⟩

end SourceModule

namespace TypeMapper

variable {mapper : TypeMapper} {doc : Document} {object : ObjectType} {node : TypeNode}
  {property name : String}

/-- A property of one of the structs of a document names the struct of an identifier. -/
def Uses (mapper : TypeMapper) (doc : Document) (id : Nsid) : Prop :=
  ∃ object ∈ SourceModule.objects doc, ∃ property node place,
    (property, node) ∈ object.properties ∧ mapper.Names doc node place id

theorem exists_uses_of_core? (inside : object ∈ SourceModule.objects doc)
    (held : (property, node) ∈ object.properties)
    (named : (mapper.map node doc).core?.map Layout.typeName = some name) :
    ∃ id, mapper.Uses doc id ∧ name = Layout.typeName id := by
  obtain ⟨id, core, rfl⟩ := Option.map_eq_some_iff.mp named
  obtain ⟨place, names⟩ := core?_map_iff.mp core
  exact ⟨id, ⟨object, inside, property, node, place, held, names⟩, rfl⟩

/-- The libraries that generated modules import from. -/
def libraryPaths (mapper : TypeMapper) : List String :=
  ["chrono::DateTime", "chrono::Utc", mapper.runtime ++ "::BlobRef"]

theorem exists_uses_of_import (inside : object ∈ SourceModule.objects doc)
    (held : (property, node) ∈ object.properties) {path : String}
    (imported : path ∈ mapper.imports (mapper.map node doc)) :
    path ∈ mapper.libraryPaths ∨
      ∃ id, mapper.Uses doc id ∧ path = mapper.layout.qualifiedTypeName id := by
  cases core : (mapper.map node doc).core? with
  | none => exact .inl (Mapping.imports_of_core?_eq_none _ _ core path imported)
  | some id =>
    obtain ⟨place, names⟩ := core?_map_iff.mp core
    refine .inr ⟨id, ⟨object, inside, property, node, place, held, names⟩, ?_⟩
    rw [names.imports_eq] at imported
    split at imported
    · cases imported
    · exact List.mem_singleton.mp imported

end TypeMapper

namespace Declaration

variable {mapper : TypeMapper} {doc : Document} {id : Nsid} {object : ObjectType}
  {property ident : String} {node : TypeNode}

/-- A box neither hides nor adds a struct. -/
theorem struct?_stored (mapper : TypeMapper) (doc : Document) (id : Nsid) (mapping : Mapping) :
    (stored mapper doc id mapping).1.struct? = mapping.core?.map Layout.typeName ∧
      (stored mapper doc id mapping).2.struct? = mapping.core?.map Layout.typeName := by
  unfold stored
  split
  · exact ⟨mapping.struct?_type, mapping.struct?_reader⟩
  · exact ⟨mapping.struct?_type, mapping.struct?_reader⟩

theorem struct?_fieldOf (mapper : TypeMapper) (doc : Document) (id : Nsid) (object : ObjectType)
    (property ident : String) (node : TypeNode) :
    (fieldOf mapper doc id object property ident node).type.struct? =
        (mapper.map node doc).core?.map Layout.typeName ∧
      (fieldOf mapper doc id object property ident node).read.reader.struct? =
        (mapper.map node doc).core?.map Layout.typeName := by
  obtain ⟨type, reader⟩ := struct?_stored mapper doc id (mapper.map node doc)
  refine ⟨?_, reader⟩
  unfold fieldOf
  dsimp only
  split
  · exact type
  · exact type

theorem core?_itemMapping (mapper : TypeMapper) (doc : Document) (array : ArrayType) :
    (itemMapping mapper doc array).core? = (mapper.map (.array array) doc).core? := by
  obtain ⟨description, items, minLength, maxLength⟩ := array
  cases items <;> rfl

theorem ofDefault?_ne_push (optional own : Bool) (item : GeneratedType) (other name : String) :
    Accessor.ofDefault? property ident node optional ≠ some (.push other name item own) := by
  unfold Accessor.ofDefault?
  split
  · nofun
  · -- Whatever default a node has, its accessor is of the other kind.
    cases node with
    | boolean t => simp
    | integer t => simp
    | string t => by_cases datetime : t.format = some .datetime <;> simp [datetime]
    | _ => nofun

/-- An accessor that appends takes what the property holds in its list. -/
theorem struct?_of_push {item : GeneratedType} {optional : Bool} {other name : String}
    (listed : .push other name item optional ∈
      accessorsOf mapper doc object property ident node) :
    item.struct? = (mapper.map node doc).core?.map Layout.typeName := by
  rcases List.mem_append.mp listed with default | push
  · exact absurd (Option.mem_toList.mp default) (ofDefault?_ne_push _ _ _ _ _)
  · cases node with
    | array t =>
      cases List.mem_singleton.mp push
      rw [Mapping.struct?_type, core?_itemMapping]
    | _ => cases push

theorem mem_accessors {definition : Definition} {key : Option String} {accessor : Accessor}
    (listed : accessor ∈ (ofObject mapper doc id definition object key).accessors) :
    ∃ property node ident, (property, node) ∈ object.properties ∧
      accessor ∈ accessorsOf mapper doc object property ident node := by
  obtain ⟨⟨⟨property, node⟩, ident⟩, zipped, inside⟩ := List.mem_flatMap.mp listed
  exact ⟨property, node, ident, (List.of_mem_zip zipped).1, inside⟩

end Declaration

/-! ### Runs -/

namespace Generator

variable {generator : Generator} {docs : List Document} {report : RunReport}

/-- The structs that are used in the modules of a report are declared, as far as a registry knows
them. -/
structure TargetsDeclared (generator : Generator) (docs : List Document) (registry : Registry)
    (report : RunReport) : Prop where
  /-- All that is generated is the module of a document. -/
  modules : ∀ file ∈ report.generated, ∃ doc ∈ docs, ∃ module, generator.Produces doc module file
  /-- A field or its reader names no struct that is not in use. -/
  fields : ∀ doc module file, generator.Produces doc module file →
    ∀ declaration ∈ module.declarations, ∀ field ∈ declaration.fields, ∀ name,
      (field.type.struct? = some name ∨ field.read.reader.struct? = some name) →
        ∃ id, generator.mapper.Uses doc id ∧ name = Layout.typeName id
  accessors : ∀ doc module file, generator.Produces doc module file →
    ∀ declaration ∈ module.declarations, ∀ property ident item optional name,
      .push property ident item optional ∈ declaration.accessors → item.struct? = some name →
        ∃ id, generator.mapper.Uses doc id ∧ name = Layout.typeName id
  imports : ∀ doc module file, generator.Produces doc module file →
    ∀ path ∈ module.imports, path ∈ generator.mapper.libraryPaths ∨
      ∃ id, generator.mapper.Uses doc id ∧ path = generator.mapper.layout.qualifiedTypeName id
  /-- A struct in use that can be found is declared in the module of its document, or its document
  is skipped because its main definition is no struct. -/
  targets : ∀ file ∈ report.generated, ∀ doc module, generator.Produces doc module file →
    ∀ id, generator.mapper.Uses doc id → ∀ owner definition object,
      registry.resolve? id = some (owner, definition) → definition.object? = some object →
        (∃ target ∈ report.generated, target.id = id.base ∧ ∃ declaring,
          generator.Produces owner declaring target ∧ ∃ declaration ∈ declaring.declarations,
            declaration.id = id ∧ declaration.name = Layout.typeName id) ∨
          (id.base ∈ report.skipped ∧ ¬owner.Generatable)

variable {doc : Document} {module : SourceModule} {file : GeneratedFile}

theorem Produces.exists_uses_of_field (produces : generator.Produces doc module file)
    {declaration : Declaration} (inside : declaration ∈ module.declarations) {field : StructField}
    (declared : field ∈ declaration.fields) {name : String}
    (named : field.type.struct? = some name ∨ field.read.reader.struct? = some name) :
    ∃ id, generator.mapper.Uses doc id ∧ name = Layout.typeName id := by
  obtain ⟨object, held, id, definition, key, rfl⟩ :=
    SourceModule.exists_object_of_mem produces.generated inside
  obtain ⟨node, ident, listed, same⟩ := Declaration.mem_fields declared
  obtain ⟨type, reader⟩ :=
    Declaration.struct?_fieldOf generator.mapper doc id object field.property ident node
  rw [← same] at type reader
  rw [type, reader, or_self] at named
  exact TypeMapper.exists_uses_of_core? held listed named

theorem Produces.exists_uses_of_accessor (produces : generator.Produces doc module file)
    {declaration : Declaration} (inside : declaration ∈ module.declarations)
    {property ident name : String} {item : GeneratedType} {optional : Bool}
    (listed : .push property ident item optional ∈ declaration.accessors)
    (named : item.struct? = some name) :
    ∃ id, generator.mapper.Uses doc id ∧ name = Layout.typeName id := by
  obtain ⟨object, held, id, definition, key, rfl⟩ :=
    SourceModule.exists_object_of_mem produces.generated inside
  obtain ⟨own, node, other, given, listed⟩ := Declaration.mem_accessors listed
  rw [Declaration.struct?_of_push listed] at named
  exact TypeMapper.exists_uses_of_core? held given named

theorem Produces.exists_uses_of_import (produces : generator.Produces doc module file)
    {path : String} (imported : path ∈ module.imports) :
    path ∈ generator.mapper.libraryPaths ∨
      ∃ id, generator.mapper.Uses doc id ∧ path = generator.mapper.layout.qualifiedTypeName id := by
  rw [SourceModule.imports_eq produces.generated, Sorted.mem_texts] at imported
  obtain ⟨object, held, imported⟩ := List.mem_flatMap.mp imported
  obtain ⟨⟨property, node⟩, listed, imported⟩ := List.mem_flatMap.mp imported
  exact TypeMapper.exists_uses_of_import held listed imported

theorem Sorts.declares_or_skips (sorts : generator.Sorts docs report)
    (registered : generator.mapper.Registered docs) {id : Nsid}
    (named : id.base.withFragment id.definitionName = .ok id) {owner : Document}
    {definition : Definition} {object : ObjectType} (inside : owner ∈ docs)
    (base : owner.id = id.base) (found : owner.definition? id.definitionName = some definition)
    (struct : definition.object? = some object) :
    (∃ target ∈ report.generated, target.id = id.base ∧ ∃ declaring,
      generator.Produces owner declaring target ∧ ∃ declaration ∈ declaring.declarations,
        declaration.id = id ∧ declaration.name = Layout.typeName id) ∨
      (id.base ∈ report.skipped ∧ ¬owner.Generatable) := by
  rcases sorts.of_mem inside with ⟨target, listed, produced⟩ | ⟨skipped, noStruct⟩
  · obtain ⟨declaring, produces⟩ := generate_eq_ok_iff.mp produced
    have declares := SourceModule.exists_declaration (registered.wellFormed owner inside)
      produces.generated base named found struct
    exact .inl ⟨target, listed, produces.id.trans base, declaring, produces, declares⟩
  · exact .inr ⟨base ▸ skipped, noStruct⟩

/-- In a run over accepted documents with distinct identifiers that are all registered, the structs
in use have their declarations. -/
theorem targetsDeclared (accepted : ∀ doc ∈ docs, ∃ value, Document.parse value = .ok doc)
    (distinct : (docs.map (·.id)).Nodup)
    (known : generator.mapper.registry = some (.ofDocuments docs)) {σ : Type} {writer : Writer σ}
    {state final : σ} (ran : generator.run writer state docs = (final, .ok report)) :
    generator.TargetsDeclared docs (.ofDocuments docs) report := by
  have wellFormed := Document.wellFormed_of_accepted accepted
  have registered : generator.mapper.Registered docs := { wellFormed, distinct, known }
  obtain ⟨sorts, _⟩ := run_eq_ok ran
  constructor
  case modules =>
    intro file listed
    obtain ⟨doc, inside, produced⟩ := sorts.exists_of_generated listed
    obtain ⟨module, produces⟩ := generate_eq_ok_iff.mp produced
    exact ⟨doc, inside, module, produces⟩
  case fields =>
    intro doc module file produces declaration inside field declared name named
    exact produces.exists_uses_of_field inside declared named
  case accessors =>
    intro doc module file produces declaration inside property ident item optional name listed named
    exact produces.exists_uses_of_accessor inside listed named
  case imports =>
    intro doc module file produces path imported
    exact produces.exists_uses_of_import imported
  case targets =>
    intro file listed doc module produces id uses owner definition object resolved struct
    obtain ⟨part, _, property, node, place, _, names⟩ := uses
    obtain ⟨held, found⟩ := Registry.resolve?_eq_some_iff.mp resolved
    obtain ⟨inside, base⟩ := (Registry.get?_ofDocuments_iff registered.main distinct).mp held
    exact sorts.declares_or_skips registered names.withFragment inside base found struct

theorem targetsDeclared_graphDocuments :
    (∀ doc ∈ graphDocuments, ∃ value, Document.parse value = .ok doc) ∧
      (graphDocuments.map (·.id)).Nodup ∧
      graphGenerator.mapper.registry = some (.ofDocuments graphDocuments) ∧
      ∃ final report,
        graphGenerator.run FileSet.write .empty graphDocuments = (final, .ok report) ∧
          graphGenerator.TargetsDeclared graphDocuments (.ofDocuments graphDocuments) report := by
  have accepted := Document.accepted_of_wellFormed wellFormed_graphDocuments
  have distinct : (graphDocuments.map (·.id)).Nodup := by decide
  obtain ⟨final, report, ran⟩ := exists_run_eq_ok succeeds_graphDocuments
  exact ⟨accepted, distinct, rfl, final, report, ran, targetsDeclared accepted distinct rfl ran⟩

def sharingGenerator : Generator := { mapper := sharingMapper, stubs := .builtIn }

/-- A document without a main definition is skipped, and its struct is used all the same. -/
theorem target_skipped_sharingDocuments :
    (∀ doc ∈ sharingDocuments, ∃ value, Document.parse value = .ok doc) ∧
      (sharingDocuments.map (·.id)).Nodup ∧
      sharingGenerator.mapper.registry = some (.ofDocuments sharingDocuments) ∧
      ∃ final report,
        sharingGenerator.run FileSet.write .empty sharingDocuments = (final, .ok report) ∧
          (∃ file ∈ report.generated, file.id = sharingDocument.id) ∧
          sharingGenerator.mapper.Uses sharingDocument ⟨["com", "example"], "defs", some "thing"⟩ ∧
          (∃ definition object,
            (Registry.ofDocuments sharingDocuments).resolve?
              ⟨["com", "example"], "defs", some "thing"⟩ = some (sharedDocument, definition) ∧
            definition.object? = some object) ∧
          ∀ file ∈ report.generated, file.id ≠ sharedDocument.id := by
  have accepted := Document.accepted_of_wellFormed wellFormed_sharingDocuments
  have evaluated : (sharingGenerator.run FileSet.write .empty sharingDocuments).2.toOption.map
      (fun report => report.generated.map (·.id)) = some [sharingDocument.id] := by
    decide +kernel
  have core : (sharingMapper.map (.ref ⟨none, "com.example.defs#thing"⟩) sharingDocument).core? =
      some ⟨["com", "example"], "defs", some "thing"⟩ := by
    decide +kernel
  obtain ⟨place, names⟩ := TypeMapper.core?_map_iff.mp core
  obtain ⟨final, report, ran, generated⟩ := exists_run_of_ids evaluated
  refine ⟨accepted, by decide, rfl, final, report, ran, ?_, ?_, ⟨_, _, rfl, rfl⟩, ?_⟩
  · have listed : sharingDocument.id ∈ report.generated.map (·.id) := by
      rw [generated]
      exact List.mem_singleton_self _
    simpa using listed
  · exact ⟨_, List.mem_cons_self, "thing", _, place, List.mem_cons_self, names⟩
  · intro file listed same
    have here : file.id ∈ report.generated.map (·.id) := List.mem_map_of_mem listed
    rw [generated, same] at here
    exact absurd here (by decide)

end Generator

end Lexicon
