import Lexicon.Proofs.ModuleTree
import Lexicon.Proofs.SourceLines
import Lexicon.Proofs.StructTargets
import Lexicon.Proofs.TypeNames

/-!
# Lexicon.Proofs.NameScope

The names that are in scope in a generated module.

A module declares structs, imports paths under their last segment, and relies
on a few names that are there without an import. Nothing keeps these apart: the
name of a type follows from its identifier alone. So whether a name has one
meaning depends on the words of the identifiers that the module declares and
imports. Where each name has one meaning, the types of its fields mean the
structs that they were written for.

## Main definitions

- `SourceModule.bindings`: the names in scope, each with where it comes from.
- `SourceModule.Unambiguous`: no name is there twice.
- `TypeMapper.TypesApart`: the words of what is in scope differ.
- `TypeMapper.NamesInScope`: what the names of a module mean.

## Main result

`Generator.namesInScope`: a generated module has no ambiguous name exactly if
the words differ, and then the names of types in its fields mean their targets.

## Proof strategy

An identifier that a document uses has been read from a text, so its type name
tells its words, and the path of its type tells its module.
-/

namespace Lexicon

/-! ### Identifiers in use -/

theorem Reference.parse_of_absolute {text : String} {document id : Nsid}
    (parsed : ∃ text, Nsid.parse text = .ok document)
    (absolute : (Reference.parse text).bind (·.absolute document) = .ok id) :
    ∃ text, Nsid.parse text = .ok id := by
  obtain ⟨target, read, absolute⟩ := bind_eq_ok_iff.mp absolute
  cases target with
  | fragment name => exact Nsid.parse_withFragment (Nsid.parse_base parsed) absolute
  | external other =>
    cases absolute
    exact ⟨text, parse_eq_external_iff.mp read⟩

namespace TypeMapper

variable {mapper : TypeMapper} {doc place : Document} {node : TypeNode} {id : Nsid}

theorem id_of_owner? {registry : Option Registry} {owner : Document}
    (owned : owner? registry doc id = some owner) : owner.id = id.base := by
  unfold owner? at owned
  split at owned
  · next own =>
    cases owned
    exact own.symm
  · obtain ⟨known, _, held⟩ := Option.bind_eq_some_iff.mp owned
    simpa using List.find?_some held

theorem LeadsTo.parse {registry : Option Registry} {hops : Nat} {reference : String}
    (leads : LeadsTo registry place id hops doc reference)
    (parsed : ∃ text, Nsid.parse text = .ok doc.id) : ∃ text, Nsid.parse text = .ok id := by
  induction leads with
  | struct absolute isStruct => exact Reference.parse_of_absolute parsed absolute
  | «alias» absolute owned _ _ _ _ ih =>
    exact ih (id_of_owner? owned ▸ Nsid.parse_base (Reference.parse_of_absolute parsed absolute))

theorem Names.parse (names : mapper.Names doc node place id)
    (parsed : ∃ text, Nsid.parse text = .ok doc.id) : ∃ text, Nsid.parse text = .ok id := by
  obtain ⟨reference, _, leads⟩ := names
  exact leads.parse parsed

end TypeMapper

theorem SourceModule.parse_of_mem {mapper : TypeMapper} {doc : Document} {module : SourceModule}
    (parsed : ∃ text, Nsid.parse text = .ok doc.id)
    (generated : ofDocument mapper doc = .ok module) {declaration : Declaration}
    (inside : declaration ∈ module.declarations) :
    ∃ text, Nsid.parse text = .ok declaration.id := by
  obtain ⟨⟨definition, object, key⟩, first, generated⟩ := bind_eq_ok_iff.mp generated
  cases generated
  rcases List.mem_cons.mp inside with rfl | inside
  · exact parsed
  · obtain ⟨⟨id, other, part⟩, listed, rfl⟩ := List.mem_map.mp inside
    obtain ⟨_, name, _, identified⟩ := mem_others listed
    cases named : doc.id.withFragment name with
    | error error =>
      rw [Document.idOf?, named] at identified
      cases identified
    | ok own =>
      rw [Document.idOf?, named] at identified
      cases identified
      exact Nsid.parse_withFragment parsed named

/-! ### Paths of types -/

namespace Layout

variable {layout : Layout} {a b : Nsid}

theorem colon_notMem_typeName (named : a.IsNamed) : ':' ∉ (typeName a).toList := by
  intro colon
  exact absurd (isAsciiAlphanumeric_of_mem_typeName named colon) (by decide)

/-- The path of a type consists of the path of its module and its name. -/
theorem pathSegments_qualifiedTypeName (parsed : ∃ text, Nsid.parse text = .ok a) :
    pathSegments (layout.qualifiedTypeName a) =
      pathSegments layout.root ++ (layout.moduleSegments a).map Keyword.escape ++ [typeName a] := by
  obtain ⟨text, parsed⟩ := parsed
  have named := Nsid.isNamed_of_parse parsed
  have two : "::" = String.singleton ':' ++ String.singleton ':' := by decide
  have colons : layout.qualifiedTypeName a =
      layout.modulePath a ++ String.singleton ':' ++
        ("" ++ String.singleton ':' ++ typeName a) := by
    rw [qualifiedTypeName, two, String.empty_append]
    simp only [String.append_assoc]
  rw [colons, pathSegments_append, pathSegments_append, pathSegments_modulePath parsed,
    pathSegments_of_notMem (typeName_ne_empty named) (colon_notMem_typeName named)]
  rfl

theorem moduleSegments_eq_iff (layout : Layout) :
    layout.moduleSegments a = layout.moduleSegments b ↔ a.SameModule b := by
  constructor
  · intro same
    obtain ⟨labels, name⟩ := List.append_inj' same rfl
    exact ⟨arrange_inj labels, List.singleton_inj.mp name⟩
  · rintro ⟨labels, name⟩
    simp only [moduleSegments, namespaceSegments, labels, name]

/-- Types of one name share a path exactly if they are of one module. -/
theorem qualifiedTypeName_eq_iff (left : ∃ text, Nsid.parse text = .ok a)
    (right : ∃ text, Nsid.parse text = .ok b) (same : typeName a = typeName b) :
    layout.qualifiedTypeName a = layout.qualifiedTypeName b ↔ a.SameModule b := by
  rw [← moduleSegments_eq_iff layout]
  constructor
  · intro equal
    have segments := congrArg pathSegments equal
    rw [pathSegments_qualifiedTypeName left, pathSegments_qualifiedTypeName right, same] at segments
    have names := List.append_cancel_left (List.append_cancel_right segments)
    -- Without the marks of raw identifiers these are the files, which tell the modules.
    have back {id : Nsid} (parsed : ∃ text, Nsid.parse text = .ok id) :
        (((layout.moduleSegments id).map Keyword.escape).map Keyword.bare).map Keyword.trimmed =
          layout.moduleSegments id := by
      obtain ⟨text, parsed⟩ := parsed
      have stems : ((layout.moduleSegments id).map Keyword.escape).map Keyword.bare =
          (layout.moduleSegments id).map Keyword.fileStem := by
        rw [List.map_map]
        exact List.map_congr_left fun _ _ => rfl
      rw [stems, Keyword.map_trimmed_fileStem fun _ => isSnake_of_mem_moduleSegments parsed]
    rw [← back left, names, back right]
  · intro segments
    simp only [qualifiedTypeName, modulePath, segments, same]

end Layout

/-! ### Names in scope -/

/-- Where a name in scope comes from. -/
inductive Origin where
  /-- The struct of a definition, which the module declares. -/
  | declared (id : Nsid)
  /-- A path that the module imports. -/
  | imported (path : String)
  /-- A name that is there in every module. -/
  | prelude (name : String)
deriving DecidableEq

namespace SourceModule

/-- The names that generated code takes from the language without an import. -/
def preludeNames : List String := ["Self", "Option", "Vec", "Box", "String", "Result"]

/-- The name that an import brings into scope. -/
def lastSegment (path : String) : String := (Layout.pathSegments path).getLastD ""

/-- The names in scope in a module, each with where it comes from. -/
def bindings (module : SourceModule) : List (String × Origin) :=
  module.declarations.map (fun declaration => (declaration.name, .declared declaration.id)) ++
    module.imports.map (fun path => (lastSegment path, .imported path)) ++
    preludeNames.map fun name => (name, .prelude name)

/-- No name in scope has two meanings. -/
def Unambiguous (module : SourceModule) : Prop := (module.bindings.map Prod.fst).Nodup

instance (module : SourceModule) : Decidable module.Unambiguous :=
  inferInstanceAs (Decidable (module.bindings.map Prod.fst).Nodup)

variable {module : SourceModule}

theorem map_fst_bindings :
    module.bindings.map Prod.fst = module.declarations.map (·.name) ++
      module.imports.map lastSegment ++ preludeNames := by
  simp [bindings, Function.comp_def]

theorem Unambiguous.origin_eq (given : module.Unambiguous) {name : String} {one other : Origin}
    (first : (name, one) ∈ module.bindings) (second : (name, other) ∈ module.bindings) :
    one = other :=
  (Prod.mk.inj (List.inj_on_of_nodup_map given first second rfl)).2

/-- In a module a name is there for one item and no other. -/
def Means (module : SourceModule) (name : String) (item : Origin) : Prop :=
  ∀ origin, (name, origin) ∈ module.bindings ↔ origin = item

theorem Unambiguous.means (given : module.Unambiguous) {name : String} {item : Origin}
    (there : (name, item) ∈ module.bindings) : module.Means name item := by
  intro origin
  constructor
  · exact fun other => given.origin_eq other there
  · rintro rfl
    exact there

theorem mem_bindings_of_declaration {declaration : Declaration}
    (inside : declaration ∈ module.declarations) :
    (declaration.name, .declared declaration.id) ∈ module.bindings :=
  List.mem_append_left _ (List.mem_append_left _ (List.mem_map_of_mem inside))

theorem mem_bindings_of_import {path : String} (listed : path ∈ module.imports) :
    (lastSegment path, .imported path) ∈ module.bindings :=
  List.mem_append_left _ (List.mem_append_right _
    (List.mem_map_of_mem (f := fun path => (lastSegment path, Origin.imported path)) listed))

/-- The three kinds of names are apart, each from the others and from its own kind. -/
theorem unambiguous_iff (distinct : module.imports.Nodup) :
    module.Unambiguous ↔ (module.declarations.map (·.name)).Nodup ∧
      (∀ path ∈ module.imports, ∀ other ∈ module.imports,
        lastSegment path = lastSegment other → path = other) ∧
      (∀ declaration ∈ module.declarations, ∀ path ∈ module.imports,
        declaration.name ≠ lastSegment path) ∧
      (∀ declaration ∈ module.declarations, declaration.name ∉ preludeNames) ∧
      ∀ path ∈ module.imports, lastSegment path ∉ preludeNames := by
  have prelude : preludeNames.Nodup := by decide
  have imports := List.nodup_map_iff_inj_on (f := lastSegment) distinct
  rw [Unambiguous, map_fst_bindings, List.nodup_append, List.nodup_append, imports]
  simp only [List.mem_append, List.mem_map]
  constructor
  · rintro ⟨⟨declared, imported, apart⟩, _, reserved⟩
    refine ⟨declared, imported, fun declaration inside path listed => ?_,
      fun declaration inside name => ?_, fun path listed name => ?_⟩
    · exact apart _ ⟨declaration, inside, rfl⟩ _ ⟨path, listed, rfl⟩
    · exact reserved _ (.inl ⟨declaration, inside, rfl⟩) _ name rfl
    · exact reserved _ (.inr ⟨path, listed, rfl⟩) _ name rfl
  · rintro ⟨declared, imported, apart, own, other⟩
    refine ⟨⟨declared, imported, ?_⟩, prelude, ?_⟩
    · rintro _ ⟨declaration, inside, rfl⟩ _ ⟨path, listed, rfl⟩
      exact apart declaration inside path listed
    · rintro _ (⟨declaration, inside, rfl⟩ | ⟨path, listed, rfl⟩) name given rfl
      · exact own declaration inside given
      · exact other path listed given

end SourceModule

/-! ### What a module imports -/

namespace SourceModule

variable {mapper : TypeMapper} {doc : Document} {module : SourceModule}

theorem name_of_mem (generated : ofDocument mapper doc = .ok module) {declaration : Declaration}
    (inside : declaration ∈ module.declarations) :
    declaration.name = Layout.typeName declaration.id := by
  obtain ⟨_, _, _, _, _, rfl⟩ := exists_object_of_mem generated inside
  rfl

theorem nodup_imports (generated : ofDocument mapper doc = .ok module) : module.imports.Nodup := by
  rw [imports_eq generated]
  exact Sorted.nodup_texts _

end SourceModule

namespace TypeMapper

variable {mapper : TypeMapper} {doc : Document} {module : SourceModule} {id : Nsid}

/-- A property of one of the structs of a document names a struct of another document than the one
that it is written in. -/
def Imports (mapper : TypeMapper) (doc : Document) (id : Nsid) : Prop :=
  ∃ object ∈ SourceModule.objects doc, ∃ property node place,
    (property, node) ∈ object.properties ∧ mapper.Names doc node place id ∧ id.base ≠ place.id

theorem Imports.parse (imports : mapper.Imports doc id)
    (parsed : ∃ text, Nsid.parse text = .ok doc.id) : ∃ text, Nsid.parse text = .ok id := by
  obtain ⟨_, _, _, _, _, _, names, _⟩ := imports
  exact names.parse parsed

theorem Imports.mem_imports (imports : mapper.Imports doc id)
    (generated : SourceModule.ofDocument mapper doc = .ok module) :
    mapper.layout.qualifiedTypeName id ∈ module.imports := by
  obtain ⟨object, inside, property, node, place, held, names, other⟩ := imports
  rw [SourceModule.imports_eq generated, Sorted.mem_texts]
  refine List.mem_flatMap.mpr ⟨object, inside, List.mem_flatMap.mpr ⟨(property, node), held, ?_⟩⟩
  dsimp only
  rw [names.imports_eq, if_neg other]
  exact List.mem_singleton_self _

/-- All that is imported comes from a library, or is a struct of another document. -/
theorem cases_of_mem_imports (generated : SourceModule.ofDocument mapper doc = .ok module)
    {path : String} (listed : path ∈ module.imports) :
    path ∈ mapper.libraryPaths ∨
      ∃ id, mapper.Imports doc id ∧ path = mapper.layout.qualifiedTypeName id := by
  rw [SourceModule.imports_eq generated, Sorted.mem_texts] at listed
  obtain ⟨object, inside, listed⟩ := List.mem_flatMap.mp listed
  obtain ⟨⟨property, node⟩, held, imported⟩ := List.mem_flatMap.mp listed
  cases core : (mapper.map node doc).core? with
  | none => exact .inl (Mapping.imports_of_core?_eq_none _ _ core path imported)
  | some id =>
    obtain ⟨place, names⟩ := core?_map_iff.mp core
    dsimp only at imported
    rw [names.imports_eq] at imported
    split at imported
    · cases imported
    · next other =>
      exact .inr ⟨id, ⟨object, inside, property, node, place, held, names, other⟩,
        List.mem_singleton.mp imported⟩

/-! ### Names and words -/

theorem lastSegment_qualifiedTypeName (layout : Layout)
    (parsed : ∃ text, Nsid.parse text = .ok id) :
    SourceModule.lastSegment (layout.qualifiedTypeName id) = Layout.typeName id := by
  rw [SourceModule.lastSegment, Layout.pathSegments_qualifiedTypeName parsed]
  simp

theorem map_lastSegment_libraryPaths (mapper : TypeMapper) :
    mapper.libraryPaths.map SourceModule.lastSegment = ["DateTime", "Utc", "BlobRef"] := by
  have blob : SourceModule.lastSegment (mapper.runtime ++ "::BlobRef") = "BlobRef" := by
    have two : "::BlobRef" =
        String.singleton ':' ++ ("" ++ String.singleton ':' ++ "BlobRef") := by decide
    have own : Layout.pathSegments "BlobRef" = ["BlobRef"] := by decide
    rw [two, ← String.append_assoc, SourceModule.lastSegment, Layout.pathSegments_append,
      Layout.pathSegments_append, own]
    simp
  have first : SourceModule.lastSegment "chrono::DateTime" = "DateTime" := by decide
  have second : SourceModule.lastSegment "chrono::Utc" = "Utc" := by decide
  rw [libraryPaths, List.map_cons, List.map_cons, List.map_singleton, first, second, blob]

theorem lastSegment_of_library {path : String} (library : path ∈ mapper.libraryPaths) :
    SourceModule.lastSegment path ∈ ["DateTime", "Utc", "BlobRef"] := by
  rw [← mapper.map_lastSegment_libraryPaths]
  exact List.mem_map_of_mem library

/-- Library paths end in different names. -/
theorem library_eq_of_lastSegment {path other : String} (library : path ∈ mapper.libraryPaths)
    (again : other ∈ mapper.libraryPaths)
    (same : SourceModule.lastSegment path = SourceModule.lastSegment other) : path = other := by
  have distinct : (mapper.libraryPaths.map SourceModule.lastSegment).Nodup := by
    rw [map_lastSegment_libraryPaths]
    decide
  exact List.inj_on_of_nodup_map distinct library again same

/-- The words of a name in lower case. -/
def lowerWords (name : String) : List String := (Case.words name).map Unicode.lowercase

example : SourceModule.preludeNames.map lowerWords =
    [["self"], ["option"], ["vec"], ["box"], ["string"], ["result"]] := by
  decide

/-- A type goes by a name from elsewhere exactly if it has its words. -/
theorem typeName_eq_known_iff (named : id.IsNamed) {name : String}
    (known : name ∈ SourceModule.preludeNames ++ ["DateTime", "Utc", "BlobRef"]) :
    Layout.typeName id = name ↔ id.typeWords = lowerWords name := by
  have shapes : ∀ name ∈ SourceModule.preludeNames ++ ["DateTime", "Utc", "BlobRef"],
      Label.isName name = true ∧ Case.pascal name = name := by
    decide
  obtain ⟨shape, fixed⟩ := shapes name known
  exact Layout.typeName_eq_name_iff named shape fixed

/-! ### Words of a module -/

/-- A module declares or imports the struct of an identifier. -/
def InScope (mapper : TypeMapper) (doc : Document) (module : SourceModule) (id : Nsid) : Prop :=
  (∃ declaration ∈ module.declarations, declaration.id = id) ∨ mapper.Imports doc id

/-- The words of the types that are in scope keep them apart, from each other and from all else. -/
structure TypesApart (mapper : TypeMapper) (doc : Document) (module : SourceModule) : Prop where
  declared : (module.declarations.map (·.id.typeWords)).Nodup
  imported : ∀ a b, mapper.Imports doc a → mapper.Imports doc b → a.typeWords = b.typeWords →
    a.SameModule b
  apart : ∀ declaration ∈ module.declarations, ∀ a, mapper.Imports doc a →
    declaration.id.typeWords ≠ a.typeWords
  prelude : ∀ id, mapper.InScope doc module id → ∀ name ∈ SourceModule.preludeNames,
    id.typeWords ≠ lowerWords name
  /-- A type may have the words of a library type if it is that type, as paths go. -/
  libraries : ∀ path ∈ module.imports, path ∈ mapper.libraryPaths →
    ∀ id, mapper.InScope doc module id →
      id.typeWords = lowerWords (SourceModule.lastSegment path) →
        mapper.Imports doc id ∧ mapper.layout.qualifiedTypeName id = path

section

variable (parsed : ∃ text, Nsid.parse text = .ok doc.id)
  (generated : SourceModule.ofDocument mapper doc = .ok module)
include parsed generated

theorem InScope.isNamed (inScope : mapper.InScope doc module id) : id.IsNamed := by
  rcases inScope with ⟨declaration, inside, rfl⟩ | imports
  · obtain ⟨text, read⟩ := SourceModule.parse_of_mem parsed generated inside
    exact Nsid.isNamed_of_parse read
  · obtain ⟨text, read⟩ := imports.parse parsed
    exact Nsid.isNamed_of_parse read

theorem nodup_names_iff : (module.declarations.map (·.name)).Nodup ↔
    (module.declarations.map (·.id.typeWords)).Nodup := by
  rw [List.Nodup, List.Nodup, List.pairwise_map, List.pairwise_map]
  refine List.Pairwise.iff_of_mem fun {a b} first second => not_congr ?_
  rw [SourceModule.name_of_mem generated first, SourceModule.name_of_mem generated second]
  exact Layout.typeName_eq_iff (InScope.isNamed parsed generated (.inl ⟨a, first, rfl⟩))
    (InScope.isNamed parsed generated (.inl ⟨b, second, rfl⟩))

theorem InScope.typeName_eq_iff {other : Nsid} (inScope : mapper.InScope doc module id)
    (second : mapper.InScope doc module other) :
    Layout.typeName id = Layout.typeName other ↔ id.typeWords = other.typeWords :=
  Layout.typeName_eq_iff (inScope.isNamed parsed generated) (second.isNamed parsed generated)

theorem typesApart_of_unambiguous (given : module.Unambiguous) : mapper.TypesApart doc module := by
  obtain ⟨declared, imported, apart, own, other⟩ :=
    (SourceModule.unambiguous_iff (SourceModule.nodup_imports generated)).mp given
  have last {a : Nsid} (imports : mapper.Imports doc a) :
      SourceModule.lastSegment (mapper.layout.qualifiedTypeName a) = Layout.typeName a :=
    lastSegment_qualifiedTypeName _ (imports.parse parsed)
  -- The module compares written names and the mapper the words they consist of, so each case starts
  -- by going from words to names.
  constructor
  case declared => exact (nodup_names_iff parsed generated).mp declared
  case imported =>
    intro a b left right words
    have names := (InScope.typeName_eq_iff parsed generated (.inr left) (.inr right)).mpr words
    have path := imported _ (left.mem_imports generated) _ (right.mem_imports generated)
      (by rw [last left, last right, names])
    exact (Layout.qualifiedTypeName_eq_iff (left.parse parsed) (right.parse parsed) names).mp path
  case apart =>
    intro declaration inside a imports words
    have names := (InScope.typeName_eq_iff parsed generated (.inl ⟨declaration, inside, rfl⟩)
      (.inr imports)).mpr words
    refine apart declaration inside _ (imports.mem_imports generated) ?_
    rw [SourceModule.name_of_mem generated inside, last imports, names]
  case prelude =>
    intro id inScope name reserved words
    have named := inScope.isNamed parsed generated
    have same := (typeName_eq_known_iff named (List.mem_append_left _ reserved)).mpr words
    rcases inScope with ⟨declaration, inside, rfl⟩ | imports
    · refine own declaration inside ?_
      rw [SourceModule.name_of_mem generated inside, same]
      exact reserved
    · refine other _ (imports.mem_imports generated) ?_
      rw [last imports, same]
      exact reserved
  case libraries =>
    intro path listed library id inScope words
    have named := inScope.isNamed parsed generated
    have same := (typeName_eq_known_iff named
      (List.mem_append_right _ (lastSegment_of_library library))).mpr words
    rcases inScope with ⟨declaration, inside, rfl⟩ | imports
    · refine absurd ?_ (apart declaration inside path listed)
      rw [SourceModule.name_of_mem generated inside, same]
    · refine ⟨imports, imported _ (imports.mem_imports generated) _ listed ?_⟩
      rw [last imports, same]

theorem unambiguous_of_typesApart (given : mapper.TypesApart doc module) : module.Unambiguous := by
  have last {a : Nsid} (imports : mapper.Imports doc a) :
      SourceModule.lastSegment (mapper.layout.qualifiedTypeName a) = Layout.typeName a :=
    lastSegment_qualifiedTypeName _ (imports.parse parsed)
  -- The words of a type that goes by the name of a library type.
  have words {id : Nsid} {path : String} (inScope : mapper.InScope doc module id)
      (library : path ∈ mapper.libraryPaths)
      (same : Layout.typeName id = SourceModule.lastSegment path) :
      id.typeWords = lowerWords (SourceModule.lastSegment path) :=
    (typeName_eq_known_iff (inScope.isNamed parsed generated)
      (List.mem_append_right _ (lastSegment_of_library library))).mp same
  have reserved {id : Nsid} (inScope : mapper.InScope doc module id) :
      Layout.typeName id ∉ SourceModule.preludeNames := by
    intro listed
    have words := (typeName_eq_known_iff (inScope.isNamed parsed generated)
      (List.mem_append_left _ listed)).mp rfl
    exact given.prelude id inScope _ listed words
  refine (SourceModule.unambiguous_iff (SourceModule.nodup_imports generated)).mpr
    ⟨(nodup_names_iff parsed generated).mpr given.declared, ?_, ?_, ?_, ?_⟩
  · intro path listed other there same
    rcases cases_of_mem_imports generated listed with library | ⟨a, left, rfl⟩ <;>
      rcases cases_of_mem_imports generated there with again | ⟨b, right, rfl⟩
    · exact library_eq_of_lastSegment library again same
    · rw [last right] at same
      exact (given.libraries path listed library b (.inr right)
        (words (.inr right) library same.symm)).2.symm
    · rw [last left] at same
      exact (given.libraries other there again a (.inr left) (words (.inr left) again same)).2
    · rw [last left, last right] at same
      have alike := given.imported a b left right
        ((InScope.typeName_eq_iff parsed generated (.inr left) (.inr right)).mp same)
      refine (Layout.qualifiedTypeName_eq_iff (left.parse parsed) (right.parse parsed) same).mpr ?_
      exact alike
  · intro declaration inside path listed same
    have inScope : mapper.InScope doc module declaration.id := .inl ⟨declaration, inside, rfl⟩
    rw [SourceModule.name_of_mem generated inside] at same
    rcases cases_of_mem_imports generated listed with library | ⟨a, imports, rfl⟩
    · have imported := (given.libraries path listed library _ inScope
        (words inScope library same)).1
      exact given.apart declaration inside _ imported rfl
    · rw [last imports] at same
      exact given.apart declaration inside a imports
        ((InScope.typeName_eq_iff parsed generated inScope (.inr imports)).mp same)
  · intro declaration inside
    rw [SourceModule.name_of_mem generated inside]
    exact reserved (.inl ⟨declaration, inside, rfl⟩)
  · intro path listed
    rcases cases_of_mem_imports generated listed with library | ⟨a, imports, rfl⟩
    · intro name
      have apart : ∀ name ∈ ["DateTime", "Utc", "BlobRef"], name ∉ SourceModule.preludeNames := by
        decide
      exact apart _ (lastSegment_of_library library) name
    · rw [last imports]
      exact reserved (.inr imports)

end

/-! ### What names mean -/

/-- What the names of types mean in the module of a document. -/
structure NamesInScope (mapper : TypeMapper) (doc : Document) (module : SourceModule) : Prop where
  unambiguous_iff : module.Unambiguous ↔ mapper.TypesApart doc module
  /-- A type that a field or its reader names is the target of the property. -/
  fields : ∀ declaration ∈ module.declarations, ∃ object ∈ SourceModule.objects doc,
    ∀ field ∈ declaration.fields, ∃ node, (field.property, node) ∈ object.properties ∧
      ∀ name, (field.type.struct? = some name ∨ field.read.reader.struct? = some name) →
        ∃ place id, mapper.Names doc node place id ∧ name = Layout.typeName id
  /-- The name of a target in another document than its reference means what is imported for it. -/
  imported : module.Unambiguous → ∀ object ∈ SourceModule.objects doc, ∀ property node place id,
    (property, node) ∈ object.properties → mapper.Names doc node place id → id.base ≠ place.id →
      module.Means (Layout.typeName id) (.imported (mapper.layout.qualifiedTypeName id))
  /-- The name of a target in the document itself means its struct. -/
  declared : module.Unambiguous → ∀ object ∈ SourceModule.objects doc, ∀ property node place id,
    (property, node) ∈ object.properties → mapper.Names doc node place id → id.base = place.id →
      place.id = doc.id → ∀ definition object, doc.definition? id.definitionName = some definition →
        definition.object? = some object → module.Means (Layout.typeName id) (.declared id)

theorem namesInScope_of_wellFormed (wellFormed : doc.WellFormed)
    (generated : SourceModule.ofDocument mapper doc = .ok module) :
    mapper.NamesInScope doc module := by
  have parsed := wellFormed.identifier
  constructor
  case unambiguous_iff =>
    exact ⟨typesApart_of_unambiguous parsed generated, unambiguous_of_typesApart parsed generated⟩
  case fields =>
    intro declaration inside
    obtain ⟨object, held, id, definition, key, rfl⟩ :=
      SourceModule.exists_object_of_mem generated inside
    refine ⟨object, held, fun field listed => ?_⟩
    obtain ⟨node, ident, given, same⟩ := Declaration.mem_fields listed
    obtain ⟨type, reader⟩ :=
      Declaration.struct?_fieldOf mapper doc id object field.property ident node
    rw [← same] at type reader
    refine ⟨node, given, fun name named => ?_⟩
    rw [type, reader, or_self] at named
    obtain ⟨target, core, rfl⟩ := Option.map_eq_some_iff.mp named
    obtain ⟨place, names⟩ := core?_map_iff.mp core
    exact ⟨place, target, names, rfl⟩
  case imported =>
    intro unambiguous object inside property node place id held names other
    have imports : mapper.Imports doc id :=
      ⟨object, inside, property, node, place, held, names, other⟩
    refine unambiguous.means ?_
    rw [← lastSegment_qualifiedTypeName mapper.layout (imports.parse parsed)]
    exact SourceModule.mem_bindings_of_import (imports.mem_imports generated)
  case declared =>
    intro unambiguous object inside property node place id held names own here definition target
      found struct
    obtain ⟨declaration, listed, rfl, name⟩ := SourceModule.exists_declaration wellFormed generated
      (here.symm.trans own.symm) names.withFragment found struct
    refine unambiguous.means ?_
    rw [← name]
    exact SourceModule.mem_bindings_of_declaration listed

end TypeMapper

namespace Generator

variable {generator : Generator} {doc : Document} {file : GeneratedFile}

/-- In the module of an accepted document each name has one meaning exactly if the words of its
types are apart, and then the types of its fields mean their targets. -/
theorem namesInScope (accepted : ∃ value, Document.parse value = .ok doc)
    (given : generator.generate doc = .ok file) :
    ∃ module, generator.Produces doc module file ∧ generator.mapper.NamesInScope doc module := by
  obtain ⟨value, read⟩ := accepted
  have wellFormed := Document.wellFormed_of_parse value doc read
  obtain ⟨module, produces⟩ := generate_eq_ok_iff.mp given
  exact ⟨module, produces, TypeMapper.namesInScope_of_wellFormed wellFormed produces.generated⟩

theorem namesInScope_nodeDocument :
    (∃ value, Document.parse value = .ok nodeDocument) ∧
      ∃ file, graphGenerator.generate nodeDocument = .ok file ∧
        ∃ module, graphGenerator.Produces nodeDocument module file ∧
          graphGenerator.mapper.NamesInScope nodeDocument module := by
  have accepted := Document.accepted_of_wellFormed wellFormed_graphDocuments nodeDocument
    List.mem_cons_self
  have struct : nodeDocument.Generatable := ⟨_, _, rfl, rfl⟩
  have builtIn : graphGenerator.stubs = .builtIn := rfl
  obtain ⟨file, given⟩ := (exists_generate_iff builtIn).mpr struct
  exact ⟨accepted, file, given, namesInScope accepted given⟩

/-! ### A name with two meanings -/

def selfDocument : Document := objectDocument ⟨["com", "example"], "self", none⟩ []

/-- The struct of this document is declared as `Self`. -/
theorem ambiguous_selfDocument :
    (∃ value, Document.parse value = .ok selfDocument) ∧
      ∃ file, graphGenerator.generate selfDocument = .ok file ∧
        ∃ module, graphGenerator.Produces selfDocument module file ∧
          module.declarations.map (·.name) = ["Self"] ∧ ¬module.Unambiguous := by
  have wellFormed : selfDocument.WellFormed :=
    wellFormed_objectDocument ⟨"com.example.self", by decide⟩ rfl List.nodup_nil (by simp)
  have struct : selfDocument.Generatable := ⟨_, _, rfl, rfl⟩
  have builtIn : graphGenerator.stubs = .builtIn := rfl
  obtain ⟨file, given⟩ := (exists_generate_iff builtIn).mpr struct
  obtain ⟨module, produces⟩ := generate_eq_ok_iff.mp given
  have name : Layout.typeName selfDocument.id = "Self" := by decide
  have names : module.declarations.map (·.name) = ["Self"] := by
    have generated := produces.generated
    cases generated
    exact congrArg (fun name => [name]) name
  refine ⟨⟨_, Document.parse_toJson wellFormed⟩, file, given, module, produces, names,
    fun unambiguous => ?_⟩
  have distinct := (SourceModule.unambiguous_iff
    (SourceModule.nodup_imports produces.generated)).mp unambiguous
  obtain ⟨declaration, inside, own⟩ : ∃ declaration ∈ module.declarations,
      declaration.name = "Self" := by
    have listed : "Self" ∈ module.declarations.map (·.name) := names ▸ List.mem_singleton_self _
    simpa using listed
  exact distinct.2.2.2.1 declaration inside (own ▸ List.mem_cons_self)

end Generator

end Lexicon
