import Lexicon.Proofs.CompletedRuns

/-!
# Lexicon.Proofs.BackingFiles

Which files the declared modules are taken from.

A module `m` that an index declares is looked for in the file `m.rs` and in the
index of the directory `m`, and it has to be in one of them only. The name of a
document becomes a file and its labels become directories, so both are there if
the module names of one identifier start the labels of another one.

## Main definitions

- `FileSet.Backs`: a file that a module of a directory can be taken from.
- `Layout.Nested`: a module has the place of a directory of modules.
- `Generator.ModulesBacked`: which modules of a run have one file.

## Main result

`Generator.modulesBacked`: it holds at the end of every successful run.

## Proof strategy

The set of a run holds a file exactly if it was generated or is the index of a
directory on the way to one. Either is a statement about the parts of the path
of a generated file, and these determine the module names.
-/

namespace Lexicon

open OutputPath (Part parts)

/-! ### Files of modules -/

namespace FileSet

/-- The set holds a file, however its path is spelled. -/
def Holds (set : FileSet) (file : List Part) : Prop :=
  ∃ path, parts path = file ∧ (set.get? path).isSome = true

/-- The index of a directory declares an identifier. -/
def Declares (set : FileSet) (directory : List Part) (ident : String) : Prop :=
  ∃ path source, parts path = Index.partsOf directory ∧ set.get? path = some source ∧
    ident ∈ Index.declared source

/-- The files that a module of a directory can be taken from. -/
inductive Backs (set : FileSet) (directory : List Part) (ident : String) : List Part → Prop
  | file (held : set.Holds (directory ++ [.named (Keyword.bare ident ++ ".rs")])) :
      Backs set directory ident (directory ++ [.named (Keyword.bare ident ++ ".rs")])
  | index (held : set.Holds (Index.partsOf (directory ++ [.named (Keyword.bare ident)]))) :
      Backs set directory ident (Index.partsOf (directory ++ [.named (Keyword.bare ident)]))

/-- The two files of a module are not the same one. -/
theorem not_existsUnique_backs {set : FileSet} {directory : List Part} {ident : String}
    (file : set.Holds (directory ++ [.named (Keyword.bare ident ++ ".rs")]))
    (index : set.Holds (Index.partsOf (directory ++ [.named (Keyword.bare ident)]))) :
    ¬∃! file, set.Backs directory ident file := by
  rintro ⟨one, _, unique⟩
  have same := (unique _ (.file file)).trans (unique _ (.index index)).symm
  have lengths := congrArg List.length same
  simp [Index.partsOf] at lengths

end FileSet

/-- A module is called like a directory of other modules. -/
def Layout.Nested (layout : Layout) (files : List GeneratedFile) : Prop :=
  ∃ a ∈ files, ∃ b ∈ files, layout.moduleSegments a.id <+: layout.namespaceSegments b.id

/-! ### Parts of module paths -/

namespace Keyword

theorem map_fileStem_prefix_iff {as bs : List String} (left : ∀ a ∈ as, Case.IsSnake a)
    (right : ∀ b ∈ bs, Case.IsSnake b) : as.map fileStem <+: bs.map fileStem ↔ as <+: bs := by
  constructor
  · intro stems
    have segments := stems.map trimmed
    rwa [map_trimmed_fileStem left, map_trimmed_fileStem right] at segments
  · exact fun segments => segments.map fileStem

theorem fileStem_mod : fileStem "mod" = "mod" := by decide

end Keyword

namespace GeneratedFile.InPlace

variable {layout : Layout} {file other : GeneratedFile} {directory rest : List Part} {part : Part}

/-- The parts of the path are the directories of the labels and the file of the name. -/
theorem parts_path_eq (placed : file.InPlace layout) :
    parts file.path = ((layout.namespaceSegments file.id).map Keyword.fileStem).map .named ++
      [.named (Keyword.fileStem (Case.snake file.id.name) ++ ".rs")] := by
  rw [placed.parts_path, Layout.fileComponents, List.map_append, List.map_singleton]

theorem isSnake_of_mem (placed : file.InPlace layout) {segment : String}
    (inside : segment ∈ layout.moduleSegments file.id) : Case.IsSnake segment := by
  obtain ⟨text, parsed⟩ := placed.parsed
  exact Layout.isSnake_of_mem_moduleSegments parsed inside

theorem isSnake_of_mem_namespace (placed : file.InPlace layout) {segment : String}
    (inside : segment ∈ layout.namespaceSegments file.id) : Case.IsSnake segment :=
  placed.isSnake_of_mem (List.mem_append_left _ inside)

/-- A part is a directory if another one follows, and the file of a module if not. -/
theorem part_eq (placed : file.InPlace layout)
    (shape : parts file.path = directory ++ part :: rest) :
    if rest = [] then part = .named (Index.moduleOf part ++ ".rs")
    else part = .named (Index.moduleOf part) := by
  rw [placed.parts_path_eq] at shape
  split
  · next last =>
    subst last
    obtain ⟨_, same⟩ := List.append_inj' shape (by simp)
    rw [← List.singleton_inj.mp same, Layout.moduleOf_file]
  · next more =>
    -- All but the last part are the directories.
    have front := congrArg List.dropLast shape
    obtain ⟨next, tail, rfl⟩ := List.exists_cons_of_ne_nil more
    rw [List.dropLast_concat, List.dropLast_append_cons, List.dropLast_cons_cons] at front
    have inside : part ∈ ((layout.namespaceSegments file.id).map Keyword.fileStem).map .named := by
      rw [front]
      simp
    obtain ⟨name, listed, rfl⟩ := List.mem_map.mp inside
    obtain ⟨segment, held, rfl⟩ := List.mem_map.mp listed
    rw [Layout.moduleOf_fileStem (placed.isSnake_of_mem_namespace held)]

/-- The directories on the way to a file are those of the first labels. -/
theorem prefix_of_parts (placed : file.InPlace layout) {names : List String}
    (shape : parts file.path = names.map .named ++ part :: rest) :
    names <+: (layout.namespaceSegments file.id).map Keyword.fileStem := by
  have front := congrArg List.dropLast shape
  rw [placed.parts_path_eq, List.dropLast_concat, List.dropLast_append_cons] at front
  obtain ⟨before, after, split, same, _⟩ := List.map_eq_append_iff.mp front
  rw [split, ← List.map_injective_iff.mpr (fun _ _ => Part.named.inj) same]
  exact List.prefix_append before after

/-- The first labels are the directories on the way to the file. -/
theorem exists_parts_of_prefix (placed : file.InPlace layout) {names : List String}
    (starts : names <+: (layout.namespaceSegments file.id).map Keyword.fileStem) :
    ∃ part rest, parts file.path = names.map .named ++ part :: rest := by
  obtain ⟨more, split⟩ := starts
  rw [placed.parts_path_eq, ← split, List.map_append, List.append_assoc]
  cases more with
  | nil => exact ⟨_, [], rfl⟩
  | cons name more => exact ⟨.named name, _, rfl⟩

theorem fileStem_moduleSegments (layout : Layout) (id : Nsid) :
    (layout.moduleSegments id).map Keyword.fileStem =
      (layout.namespaceSegments id).map Keyword.fileStem ++
        [Keyword.fileStem (Case.snake id.name)] := by
  rw [Layout.moduleSegments, List.map_append, List.map_singleton]

/-- The file of one module and a directory of its name on the way to another. -/
theorem prefix_of_parts_eq (placed : file.InPlace layout) (second : other.InPlace layout)
    {module : String} (own : parts file.path = directory ++ [.named (module ++ ".rs")])
    (shape : parts other.path = directory ++ [.named module] ++ part :: rest) :
    layout.moduleSegments file.id <+: layout.namespaceSegments other.id := by
  rw [placed.parts_path_eq] at own
  obtain ⟨rfl, ends⟩ := List.append_inj' own (by simp)
  have stem : module = Keyword.fileStem (Case.snake file.id.name) :=
    ((String.append_left_inj _).mp (Part.named.inj (List.singleton_inj.mp ends))).symm
  have names : parts other.path =
      ((layout.moduleSegments file.id).map Keyword.fileStem).map .named ++ part :: rest := by
    rw [shape, fileStem_moduleSegments, List.map_append, stem, List.map_singleton]
  exact (Keyword.map_fileStem_prefix_iff (fun _ => placed.isSnake_of_mem)
    fun _ => second.isSnake_of_mem_namespace).mp (second.prefix_of_parts names)

theorem exists_parts_of_nested (second : other.InPlace layout)
    (starts : layout.moduleSegments file.id <+: layout.namespaceSegments other.id) :
    ∃ part rest, parts other.path =
      ((layout.namespaceSegments file.id).map Keyword.fileStem).map .named ++
        [.named (Keyword.fileStem (Case.snake file.id.name))] ++ part :: rest := by
  obtain ⟨part, rest, shape⟩ := second.exists_parts_of_prefix (starts.map Keyword.fileStem)
  refine ⟨part, rest, ?_⟩
  rw [shape, fileStem_moduleSegments, List.map_append, List.map_singleton]

/-- A directory is called `mod` if a label is. -/
theorem mod_mem_iff (placed : file.InPlace layout) :
    "mod" ∈ layout.namespaceSegments file.id ↔
      ∃ directory part rest, parts file.path = directory ++ [.named "mod"] ++ part :: rest := by
  constructor
  · intro inside
    obtain ⟨before, after, split⟩ := List.append_of_mem inside
    have starts : before.map Keyword.fileStem ++ ["mod"] <+:
        (layout.namespaceSegments file.id).map Keyword.fileStem := by
      rw [split, List.map_append, List.map_cons, Keyword.fileStem_mod, List.prefix_append_right_inj]
      exact List.prefix_append ["mod"] _
    obtain ⟨part, rest, shape⟩ := placed.exists_parts_of_prefix starts
    rw [List.map_append, List.map_singleton] at shape
    exact ⟨_, part, rest, shape⟩
  · rintro ⟨directory, part, rest, shape⟩
    have front := congrArg List.dropLast shape
    rw [placed.parts_path_eq, List.dropLast_concat, List.dropLast_append_cons] at front
    have inside : Part.named "mod" ∈
        ((layout.namespaceSegments file.id).map Keyword.fileStem).map .named := by
      rw [front]
      simp
    obtain ⟨name, listed, same⟩ := List.mem_map.mp inside
    obtain ⟨segment, held, rfl⟩ := List.mem_map.mp listed
    -- Only the segment `mod` has the stem `mod`.
    have snake := placed.isSnake_of_mem_namespace held
    have whole : Keyword.fileStem segment ++ ".rs" = "mod.rs" := by
      rw [Part.named.inj same]
      decide
    exact (Keyword.fileStem_eq_mod_iff snake).mp whole ▸ held

end GeneratedFile.InPlace

/-! ### What a run leaves -/

namespace Generator

variable {generator : Generator} {docs : List Document} {report : RunReport} {final : FileSet}

section Written

variable (written : Index.write FileSet.write .empty report.outputs = (final, .ok ()))
include written

theorem get?_eq_lastText (path : String) :
    final.get? path = FileSet.lastText path report.outputs := by
  rw [FileSet.get?_of_write written]
  exact Option.or_none

theorem holds_iff {file : List Part} :
    final.Holds file ↔ ∃ output ∈ report.outputs, parts output.1 = file := by
  constructor
  · rintro ⟨path, rfl, given⟩
    rw [get?_eq_lastText written] at given
    obtain ⟨text, last⟩ := Option.isSome_iff_exists.mp given
    obtain ⟨output, inside, same, _⟩ := FileSet.exists_of_lastText last
    exact ⟨output, inside, same⟩
  · rintro ⟨output, inside, rfl⟩
    refine ⟨output.1, rfl, ?_⟩
    rw [get?_eq_lastText written, Option.isSome_iff_ne_none]
    intro untouched
    exact FileSet.lastText_eq_none_iff.mp untouched output inside rfl

theorem holds_path {file : GeneratedFile} (there : file ∈ report.generated) :
    final.Holds (parts file.path) :=
  (holds_iff written).mpr ⟨_, List.mem_append_left _ (List.mem_map_of_mem there), rfl⟩

variable {layout : Layout} (placed : ∀ file ∈ report.generated, file.InPlace layout)
include placed

/-- The set holds the indexes of the directories on the way to a generated file, and no others. -/
theorem holds_partsOf_iff {directory : List Part} :
    final.Holds (Index.partsOf directory) ↔
      ∃ file ∈ report.generated, ∃ part rest, parts file.path = directory ++ part :: rest := by
  have named := GeneratedFile.isNamed_of_inPlace placed
  have listed : directory ∈ Index.directories
      ((report.generated.map (·.path)).flatMap Index.declarations) ↔
        ∃ file ∈ report.generated, ∃ part rest, parts file.path = directory ++ part :: rest := by
    rw [Index.mem_directories_iff]
    simp
  rw [holds_iff written, ← listed]
  constructor
  · rintro ⟨output, inside, same⟩
    rcases List.mem_append.mp inside with module | index
    · -- A module that goes by the name of an index is a file of that directory itself.
      obtain ⟨file, there, rfl⟩ := List.mem_map.mp module
      exact listed.mpr ⟨file, there, .named "mod.rs", [], same⟩
    · obtain ⟨other, here, rfl⟩ := Index.mem_ofPaths.mp index
      rw [Index.parts_spell_partsOf named here] at same
      exact List.append_cancel_right same ▸ here
  · intro here
    refine ⟨_, List.mem_append_right _ (Index.mem_ofPaths.mpr ⟨directory, here, rfl⟩), ?_⟩
    exact Index.parts_spell_partsOf named here

/-- Files that do not go by the name of an index have been generated. -/
theorem holds_file_iff {directory : List Part} {module : String} (other : module ≠ "mod") :
    final.Holds (directory ++ [.named (module ++ ".rs")]) ↔
      ∃ file ∈ report.generated, parts file.path = directory ++ [.named (module ++ ".rs")] := by
  have named := GeneratedFile.isNamed_of_inPlace placed
  have whole : "mod.rs" = "mod" ++ ".rs" := by decide
  constructor
  · intro held
    obtain ⟨output, inside, same⟩ := (holds_iff written).mp held
    rcases List.mem_append.mp inside with generated | index
    · obtain ⟨file, there, rfl⟩ := List.mem_map.mp generated
      exact ⟨file, there, same⟩
    -- An index is called `mod.rs`.
    · obtain ⟨own, here, rfl⟩ := Index.mem_ofPaths.mp index
      rw [Index.parts_spell_partsOf named here, Index.partsOf, whole] at same
      obtain ⟨_, ends⟩ := List.append_inj' same (by simp)
      have names := Part.named.inj (List.singleton_inj.mp ends)
      exact absurd ((String.append_left_inj _).mp names).symm other
  · rintro ⟨file, there, same⟩
    exact same ▸ holds_path written there

/-- The indexes are written last, so they are what the set holds. -/
theorem get?_index {directory : List Part} {path : String}
    (here : directory ∈ Index.directories
      ((report.generated.map (·.path)).flatMap Index.declarations))
    (same : parts path = Index.partsOf directory) :
    final.get? path = some (Index.text (Index.modulesOf
      ((report.generated.map (·.path)).flatMap Index.declarations) directory)) := by
  have named := GeneratedFile.isNamed_of_inPlace placed
  -- Some index is written to the path, and the last one there is of the same directory.
  have indexed : FileSet.lastText path report.indexes ≠ none := by
    intro untouched
    refine FileSet.lastText_eq_none_iff.mp untouched _
      (Index.mem_ofPaths.mpr ⟨directory, here, rfl⟩) ?_
    rw [Index.parts_spell_partsOf named here, same]
  obtain ⟨text, last⟩ := Option.ne_none_iff_exists'.mp indexed
  obtain ⟨index, listed, location, rfl⟩ := FileSet.exists_of_lastText last
  obtain ⟨other, there, rfl⟩ := Index.mem_ofPaths.mp listed
  rw [Index.parts_spell_partsOf named there, same] at location
  rw [get?_eq_lastText written, RunReport.outputs, FileSet.lastText_append, last, Option.some_or,
    List.append_cancel_right location]

/-- An index declares the parts that follow its directory on the way to a generated file. -/
theorem declares_iff {directory : List Part} {ident : String} :
    final.Declares directory ident ↔ ∃ file ∈ report.generated, ∃ part rest,
      parts file.path = directory ++ part :: rest ∧
        ident = Keyword.escape (Index.moduleOf part) := by
  have named := GeneratedFile.isNamed_of_inPlace placed
  have declared : ident ∈ Index.declared (Index.text (Index.modulesOf
      ((report.generated.map (·.path)).flatMap Index.declarations) directory)) ↔
        ∃ file ∈ report.generated, ∃ part rest, parts file.path = directory ++ part :: rest ∧
          ident = Keyword.escape (Index.moduleOf part) := by
    rw [Index.mem_declared_iff (GeneratedFile.isStem_of_inPlace placed)]
    simp
  have isDirectory {file : GeneratedFile} {part : Part} {rest : List Part}
      (there : file ∈ report.generated) (shape : parts file.path = directory ++ part :: rest) :
      directory ∈ Index.directories
        ((report.generated.map (·.path)).flatMap Index.declarations) :=
    Index.mem_directories_iff.mpr ⟨file.path, List.mem_map_of_mem there, part, rest, shape⟩
  rw [← declared]
  constructor
  · rintro ⟨path, source, same, given, inside⟩
    have held : final.Holds (Index.partsOf directory) := ⟨path, same, by rw [given]; rfl⟩
    obtain ⟨file, there, part, rest, shape⟩ := (holds_partsOf_iff written placed).mp held
    rw [get?_index written placed (isDirectory there shape) same] at given
    cases given
    exact inside
  · intro inside
    obtain ⟨file, there, part, rest, shape, _⟩ := declared.mp inside
    have same := Index.parts_spell_partsOf named (isDirectory there shape)
    exact ⟨_, _, same, get?_index written placed (isDirectory there shape) same, inside⟩

end Written

/-- Which modules of a run are taken from one file. -/
structure ModulesBacked (layout : Layout) (report : RunReport) (final : FileSet) : Prop where
  /-- What an index declares has a file. -/
  given : ∀ directory ident, final.Declares directory ident →
    ∃ file, final.Backs directory ident file
  /-- A directory holds both the file of a module and a directory of its name exactly if a module
  is called like a directory of other modules. -/
  doubled_iff : (∃ directory module,
      (∃ file ∈ report.generated, parts file.path = directory ++ [.named (module ++ ".rs")]) ∧
        final.Holds (Index.partsOf (directory ++ [.named module]))) ↔
    layout.Nested report.generated
  /-- What an index declares has one file, unless there are such modules, or a directory is called
  like the file of an index. -/
  single_iff : (∀ directory ident, final.Declares directory ident →
      ∃! file, final.Backs directory ident file) ↔
    ¬layout.Nested report.generated ∧
      ∀ file ∈ report.generated, "mod" ∉ layout.namespaceSegments file.id

section Backed

variable {layout : Layout}
  (written : Index.write FileSet.write .empty report.outputs = (final, .ok ()))
  (placed : ∀ file ∈ report.generated, file.InPlace layout)
include written placed

theorem exists_backs {directory : List Part} {ident : String}
    (declares : final.Declares directory ident) : ∃ file, final.Backs directory ident file := by
  obtain ⟨file, there, part, rest, shape, rfl⟩ := (declares_iff written placed).mp declares
  have stem : Keyword.IsStem (Index.moduleOf part) :=
    GeneratedFile.isStem_of_inPlace placed _ (List.mem_map_of_mem there) part (by simp [shape])
  have kind := (placed file there).part_eq shape
  rw [← stem.bare_escape] at kind
  -- The last part of a path is the file itself, and any other part is a directory.
  cases rest with
  | nil =>
    rw [if_pos rfl] at kind
    rw [kind] at shape
    refine ⟨_, .file ?_⟩
    exact shape ▸ holds_path written there
  | cons next rest =>
    rw [if_neg (List.cons_ne_nil next rest)] at kind
    rw [kind, List.append_cons] at shape
    exact ⟨_, .index ((holds_partsOf_iff written placed).mpr ⟨file, there, next, rest, shape⟩)⟩

theorem doubled_iff : (∃ directory module,
      (∃ file ∈ report.generated, parts file.path = directory ++ [.named (module ++ ".rs")]) ∧
        final.Holds (Index.partsOf (directory ++ [.named module]))) ↔
    layout.Nested report.generated := by
  constructor
  · rintro ⟨directory, module, ⟨a, first, own⟩, held⟩
    obtain ⟨b, second, part, rest, shape⟩ := (holds_partsOf_iff written placed).mp held
    exact ⟨a, first, b, second, (placed a first).prefix_of_parts_eq (placed b second) own shape⟩
  · rintro ⟨a, first, b, second, starts⟩
    obtain ⟨part, rest, shape⟩ := (placed b second).exists_parts_of_nested starts
    refine ⟨_, _, ⟨a, first, (placed a first).parts_path_eq⟩, ?_⟩
    exact (holds_partsOf_iff written placed).mpr ⟨b, second, part, rest, shape⟩

/-- A module that both files are there for is a directory called `mod`, or like a module. -/
theorem nested_or_mod {directory : List Part} {module : String}
    (file : final.Holds (directory ++ [.named (module ++ ".rs")]))
    (index : final.Holds (Index.partsOf (directory ++ [.named module]))) :
    layout.Nested report.generated ∨
      ∃ file ∈ report.generated, "mod" ∈ layout.namespaceSegments file.id := by
  by_cases isMod : module = "mod"
  · subst isMod
    obtain ⟨b, second, part, rest, shape⟩ := (holds_partsOf_iff written placed).mp index
    exact .inr ⟨b, second, (placed b second).mod_mem_iff.mpr ⟨directory, part, rest, shape⟩⟩
  · have generated := (holds_file_iff written placed isMod).mp file
    exact .inl ((doubled_iff written placed).mp ⟨directory, module, generated, index⟩)

/-- A module that is called like a directory has a file and an index, and so two. -/
theorem not_nested_of_single (each : ∀ directory ident, final.Declares directory ident →
    ∃! file, final.Backs directory ident file) : ¬layout.Nested report.generated := by
  rintro ⟨a, first, b, second, starts⟩
  obtain ⟨part, rest, shape⟩ := (placed b second).exists_parts_of_nested starts
  have own := (placed a first).parts_path_eq
  have stem : Keyword.IsStem (Keyword.fileStem (Case.snake a.id.name)) :=
    ⟨_, (placed a first).isSnake_of_mem (List.mem_append_right _ (List.mem_singleton_self _)), rfl⟩
  have declares := (declares_iff written placed).mpr ⟨a, first, _, [], own, rfl⟩
  rw [Layout.moduleOf_file] at declares
  refine FileSet.not_existsUnique_backs ?_ ?_ (each _ _ declares)
  · rw [stem.bare_escape]
    exact own ▸ holds_path written first
  · rw [stem.bare_escape]
    exact (holds_partsOf_iff written placed).mpr ⟨b, second, part, rest, shape⟩

/-- A directory called `mod` has its own index, and that of the directory above goes by the name of
its file. -/
theorem mod_notMem_of_single (each : ∀ directory ident, final.Declares directory ident →
    ∃! file, final.Backs directory ident file) :
    ∀ file ∈ report.generated, "mod" ∉ layout.namespaceSegments file.id := by
  intro file there inside
  obtain ⟨directory, part, rest, shape⟩ := (placed file there).mod_mem_iff.mp inside
  have bare : Keyword.bare (Keyword.escape (Index.moduleOf (.named "mod"))) = "mod" := by decide
  have index : [Part.named ("mod" ++ ".rs")] = [.named "mod.rs"] := by decide
  have long : parts file.path = directory ++ .named "mod" :: part :: rest := by
    rw [shape, List.append_assoc, List.singleton_append]
  have declares := (declares_iff written placed).mpr ⟨file, there, _, _, long, rfl⟩
  refine FileSet.not_existsUnique_backs ?_ ?_ (each _ _ declares)
  · rw [bare, index]
    exact (holds_partsOf_iff written placed).mpr ⟨file, there, _, _, long⟩
  · rw [bare]
    exact (holds_partsOf_iff written placed).mpr ⟨file, there, part, rest, shape⟩

theorem single_iff : (∀ directory ident, final.Declares directory ident →
      ∃! file, final.Backs directory ident file) ↔
    ¬layout.Nested report.generated ∧
      ∀ file ∈ report.generated, "mod" ∉ layout.namespaceSegments file.id := by
  constructor
  · intro each
    exact ⟨not_nested_of_single written placed each, mod_notMem_of_single written placed each⟩
  · rintro ⟨apart, noMod⟩ directory ident declares
    have clash (file : final.Holds (directory ++ [.named (Keyword.bare ident ++ ".rs")]))
        (index : final.Holds (Index.partsOf (directory ++ [.named (Keyword.bare ident)]))) :
        False := by
      rcases nested_or_mod written placed file index with nested | ⟨b, second, inside⟩
      · exact apart nested
      · exact noMod b second inside
    obtain ⟨file, backs⟩ := exists_backs written placed declares
    refine ⟨file, backs, fun other also => ?_⟩
    -- Two files of one kind are the same, and the two kinds exclude each other.
    cases backs with
    | file held =>
      cases also with
      | file again => rfl
      | index there => exact (clash held there).elim
    | index held =>
      cases also with
      | file there => exact (clash there held).elim
      | index again => rfl

end Backed

/-- At the end of a run the modules are taken from the files that the module names tell. -/
theorem modulesBacked
    (accepted : ∀ doc ∈ docs, ∃ value, Document.parse value = .ok doc)
    (ran : generator.run FileSet.write .empty docs = (final, .ok report)) :
    ModulesBacked generator.mapper.layout report final := by
  obtain ⟨sorts, written⟩ := run_eq_ok ran
  have placed := sorts.inPlace fun doc inside =>
    (Document.wellFormed_of_accepted accepted doc inside).identifier
  constructor
  case given => exact fun directory ident => exists_backs written placed
  case doubled_iff => exact doubled_iff written placed
  case single_iff => exact single_iff written placed

theorem modulesBacked_graphDocuments :
    (∀ doc ∈ graphDocuments, ∃ value, Document.parse value = .ok doc) ∧
      ∃ final report,
        graphGenerator.run FileSet.write .empty graphDocuments = (final, .ok report) ∧
          ModulesBacked graphGenerator.mapper.layout report final := by
  have accepted := Document.accepted_of_wellFormed wellFormed_graphDocuments
  obtain ⟨final, report, ran⟩ := exists_run_eq_ok succeeds_graphDocuments
  exact ⟨accepted, final, report, ran, modulesBacked accepted ran⟩

/-! ### A module like a directory -/

def feedDocument : Document := objectDocument ⟨["com", "example"], "feed", none⟩ []

def feedPostDocument : Document := objectDocument ⟨["com", "example", "feed"], "post", none⟩ []

def feedDocuments : List Document := [feedDocument, feedPostDocument]

/-- The generator that keeps the labels of identifiers in order. -/
def feedGenerator : Generator :=
  { mapper :=
      { layout := { order := .forward }, runtime := "lex_runtime",
        registry := some (.ofDocuments feedDocuments) }
    stubs := .builtIn }

theorem wellFormed_feedDocuments : ∀ doc ∈ feedDocuments, doc.WellFormed := by
  simp only [feedDocuments, List.forall_mem_cons, List.not_mem_nil, false_implies, implies_true,
    and_true]
  exact ⟨wellFormed_objectDocument ⟨"com.example.feed", by decide⟩ rfl List.nodup_nil (by simp),
    wellFormed_objectDocument ⟨"com.example.feed.post", by decide⟩ rfl List.nodup_nil (by simp)⟩

/-- The module `feed` is declared once, and is there as a file and as a directory. -/
theorem doubled_feedDocuments :
    (∀ doc ∈ feedDocuments, ∃ value, Document.parse value = .ok doc) ∧
      (feedDocuments.map (·.id)).Nodup ∧
      ∃ final report, feedGenerator.run FileSet.write .empty feedDocuments = (final, .ok report) ∧
        final.Declares [.named "com", .named "example"] "feed" ∧
        (∃ file ∈ report.generated,
          parts file.path = [.named "com", .named "example", .named "feed.rs"]) ∧
        final.Holds [.named "com", .named "example", .named "feed", .named "mod.rs"] ∧
        ¬∃! file, final.Backs [.named "com", .named "example"] "feed" file := by
  have wellFormed := wellFormed_feedDocuments
  have parsed : ∀ doc ∈ feedDocuments, ∃ text, Nsid.parse text = .ok doc.id :=
    fun doc inside => (wellFormed doc inside).identifier
  have builtIn : feedGenerator.stubs = .builtIn := rfl
  obtain ⟨final, report, ran⟩ := exists_run parsed builtIn .empty
  obtain ⟨sorts, written⟩ := run_eq_ok ran
  have placed := sorts.inPlace parsed
  -- The run is not computed: where a file is placed follows from its identifier.
  have generated (doc : Document) (inside : doc ∈ feedDocuments) (struct : doc.Generatable) :
      ∃ file ∈ report.generated, parts file.path =
        (feedGenerator.mapper.layout.fileComponents doc.id).map .named := by
    rcases sorts.of_mem inside with ⟨file, listed, produced⟩ | ⟨_, noStruct⟩
    · obtain ⟨module, produces⟩ := generate_eq_ok_iff.mp produced
      exact ⟨file, listed, produces.id ▸ (placed file listed).parts_path⟩
    · exact absurd struct noStruct
  obtain ⟨feed, first, own⟩ := generated feedDocument List.mem_cons_self ⟨_, _, rfl, rfl⟩
  obtain ⟨post, second, below⟩ := generated feedPostDocument
    (List.mem_cons_of_mem _ List.mem_cons_self) ⟨_, _, rfl, rfl⟩
  have feedFile : feedGenerator.mapper.layout.fileComponents feedDocument.id =
      ["com", "example", "feed.rs"] := by decide
  have postFile : feedGenerator.mapper.layout.fileComponents feedPostDocument.id =
      ["com", "example", "feed", "post.rs"] := by decide
  rw [feedFile] at own
  rw [postFile] at below
  have file : final.Holds [.named "com", .named "example", .named "feed.rs"] := by
    have held := holds_path written first
    rw [own] at held
    exact held
  have index : final.Holds (Index.partsOf [.named "com", .named "example", .named "feed"]) :=
    (holds_partsOf_iff written placed).mpr ⟨post, second, .named "post.rs", [], below⟩
  have declares : final.Declares [.named "com", .named "example"] "feed" :=
    (declares_iff written placed).mpr ⟨feed, first, .named "feed.rs", [], own, by decide⟩
  have accepted := Document.accepted_of_wellFormed wellFormed
  refine ⟨accepted, by decide, final, report, ran, declares, ⟨feed, first, own⟩, index, ?_⟩
  have bare : Keyword.bare "feed" = "feed" := by decide
  have name : "feed" ++ ".rs" = "feed.rs" := by decide
  refine FileSet.not_existsUnique_backs ?_ ?_
  · rw [bare, name]
    exact file
  · rw [bare]
    exact index

end Generator

end Lexicon
