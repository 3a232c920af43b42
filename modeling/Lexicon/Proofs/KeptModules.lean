import Lexicon.Proofs.DocumentRoundTrip
import Lexicon.Proofs.GenerationRuns
import Lexicon.Proofs.ModuleNames
import Lexicon.Proofs.TextLines

/-!
# Lexicon.Proofs.KeptModules

Which generated modules are still there at the end of a run.

A run writes the modules one after the other and the indexes last, and what is
written later takes the place of what is there. So a module is lost if its file
is `mod`, which is an index in each directory, or if a later module has the
same module names. What is lost is gone for good: the first line of a module
names its document, so no other text that is written is the same.

## Main definition

`Generator.ModulesKept`: which modules of a report a set of files holds.

## Main result

`Generator.modulesKept`: it holds at the end of every successful run.

## Proof strategy

The last text that goes to a path is what the set holds in the end. The path of
a module tells its module names, and its text tells its identifier, so it takes
a clash of the module names to lose a module, and each clash loses one.
-/

namespace Lexicon

/-! ### The first line of a module -/

namespace Template

theorem renderNodes_cons_eq_ok {env : Env} {node : Node} {rest : List Node} {text : String}
    (given : renderNodes env (node :: rest) = .ok text) :
    ∃ head tail, renderNode env node = .ok head ∧ renderNodes env rest = .ok tail ∧
      text = head ++ tail := by
  rw [renderNodes] at given
  obtain ⟨head, first, given⟩ := bind_eq_ok_iff.mp given
  obtain ⟨tail, second, same⟩ := bind_eq_ok_iff.mp given
  cases same
  exact ⟨head, tail, first, second, rfl⟩

end Template

namespace SourceModule

variable {module : SourceModule} {runtime source : String}

/-- A module that the built-in templates lay out names its document in the first line. -/
theorem firstLine_of_render (laidOut : module.render .builtIn runtime = .ok source) :
    ∃ rest, source = "// @generated by lexgen from " ++ (module.id.text ++
      (". Do not edit.\n// Declares " ++ rest)) := by
  obtain ⟨sources, _, whole⟩ := bind_eq_ok_iff.mp laidOut
  change Template.render Stubs.fileTemplate (module.data sources) = .ok source at whole
  -- The template starts with a text, the identifier and another text.
  obtain ⟨start, later, first, behindStart, joined⟩ := Template.renderNodes_cons_eq_ok whole
  obtain ⟨name, last, second, behindName, named⟩ := Template.renderNodes_cons_eq_ok behindStart
  obtain ⟨stop, rest, third, _, stopped⟩ := Template.renderNodes_cons_eq_ok behindName
  cases first
  cases third
  have value : Except.ok module.id.text = Except.ok (ε := Template.RenderError) name := second
  exact ⟨rest, by rw [joined, named, stopped, Except.ok.inj value]⟩

end SourceModule

theorem id_of_ofDocument {mapper : TypeMapper} {doc : Document} {module : SourceModule}
    (generated : SourceModule.ofDocument mapper doc = .ok module) : module.id = doc.id := by
  obtain ⟨parts, _, same⟩ := bind_eq_ok_iff.mp generated
  cases same
  rfl

/-- No index starts as a module does. -/
theorem Index.text_ne_source {module : SourceModule} {runtime source : String}
    (laidOut : module.render .builtIn runtime = .ok source) (modules : List String) :
    Index.text modules ≠ source := by
  obtain ⟨rest, rfl⟩ := SourceModule.firstLine_of_render laidOut
  intro same
  have index : "// @generated by lexgen. Do not edit.\n\n" =
      "// @generated by lexgen" ++ ". Do not edit.\n\n" := by decide
  have first : "// @generated by lexgen from " = "// @generated by lexgen" ++ " from " := by decide
  change "// @generated by lexgen. Do not edit.\n\n" ++ _ = _ at same
  rw [index, first, String.append_assoc, String.append_assoc] at same
  -- One goes on with a full stop where the other has a blank.
  have chars := congrArg String.toList same
  rw [String.toList_append, String.toList_append (s := "// @generated by lexgen")] at chars
  have heads := congrArg List.head? (List.append_cancel_left chars)
  simp at heads

/-- In the first line the identifier ends at a blank, but for the full stop in front of it. -/
theorem Nsid.takeWhile_text {id : Nsid} {text : String} (parsed : Nsid.parse text = .ok id)
    (main : id.fragment = none) (rest : List Char) :
    (id.text.toList ++ (". Do not edit.\n// Declares ".toList ++ rest)).takeWhile (· != ' ') =
      id.text.toList ++ ['.'] := by
  have all : ∀ c ∈ id.text.toList, (c != ' ') = true := by
    intro c inside
    exact bne_iff_ne.mpr fun same => blank_notMem_text parsed main (same ▸ inside)
  have stop : ". Do not edit.\n// Declares ".toList =
      '.' :: ' ' :: "Do not edit.\n// Declares ".toList := by
    decide
  rw [List.takeWhile_append_of_pos all, stop]
  rfl

/-- Modules of different documents are different texts. -/
theorem SourceModule.id_eq_of_source {module other : SourceModule} {runtime again source : String}
    (laidOut : module.render .builtIn runtime = .ok source)
    (same : other.render .builtIn again = .ok source) {text second : String}
    (parsed : Nsid.parse text = .ok module.id) (main : module.id.fragment = none)
    (read : Nsid.parse second = .ok other.id) (first : other.id.fragment = none) :
    module.id = other.id := by
  obtain ⟨rest, rfl⟩ := firstLine_of_render laidOut
  obtain ⟨behind, equal⟩ := firstLine_of_render same
  -- The first line holds the identifier, up to the next blank.
  have texts : module.id.text = other.id.text := by
    have lines := congrArg String.toList equal
    simp only [String.toList_append] at lines
    have heads := congrArg (List.takeWhile (· != ' ')) (List.append_cancel_left lines)
    rw [Nsid.takeWhile_text parsed main, Nsid.takeWhile_text read first] at heads
    exact String.toList_inj.mp (List.append_cancel_right heads)
  have back := Nsid.parse_text parsed
  rw [texts, Nsid.parse_text read] at back
  exact (Except.ok.inj back).symm

/-! ### Runs into an empty set -/

namespace Generator

open OutputPath (parts)

variable {generator : Generator} {docs : List Document} {report : RunReport} {final : FileSet}

/-- A file is laid out by the built-in templates, for a document of its identifier. -/
structure IsModule (generator : Generator) (file : GeneratedFile) : Prop where
  parsed : ∃ text, Nsid.parse text = .ok file.id
  main : file.id.fragment = none
  path : file.path = generator.mapper.layout.filePath file.id
  laidOut : ∃ module : SourceModule, module.id = file.id ∧
    module.render .builtIn generator.mapper.runtime = .ok file.source

namespace IsModule

variable {file other : GeneratedFile} (first : generator.IsModule file)
include first

theorem parts_eq_iff (second : generator.IsModule other) :
    parts file.path = parts other.path ↔ file.id.SameModule other.id := by
  obtain ⟨text, parsed⟩ := first.parsed
  obtain ⟨again, read⟩ := second.parsed
  rw [first.path, second.path]
  exact Layout.parts_filePath_eq_iff parsed read

theorem id_eq_of_source (second : generator.IsModule other) (same : file.source = other.source) :
    file.id = other.id := by
  obtain ⟨text, parsed⟩ := first.parsed
  obtain ⟨again, read⟩ := second.parsed
  obtain ⟨module, id, laidOut⟩ := first.laidOut
  obtain ⟨another, otherId, alike⟩ := second.laidOut
  rw [← same] at alike
  have ids := SourceModule.id_eq_of_source laidOut alike (id ▸ parsed) (id ▸ first.main)
    (otherId ▸ read) (otherId ▸ second.main)
  rw [← id, ids, otherId]

theorem isNamed : OutputPath.IsNamed file.path := by
  obtain ⟨text, parsed⟩ := first.parsed
  rw [first.path]
  exact ⟨_, fun _ => Layout.isName_of_mem_components parsed, Layout.parts_filePath parsed⟩

/-- Other modules do not touch the file unless they have the same module names. -/
theorem lastText_eq_none_iff {files : List GeneratedFile}
    (each : ∀ later ∈ files, generator.IsModule later) :
    FileSet.lastText file.path (files.map fun later => (later.path, later.source)) = none ↔
      ∀ later ∈ files, ¬file.id.SameModule later.id := by
  rw [FileSet.lastText_eq_none_iff, List.forall_mem_map]
  refine forall₂_congr fun later inside => ?_
  rw [← first.parts_eq_iff (each later inside), ne_comm]

theorem text_ne_source (modules : List String) : Index.text modules ≠ file.source := by
  obtain ⟨module, _, laidOut⟩ := first.laidOut
  exact Index.text_ne_source laidOut modules

end IsModule

theorem Sorts.isModule (sorts : generator.Sorts docs report)
    (wellFormed : ∀ doc ∈ docs, doc.WellFormed) (builtIn : generator.stubs = .builtIn) :
    ∀ file ∈ report.generated, generator.IsModule file := by
  intro file listed
  obtain ⟨doc, inside, produced⟩ := sorts.exists_of_generated listed
  obtain ⟨module, produces⟩ := generate_eq_ok_iff.mp produced
  have sound := wellFormed doc inside
  have laidOut := produces.laidOut
  rw [builtIn] at laidOut
  refine ⟨?_, ?_, ?_, module, ?_, laidOut⟩
  · exact produces.id ▸ sound.identifier
  · exact produces.id ▸ sound.noFragment
  · exact produces.id ▸ produces.path
  · exact produces.id ▸ id_of_ofDocument produces.generated

/-- Among the modules a file is kept until another one goes to the same module. -/
theorem lastText_modules_iff {before after : List GeneratedFile} {file : GeneratedFile}
    (split : report.generated = before ++ file :: after)
    (each : ∀ file ∈ report.generated, generator.IsModule file)
    (distinct : (report.generated.map (·.id)).Nodup) :
    FileSet.lastText file.path report.modules = some file.source ↔
      ∀ later ∈ after, ¬file.id.SameModule later.id := by
  rw [split] at each distinct
  have own := each file (by simp)
  have behind : ∀ later ∈ after, generator.IsModule later :=
    fun later inside => each later (by simp [inside])
  rw [RunReport.modules, split, List.map_append, List.map_cons, FileSet.lastText_split,
    ← own.lastText_eq_none_iff behind]
  constructor
  · intro kept
    cases last : FileSet.lastText file.path
      (after.map fun later => (later.path, later.source)) with
    | none => rfl
    | some text =>
      -- What is there would be the text of another document's module.
      rw [last, Option.some_or] at kept
      obtain ⟨_, written, _, given⟩ := FileSet.exists_of_lastText last
      obtain ⟨later, inside, rfl⟩ := List.mem_map.mp written
      have source : later.source = file.source := given.trans (Option.some.inj kept)
      have same := (behind later inside).id_eq_of_source own source
      rw [List.map_append, List.map_cons, List.nodup_append] at distinct
      have apart := (List.nodup_cons.mp distinct.2.1).1
      exact absurd (same ▸ List.mem_map_of_mem inside) apart
  · intro untouched
    rw [untouched, Option.none_or]

/-- The indexes leave a file alone unless it is the module `mod`. -/
theorem lastText_indexes {file : GeneratedFile} (listed : file ∈ report.generated)
    (each : ∀ file ∈ report.generated, generator.IsModule file) :
    if Case.snake file.id.name = "mod" then
      ∃ modules, FileSet.lastText file.path report.indexes = some (Index.text modules)
    else FileSet.lastText file.path report.indexes = none := by
  have named : ∀ path ∈ report.generated.map (·.path), OutputPath.IsNamed path := by
    intro path inside
    obtain ⟨other, there, rfl⟩ := List.mem_map.mp inside
    exact (each other there).isNamed
  obtain ⟨text, parsed⟩ := (each file listed).parsed
  have shape : parts file.path = (generator.mapper.layout.fileComponents file.id).map .named := by
    rw [(each file listed).path]
    exact Layout.parts_filePath parsed
  rw [Layout.fileComponents, List.map_append, List.map_singleton] at shape
  -- An index takes the path of a module only if the file of the module is `mod.rs`.
  have clash := (Index.exists_ofPaths_iff named (List.mem_map_of_mem listed) shape).trans
    (Keyword.fileStem_eq_mod_iff (Nsid.isSnake_name parsed))
  split
  · next isMod =>
    obtain ⟨index, inside, same⟩ := clash.mpr isMod
    cases last : FileSet.lastText file.path report.indexes with
    | none => exact absurd same (FileSet.lastText_eq_none_iff.mp last index inside)
    | some text =>
      obtain ⟨written, there, _, rfl⟩ := FileSet.exists_of_lastText last
      obtain ⟨directory, _, rfl⟩ := List.mem_map.mp there
      exact ⟨_, rfl⟩
  · next other =>
    refine FileSet.lastText_eq_none_iff.mpr fun index inside same => ?_
    exact other (clash.mp ⟨index, inside, same⟩)

theorem get?_eq_source_iff {before after : List GeneratedFile} {file : GeneratedFile}
    (written : Index.write FileSet.write .empty report.outputs = (final, .ok ()))
    (split : report.generated = before ++ file :: after)
    (each : ∀ file ∈ report.generated, generator.IsModule file)
    (distinct : (report.generated.map (·.id)).Nodup) :
    final.get? file.path = some file.source ↔
      Case.snake file.id.name ≠ "mod" ∧ ∀ later ∈ after, ¬file.id.SameModule later.id := by
  have listed : file ∈ report.generated := by simp [split]
  have indexes := lastText_indexes listed each
  -- The indexes are written behind the modules, so their texts come first.
  have held : final.get? file.path = (FileSet.lastText file.path report.indexes).or
      (FileSet.lastText file.path report.modules) := by
    rw [FileSet.get?_of_write written, RunReport.outputs, FileSet.lastText_append]
    exact Option.or_none
  rw [held, ← lastText_modules_iff split each distinct]
  split at indexes
  · next isMod =>
    obtain ⟨modules, last⟩ := indexes
    rw [last, Option.some_or]
    constructor
    · intro same
      exact absurd (Option.some.inj same) ((each file listed).text_ne_source modules)
    · rintro ⟨other, _⟩
      exact absurd isMod other
  · next other =>
    rw [indexes, Option.none_or]
    exact (and_iff_right other).symm

/-- Which generated modules a set of files holds at the end of a run. -/
structure ModulesKept (report : RunReport) (final : FileSet) : Prop where
  /-- A module is lost to an index if it goes by the name of one, and to a later document with the
  same module names. -/
  each : ∀ before file after, report.generated = before ++ file :: after →
    (final.get? file.path = some file.source ↔
      Case.snake file.id.name ≠ "mod" ∧ ∀ later ∈ after, ¬file.id.SameModule later.id)
  all : (∀ file ∈ report.generated, final.get? file.path = some file.source) ↔
    (∀ file ∈ report.generated, Case.snake file.id.name ≠ "mod") ∧
      report.generated.Pairwise fun file later => ¬file.id.SameModule later.id

theorem ModulesKept.of_each
    (each : ∀ before file after, report.generated = before ++ file :: after →
      (final.get? file.path = some file.source ↔
        Case.snake file.id.name ≠ "mod" ∧ ∀ later ∈ after, ¬file.id.SameModule later.id)) :
    ModulesKept report final := by
  refine ⟨each, fun kept => ⟨?_, ?_⟩, ?_⟩
  · intro file listed
    obtain ⟨before, after, split⟩ := List.append_of_mem listed
    exact ((each before file after split).mp (kept file listed)).1
  · -- What holds of the files behind each file holds of all pairs.
    have pairwise (files before : List GeneratedFile) (split : report.generated = before ++ files) :
        files.Pairwise fun file later => ¬file.id.SameModule later.id := by
      induction files generalizing before with
      | nil => exact .nil
      | cons file after ih =>
        have listed : file ∈ report.generated := by simp [split]
        refine .cons ((each before file after split).mp (kept file listed)).2 ?_
        exact ih (before ++ [file]) (by simp [split])
    exact pairwise report.generated [] rfl
  · rintro ⟨names, apart⟩ file listed
    obtain ⟨before, after, split⟩ := List.append_of_mem listed
    rw [split, List.pairwise_append] at apart
    exact (each before file after split).mpr
      ⟨names file listed, (List.pairwise_cons.mp apart.2.1).1⟩

theorem ModulesKept.of_run (wellFormed : ∀ doc ∈ docs, doc.WellFormed)
    (distinct : (docs.map (·.id)).Nodup) (builtIn : generator.stubs = .builtIn)
    (ran : generator.run FileSet.write .empty docs = (final, .ok report)) :
    ModulesKept report final := by
  obtain ⟨sorts, written⟩ := run_eq_ok ran
  have each := sorts.isModule wellFormed builtIn
  have apart := sorts.sublist.nodup distinct
  exact .of_each fun before file after split => get?_eq_source_iff written split each apart

/-- At the end of a run over accepted documents with distinct identifiers, into an empty set and
with the built-in templates, the modules are there but for those that are written over. -/
theorem modulesKept (accepted : ∀ doc ∈ docs, ∃ value, Document.parse value = .ok doc)
    (distinct : (docs.map (·.id)).Nodup) (builtIn : generator.stubs = .builtIn)
    (ran : generator.run FileSet.write .empty docs = (final, .ok report)) :
    ModulesKept report final := by
  exact .of_run (Document.wellFormed_of_accepted accepted) distinct builtIn ran

theorem modulesKept_graphDocuments :
    (∀ doc ∈ graphDocuments, ∃ value, Document.parse value = .ok doc) ∧
      (graphDocuments.map (·.id)).Nodup ∧ graphGenerator.stubs = .builtIn ∧
      ∃ final report,
        graphGenerator.run FileSet.write .empty graphDocuments = (final, .ok report) ∧
          ModulesKept report final := by
  have accepted := Document.accepted_of_wellFormed wellFormed_graphDocuments
  have distinct : (graphDocuments.map (·.id)).Nodup := by decide
  obtain ⟨final, report, ran⟩ := exists_run_eq_ok succeeds_graphDocuments
  exact ⟨accepted, distinct, rfl, final, report, ran, modulesKept accepted distinct rfl ran⟩

/-! ### A module that is lost -/

def modDocument : Document := objectDocument ⟨["com", "example"], "mod", none⟩ []

theorem wellFormed_modDocument : modDocument.WellFormed :=
  wellFormed_objectDocument ⟨"com.example.mod", by decide⟩ rfl List.nodup_nil (by simp)

def modGenerator : Generator :=
  { mapper :=
      { layout := {}, runtime := "lex_runtime", registry := some (.ofDocuments [modDocument]) }
    stubs := .builtIn }

/-- A module `mod` is lost to the index of its directory. -/
theorem lost_modDocument :
    (∀ doc ∈ [modDocument], ∃ value, Document.parse value = .ok doc) ∧
      ([modDocument].map (·.id)).Nodup ∧ modGenerator.stubs = .builtIn ∧
      ∃ final report, modGenerator.run FileSet.write .empty [modDocument] = (final, .ok report) ∧
        ∃ file ∈ report.generated, final.get? file.path ≠ some file.source := by
  have wellFormed : ∀ doc ∈ [modDocument], doc.WellFormed := by simpa using wellFormed_modDocument
  have accepted := Document.accepted_of_wellFormed wellFormed
  have distinct : ([modDocument].map (·.id)).Nodup := by decide
  have evaluated : (modGenerator.run FileSet.write .empty [modDocument]).2.toOption.map
      (fun report => report.generated.map (·.id)) = some [modDocument.id] := by
    decide +kernel
  obtain ⟨final, report, ran, generated⟩ := exists_run_of_ids evaluated
  obtain ⟨file, listed, id⟩ : ∃ file ∈ report.generated, file.id = modDocument.id := by
    have inside : modDocument.id ∈ report.generated.map (·.id) := by
      rw [generated]
      exact List.mem_singleton_self _
    simpa using inside
  obtain ⟨before, after, split⟩ := List.append_of_mem listed
  refine ⟨accepted, distinct, rfl, final, report, ran, file, listed, fun same => ?_⟩
  have kept := ModulesKept.of_run wellFormed distinct rfl ran
  have named := ((kept.each before file after split).mp same).1
  rw [id] at named
  exact absurd named (by decide)

end Generator

end Lexicon
