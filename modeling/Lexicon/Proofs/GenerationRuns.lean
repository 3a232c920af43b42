import Lexicon.Generation.Generator
import Lexicon.Proofs.Boxing

/-!
# Lexicon.Proofs.GenerationRuns

What a successful run of the generator has done.

A run takes its documents one by one: it skips those without a struct as their
main definition, and generates and writes the others. Once all are written it
writes the indexes. So a run that succeeds has sorted its documents into two
lists and has written a list of files, whatever takes the files.

## Main definitions

- `Document.Generatable`: the main definition is a record or an object.
- `Generator.Produces`: a file is the module of a document, laid out.
- `Generator.Sorts`: how documents end up in a report.
- `RunReport.outputs`: everything that is written for a report.

## Main result

`Generator.run_eq_ok`: a successful run has sorted its documents and written
the outputs.
-/

namespace Lexicon

/-! ### Documents that can be generated -/

/-- The main definition of a document is a record or an object. -/
def Document.Generatable (doc : Document) : Prop :=
  ∃ definition object, doc.main? = some definition ∧ definition.object? = some object

namespace SourceModule

variable {mapper : TypeMapper} {doc : Document}

theorem exists_main_iff : (∃ parts, main doc = .ok parts) ↔ doc.Generatable := by
  constructor
  · rintro ⟨⟨definition, object, key⟩, given⟩
    obtain ⟨found, parts⟩ := main_eq_ok given
    exact ⟨definition, object, found, Definition.object?_of_structParts? parts⟩
  · rintro ⟨definition, object, found, struct⟩
    obtain ⟨key, parts⟩ := Definition.structParts?_of_object? struct
    exact ⟨(definition, object, key), by simp only [main, found, parts]⟩

theorem error_of_main {error : GenerationError} (given : main doc = .error error) :
    (∃ id, error = .missingMain id) ∨ ∃ id kind, error = .unsupportedMain id kind := by
  unfold main at given
  split at given
  · cases given
    exact .inl ⟨_, rfl⟩
  · split at given <;> cases given
    exact .inr ⟨_, _, rfl⟩

theorem exists_ofDocument_iff : (∃ module, ofDocument mapper doc = .ok module) ↔
    doc.Generatable := by
  rw [← exists_main_iff]
  constructor
  · rintro ⟨module, generated⟩
    obtain ⟨parts, given, _⟩ := bind_eq_ok_iff.mp generated
    exact ⟨parts, given⟩
  · rintro ⟨parts, given⟩
    exact ⟨_, bind_eq_ok_iff.mpr ⟨parts, given, rfl⟩⟩

end SourceModule

namespace Generator

variable {generator : Generator} {doc : Document} {file : GeneratedFile}

/-! ### One document -/

/-- A file is the module of a document, laid out. -/
structure Produces (generator : Generator) (doc : Document) (module : SourceModule)
    (file : GeneratedFile) : Prop where
  generated : SourceModule.ofDocument generator.mapper doc = .ok module
  laidOut : module.render generator.stubs generator.mapper.runtime = .ok file.source
  id : file.id = doc.id
  path : file.path = generator.mapper.layout.filePath doc.id
  modulePath : file.modulePath = generator.mapper.layout.modulePath doc.id

theorem generate_eq_ok_iff :
    generator.generate doc = .ok file ↔ ∃ module, generator.Produces doc module file := by
  constructor
  · intro given
    obtain ⟨module, generated, given⟩ := bind_eq_ok_iff.mp given
    obtain ⟨source, laidOut, same⟩ := bind_eq_ok_iff.mp given
    cases same
    exact ⟨module, generated, mapError_eq_ok_iff.mp laidOut, rfl, rfl, rfl⟩
  · rintro ⟨module, generated, laidOut, id, path, modulePath⟩
    refine bind_eq_ok_iff.mpr ⟨module, generated, bind_eq_ok_iff.mpr ⟨file.source, ?_, ?_⟩⟩
    · exact mapError_eq_ok_iff.mpr laidOut
    · rw [← path, ← modulePath, ← id]
      rfl

/-- A document without a struct is turned down by its definitions, and any other one by the
templates at most. -/
theorem generate_cases (generator : Generator) (doc : Document) :
    (¬doc.Generatable ∧ ((∃ id, generator.generate doc = .error (.missingMain id)) ∨
        ∃ id kind, generator.generate doc = .error (.unsupportedMain id kind))) ∨
      (∃ error, generator.generate doc = .error (.template error)) ∨
        ∃ file, generator.generate doc = .ok file := by
  -- Whether there is a struct is settled before the templates are rendered.
  cases given : SourceModule.main doc with
  | error error =>
    have fails : generator.generate doc = .error error := by
      simp only [generate, SourceModule.ofDocument, given, error_bind]
    refine .inl ⟨?_, ?_⟩
    · rw [← SourceModule.exists_main_iff]
      rintro ⟨parts, other⟩
      rw [given] at other
      cases other
    · rw [fails]
      rcases SourceModule.error_of_main given with ⟨id, rfl⟩ | ⟨id, kind, rfl⟩
      · exact .inl ⟨id, rfl⟩
      · exact .inr ⟨id, kind, rfl⟩
  | ok parts =>
    obtain ⟨module, generated⟩ :
        ∃ module, SourceModule.ofDocument generator.mapper doc = .ok module :=
      SourceModule.exists_ofDocument_iff.mpr (SourceModule.exists_main_iff.mp ⟨parts, given⟩)
    simp only [generate, generated, ok_bind]
    cases module.render generator.stubs generator.mapper.runtime with
    | error error => exact .inr (.inl ⟨error, rfl⟩)
    | ok source => exact .inr (.inr ⟨_, rfl⟩)

theorem generate_of_main (generator : Generator) (doc : Document) :
    (doc.main? = none → generator.generate doc = .error (.missingMain doc.id)) ∧
      ∀ definition, doc.main? = some definition → definition.object? = none →
        generator.generate doc = .error (.unsupportedMain doc.id definition.kind) := by
  have fails (error : GenerationError) (given : SourceModule.main doc = .error error) :
      generator.generate doc = .error error := by
    simp only [generate, SourceModule.ofDocument, given, error_bind]
  constructor
  · intro missing
    exact fails _ (by rw [SourceModule.main, missing])
  · intro definition found noStruct
    have parts : SourceModule.structParts? definition = none := by
      refine Option.eq_none_iff_forall_ne_some.mpr fun ⟨object, key⟩ given => ?_
      rw [Definition.object?_of_structParts? given] at noStruct
      cases noStruct
    exact fails _ (by simp only [SourceModule.main, found, parts])

/-! ### All documents -/

/-- Documents are generated or skipped one by one, as a report says. -/
inductive Sorts (generator : Generator) : List Document → RunReport → Prop where
  | nil : Sorts generator [] { generated := [], skipped := [] }
  | generated {doc : Document} {docs : List Document} {file : GeneratedFile} {report : RunReport}
      (produced : generator.generate doc = .ok file) (rest : Sorts generator docs report) :
      Sorts generator (doc :: docs) { report with generated := file :: report.generated }
  | skipped {doc : Document} {docs : List Document} {report : RunReport}
      (noStruct : ¬doc.Generatable) (rest : Sorts generator docs report) :
      Sorts generator (doc :: docs) { report with skipped := doc.id :: report.skipped }

namespace Sorts

variable {docs : List Document} {report : RunReport}

/-- Every document is generated, or skipped for the lack of a struct. -/
theorem of_mem (sorts : generator.Sorts docs report) (inside : doc ∈ docs) :
    (∃ file ∈ report.generated, generator.generate doc = .ok file) ∨
      (doc.id ∈ report.skipped ∧ ¬doc.Generatable) := by
  induction sorts with
  | nil => cases inside
  | generated produced rest ih =>
    rcases List.mem_cons.mp inside with rfl | inside
    · exact .inl ⟨_, List.mem_cons_self, produced⟩
    · rcases ih inside with ⟨file, listed, given⟩ | other
      · exact .inl ⟨file, List.mem_cons_of_mem _ listed, given⟩
      · exact .inr other
  | skipped noStruct rest ih =>
    rcases List.mem_cons.mp inside with rfl | inside
    · exact .inr ⟨List.mem_cons_self, noStruct⟩
    · rcases ih inside with there | ⟨listed, lacks⟩
      · exact .inl there
      · exact .inr ⟨List.mem_cons_of_mem _ listed, lacks⟩

theorem exists_of_generated (sorts : generator.Sorts docs report)
    (listed : file ∈ report.generated) : ∃ doc ∈ docs, generator.generate doc = .ok file := by
  induction sorts with
  | nil => cases listed
  | generated produced rest ih =>
    rcases List.mem_cons.mp listed with rfl | listed
    · exact ⟨_, List.mem_cons_self, produced⟩
    · obtain ⟨doc, inside, given⟩ := ih listed
      exact ⟨doc, List.mem_cons_of_mem _ inside, given⟩
  | skipped noStruct rest ih =>
    obtain ⟨doc, inside, given⟩ := ih listed
    exact ⟨doc, List.mem_cons_of_mem _ inside, given⟩

/-- The files come in the order of their documents. -/
theorem sublist (sorts : generator.Sorts docs report) :
    (report.generated.map (·.id)).Sublist (docs.map (·.id)) := by
  induction sorts with
  | nil => exact .slnil
  | generated produced rest ih =>
    obtain ⟨module, produces⟩ := generate_eq_ok_iff.mp produced
    rw [List.map_cons, List.map_cons, produces.id]
    exact ih.cons_cons _
  | skipped noStruct rest ih => exact ih.cons _

end Sorts

end Generator

/-! ### Writing -/

section Writing

variable {σ : Type} {writer : Writer σ} {state middle final : σ}

theorem Index.write_append {files more : List (String × String)}
    (first : write writer state files = (middle, .ok ()))
    (second : write writer middle more = (final, .ok ())) :
    write writer state (files ++ more) = (final, .ok ()) := by
  induction files generalizing state with
  | nil =>
    cases first
    exact second
  | cons file rest ih =>
    obtain ⟨path, source⟩ := file
    unfold write at first
    rw [List.cons_append, write]
    cases written : writer state path source with
    | error error =>
      rw [written] at first
      cases first
    | ok next =>
      rw [written] at first
      exact ih first

namespace RunReport

/-- The generated files, as they are written. -/
def modules (report : RunReport) : List (String × String) :=
  report.generated.map fun file => (file.path, file.source)

/-- The index files. -/
def indexes (report : RunReport) : List (String × String) :=
  Index.ofPaths (report.generated.map (·.path))

/-- All that a run writes, in order. -/
def outputs (report : RunReport) : List (String × String) := report.modules ++ report.indexes

end RunReport

namespace Generator

variable {generator : Generator} {docs : List Document} {report : RunReport}

theorem generateEach_eq_ok
    (given : generator.generateEach writer state docs = (final, .ok report)) :
    generator.Sorts docs report ∧ Index.write writer state report.modules = (final, .ok ()) := by
  induction docs generalizing state report with
  | nil =>
    cases given
    exact ⟨.nil, rfl⟩
  | cons doc docs ih =>
    rcases generator.generate_cases doc with ⟨noStruct, fails⟩ | ⟨error, fails⟩ | ⟨file, produced⟩
    · -- Both kinds of errors are skipped alike.
      have skips : generator.generateEach writer state (doc :: docs) =
          ((generator.generateEach writer state docs).1,
            (generator.generateEach writer state docs).2.map fun report =>
              { report with skipped := doc.id :: report.skipped }) := by
        rcases fails with ⟨id, fails⟩ | ⟨id, kind, fails⟩ <;> rw [generateEach, fails]
      rw [skips] at given
      obtain ⟨last, result⟩ := Prod.mk.inj given
      obtain ⟨earlier, sorted, rfl⟩ := map_eq_ok_iff.mp result
      obtain ⟨sorts, written⟩ := ih (Prod.ext last sorted)
      exact ⟨.skipped noStruct sorts, written⟩
    · rw [generateEach, fails] at given
      cases given
    · rw [generateEach, produced] at given
      dsimp only at given
      cases stored : writer state file.path file.source with
      | error error =>
        rw [stored] at given
        cases given
      | ok next =>
        rw [stored] at given
        obtain ⟨last, result⟩ := Prod.mk.inj given
        obtain ⟨earlier, sorted, rfl⟩ := map_eq_ok_iff.mp result
        obtain ⟨sorts, written⟩ := ih (Prod.ext last sorted)
        refine ⟨.generated produced sorts, ?_⟩
        simp only [RunReport.modules, List.map_cons, Index.write, stored]
        exact written

theorem exists_run_eq_ok (succeeds : (generator.run writer state docs).2.isOk = true) :
    ∃ final report, generator.run writer state docs = (final, .ok report) := by
  rcases ran : generator.run writer state docs with ⟨final, result⟩
  rw [ran] at succeeds
  cases result with
  | error error => cases succeeds
  | ok report => exact ⟨final, report, rfl⟩

theorem exists_run_of_ids {ids : List Nsid}
    (evaluated : (generator.run writer state docs).2.toOption.map
      (fun report => report.generated.map (·.id)) = some ids) :
    ∃ final report, generator.run writer state docs = (final, .ok report) ∧
      report.generated.map (·.id) = ids := by
  obtain ⟨report, ok, generated⟩ := Option.map_eq_some_iff.mp evaluated
  rcases ran : generator.run writer state docs with ⟨final, result⟩
  rw [ran] at ok
  cases result with
  | error error => cases ok
  | ok other =>
    cases ok
    exact ⟨final, report, rfl, generated⟩

/-- A successful run has sorted its documents and written all outputs. -/
theorem run_eq_ok (given : generator.run writer state docs = (final, .ok report)) :
    generator.Sorts docs report ∧ Index.write writer state report.outputs = (final, .ok ()) := by
  unfold run at given
  split at given
  · cases given
  · next middle early each =>
    obtain ⟨sorts, written⟩ := generateEach_eq_ok each
    split at given
    · next last indexed =>
      cases given
      exact ⟨sorts, Index.write_append written indexed⟩
    · cases given

end Generator

end Writing

namespace Generator

def graphGenerator : Generator := { mapper := graphMapper, stubs := .builtIn }

theorem succeeds_graphDocuments :
    (graphGenerator.run FileSet.write .empty graphDocuments).2.isOk = true := by
  decide +kernel

end Generator

end Lexicon
