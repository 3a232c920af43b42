import Mathlib.Data.List.FinRange
import Mathlib.Data.List.Perm.Basic
import Lexicon.Proofs.CompletedRuns
import Lexicon.Proofs.NamedStructs

/-!
# Lexicon.Proofs.RunReports

The report of a run accounts for every document.

A run with the built-in templates into a set of files comes to its end whatever
documents have been accepted, whatever the registry and the layout. Its report
names each document once, in order: among those that are generated if the main
definition is a record or an object, and among those that are skipped otherwise.

## Main definitions

- `Document.LacksStruct`: there is no main definition, or it is neither a record nor an object.
- `RunReport.Accounts`: the positions of the documents are divided as a report says.
- `Generator.Completes`: a run has come to its end, with a report and with all files taken.

## Main results

- `Generator.Sorts.ids_eq`: which documents a report names.
- `Generator.exists_completes`: every run over accepted documents completes.
-/

namespace Lexicon

open OutputPath (parts)

/-! ### Documents without a struct -/

theorem Definition.exists_object?_iff {definition : Definition} :
    (∃ object, definition.object? = some object) ↔
      definition.kind = "record" ∨ definition.kind = "object" := by
  cases definition with
  | record description key object => simp [Definition.object?, Definition.kind]
  | data node => cases node <;> simp [Definition.object?, Definition.kind, TypeNode.kind]
  | query | procedure | subscription | token => simp [Definition.object?, Definition.kind]

namespace Document

variable {doc : Document}

/-- The main definition is missing, or it is neither a record nor an object. -/
def LacksStruct (doc : Document) : Prop :=
  doc.main? = none ∨
    ∃ definition, doc.main? = some definition ∧ definition.kind ≠ "record" ∧
      definition.kind ≠ "object"

theorem lacksStruct_iff : doc.LacksStruct ↔ ¬doc.Generatable := by
  unfold LacksStruct Generatable
  cases doc.main? with
  | none => simp
  | some definition => simp [Definition.exists_object?_iff]

instance : DecidablePred Generatable := fun doc =>
  decidable_of_iff ((doc.main?.bind Definition.object?).isSome = true) (by
    simp only [Generatable, Option.isSome_iff_exists, Option.bind_eq_some_iff]
    exact ⟨fun ⟨object, definition, held⟩ => ⟨definition, object, held⟩,
      fun ⟨definition, object, held⟩ => ⟨object, definition, held⟩⟩)

end Document

/-! ### Reports -/

theorem Generator.generatable_of_generate {generator : Generator} {doc : Document}
    {file : GeneratedFile} (produced : generator.generate doc = .ok file) : doc.Generatable := by
  obtain ⟨module, produces⟩ := generate_eq_ok_iff.mp produced
  exact SourceModule.exists_ofDocument_iff.mp ⟨module, produces.generated⟩

/-- The documents that are named in a report, in order. -/
theorem Generator.Sorts.ids_eq {generator : Generator} {docs : List Document} {report : RunReport}
    (sorts : generator.Sorts docs report) :
    report.generated.map (·.id) = (docs.filter (·.Generatable)).map (·.id) ∧
      report.skipped = (docs.filter (¬ ·.Generatable)).map (·.id) := by
  induction sorts with
  | nil => exact ⟨rfl, rfl⟩
  | @generated doc docs file report produced rest ih =>
    obtain ⟨module, produces⟩ := generate_eq_ok_iff.mp produced
    have struct := generatable_of_generate produced
    simp [struct, produces.id, ih]
  | skipped noStruct rest ih => simp [noStruct, ih]

namespace RunReport

/-- The positions of the documents are divided into those that a report says are generated and
those that it says are skipped. -/
structure Accounts (docs : List Document) (report : RunReport)
    (kept left : List (Fin docs.length)) : Prop where
  keptInOrder : kept.Pairwise (· < ·)
  leftInOrder : left.Pairwise (· < ·)
  divided : (kept ++ left).Perm (List.finRange docs.length)
  generated : report.generated.map (·.id) = kept.map fun place => docs[place].id
  skipped : report.skipped = left.map fun place => docs[place].id
  mem_left_iff : ∀ place, place ∈ left ↔ docs[place].LacksStruct

/-- What a filter leaves of a list stands at the places that it leaves. -/
theorem map_filter_eq {α β : Type} (as : List α) (p : α → Bool) (f : α → β) :
    (as.filter p).map f =
      ((List.finRange as.length).filter fun place => p as[place]).map fun place => f as[place] := by
  conv_lhs => rw [← List.map_get_finRange as, List.filter_map, List.map_map]
  rfl

theorem exists_accounts {generator : Generator} {docs : List Document} {report : RunReport}
    (sorts : generator.Sorts docs report) : ∃ kept left, report.Accounts docs kept left := by
  obtain ⟨generated, skipped⟩ := sorts.ids_eq
  have order := List.pairwise_lt_finRange docs.length
  refine ⟨(List.finRange docs.length).filter fun place => docs[place].Generatable,
    (List.finRange docs.length).filter fun place => ¬docs[place].Generatable, ?_⟩
  constructor
  case keptInOrder => exact order.filter _
  case leftInOrder => exact order.filter _
  case divided => simpa using List.filter_append_perm _ _
  case generated => rw [generated, map_filter_eq]
  case skipped => rw [skipped, map_filter_eq]
  case mem_left_iff => simp [Document.lacksStruct_iff]

end RunReport

/-! ### Completed runs -/

theorem OutputPath.notMem_of_isContained {path : String} (contained : isContained path = true) :
    .root ∉ parts path ∧ .parent ∉ parts path := by
  obtain ⟨_, below⟩ := Bool.and_eq_true_iff.mp contained
  rw [List.all_eq_true] at below
  constructor
  · intro inside
    cases below _ inside
  · intro inside
    cases below _ inside

namespace Generator

variable {generator : Generator} {docs : List Document} {report : RunReport}

/-- A run has come to its end: the report accounts for every document, and the files that are
written stay below the root and have been taken. -/
structure Completes (generator : Generator) (docs : List Document) (set final : FileSet)
    (report : RunReport) : Prop where
  ran : generator.run FileSet.write set docs = (final, .ok report)
  accounts : ∃ kept left, report.Accounts docs kept left
  written : Index.write FileSet.write set report.outputs = (final, .ok ())
  taken : ∀ output ∈ report.outputs,
    .root ∉ parts output.1 ∧ .parent ∉ parts output.1 ∧ FileSet.check output.1 = .ok ()

theorem isContained_of_mem_outputs (placed : ∀ file ∈ report.generated,
    file.InPlace generator.mapper.layout) {output : String × String}
    (listed : output ∈ report.outputs) : OutputPath.isContained output.1 = true := by
  rcases List.mem_append.mp listed with module | index
  · obtain ⟨file, given, rfl⟩ := List.mem_map.mp module
    exact (placed file given).isContained_path
  · exact GeneratedFile.isContained_of_mem_indexes placed index

/-- A run over accepted documents never fails, whatever the registry and the layout. -/
theorem exists_completes (mapper : TypeMapper)
    (accepted : ∀ doc ∈ docs, ∃ value, Document.parse value = .ok doc) (set : FileSet) :
    ∃ final report,
      ({ mapper, stubs := .builtIn } : Generator).Completes docs set final report := by
  have parsed : ∀ doc ∈ docs, ∃ text, Nsid.parse text = .ok doc.id := fun doc inside =>
    (Document.wellFormed_of_accepted accepted doc inside).identifier
  obtain ⟨final, report, ran⟩ : ∃ final report,
      ({ mapper, stubs := .builtIn } : Generator).run FileSet.write set docs =
        (final, .ok report) :=
    exists_run parsed rfl set
  obtain ⟨sorts, written⟩ := run_eq_ok ran
  refine ⟨final, report, ran, RunReport.exists_accounts sorts, written, fun output listed => ?_⟩
  have contained := isContained_of_mem_outputs (sorts.inPlace parsed) listed
  obtain ⟨relative, below⟩ := OutputPath.notMem_of_isContained contained
  exact ⟨relative, below, if_pos contained⟩

/-- One document comes twice, and has no main definition. -/
theorem completes_sharingDocuments :
    (∀ doc ∈ sharedDocument :: sharingDocuments, ∃ value, Document.parse value = .ok doc) ∧
      ∃ final report, ({ mapper := sharingMapper, stubs := .builtIn } : Generator).Completes
        (sharedDocument :: sharingDocuments) .empty final report ∧
          report.generated.map (·.id) = [sharingDocument.id] ∧
          report.skipped = [sharedDocument.id, sharedDocument.id] := by
  have accepted := Document.accepted_of_wellFormed
    (List.forall_mem_cons.mpr ⟨wellFormed_sharedDocument, wellFormed_sharingDocuments⟩)
  obtain ⟨final, report, completes⟩ := exists_completes sharingMapper accepted .empty
  obtain ⟨sorts, _⟩ := run_eq_ok completes.ran
  obtain ⟨generated, skipped⟩ := sorts.ids_eq
  exact ⟨accepted, final, report, completes, generated.trans (by decide), skipped.trans (by decide)⟩

end Generator

end Lexicon
