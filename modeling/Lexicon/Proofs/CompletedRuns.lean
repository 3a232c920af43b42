import Lexicon.Proofs.ModuleTree
import Lexicon.Proofs.SourceLines

/-!
# Lexicon.Proofs.CompletedRuns

Runs that nothing can stop.

A run stops at a template that fails or at a file that is not taken. The
built-in templates do not fail, and a set of files takes every path that stays
below its root, which the paths of modules and indexes do.

## Main result

`Generator.exists_run`: a run over well-formed documents, into a set of files
and with the built-in templates, comes to its end.

## Proof strategy

The run writes its files one by one, so the induction is on what is left to be
written, with the set that is there in between left open.
-/

namespace Lexicon

open OutputPath (Part parts)

/-! ### Paths that are taken -/

namespace OutputPath

/-- A path of names stays below the root. -/
theorem isContained_of_parts {path : String} {names : List String} (given : names ≠ [])
    (shape : parts path = names.map .named) : isContained path = true := by
  have some : path ≠ "" := by
    rintro rfl
    have nothing : parts "" = [] := by decide
    exact given (List.map_eq_nil_iff.mp (shape.symm.trans nothing))
  simp [isContained, shape, some, Part.staysBelow]

end OutputPath

namespace GeneratedFile

variable {layout : Layout} {files : List GeneratedFile} {file : GeneratedFile}

theorem InPlace.isContained_path (placed : file.InPlace layout) :
    OutputPath.isContained file.path = true :=
  OutputPath.isContained_of_parts (by simp [Layout.fileComponents]) placed.parts_path

theorem isContained_of_mem_indexes (placed : ∀ file ∈ files, file.InPlace layout)
    {index : String × String} (listed : index ∈ Index.ofPaths (files.map (·.path))) :
    OutputPath.isContained index.1 = true := by
  have named := isNamed_of_inPlace placed
  obtain ⟨directory, inside, rfl⟩ := List.mem_map.mp listed
  obtain ⟨path, given, part, rest, shape⟩ := Index.mem_directories_iff.mp inside
  obtain ⟨names, _, spelled⟩ := named path given
  rw [spelled] at shape
  -- The directories on the way to a file are names, and so is what the index is called.
  obtain ⟨before, _, rfl, rfl, _⟩ := List.map_eq_append_iff.mp shape
  have joined : Index.partsOf (before.map .named) = (before ++ ["mod.rs"]).map .named := by
    simp [Index.partsOf]
  have some : before ++ ["mod.rs"] ≠ [] := by simp
  exact OutputPath.isContained_of_parts some
    ((Index.parts_spell_partsOf named inside).trans joined)

end GeneratedFile

namespace FileSet

theorem exists_write {path : String} (contained : OutputPath.isContained path = true)
    (set : FileSet) (text : String) : ∃ next, write set path text = .ok next :=
  ⟨_, write_of_isContained contained set text⟩

theorem exists_writes {files : List (String × String)}
    (contained : ∀ file ∈ files, OutputPath.isContained file.1 = true) (set : FileSet) :
    ∃ final, Index.write write set files = (final, .ok ()) := by
  induction files generalizing set with
  | nil => exact ⟨set, rfl⟩
  | cons file rest ih =>
    obtain ⟨path, text⟩ := file
    obtain ⟨next, written⟩ := exists_write (contained _ List.mem_cons_self) set text
    obtain ⟨final, others⟩ :=
      ih (fun other inside => contained other (List.mem_cons_of_mem _ inside))
      next
    exact ⟨final, by rw [Index.write, written]; exact others⟩

end FileSet

/-! ### Runs -/

namespace Generator

variable {generator : Generator} {docs : List Document}

theorem Sorts.inPlace {report : RunReport} (sorts : generator.Sorts docs report)
    (parsed : ∀ doc ∈ docs, ∃ text, Nsid.parse text = .ok doc.id) :
    ∀ file ∈ report.generated, file.InPlace generator.mapper.layout := by
  intro file listed
  obtain ⟨doc, inside, produced⟩ := sorts.exists_of_generated listed
  exact .of_generate (parsed doc inside) produced

theorem exists_generateEach (parsed : ∀ doc ∈ docs, ∃ text, Nsid.parse text = .ok doc.id)
    (builtIn : generator.stubs = .builtIn) (set : FileSet) :
    ∃ final report, generator.generateEach FileSet.write set docs = (final, .ok report) := by
  induction docs generalizing set with
  | nil => exact ⟨set, _, rfl⟩
  | cons doc docs ih =>
    have others := fun other inside => parsed other (List.mem_cons_of_mem _ inside)
    by_cases struct : doc.Generatable
    · obtain ⟨file, produced⟩ := (exists_generate_iff builtIn).mpr struct
      have placed := GeneratedFile.InPlace.of_generate (parsed doc List.mem_cons_self) produced
      obtain ⟨next, written⟩ := FileSet.exists_write placed.isContained_path set file.source
      obtain ⟨final, report, rest⟩ := ih others next
      rw [generateEach, produced]
      simp only [written, rest]
      exact ⟨final, _, rfl⟩
    · obtain ⟨final, report, rest⟩ := ih others set
      obtain ⟨missing, unsupported⟩ := generator.generate_of_main doc
      -- Both errors of a document without a struct let it be skipped.
      cases main : doc.main? with
      | none =>
        rw [generateEach, missing main]
        simp only [rest]
        exact ⟨final, _, rfl⟩
      | some definition =>
        have noStruct : definition.object? = none :=
          Option.eq_none_iff_forall_ne_some.mpr fun object given =>
            struct ⟨definition, object, main, given⟩
        rw [generateEach, unsupported definition main noStruct]
        simp only [rest]
        exact ⟨final, _, rfl⟩

theorem exists_run (parsed : ∀ doc ∈ docs, ∃ text, Nsid.parse text = .ok doc.id)
    (builtIn : generator.stubs = .builtIn) (set : FileSet) :
    ∃ final report, generator.run FileSet.write set docs = (final, .ok report) := by
  obtain ⟨middle, report, each⟩ := exists_generateEach parsed builtIn set
  obtain ⟨sorts, _⟩ := generateEach_eq_ok each
  have placed := sorts.inPlace parsed
  obtain ⟨final, indexed⟩ := FileSet.exists_writes
    (fun index listed => GeneratedFile.isContained_of_mem_indexes placed listed) middle
  refine ⟨final, report, ?_⟩
  rw [run, each]
  simp only [indexed]

end Generator

end Lexicon
