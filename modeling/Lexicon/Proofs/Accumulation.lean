import Lexicon.Proofs.FirstOccurrences
import Lexicon.Proofs.OptionComparison
import Lexicon.Validation.Service

/-!
# Lexicon.Proofs.Accumulation

Reporting every failing constraint of a value, or the first one only.

## Main results

- `ValidationService.keys_groupByPath`: messages are grouped under the distinct
  paths, in the order in which they first failed.
- `Validator.failFast_abridges`: the errors of a run that reports first
  constraints only are some of those of a run that reports all; both find the
  same values valid, and fail at the same paths in the same order.

## Proof strategy

The runs are compared finding by finding. A verdict of several failing
constraints is cut down to one finding, and all its findings have one place; so
the list of places without repetitions stays. It stays under the steps that
lead to the enclosing values as well, and under writing places as paths, though
different places may be written as one path.
-/

namespace Lexicon

/-! ### Groups of messages -/

theorem ValidationService.groupByPath_concat (violations : List Violation) (violation : Violation) :
    groupByPath (violations ++ [violation]) =
      Entries.put (groupByPath violations) violation.path
        (((groupByPath violations).lookup violation.path).getD [] ++ [violation.message]) := by
  rw [groupByPath, List.foldl_append]
  rfl

theorem ValidationService.keys_groupByPath (violations : List Violation) :
    Entries.keys (groupByPath violations) = (violations.map (·.path)).eraseDups := by
  induction violations using List.reverseRecOn with
  | nil => rfl
  | append_singleton violations violation ih =>
    have known : violation.path ∈ (violations.map (·.path)).eraseDups ↔
        violation.path ∈ violations.map (·.path) := List.mem_eraseDups
    rw [groupByPath_concat, Entries.keys_put, ih, List.map_append, List.map_singleton,
      eraseDups_concat]
    simp only [known]

/-! ### Comparing the runs -/

/-- Findings are some of others, in their order, and lie at the same places. -/
structure Abridges (short full : List Finding) : Prop where
  sublist : short.Sublist full
  places : (short.map (·.steps)).eraseDups = (full.map (·.steps)).eraseDups

theorem Abridges.refl (findings : List Finding) : Abridges findings findings :=
  ⟨.refl _, rfl⟩

/-- Of the failures of one value the first one stands for all. -/
theorem Abridges.of_causes (expected : String) (causes : List Cause) :
    Abridges ((causes.take 1).map (.here expected)) (causes.map (.here expected)) where
  sublist := (List.take_sublist 1 causes).map _
  places := by
    cases causes with
    | nil => rfl
    | cons cause rest =>
      have repeated : ((rest.map (Finding.here expected)).map (·.steps)).filter
          (fun steps => !steps == ([] : List Step)) = [] := by
        rw [List.filter_eq_nil_iff]
        intro steps inside
        obtain ⟨finding, given, rfl⟩ := List.mem_map.mp inside
        obtain ⟨other, _, rfl⟩ := List.mem_map.mp given
        simp [Finding.here]
      have alone : ([] :: (rest.map (Finding.here expected)).map (·.steps)).eraseDups =
          [[]] := by
        rw [List.eraseDups_cons, repeated]
        rfl
      exact alone.symm

theorem Comparison.failFast {mode : ValidationMode} :
    Comparison { mode, accumulate := false } { mode, accumulate := true } Abridges where
  nil := .refl []
  append first second :=
    { sublist := first.sublist.append second.sublist
      places := by
        simp only [List.map_append]
        rw [← eraseDups_append, first.places, second.places, eraseDups_append] }
  inside step a b given :=
    { sublist := given.sublist.map _
      places := by
        have moved (findings : List Finding) :
            (findings.map (Finding.inside step)).map (·.steps) =
              (findings.map (·.steps)).map (step :: ·) := by
          simp only [List.map_map, Function.comp_def, Finding.inside]
        rw [moved, moved, ← eraseDups_map, given.places, eraseDups_map] }
  refused _ _ _ := .refl _
  verdict node value := by
    cases Verdict.ofNode node value with
    | malformed cause => exact .refl _
    | formed failing =>
      cases mode with
      -- Without constraints nothing is reported on either side.
      | lenient => exact .refl []
      | _ => exact .of_causes node.kind failing
  count _ _ := .refl _
  missing _ _ := .refl _
  undeclared _ _ := .refl _

/-! ### Reports -/

/-- Errors are some of others, in their order; there are none on one side if there are none on the
other, and they are grouped under the same paths. -/
structure SameFailures (short full : List Violation) : Prop where
  sublist : short.Sublist full
  valid : short = [] ↔ full = []
  paths : Entries.keys (ValidationService.groupByPath short) =
    Entries.keys (ValidationService.groupByPath full)

theorem Abridges.report {short full : List Finding} (abridges : Abridges short full)
    (start : String) :
    SameFailures (Validator.report start short) (Validator.report start full) := by
  have written (findings : List Finding) : (Validator.report start findings).map (·.path) =
      (findings.map (·.steps)).map (Path.extend start) := by
    simp only [Validator.report, List.map_map, Function.comp_def, Violation.ofFinding]
  -- The path of an error is written from its steps alone.
  have paths : ((Validator.report start short).map (·.path)).eraseDups =
      ((Validator.report start full).map (·.path)).eraseDups := by
    rw [written, written, ← eraseDups_map, abridges.places, eraseDups_map]
  have sublist : (Validator.report start short).Sublist (Validator.report start full) :=
    abridges.sublist.map _
  refine ⟨sublist, ⟨fun empty => ?_, fun empty => List.sublist_nil.mp (empty ▸ sublist)⟩, ?_⟩
  · rw [empty] at paths
    cases given : Validator.report start full with
    | nil => rfl
    | cons violation rest =>
      rw [given, List.map_cons, List.eraseDups_cons] at paths
      cases paths
  · rw [ValidationService.keys_groupByPath, ValidationService.keys_groupByPath, paths]

/-- Reporting all failing constraints of each value adds errors at paths that have one, and nothing
else: for a value anywhere, inside a document or without one, for the definitions of a document,
and for the messages by path that a service gives. -/
theorem Validator.failFast_abridges (registry : Option Registry) (mode : ValidationMode)
    (value : Json) :
    let first : Validator := { options := { mode, accumulate := false }, registry }
    let all : Validator := { options := { mode, accumulate := true }, registry }
    (∀ node path, SameFailures (first.validateAt value node path)
        (all.validateAt value node path)) ∧
      (∀ node doc, SameFailures (first.validateInDocument value node doc)
        (all.validateInDocument value node doc)) ∧
      (∀ doc name, SameFailures (first.validateDefinition value doc name)
        (all.validateDefinition value doc name)) ∧
      ∀ (known : Registry) doc,
        let service (accumulate : Bool) : ValidationService :=
          { registry := known, options := { mode, accumulate } }
        Entries.keys ((service false).violationsByPath value doc) =
          Entries.keys ((service true).violationsByPath value doc) := by
  intro first all
  have walk (scope : Option Document) (node : TypeNode) (start : String) :
      SameFailures (first.walk scope node start value) (all.walk scope node start value) := by
    rw [walk_eq_report, walk_eq_report]
    exact (Comparison.failFast.check registry scope node value).report start
  have definition (registry : Option Registry) (doc : Document) (name : String) :
      SameFailures
        (validateDefinition { options := { mode, accumulate := false }, registry } value doc name)
        (validateDefinition { options := { mode, accumulate := true }, registry } value doc
          name) := by
    rw [validateDefinition_eq_report, validateDefinition_eq_report]
    exact (Comparison.failFast.checkDefinition registry value doc name).report ""
  refine ⟨fun node path => walk none node path, fun node doc => walk (some doc) node "",
    definition registry, ?_⟩
  -- A service validates against the main definition.
  intro known doc service
  exact (definition (some known) doc mainDefinition).paths

end Lexicon
