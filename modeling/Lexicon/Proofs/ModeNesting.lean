import Lexicon.Proofs.OptionComparison

/-!
# Lexicon.Proofs.ModeNesting

The modes of validation are nested.

## Main result

`Validator.modes_nested`: what a looser mode reports is reported by a stricter
one, in the same order, and the strict mode adds undeclared fields only.

## Proof strategy

Two comparisons of settings. From lenient to optimistic the findings are a
sublist wherever they arise. From strict to optimistic they are the same
wherever they arise, but for undeclared fields; so the findings of the strict
mode without those about undeclared fields are the optimistic ones. No verdict
has undeclared fields as a cause, and no other cause has their message.
-/

namespace Lexicon

/-! ### Causes of verdicts -/

theorem Verdict.undeclared_notMem_ofNode (node : TypeNode) (value : Json) :
    Cause.undeclared ∉ (Verdict.ofNode node value).causes := by
  intro inside
  exact absurd (isOfValue_of_mem_causes inside) (by decide)

theorem ArrayShape.undeclared_notMem_failures (t : ArrayType) (count : Nat) :
    Cause.undeclared ∉ t.failures count := by
  intro inside
  exact absurd (isOfValue_of_mem_failures inside) (by decide)

/-! ### From lenient to optimistic -/

variable {accumulate : Bool}

theorem Comparison.lenient : Comparison { mode := .lenient, accumulate }
    { mode := .optimistic, accumulate } List.Sublist where
  nil := .refl _
  append first second := first.append second
  inside _ _ _ given := given.map _
  refused _ _ _ := .refl _
  verdict node value := by
    cases Verdict.ofNode node value with
    | malformed cause => exact .refl _
    | formed failing => exact List.nil_sublist _
  count _ _ := List.nil_sublist _
  missing _ _ := List.nil_sublist _
  undeclared _ _ := .refl _

/-! ### From strict to optimistic -/

/-- A finding is not about an undeclared field. -/
def Finding.isOther (finding : Finding) : Bool := finding.cause ≠ .undeclared

theorem filter_isOther_map_here (node : TypeNode) (causes : List Cause)
    (others : Cause.undeclared ∉ causes) :
    (causes.map (Finding.here node.kind)).filter Finding.isOther =
      causes.map (Finding.here node.kind) := by
  rw [List.filter_eq_self]
  intro finding inside
  obtain ⟨cause, given, rfl⟩ := List.mem_map.mp inside
  have other : cause ≠ .undeclared := fun same => others (same ▸ given)
  exact decide_eq_true other

theorem Comparison.strict : Comparison { mode := .strict, accumulate }
    { mode := .optimistic, accumulate }
    fun findings others => findings.filter Finding.isOther = others where
  nil := rfl
  append first second := by rw [List.filter_append, first, second]
  inside step a b given := by
    have kept : Finding.isOther ∘ Finding.inside step = Finding.isOther := rfl
    rw [List.filter_map, kept, given]
  refused expected cause other := by simp [Finding.isOther, Finding.here, other]
  verdict node value := by
    have others := Verdict.undeclared_notMem_ofNode node value
    cases given : Verdict.ofNode node value with
    | malformed cause =>
      rw [given] at others
      exact filter_isOther_map_here node [cause] others
    | formed failing =>
      rw [given] at others
      exact filter_isOther_map_here node _ fun inside =>
        others (Validator.reported_subset _ _ inside)
  count t count := filter_isOther_map_here (.array t) _ (t.undeclared_notMem_failures count)
  missing t members := by
    have same : Validator.missingFindings { mode := .optimistic, accumulate } t members =
        Validator.missingFindings { mode := .strict, accumulate } t members := rfl
    rw [same, List.filter_eq_self]
    intro finding inside
    obtain ⟨field, _, rfl⟩ := List.mem_map.mp inside
    rfl
  undeclared t members := by
    have none : Validator.undeclaredFindings { mode := .optimistic, accumulate } t members = [] :=
      rfl
    rw [none, List.filter_eq_nil_iff]
    intro finding inside
    obtain ⟨member, _, rfl⟩ := List.mem_map.mp inside
    simp [Finding.isOther]

/-! ### Reports -/

/-- The errors of the three modes are nested, and undeclared fields are all that the strict mode
adds. -/
structure NestedModes (errors : ValidationMode → List Violation) : Prop where
  lenient : (errors .lenient).Sublist (errors .optimistic)
  optimistic : (errors .optimistic).Sublist (errors .strict)
  undeclared : ((errors .strict).filter fun violation =>
    violation.message ≠ "field is not declared by the schema") = errors .optimistic
  optimistic_valid : errors .strict = [] → errors .optimistic = []
  lenient_valid : errors .optimistic = [] → errors .lenient = []

theorem NestedModes.of_findings {findings : ValidationMode → List Finding} (start : String)
    (lenient : (findings .lenient).Sublist (findings .optimistic))
    (strict : (findings .strict).filter Finding.isOther = findings .optimistic) :
    NestedModes fun mode => Validator.report start (findings mode) := by
  have looser : (Validator.report start (findings .lenient)).Sublist
      (Validator.report start (findings .optimistic)) := lenient.map _
  have undeclared : ((Validator.report start (findings .strict)).filter fun violation =>
      violation.message ≠ "field is not declared by the schema") =
      Validator.report start (findings .optimistic) := by
    -- An undeclared field is told from other errors by its message.
    have told : ((fun violation : Violation =>
        decide (violation.message ≠ "field is not declared by the schema")) ∘
        Violation.ofFinding start) = Finding.isOther := by
      funext finding
      exact decide_eq_decide.mpr (not_congr Cause.message_eq_undeclared_iff)
    rw [Validator.report, List.filter_map, told, strict, Validator.report]
  have stricter : (Validator.report start (findings .optimistic)).Sublist
      (Validator.report start (findings .strict)) := undeclared ▸ List.filter_sublist
  exact {
    lenient := looser
    optimistic := stricter
    undeclared
    optimistic_valid := fun valid => List.sublist_nil.mp (valid ▸ stricter)
    lenient_valid := fun valid => List.sublist_nil.mp (valid ▸ looser) }

/-- The errors at a value and below it are nested in the modes, wherever the value stands, inside
a document or without one, and for the definitions of a document. -/
theorem Validator.modes_nested (registry : Option Registry) (accumulate : Bool) (value : Json) :
    let validator (mode : ValidationMode) : Validator :=
      { options := { mode, accumulate }, registry }
    (∀ node path, NestedModes fun mode => (validator mode).validateAt value node path) ∧
      (∀ node doc, NestedModes fun mode => (validator mode).validateInDocument value node doc) ∧
      ∀ doc name, NestedModes fun mode => (validator mode).validateDefinition value doc name := by
  intro validator
  simp only [Validator.validateAt_eq_report, Validator.validateInDocument_eq_report,
    Validator.validateDefinition_eq_report]
  have check (scope : Option Document) (node : TypeNode) (start : String) :
      NestedModes fun mode => report start ((validator mode).check scope node value) :=
    .of_findings start (Comparison.lenient.check registry scope node value)
      (Comparison.strict.check registry scope node value)
  refine ⟨fun node path => check none node path, fun node doc => check (some doc) node "", ?_⟩
  intro doc name
  exact .of_findings "" (Comparison.lenient.checkDefinition registry value doc name)
    (Comparison.strict.checkDefinition registry value doc name)

end Lexicon
