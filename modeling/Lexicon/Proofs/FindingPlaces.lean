import Lexicon.Proofs.FindingOrigins

/-!
# Lexicon.Proofs.FindingPlaces

Every error has a place in the value.

The steps of a finding lead to the part of the value that is wrong. A field
that is missing is the exception: the steps lead to the object that lacks it,
but for the last one, which names the field.

## Main result

`Validator.errors_located`: the errors of a value are one list of steps,
expectations and messages, written from wherever the value stands, and the steps
lead to parts of the value.

## Proof strategy

A finding about the value itself takes no step at all. A finding that is handed
up through an element or a member takes one more step, and that step leads to
the element or the member. So the way along which a finding arises carries the
induction.
-/

namespace Lexicon

/-! ### Parts of values -/

namespace Json

/-- The part of a value that one step leads to. -/
def child? : Json → Step → Option Json
  | .obj members, .field name => members.lookup name
  | .arr elements, .index position => elements[position]?
  | _, _ => none

/-- The part of a value that steps lead to. -/
def at? (value : Json) : List Step → Option Json
  | [] => some value
  | step :: rest => (value.child? step).bind fun part => part.at? rest

/-- The steps lead to a part of the value. -/
def Holds (value : Json) (steps : List Step) : Prop := ∃ part, value.at? steps = some part

/-- All steps but the last one lead to an object, and the last one names a field that it lacks. -/
def Lacks (value : Json) (steps : List Step) : Prop :=
  ∃ front field members, steps = front ++ [.field field] ∧
    value.at? front = some (.obj members) ∧ members.lookup field = none

variable {value part : Json} {step : Step} {steps : List Step}

theorem at?_cons (leads : value.child? step = some part) :
    value.at? (step :: steps) = part.at? steps := by
  rw [at?, leads, Option.bind_some]

theorem Holds.cons (leads : value.child? step = some part) (below : part.Holds steps) :
    value.Holds (step :: steps) := by
  obtain ⟨inner, found⟩ := below
  exact ⟨inner, (at?_cons leads).trans found⟩

theorem Lacks.cons (leads : value.child? step = some part) (below : part.Lacks steps) :
    value.Lacks (step :: steps) := by
  obtain ⟨front, field, members, rfl, found, absent⟩ := below
  exact ⟨step :: front, field, members, rfl, (at?_cons leads).trans found, absent⟩

end Json

/-! ### Places of findings -/

/-- The steps of a finding lead to a part of the value, or name a field that a part lacks. -/
structure Finding.LocatedIn (value : Json) (finding : Finding) : Prop where
  missing : finding.cause = .requiredMissing → value.Lacks finding.steps
  present : finding.cause ≠ .requiredMissing → value.Holds finding.steps

namespace Finding

variable {value part : Json} {finding : Finding}

theorem locatedIn_of_holds (other : finding.cause ≠ .requiredMissing)
    (holds : value.Holds finding.steps) : finding.LocatedIn value :=
  ⟨fun missing => absurd missing other, fun _ => holds⟩

theorem locatedIn_here {expected : String} {cause : Cause} (other : cause ≠ .requiredMissing) :
    (here expected cause).LocatedIn value :=
  locatedIn_of_holds other ⟨value, rfl⟩

theorem LocatedIn.inside {step : Step} (leads : value.child? step = some part)
    (below : finding.LocatedIn part) : (finding.inside step).LocatedIn value :=
  ⟨fun missing => (below.missing missing).cons leads,
    fun other => (below.present other).cons leads⟩

end Finding

/-- The value that is looked at. -/
def Visit.value : Visit → Json
  | .atNode _ _ _ value => value
  | .atDefinition _ _ _ _ value => value

theorem Visit.Arises.locatedIn {v : Validator} {visit : Visit} {finding : Finding}
    (arises : Visit.Arises v visit finding) : finding.LocatedIn visit.value := by
  induction arises with
  -- References and definitions are at the value itself.
  | followed asked found below ih => exact ih
  | typed target below ih => exact ih
  | element given stands below ih => exact ih.inside stands
  | member declared found present below ih => exact ih.inside found
  | @missing hops scope t members field required absent =>
    exact ⟨fun _ => ⟨[], field, members, rfl, rfl, absent⟩, fun other => absurd rfl other⟩
  | @undeclared hops scope t field members value there unknown =>
    obtain ⟨part, found⟩ := Entries.exists_lookup_iff.mpr (Entries.mem_keys_of_mem there)
    exact Finding.locatedIn_of_holds nofun ⟨part, Json.at?_cons found⟩
  | refused asked =>
    refine Finding.locatedIn_here ?_
    rintro rfl
    exact absurd (Move.isOfValue_of_refuse asked) (by decide)
  | untyped refused =>
    refine Finding.locatedIn_here ?_
    rw [Definition.target_eq_error refused]
    nofun
  | verdict against =>
    refine Finding.locatedIn_here ?_
    rintro rfl
    exact absurd (Verdict.isOfValue_of_mem_causes against) (by decide)
  | count against =>
    refine Finding.locatedIn_here ?_
    rintro rfl
    exact absurd (ArrayShape.isOfValue_of_mem_failures against) (by decide)
  | exhausted | undefined | unregistered | unresolvable => exact Finding.locatedIn_here nofun

/-! ### Reports -/

/-- The errors are one list of steps, expectations and messages, written from wherever the value
stands, and the steps lead to parts of the value. Only a missing field has no part of its own. -/
def LocatedErrors (value : Json) (errors : String → List Violation) : Prop :=
  ∃ entries : List (List Step × String × String),
    (∀ start, errors start = entries.map fun (steps, expected, message) =>
      { path := Path.extend start steps, expected, message }) ∧
    ∀ steps expected message, (steps, expected, message) ∈ entries →
      (message = "required field is missing" → value.Lacks steps) ∧
        (message ≠ "required field is missing" → value.Holds steps)

theorem LocatedErrors.of_findings {value : Json} {findings : List Finding}
    (located : ∀ finding ∈ findings, finding.LocatedIn value) :
    LocatedErrors value fun start => Validator.report start findings := by
  refine ⟨findings.map fun finding => (finding.steps, finding.expected, finding.cause.message),
    fun start => ?_, fun steps expected message inside => ?_⟩
  · rw [List.map_map]
    rfl
  · obtain ⟨finding, found, same⟩ := List.mem_map.mp inside
    cases same
    rw [ne_eq, Cause.message_eq_requiredMissing_iff]
    exact ⟨(located finding found).missing, (located finding found).present⟩

/-- Every error has a place in the value, whatever path the value itself stands at, inside a
document or without one, and for the definitions of a document. -/
theorem Validator.errors_located (v : Validator) (value : Json) :
    (∀ node, LocatedErrors value fun start => v.validateAt value node start) ∧
      (∀ node doc, ∃ errors, LocatedErrors value errors ∧
        v.validateInDocument value node doc = errors "") ∧
      ∀ doc name, ∃ errors, LocatedErrors value errors ∧
        v.validateDefinition value doc name = errors "" := by
  have check (scope : Option Document) (node : TypeNode) :
      LocatedErrors value fun start => report start (v.check scope node value) :=
    .of_findings fun finding inside => (arises_of_mem_check inside).locatedIn
  -- The walk has joined the steps to its path one by one; written at the end they give the same.
  simp only [validateAt_eq_report, validateInDocument_eq_report, validateDefinition_eq_report]
  refine ⟨fun node => check none node, fun node doc => ⟨_, check (some doc) node, rfl⟩, ?_⟩
  intro doc name
  have definition : LocatedErrors value fun start =>
      report start (v.checkDefinition value doc name) := by
    refine .of_findings fun finding inside => ?_
    rcases arises_of_mem_checkDefinition inside with rfl | ⟨definition, _, arises⟩
    · exact Finding.locatedIn_here nofun
    · exact arises.locatedIn
  exact ⟨_, definition, rfl⟩

end Lexicon
