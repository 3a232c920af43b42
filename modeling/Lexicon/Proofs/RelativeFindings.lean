import Mathlib.Data.List.Basic
import Lexicon.Validation.Validator

/-!
# Lexicon.Proofs.RelativeFindings

What a walk finds does not depend on the path that it carries.

A walk joins an index or a field to its path at every step down, so the texts of
the paths are made on the way. `Validator.check` leaves the paths out: it gives
each finding with the steps that lead there from the value, and the steps are
added on the way back up. Writing its findings from the start path of the walk
gives the violations of the walk. So a property of violations is proved of
findings, which are the same wherever the value stands.

## Main definitions

- `Validator.check`: the findings at a value and below it.
- `Validator.checkDefinition`: the findings of a value held to a definition.

## Main results

- `Validator.walk_eq_report`: a walk writes the findings of the value from its path.
- `Validator.validateAt_eq_report`, `Validator.validateInDocument_eq_report`,
  `Validator.validateDefinition_eq_report`: so do the entry points.

## Proof strategy

Writing the steps from a path joins them to it from the left, so that the first
of them is joined before the others: this is the step down of the walk. The
induction is on the values below a value.
-/

namespace Lexicon

/-! ### Children of values -/

/-- One value stands directly inside another one. -/
inductive Json.IsChild : Json → Json → Prop where
  | element {value : Json} {elements : List Json} (inside : value ∈ elements) :
      IsChild value (.arr elements)
  | member {key : String} {value : Json} {members : List (String × Json)}
      (inside : (key, value) ∈ members) : IsChild value (.obj members)

theorem Json.IsChild.of_lookup {key : String} {value : Json} {members : List (String × Json)}
    (found : members.lookup key = some value) : value.IsChild (.obj members) :=
  .member (mem_of_lookup found)

theorem Json.IsChild.sizeOf_lt {child value : Json} (h : child.IsChild value) :
    sizeOf child < sizeOf value := by
  cases h with
  | element inside => exact sizeOf_lt_of_mem_elements inside
  | member inside => exact sizeOf_lt_of_mem_members inside

/-- What holds of a value as soon as it holds of its children holds of every value. -/
theorem Json.induction_children {P : Json → Prop}
    (step : ∀ value, (∀ child, child.IsChild value → P child) → P value) (value : Json) :
    P value :=
  step value fun child _ => Json.induction_children step child
termination_by sizeOf value
decreasing_by exact Json.IsChild.sizeOf_lt ‹_›

namespace Validator

/-! ### Findings -/

/-- The findings of the declared fields, in the order of the schema. -/
def inSchemaOrder (t : ObjectType) (findings : List (String × List Finding)) : List Finding :=
  t.properties.flatMap fun (field, _) =>
    -- A field that the value lacks has no entry and nothing is found at it.
    ((findings.lookup field).getD []).map (.inside (.field field))

mutual

/-- The findings at a value and below it. -/
def check (v : Validator) (scope : Option Document) (node : TypeNode) (value : Json) :
    List Finding :=
  match settle v.registry value maxHops scope node with
  | .accepted => []
  | .refused expected cause => [.here expected cause]
  | .shape scope node =>
    match node, value with
    | .array t, .arr elements =>
      countFindings v.options t elements.length ++
        match t.items with
        | none => []
        | some items => checkElements v scope items 0 elements
    | .object t, .obj members =>
      -- Members are checked in the order of the value and put in that of the schema afterwards.
      missingFindings v.options t members ++
        inSchemaOrder t (checkMembers v scope t members) ++
        undeclaredFindings v.options t members
    | node, value => ofVerdict v.options node (.ofNode node value)

/-- The findings below the elements of an array, the first of which stands at `index`. -/
def checkElements (v : Validator) (scope : Option Document) (items : TypeNode) (index : Nat) :
    List Json → List Finding
  | [] => []
  | value :: rest =>
    (check v scope items value).map (.inside (.index index)) ++
      checkElements v scope items (index + 1) rest

/-- The findings of the members of an object, each under its key. -/
def checkMembers (v : Validator) (scope : Option Document) (t : ObjectType) :
    List (String × Json) → List (String × List Finding)
  | [] => []
  | (key, value) :: rest =>
    let findings :=
      match t.property? key with
      -- Members that the schema does not declare are left to `undeclaredFindings`.
      | none => []
      | some node => if value.isNull && t.isNullable key then [] else check v scope node value
    (key, findings) :: checkMembers v scope t rest

end

/-- The findings of a value that is held to a definition of a document. -/
def checkDefinition (v : Validator) (value : Json) (doc : Document) (name : String) :
    List Finding :=
  match doc.definition? name with
  | none => [.here "definition" (.missingDefinition doc.id name)]
  | some definition =>
    let reference := ((doc.idOf? name).map Nsid.text).getD ("#" ++ name)
    match definition.target reference with
    | .ok node => v.check (some doc) node value
    | .error cause => [.here definition.kind cause]

/-! ### Writing findings -/

variable {v : Validator} {scope : Option Document}

theorem report_append (start : String) (findings others : List Finding) :
    report start (findings ++ others) = report start findings ++ report start others :=
  List.map_append

/-- A step in front of the others is the one that is joined to the start path first. -/
theorem report_inside (start : String) (step : Step) (findings : List Finding) :
    report start (findings.map (.inside step)) = report (Path.join start step) findings := by
  rw [report, report, List.map_map]
  rfl

/-! ### The walk -/

/-- At a value the walk writes what is found there, wherever the value stands. -/
def WalksAs (v : Validator) (value : Json) : Prop :=
  ∀ scope node path, v.walk scope node path value = report path (v.check scope node value)

theorem walkElements_eq_report {elements : List Json}
    (each : ∀ value ∈ elements, v.WalksAs value) (items : TypeNode) (path : String)
    (index : Nat) :
    v.walkElements scope items path index elements =
      report path (v.checkElements scope items index elements) := by
  induction elements generalizing index with
  | nil => rw [walkElements, checkElements, report, List.map_nil]
  | cons value rest ih =>
    obtain ⟨here, others⟩ := List.forall_mem_cons.mp each
    rw [walkElements, checkElements, report_append, report_inside, here, ih others]
    rfl

theorem lookup_walkMembers {members : List (String × Json)}
    (each : ∀ key value, (key, value) ∈ members → v.WalksAs value) (t : ObjectType)
    (path field : String) :
    (v.walkMembers scope t path members).lookup field =
      ((v.checkMembers scope t members).lookup field).map
        (report (Path.joinField path field)) := by
  induction members with
  | nil => rw [walkMembers, checkMembers]; rfl
  | cons member rest ih =>
    obtain ⟨key, value⟩ := member
    have others := ih fun key value inside => each key value (List.mem_cons_of_mem _ inside)
    rw [walkMembers, checkMembers, List.lookup_cons, List.lookup_cons, others]
    by_cases same : field = key
    · subst same
      simp only [beq_self_eq_true, Option.map_some]
      -- A member is walked if it has a property and is no admitted `null`.
      cases t.property? field with
      | none => rfl
      | some node =>
        dsimp only
        split
        · rfl
        · rw [each field value List.mem_cons_self]
    · have different : (field == key) = false := by simpa using same
      simp only [different]

theorem fieldsInOrder_walkMembers {members : List (String × Json)}
    (each : ∀ key value, (key, value) ∈ members → v.WalksAs value) (t : ObjectType)
    (path : String) :
    fieldsInOrder t (v.walkMembers scope t path members) =
      report path (inSchemaOrder t (v.checkMembers scope t members)) := by
  rw [fieldsInOrder, inSchemaOrder, report, List.map_flatMap]
  refine List.flatMap_congr fun property _ => ?_
  dsimp only
  rw [lookup_walkMembers each]
  cases (v.checkMembers scope t members).lookup property.1 with
  | none => rfl
  | some findings => exact (report_inside path (.field property.1) findings).symm

/-- A walk that starts at a path writes the findings of the value from there. -/
theorem walk_eq_report (v : Validator) (scope : Option Document) (node : TypeNode) (path : String)
    (value : Json) : v.walk scope node path value = report path (v.check scope node value) := by
  induction value using Json.induction_children generalizing scope node path with
  | step value below =>
    -- Both settle the value in the same way.
    rw [walk, check]
    cases settle v.registry value maxHops scope node with
    | accepted => rfl
    | refused expected cause => rfl
    | shape scope node =>
      cases node with
      | array t =>
        cases value with
        | arr elements =>
          have each : ∀ element ∈ elements, v.WalksAs element :=
            fun element inside scope node path => below element (.element inside) scope node path
          dsimp only
          rw [report_append]
          cases t.items with
          | none => rfl
          | some items => rw [← walkElements_eq_report each]
        | _ => rfl
      | object t =>
        cases value with
        | obj members =>
          have each : ∀ key member, (key, member) ∈ members → v.WalksAs member :=
            fun key member inside scope node path => below member (.member inside) scope node path
          dsimp only
          rw [report_append, report_append, fieldsInOrder_walkMembers each]
        | _ => rfl
      | _ => rfl

/-! ### Entry points -/

theorem validateAt_eq_report (v : Validator) (value : Json) (node : TypeNode) (path : String) :
    v.validateAt value node path = report path (v.check none node value) :=
  v.walk_eq_report none node path value

theorem validateInDocument_eq_report (v : Validator) (value : Json) (node : TypeNode)
    (doc : Document) :
    v.validateInDocument value node doc = report "" (v.check (some doc) node value) :=
  v.walk_eq_report (some doc) node "" value

theorem validateDefinition_eq_report (v : Validator) (value : Json) (doc : Document)
    (name : String) :
    v.validateDefinition value doc name = report "" (v.checkDefinition value doc name) := by
  unfold validateDefinition checkDefinition
  cases doc.definition? name with
  | none => rfl
  | some definition =>
    dsimp only
    cases definition.target _ with
    | error cause => rfl
    | ok node => exact v.walk_eq_report (some doc) node "" value

end Validator

end Lexicon
