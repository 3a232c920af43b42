import Lexicon.Proofs.RelativeFindings

/-!
# Lexicon.Proofs.Walk

The validator seen one step at a time.

`Validator.check` first settles what a value is held to and then descends. For
reasoning it helps to stop after each reference and to know how many more may
be followed, so `checkWithin` takes that number, and one equation says what
happens at each kind of node. The findings of children are given by the lists
they come from, without the recursion that computes them.

## Main results

- `Validator.check_eq_checkWithin`: a check starts with the full number of hops.
- `Validator.checkWithin_of_follow_succ`: one reference is followed.
- `Validator.checkElements_eq`, `Validator.inSchemaOrder_checkMembers`: children.
-/

namespace Lexicon

/-- A reference asks to be followed, and may not dangle. -/
theorem Move.ofNode_ref (scope : Option Document) (value : Json) (t : RefType) :
    Move.ofNode scope value (.ref t) = .follow t.target true := rfl

namespace Validator

variable {v : Validator} {scope : Option Document} {node : TypeNode} {value : Json}

/-! ### One value -/

/-- The findings at a value and below it for a node that is neither a reference nor a union. -/
def checkShape (v : Validator) (scope : Option Document) (node : TypeNode) (value : Json) :
    List Finding :=
  match node, value with
  | .array t, .arr elements =>
    countFindings v.options t elements.length ++
      match t.items with
      | none => []
      | some items => v.checkElements scope items 0 elements
  | .object t, .obj members =>
    missingFindings v.options t members ++
      inSchemaOrder t (v.checkMembers scope t members) ++
      undeclaredFindings v.options t members
  | node, value => ofVerdict v.options node (.ofNode node value)

/-- A value is an array or an object of the type that it is held to, or has no children that the
type has anything to say about. -/
@[elab_as_elim]
theorem shape_cases {motive : TypeNode → Json → Prop}
    (array : ∀ t elements, motive (.array t) (.arr elements))
    (object : ∀ t members, motive (.object t) (.obj members))
    (leaf : ∀ node value, (∀ t elements, node = .array t → value ≠ .arr elements) →
      (∀ t members, node = .object t → value ≠ .obj members) → motive node value)
    (node : TypeNode) (value : Json) : motive node value := by
  by_cases isArray : ∃ t elements, node = .array t ∧ value = .arr elements
  · obtain ⟨t, elements, rfl, rfl⟩ := isArray
    exact array t elements
  by_cases isObject : ∃ t members, node = .object t ∧ value = .obj members
  · obtain ⟨t, members, rfl, rfl⟩ := isObject
    exact object t members
  exact leaf node value (fun t elements typed same => isArray ⟨t, elements, typed, same⟩)
    fun t members typed same => isObject ⟨t, members, typed, same⟩

theorem checkShape_eq_ofVerdict
    (noArray : ∀ t elements, node = .array t → value ≠ .arr elements)
    (noObject : ∀ t members, node = .object t → value ≠ .obj members) :
    v.checkShape scope node value = ofVerdict v.options node (.ofNode node value) := by
  unfold checkShape
  split
  · next t elements => exact absurd rfl (noArray t elements rfl)
  · next t members => exact absurd rfl (noObject t members rfl)
  · rfl

/-- The findings at a value and below it when at most `hops` references may be followed at it. -/
def checkWithin (v : Validator) (hops : Nat) (scope : Option Document) (node : TypeNode)
    (value : Json) : List Finding :=
  match settle v.registry value hops scope node with
  | .accepted => []
  | .refused expected cause => [.here expected cause]
  | .shape scope node => v.checkShape scope node value

/-- The findings at a value that is held to a definition under the given reference. -/
def checkTarget (v : Validator) (hops : Nat) (doc : Document) (definition : Definition)
    (reference : String) (value : Json) : List Finding :=
  match definition.target reference with
  | .ok node => v.checkWithin hops (some doc) node value
  | .error cause => [.here definition.kind cause]

/-- The findings at a value when a reference is followed and at most `hops` more. -/
def checkReference (v : Validator) (hops : Nat) (scope : Option Document) (reference : String)
    (strict : Bool) (value : Json) : List Finding :=
  match Lookup.ofText v.registry scope reference with
  | .found doc definition => v.checkTarget hops doc definition reference value
  | .noDefinition document =>
    if strict then [.here reference (.noDefinition reference document)] else []
  | .notRegistered document =>
    if strict then [.here reference (.notRegistered document)] else []
  | .unknown => []
  | .malformed reason => [.here reference (.unresolvable reason)]

theorem check_eq_checkWithin (v : Validator) (scope : Option Document) (node : TypeNode)
    (value : Json) : v.check scope node value = v.checkWithin maxHops scope node value := by
  -- Both sides settle the value in the same way, and descend in the same way afterwards.
  rw [check, checkWithin]
  cases settle v.registry value maxHops scope node with
  | shape scope node => rfl
  | accepted => rfl
  | refused expected cause => rfl

theorem checkWithin_of_stay (hops : Nat) (stay : Move.ofNode scope value node = .stay) :
    v.checkWithin hops scope node value = v.checkShape scope node value := by
  unfold checkWithin settle
  simp only [stay]

theorem checkWithin_of_accept (hops : Nat) (accept : Move.ofNode scope value node = .accept) :
    v.checkWithin hops scope node value = [] := by
  unfold checkWithin settle
  simp only [accept]

theorem checkWithin_of_refuse (hops : Nat) {cause : Cause}
    (refuse : Move.ofNode scope value node = .refuse cause) :
    v.checkWithin hops scope node value = [.here node.kind cause] := by
  unfold checkWithin settle
  simp only [refuse]

theorem checkWithin_of_follow_zero {reference : String} {strict : Bool}
    (follow : Move.ofNode scope value node = .follow reference strict) :
    v.checkWithin 0 scope node value = [.here reference (.tooManyHops maxHops reference)] := by
  unfold checkWithin settle
  simp only [follow]

/-- Following a reference uses up one hop. -/
theorem checkWithin_of_follow_succ (hops : Nat) {reference : String} {strict : Bool}
    (follow : Move.ofNode scope value node = .follow reference strict) :
    v.checkWithin (hops + 1) scope node value =
      v.checkReference hops scope reference strict value := by
  unfold checkWithin settle
  simp only [follow, checkReference, checkTarget, checkWithin]
  cases Lookup.ofText v.registry scope reference with
  | found doc definition =>
    -- A definition without data is refused on either side.
    dsimp only
    cases definition.target reference <;> rfl
  | noDefinition document => cases strict <;> rfl
  | notRegistered document => cases strict <;> rfl
  | unknown => rfl
  | malformed reason => rfl

/-! ### Children -/

theorem checkElements_eq (v : Validator) (scope : Option Document) (items : TypeNode)
    (elements : List Json) (index : Nat) :
    v.checkElements scope items index elements =
      (elements.zipIdx index).flatMap fun entry =>
        (v.check scope items entry.1).map (.inside (.index entry.2)) := by
  induction elements generalizing index with
  | nil => rw [checkElements]; rfl
  | cons value rest ih => rw [checkElements, ih, List.zipIdx_cons, List.flatMap_cons]

/-- The findings of one member of an object that is held to its property. -/
def memberFindings (v : Validator) (scope : Option Document) (t : ObjectType) (field : String)
    (value : Json) : List Finding :=
  match t.property? field with
  | none => []
  | some node => if value.isNull && t.isNullable field then [] else v.check scope node value

theorem checkMembers_cons (v : Validator) (scope : Option Document) (t : ObjectType) (key : String)
    (value : Json) (rest : List (String × Json)) :
    v.checkMembers scope t ((key, value) :: rest) =
      (key, v.memberFindings scope t key value) :: v.checkMembers scope t rest := by
  rw [checkMembers]
  rfl

theorem lookup_checkMembers (v : Validator) (scope : Option Document) (t : ObjectType)
    (members : List (String × Json)) (field : String) :
    (v.checkMembers scope t members).lookup field =
      (members.lookup field).map (v.memberFindings scope t field) := by
  induction members with
  | nil => rw [checkMembers]; rfl
  | cons member rest ih =>
    obtain ⟨key, value⟩ := member
    rw [checkMembers_cons, List.lookup_cons, List.lookup_cons, ih]
    by_cases same : field = key
    · subst same
      simp only [beq_self_eq_true, Option.map_some]
    · have different : (field == key) = false := by simpa using same
      simp only [different]

/-- The findings of the declared fields are those of the properties one after the other. -/
theorem inSchemaOrder_checkMembers (v : Validator) (scope : Option Document) (t : ObjectType)
    (members : List (String × Json)) :
    inSchemaOrder t (v.checkMembers scope t members) =
      t.properties.flatMap fun property =>
        (((members.lookup property.1).map (v.memberFindings scope t property.1)).getD []).map
          (.inside (.field property.1)) := by
  unfold inSchemaOrder
  simp only [lookup_checkMembers]

end Validator

end Lexicon
