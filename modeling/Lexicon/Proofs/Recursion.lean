import Mathlib.Data.List.Basic
import Mathlib.Logic.Relation
import Lexicon.Generation.TypeMapper
import Lexicon.Proofs.Walk

/-!
# Lexicon.Proofs.Recursion

Following references ends.

References may form cycles, so neither the validator nor the type mapper gets
smaller nodes as it goes. Here both are written as equations, in which one step
asks for the results of other steps. What a step asks for is a relation, and
the relation is well founded: calls on children make the value smaller, calls
on targets use up a hop. So the equations have exactly one solution.

## Main results

- `Visit.calls_wellFounded`, `MapVisit.calls_wellFounded`: no calls go on
  forever.
- `Visit.findings_eq_step`, `Visit.eq_findings_of_step`: the findings are the
  one solution of the equations of the validator.
- `MapVisit.mapping_eq_step`, `MapVisit.eq_mapping_of_step`: the mappings are
  the one solution of the equations of the type mapper.
-/

namespace Lexicon

variable {registry : Option Registry}

/-- Steps that make a pair of numbers smaller do not go on forever. -/
theorem wellFounded_of_rank {α : Type} {calls : α → α → Prop} (rank : α → Nat × Nat)
    (decreases : ∀ earlier later, calls earlier later →
      Prod.Lex (· < ·) (· < ·) (rank later) (rank earlier)) :
    WellFounded fun later earlier => calls earlier later := by
  have ranks : WellFounded (Prod.Lex (· < · : Nat → Nat → Prop) (· < · : Nat → Nat → Prop)) :=
    (Prod.lex ⟨_, Nat.lt_wfRel.wf⟩ ⟨_, Nat.lt_wfRel.wf⟩).wf
  exact Subrelation.wf (decreases _ _) (InvImage.wf rank ranks)

/-! ### Calls of the validator -/

/-- What the validator looks at: a value that is held to a node, or to a definition that a
reference led to. At most `hops` more references are followed at the value. -/
inductive Visit where
  | atNode (hops : Nat) (scope : Option Document) (node : TypeNode) (value : Json)
  | atDefinition (hops : Nat) (doc : Document) (definition : Definition) (reference : String)
      (value : Json)

namespace Visit

/-- Looking at one thing asks for another one to be looked at. -/
inductive Calls (registry : Option Registry) : Visit → Visit → Prop where
  | follow {hops : Nat} {scope : Option Document} {node : TypeNode} {value : Json}
      {reference : String} {strict : Bool} {doc : Document} {definition : Definition}
      (asked : Move.ofNode scope value node = .follow reference strict)
      (found : Lookup.ofText registry scope reference = .found doc definition) :
      Calls registry (.atNode (hops + 1) scope node value)
        (.atDefinition hops doc definition reference value)
  | target {hops : Nat} {doc : Document} {definition : Definition} {reference : String}
      {node : TypeNode} {value : Json} (typed : definition.target reference = .ok node) :
      Calls registry (.atDefinition hops doc definition reference value)
        (.atNode hops (some doc) node value)
  | element {hops : Nat} {scope : Option Document} {t : ArrayType} {items : TypeNode}
      {elements : List Json} {element : Json} (given : t.items = some items)
      (inside : element ∈ elements) :
      Calls registry (.atNode hops scope (.array t) (.arr elements))
        (.atNode maxHops scope items element)
  | member {hops : Nat} {scope : Option Document} {t : ObjectType} {field : String}
      {node : TypeNode} {members : List (String × Json)} {value : Json}
      (declared : t.property? field = some node) (found : members.lookup field = some value)
      (present : (value.isNull && t.isNullable field) = false) :
      Calls registry (.atNode hops scope (.object t) (.obj members))
        (.atNode maxHops scope node value)

/-- The size of the value, then the hops; a definition comes right before its node. -/
noncomputable def rank : Visit → Nat × Nat
  | .atNode hops _ _ value => (sizeOf value, 2 * hops)
  | .atDefinition hops _ _ _ value => (sizeOf value, 2 * hops + 1)

theorem rank_decreases {earlier later : Visit} (calls : Calls registry earlier later) :
    Prod.Lex (· < ·) (· < ·) later.rank earlier.rank := by
  cases calls with
  -- At the same value the hops go down, by one half for each of the two calls.
  | follow asked found => exact .right _ (by omega)
  | target typed => exact .right _ (by omega)
  -- A child starts with all hops again, but is a smaller value.
  | element given inside => exact .left _ _ (Json.sizeOf_lt_of_mem_elements inside)
  | member declared found present => exact .left _ _ (Json.sizeOf_lt_of_lookup found)

/-- The calls of the validator end, whatever cycles the references form. -/
theorem calls_wellFounded (registry : Option Registry) :
    WellFounded fun later earlier => Calls registry earlier later :=
  wellFounded_of_rank rank fun _ _ => rank_decreases

/-! ### Findings as the solution of equations -/

/-- The findings at what is visited. -/
def findings (v : Validator) : Visit → List Finding
  | .atNode hops scope node value => v.checkWithin hops scope node value
  | .atDefinition hops doc definition reference value =>
    v.checkTarget hops doc definition reference value

/-- The findings of one member of an object, where `ask` gives those of its value. -/
def memberStep (ask : Visit → List Finding) (scope : Option Document) (t : ObjectType)
    (field : String) (value : Json) : List Finding :=
  match t.property? field with
  | none => []
  | some type =>
    if value.isNull && t.isNullable field then [] else ask (.atNode maxHops scope type value)

/-- The findings for a type that is neither a reference nor a union, where `ask` gives those of
the children. -/
def shapeStep (v : Validator) (ask : Visit → List Finding) (scope : Option Document)
    (type : TypeNode) (value : Json) : List Finding :=
  match type, value with
  | .array t, .arr elements =>
    Validator.countFindings v.options t elements.length ++
      match t.items with
      | none => []
      | some items =>
        elements.zipIdx.flatMap fun entry =>
          (ask (.atNode maxHops scope items entry.1)).map (.inside (.index entry.2))
  | .object t, .obj members =>
    Validator.missingFindings v.options t members ++
      (t.properties.flatMap fun property =>
        (((members.lookup property.1).map (memberStep ask scope t property.1)).getD []).map
          (.inside (.field property.1))) ++
      Validator.undeclaredFindings v.options t members
  | type, value => Validator.ofVerdict v.options type (.ofNode type value)

/-- One step of the validator, where `ask` gives the findings of everything else. -/
def step (v : Validator) (ask : Visit → List Finding) : Visit → List Finding
  | .atNode hops scope type value =>
    match Move.ofNode scope value type with
    | .stay => shapeStep v ask scope type value
    | .accept => []
    | .refuse cause => [.here type.kind cause]
    | .follow reference strict =>
      match hops with
      | 0 => [.here reference (.tooManyHops maxHops reference)]
      | hops + 1 =>
        match Lookup.ofText v.registry scope reference with
        | .found doc definition => ask (.atDefinition hops doc definition reference value)
        | .noDefinition document =>
          if strict then [.here reference (.noDefinition reference document)] else []
        | .notRegistered document =>
          if strict then [.here reference (.notRegistered document)] else []
        | .unknown => []
        | .malformed reason => [.here reference (.unresolvable reason)]
  | .atDefinition hops doc definition reference value =>
    match definition.target reference with
    | .ok type => ask (.atNode hops (some doc) type value)
    | .error cause => [.here definition.kind cause]

variable {v : Validator}

theorem memberStep_findings (v : Validator) (scope : Option Document) (t : ObjectType)
    (field : String) :
    memberStep (findings v) scope t field = v.memberFindings scope t field := by
  funext value
  cases found : t.property? field with
  | none => simp only [memberStep, Validator.memberFindings, found]
  | some type =>
    simp only [memberStep, Validator.memberFindings, found, Validator.check_eq_checkWithin,
      findings]

theorem shapeStep_eq_ofVerdict {ask : Visit → List Finding} {scope : Option Document}
    {type : TypeNode} {value : Json}
    (noArray : ∀ t elements, type = .array t → value ≠ .arr elements)
    (noObject : ∀ t members, type = .object t → value ≠ .obj members) :
    shapeStep v ask scope type value = Validator.ofVerdict v.options type (.ofNode type value) := by
  unfold shapeStep
  split
  · next t elements => exact absurd rfl (noArray t elements rfl)
  · next t members => exact absurd rfl (noObject t members rfl)
  · rfl

theorem checkShape_eq_shapeStep (v : Validator) (scope : Option Document) (type : TypeNode)
    (value : Json) : v.checkShape scope type value = shapeStep v (findings v) scope type value := by
  cases type, value using Validator.shape_cases with
  | array t elements =>
    cases given : t.items with
    | none => simp only [Validator.checkShape, shapeStep, given]
    | some items =>
      simp only [Validator.checkShape, shapeStep, given, Validator.checkElements_eq,
        Validator.check_eq_checkWithin, findings]
  | object t members =>
    simp only [Validator.checkShape, shapeStep, Validator.inSchemaOrder_checkMembers,
      memberStep_findings]
  | leaf type value noArray noObject =>
    rw [Validator.checkShape_eq_ofVerdict noArray noObject, shapeStep_eq_ofVerdict noArray noObject]

/-- The findings solve the equations. -/
theorem findings_eq_step (v : Validator) (visit : Visit) :
    findings v visit = step v (findings v) visit := by
  cases visit with
  | atDefinition hops doc definition reference value => rfl
  | atNode hops scope type value =>
    simp only [findings, step]
    split
    · next stay =>
      rw [Validator.checkWithin_of_stay hops stay]
      -- The findings of the children come from the same function, at other visits.
      exact checkShape_eq_shapeStep v scope type value
    · next accept => exact Validator.checkWithin_of_accept hops accept
    · next cause refuse => exact Validator.checkWithin_of_refuse hops refuse
    · next reference strict follow =>
      split
      · exact Validator.checkWithin_of_follow_zero follow
      · next hops => exact Validator.checkWithin_of_follow_succ hops follow

theorem memberStep_congr {ask other : Visit → List Finding} {hops : Nat}
    {scope : Option Document} {t : ObjectType} {members : List (String × Json)}
    (agree : ∀ later, Calls v.registry (.atNode hops scope (.object t) (.obj members)) later →
      ask later = other later) {field : String} {value : Json}
    (found : members.lookup field = some value) :
    memberStep ask scope t field value = memberStep other scope t field value := by
  unfold memberStep
  split
  · rfl
  · next type declared =>
    split
    · rfl
    · next present => exact agree _ (.member declared found (by simpa using present))

theorem shapeStep_congr {ask other : Visit → List Finding} {hops : Nat}
    {scope : Option Document} {type : TypeNode} {value : Json}
    (agree : ∀ later, Calls v.registry (.atNode hops scope type value) later →
      ask later = other later) :
    shapeStep v ask scope type value = shapeStep v other scope type value := by
  unfold shapeStep
  split
  · next t elements =>
    split
    · rfl
    · next items given =>
      congr 1
      refine List.flatMap_congr fun entry inside => ?_
      rw [agree _ (.element given (List.fst_mem_of_mem_zipIdx inside))]
  · next t members =>
    congr 2
    refine List.flatMap_congr fun property _ => ?_
    cases found : members.lookup property.1 with
    | none => rfl
    | some value => simp only [Option.map_some, memberStep_congr agree found]
  · rfl

/-- A step depends on the calls that it makes and on nothing else. -/
theorem step_congr {ask other : Visit → List Finding} {visit : Visit}
    (agree : ∀ later, Calls v.registry visit later → ask later = other later) :
    step v ask visit = step v other visit := by
  cases visit with
  | atDefinition hops doc definition reference value =>
    simp only [step]
    split
    · next type typed => exact agree _ (.target typed)
    · rfl
  | atNode hops scope type value =>
    simp only [step]
    split
    · exact shapeStep_congr agree
    · rfl
    · rfl
    · next reference strict follow =>
      split
      · rfl
      · split
        · next doc definition found => exact agree _ (.follow follow found)
        all_goals rfl

/-- The findings are the only solution of the equations. -/
theorem eq_findings_of_step {ask : Visit → List Finding}
    (solves : ∀ visit, ask visit = step v ask visit) : ask = findings v := by
  -- Two solutions agree at a visit as soon as they agree at what it calls.
  funext visit
  induction visit using (calls_wellFounded v.registry).induction with
  | h visit ih => rw [solves, findings_eq_step, step_congr ih]

/-! ### Reaching definitions -/

/-- The calls that start at one visit lead to a definition, at the value of the visit. -/
def Reaches (registry : Option Registry) (start : Visit) (owner : Document)
    (definition : Definition) (value : Json) : Prop :=
  ∃ hops reference, Relation.ReflTransGen (Calls registry) start
    (.atDefinition hops owner definition reference value)

end Visit

/-! ### Calls of the type mapper -/

/-- What holds of a list as soon as it holds of its items holds of every type, if it holds of lists
that say nothing about their items and of all that is no list. -/
@[elab_as_elim]
theorem TypeNode.list_induction {motive : TypeNode → Prop}
    (list : ∀ description items minLength maxLength, motive items →
      motive (.array ⟨description, some items, minLength, maxLength⟩))
    (bare : ∀ description minLength maxLength,
      motive (.array ⟨description, none, minLength, maxLength⟩))
    (single : ∀ node, (∀ t, node ≠ .array t) → motive node) (node : TypeNode) : motive node := by
  cases node with
  | array t =>
    obtain ⟨description, items, minLength, maxLength⟩ := t
    cases items with
    | none => exact bare description minLength maxLength
    | some items =>
      exact list _ items _ _ (TypeNode.list_induction list bare single items)
  | _ => exact single _ nofun
termination_by sizeOf node

/-- What the type mapper looks at: a node that stands in a document, or a definition that a
reference led to, with the identifier of the definition. At most `hops` more references are
followed. -/
inductive MapVisit where
  | atNode (hops : Nat) (doc : Document) (node : TypeNode)
  | atDefinition (hops : Nat) (id : Nsid) (external : Bool) (owner : Document)
      (definition : Definition)

namespace MapVisit

/-- Mapping one thing asks for another one to be mapped. Structs are not looked into. -/
inductive Calls (registry : Option Registry) : MapVisit → MapVisit → Prop where
  | items {hops : Nat} {doc : Document} {t : ArrayType} {items : TypeNode}
      (given : t.items = some items) :
      Calls registry (.atNode hops doc (.array t)) (.atNode hops doc items)
  | follow {hops : Nat} {doc owner : Document} {t : RefType} {id : Nsid}
      {definition : Definition}
      (absolute : (Reference.parse t.target).bind (·.absolute doc.id) = .ok id)
      (owned : TypeMapper.owner? registry doc id = some owner)
      (found : owner.definition? id.definitionName = some definition) :
      Calls registry (.atNode (hops + 1) doc (.ref t))
        (.atDefinition hops id (id.base ≠ doc.id) owner definition)
  | transparent {hops : Nat} {id : Nsid} {external : Bool} {owner : Document} {node : TypeNode}
      (noStruct : (Definition.data node).object? = none) :
      Calls registry (.atDefinition hops id external owner (.data node)) (.atNode hops owner node)

/-- The hops, then the size of the node; a definition comes right before its node. -/
noncomputable def rank : MapVisit → Nat × Nat
  | .atNode hops _ type => (2 * hops, sizeOf type)
  | .atDefinition hops _ _ _ _ => (2 * hops + 1, 0)

theorem rank_decreases {earlier later : MapVisit} (calls : Calls registry earlier later) :
    Prod.Lex (· < ·) (· < ·) later.rank earlier.rank := by
  cases calls with
  | @items hops doc t items given =>
    -- The only call that keeps the hops; the items are part of the array.
    obtain ⟨description, _, minLength, maxLength⟩ := t
    cases given
    exact .right _ (by simp only [TypeNode.array.sizeOf_spec, ArrayShape.mk.sizeOf_spec,
      Option.some.sizeOf_spec]; omega)
  | follow absolute owned found => exact .left _ _ (by omega)
  | transparent noStruct => exact .left _ _ (by omega)

/-- The calls of the type mapper end, whatever cycles the references form. -/
theorem calls_wellFounded (registry : Option Registry) :
    WellFounded fun later earlier => Calls registry earlier later :=
  wellFounded_of_rank rank fun _ _ => rank_decreases

/-! ### Mappings as the solution of equations -/

/-- The mapping of what is visited. -/
def mapping (registry : Option Registry) : MapVisit → Mapping
  | .atNode hops doc type => TypeMapper.mapWith (TypeMapper.mapReference registry hops doc) type
  | .atDefinition hops id external owner definition =>
    match definition with
    | .record .. | .data (.object _) => .struct id external
    | .data type => TypeMapper.mapWith (TypeMapper.mapReference registry hops owner) type
    | _ => .unknown

/-- One step of the type mapper, where `ask` gives the mappings of everything else. -/
def step (registry : Option Registry) (ask : MapVisit → Mapping) : MapVisit → Mapping
  | .atNode hops doc type =>
    match type with
    | .array t =>
      match t.items with
      | none => .list .unknown
      | some items => .list (ask (.atNode hops doc items))
    | .ref t =>
      match hops with
      | 0 => .unknown
      | hops + 1 =>
        match (Reference.parse t.target).bind (·.absolute doc.id) with
        | .error _ => .unknown
        | .ok id =>
          match TypeMapper.owner? registry doc id with
          | none => .struct id (id.base ≠ doc.id)
          | some owner =>
            match owner.definition? id.definitionName with
            | none => .struct id (id.base ≠ doc.id)
            | some definition =>
              ask (.atDefinition hops id (id.base ≠ doc.id) owner definition)
    | leaf => TypeMapper.mapWith (fun _ => .unknown) leaf
  | .atDefinition hops id external owner definition =>
    match definition with
    | .record .. | .data (.object _) => .struct id external
    | .data type => ask (.atNode hops owner type)
    | _ => .unknown

/-- The mappings solve the equations. -/
theorem mapping_eq_step (registry : Option Registry) (visit : MapVisit) :
    mapping registry visit = step registry (mapping registry) visit := by
  cases visit with
  | atDefinition hops id external owner definition =>
    cases definition with
    | data type => cases type <;> rfl
    | _ => rfl
  | atNode hops doc type =>
    cases type with
    | array t =>
      obtain ⟨description, items, minLength, maxLength⟩ := t
      cases items <;> rfl
    | ref t =>
      cases hops with
      | zero => rfl
      | succ hops =>
        simp only [mapping, step, TypeMapper.mapWith, TypeMapper.mapReference]
        -- Both sides make the same look-ups, one inside the other.
        cases (Reference.parse t.target).bind (·.absolute doc.id) with
        | error malformed => rfl
        | ok id =>
          dsimp only
          cases TypeMapper.owner? registry doc id with
          | none => rfl
          | some owner =>
            dsimp only
            cases owner.definition? id.definitionName with
            | none => rfl
            | some definition =>
              cases definition with
              | data type => cases type <;> rfl
              | _ => rfl
    | _ => rfl

/-- A step depends on the calls that it makes and on nothing else. -/
theorem step_congr {ask other : MapVisit → Mapping} {visit : MapVisit}
    (agree : ∀ later, Calls registry visit later → ask later = other later) :
    step registry ask visit = step registry other visit := by
  cases visit with
  | atDefinition hops id external owner definition =>
    cases definition with
    | data type =>
      cases type with
      | object object => rfl
      | _ => exact agree _ (.transparent rfl)
    | _ => rfl
  | atNode hops doc type =>
    cases type with
    | array t =>
      cases given : t.items with
      | none => simp only [step, given]
      | some items => simp only [step, given, agree _ (.items given)]
    | ref t =>
      cases hops with
      | zero => rfl
      | succ hops =>
        simp only [step]
        split
        · rfl
        · next id absolute =>
          split
          · rfl
          · next owner owned =>
            split
            · rfl
            · next definition found => exact agree _ (.follow absolute owned found)
    | _ => rfl

/-- The mappings are the only solution of the equations. -/
theorem eq_mapping_of_step {ask : MapVisit → Mapping}
    (solves : ∀ visit, ask visit = step registry ask visit) : ask = mapping registry := by
  funext visit
  induction visit using (calls_wellFounded registry).induction with
  | h visit ih => rw [solves, mapping_eq_step, step_congr ih]

/-! ### Reaching definitions -/

/-- The calls that start at one visit lead to a definition. -/
def Reaches (registry : Option Registry) (start : MapVisit) (owner : Document)
    (definition : Definition) : Prop :=
  ∃ hops id external, Relation.ReflTransGen (Calls registry) start
    (.atDefinition hops id external owner definition)

end MapVisit

end Lexicon
