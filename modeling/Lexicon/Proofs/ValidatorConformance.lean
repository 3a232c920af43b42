import Lexicon.Proofs.Entries
import Lexicon.Proofs.LeafVerdicts

/-!
# Lexicon.Proofs.ValidatorConformance

The validator accepts exactly the values that conform.

## Main result

`Validator.valid_iff_conforms`: there are no violations of a value exactly if
the value conforms to the field type, in every mode, with and without a
registry, an enclosing document and accumulation.

## Proof strategy

By induction on the value, since only children are visited again from the
start, and inside it on the number of references that may still be followed at
the value. The relation is inverted once for references and once for unions.
-/

namespace Lexicon

variable {mode : ValidationMode} {registry : Option Registry} {hops : Nat}
  {scope : Option Document}

/-! ### Inversion of conformance -/

theorem Conforms.ref_zero {t : RefType} {value : Json} :
    ¬Conforms mode registry 0 scope (.ref t) value := by
  intro conforms
  cases conforms

theorem Conforms.ref_succ_iff {t : RefType} {value : Json} :
    Conforms mode registry (hops + 1) scope (.ref t) value ↔
      (∃ doc definition node, Resolves registry scope t.target doc definition ∧
        definition.dataType? = some node ∧ Conforms mode registry hops (some doc) node value) ∨
      Unanswerable registry scope t.target := by
  constructor
  · intro conforms
    cases conforms with
    | reference resolves typed target => exact .inl ⟨_, _, _, resolves, typed, target⟩
    | unanswerable nothing => exact .inr nothing
  · rintro (⟨doc, definition, node, resolves, typed, target⟩ | nothing)
    · exact .reference resolves typed target
    · exact .unanswerable nothing

/-- A value that conforms to a union is an object that names its type. -/
theorem Conforms.union_named {t : UnionType} {value : Json}
    (conforms : Conforms mode registry hops scope (.union t) value) :
    ∃ members discriminator, value = .obj members ∧
      members.lookup Union.typeKey = some (.str discriminator) := by
  cases conforms with
  | member named selected target => exact ⟨_, _, rfl, named⟩
  | dangling opened named selected dangles => exact ⟨_, _, rfl, named⟩
  | unlisted opened named omitted => exact ⟨_, _, rfl, named⟩

theorem Union.discriminator_unique {members : List (String × Json)} {discriminator other : String}
    (named : members.lookup typeKey = some (.str discriminator))
    (renamed : members.lookup typeKey = some (.str other)) : discriminator = other :=
  Json.str.inj (Option.some.inj (named.symm.trans renamed))

namespace UnionResolver

theorem Selects.unique {resolver : UnionResolver} {refs : List String}
    {discriminator member other : String} (left : resolver.Selects refs discriminator member)
    (right : resolver.Selects refs discriminator other) : member = other := by
  have hl : resolver.member? ⟨none, refs, true⟩ discriminator = some member :=
    member?_eq_some_iff.mpr left
  have hr : resolver.member? ⟨none, refs, true⟩ discriminator = some other :=
    member?_eq_some_iff.mpr right
  exact Option.some.inj (hl.symm.trans hr)

theorem Selects.not_omits {resolver : UnionResolver} {refs : List String}
    {discriminator member : String} (selected : resolver.Selects refs discriminator member) :
    ¬resolver.Omits refs discriminator := by
  intro omitted
  obtain ⟨before, after, rfl, same, _⟩ := selected
  exact omitted member (by simp) same

end UnionResolver

/-- Where a union selects a member, conforming to the union is conforming to the member. -/
theorem Conforms.union_selected_iff {t : UnionType} {members : List (String × Json)}
    {discriminator member : String}
    (named : members.lookup Union.typeKey = some (.str discriminator))
    (selected : (UnionResolver.ofScope scope).Selects t.refs discriminator member) :
    Conforms mode registry hops scope (.union t) (.obj members) ↔
      Conforms mode registry hops scope (.ref ⟨none, member⟩) (.obj members) ∨
      (hops ≠ 0 ∧ t.closed = false ∧ Dangles registry scope member) := by
  constructor
  · intro conforms
    cases conforms with
    | member named' selected' target =>
      obtain rfl := Union.discriminator_unique named named'
      obtain rfl := selected.unique selected'
      exact .inl target
    | dangling opened named' selected' dangles =>
      obtain rfl := Union.discriminator_unique named named'
      obtain rfl := selected.unique selected'
      exact .inr ⟨by omega, opened, dangles⟩
    | unlisted opened named' omitted =>
      obtain rfl := Union.discriminator_unique named named'
      exact absurd omitted selected.not_omits
  · rintro (target | ⟨positive, opened, dangles⟩)
    · exact .member named selected target
    -- A member that dangles takes a hop before it turns out to dangle.
    · obtain ⟨hops, rfl⟩ := Nat.exists_eq_succ_of_ne_zero positive
      exact .dangling opened named selected dangles

theorem Conforms.union_omitted_iff {t : UnionType} {members : List (String × Json)}
    {discriminator : String} (named : members.lookup Union.typeKey = some (.str discriminator))
    (omitted : (UnionResolver.ofScope scope).Omits t.refs discriminator) :
    Conforms mode registry hops scope (.union t) (.obj members) ↔ t.closed = false := by
  constructor
  · intro conforms
    cases conforms with
    | member named' selected' target =>
      obtain rfl := Union.discriminator_unique named named'
      exact absurd omitted selected'.not_omits
    | dangling opened named' selected' dangles => exact opened
    | unlisted opened named' omitted' => exact opened
  · intro opened
    exact .unlisted opened named omitted

/-! ### What a union asks -/

namespace Move

theorem ofNode_union_of_named {t : UnionType} {members : List (String × Json)}
    {discriminator : String} (named : members.lookup Union.typeKey = some (.str discriminator)) :
    ofNode scope (.obj members) (.union t) =
      match (UnionResolver.ofScope scope).member? t discriminator with
      | some member => follow member t.closed
      | none =>
        if t.closed then refuse (.union (.unknownMember discriminator)) else accept := by
  cases selected : (UnionResolver.ofScope scope).member? t discriminator with
  | none => simp only [ofNode, ofUnion, Union.discriminator, Json.get?, named, selected]
  | some member => simp only [ofNode, ofUnion, Union.discriminator, Json.get?, named, selected]

/-- Every value that is no object that names its type is refused. -/
theorem ofNode_union_of_not_named {t : UnionType} {value : Json}
    (nameless : ∀ members discriminator, value = .obj members →
      members.lookup Union.typeKey ≠ some (.str discriminator)) :
    ∃ cause, ofNode scope value (.union t) = refuse cause := by
  cases value with
  | obj members =>
    simp only [ofNode, ofUnion, Union.discriminator, Json.get?]
    split
    · exact ⟨_, rfl⟩
    · next discriminator found =>
      split at found
      · next s named => exact absurd named (nameless members s rfl)
      · cases found
      · cases found
  | _ => exact ⟨_, rfl⟩

end Move

namespace Validator

variable {v : Validator} {node : TypeNode} {value : Json}

/-! ### References -/

theorem target_eq_ok_iff {definition : Definition} {reference : String} :
    definition.target reference = .ok node ↔ definition.dataType? = some node := by
  cases definition <;> simp [Definition.target, Definition.dataType?]

theorem checkTarget_of_dataType {doc : Document} {definition : Definition} {reference : String}
    (typed : definition.dataType? = some node) :
    v.checkTarget hops doc definition reference value =
      v.checkWithin hops (some doc) node value := by
  simp only [checkTarget, target_eq_ok_iff.mpr typed]

/-- Nothing is found at a definition exactly if it has a data type and nothing is found there. -/
theorem checkTarget_eq_nil_iff {doc : Document} {definition : Definition} {reference : String} :
    v.checkTarget hops doc definition reference value = [] ↔
      ∃ node, definition.dataType? = some node ∧
        v.checkWithin hops (some doc) node value = [] := by
  constructor
  · intro empty
    cases typed : definition.target reference with
    | ok node =>
      have known := target_eq_ok_iff.mp typed
      rw [checkTarget_of_dataType known] at empty
      exact ⟨node, known, empty⟩
    | error cause => simp [checkTarget, typed] at empty
  · rintro ⟨node, typed, empty⟩
    rw [checkTarget_of_dataType typed, empty]

theorem checkReference_eq_nil_iff {reference : String} {strict : Bool} :
    v.checkReference hops scope reference strict value = [] ↔
      (∃ doc definition node, Resolves v.registry scope reference doc definition ∧
        definition.dataType? = some node ∧ v.checkWithin hops (some doc) node value = []) ∨
      Unanswerable v.registry scope reference ∨
      (strict = false ∧ Dangles v.registry scope reference) := by
  -- The relations are stated as outcomes of the look-up, which is what the check asks for.
  rw [← Lookup.ofText_eq_unknown_iff, Lookup.dangles_iff]
  simp only [← Lookup.ofText_eq_found_iff]
  cases found : Lookup.ofText v.registry scope reference with
  | found doc definition =>
    simp only [checkReference, found, checkTarget_eq_nil_iff, reduceCtorEq, exists_false,
      or_false, and_false, Lookup.found.injEq]
    constructor
    · rintro ⟨node, typed, empty⟩
      exact ⟨doc, definition, node, ⟨rfl, rfl⟩, typed, empty⟩
    · rintro ⟨doc, definition, node, ⟨rfl, rfl⟩, typed, empty⟩
      exact ⟨node, typed, empty⟩
  | noDefinition document => cases strict <;> simp [checkReference, found]
  | notRegistered document => cases strict <;> simp [checkReference, found]
  | unknown => simp [checkReference, found]
  | malformed reason => simp [checkReference, found]

/-! ### One value -/

/-- Children are held to their types: the hypothesis of the induction on values. -/
def ChildrenAgree (v : Validator) (value : Json) : Prop :=
  ∀ child, child.IsChild value → ∀ scope node,
    v.check scope node child = [] ↔
      Conforms v.options.mode v.registry maxHops scope node child

theorem countFindings_eq_nil_iff {t : ArrayType} {count : Nat} :
    countFindings v.options t count = [] ↔
      (v.options.mode ≠ .lenient → Within t.minLength t.maxLength count) := by
  by_cases lenient : v.options.mode = .lenient <;>
    simp [countFindings, ValidationMode.checksConstraints, lenient, ArrayShape.failures_eq_nil]

theorem checkElements_eq_nil_iff {items : TypeNode} {elements : List Json} {index : Nat} :
    v.checkElements scope items index elements = [] ↔
      ∀ element ∈ elements, v.check scope items element = [] := by
  induction elements generalizing index with
  | nil => simp [checkElements]
  | cons element rest ih => simp [checkElements, ih]

theorem checkShape_array_eq_nil_iff {t : ArrayType} {elements : List Json}
    (ih : v.ChildrenAgree (.arr elements)) :
    v.checkShape scope (.array t) (.arr elements) = [] ↔
      Conforms v.options.mode v.registry hops scope (.array t) (.arr elements) := by
  have unfolded : v.checkShape scope (.array t) (.arr elements) = [] ↔
      (v.options.mode ≠ .lenient → Within t.minLength t.maxLength elements.length) ∧
        ∀ items, t.items = some items →
          ∀ element ∈ elements, v.check scope items element = [] := by
    simp only [checkShape, List.append_eq_nil_iff, countFindings_eq_nil_iff]
    cases t.items <;> simp [checkElements_eq_nil_iff]
  rw [unfolded]
  constructor
  · rintro ⟨counted, each⟩
    exact .array counted fun items given element inside =>
      (ih element (.element inside) scope items).mp (each items given element inside)
  · intro conforms
    cases conforms with
    | array counted each =>
      exact ⟨counted, fun items given element inside =>
        (ih element (.element inside) scope items).mpr (each items given element inside)⟩

theorem missingFindings_eq_nil_iff {t : ObjectType} {members : List (String × Json)} :
    missingFindings v.options t members = [] ↔
      (v.options.mode ≠ .lenient → ∀ field ∈ t.required,
        ∃ value, members.lookup field = some value) := by
  by_cases lenient : v.options.mode = .lenient
  · simp [missingFindings, ValidationMode.checksConstraints, lenient]
  · simp [missingFindings, ValidationMode.checksConstraints, lenient, ← Entries.has_iff]

theorem undeclaredFindings_eq_nil_iff {t : ObjectType} {members : List (String × Json)} :
    undeclaredFindings v.options t members = [] ↔
      (v.options.mode = .strict → ∀ field value, (field, value) ∈ members →
        field ≠ Union.typeKey → ∃ node, t.property? field = some node) := by
  by_cases strict : v.options.mode = .strict
  · simp [undeclaredFindings, ValidationMode.refusesUndeclared, strict,
      ObjectShape.property?, ← Entries.has_iff]
  · simp [undeclaredFindings, ValidationMode.refusesUndeclared, strict]

theorem memberFindings_eq_nil_iff {t : ObjectType} {field : String} :
    v.memberFindings scope t field value = [] ↔
      ∀ node, t.property? field = some node → ¬(value = .null ∧ field ∈ t.nullable) →
        v.check scope node value = [] := by
  have admitted : (value.isNull && t.isNullable field) = true ↔
      value = .null ∧ field ∈ t.nullable := by
    cases value <;> simp [Json.isNull, ObjectShape.isNullable]
  unfold memberFindings
  cases t.property? field with
  -- Members without a property are left to the check for undeclared members.
  | none => simp
  | some node =>
    by_cases null : value = .null ∧ field ∈ t.nullable
    · simp only [if_pos (admitted.mpr null), Option.some.injEq, true_iff]
      rintro other rfl absent
      exact absurd null absent
    · simp only [if_neg (mt admitted.mp null), Option.some.injEq]
      constructor
      · rintro empty other rfl _
        exact empty
      · intro each
        exact each node rfl null

/-- Nothing is found at the declared fields exactly if nothing is found at any member that has a
property. -/
theorem inSchemaOrder_eq_nil_iff {t : ObjectType} {members : List (String × Json)} :
    inSchemaOrder t (v.checkMembers scope t members) = [] ↔
      ∀ field node value, t.property? field = some node → members.lookup field = some value →
        ¬(value = .null ∧ field ∈ t.nullable) → v.check scope node value = [] := by
  rw [inSchemaOrder_checkMembers, List.flatMap_eq_nil_iff]
  constructor
  · intro each field node value declared found null
    -- The findings go through the properties, so the property of the field has to be found.
    have key : field ∈ Entries.keys t.properties := Entries.exists_lookup_iff.mp ⟨node, declared⟩
    obtain ⟨property, inside, rfl⟩ := List.mem_map.mp key
    have empty := each property inside
    simp only [found, Option.map_some, Option.getD_some, List.map_eq_nil_iff] at empty
    exact memberFindings_eq_nil_iff.mp empty node declared null
  · intro each property inside
    cases found : members.lookup property.1 with
    | none => rfl
    | some value =>
      simp only [Option.map_some, Option.getD_some, List.map_eq_nil_iff]
      exact memberFindings_eq_nil_iff.mpr fun node declared =>
        each property.1 node value declared found

theorem checkShape_object_eq_nil_iff {t : ObjectType} {members : List (String × Json)}
    (ih : v.ChildrenAgree (.obj members)) :
    v.checkShape scope (.object t) (.obj members) = [] ↔
      Conforms v.options.mode v.registry hops scope (.object t) (.obj members) := by
  simp only [checkShape, List.append_eq_nil_iff, missingFindings_eq_nil_iff,
    inSchemaOrder_eq_nil_iff, undeclaredFindings_eq_nil_iff]
  constructor
  · rintro ⟨⟨required, declared⟩, closed⟩
    exact .object required (fun field node value typed found null =>
      (ih value (.of_lookup found) scope node).mp (declared field node value typed found null))
      closed
  · intro conforms
    cases conforms with
    | object required declared closed =>
      exact ⟨⟨required, fun field node value typed found null =>
        (ih value (.of_lookup found) scope node).mpr
          (declared field node value typed found null)⟩, closed⟩

/-- An array type has something against every value that is no array. -/
theorem checkShape_array_ne_nil {t : ArrayType} (noArray : ∀ elements, value ≠ .arr elements) :
    v.checkShape scope (.array t) value ≠ [] := by
  have plain : v.checkShape scope (.array t) value =
      ofVerdict v.options (.array t) (.ofNode (.array t) value) := checkShape_eq_ofVerdict
    (fun _ elements _ => noArray elements) (fun _ _ other => nomatch other)
  rw [plain, ne_eq, Verdict.ofVerdict_eq_nil_iff]
  cases value with
  | arr elements => exact absurd rfl (noArray elements)
  | obj members =>
    simp only [Verdict.ofNode, ArrayShape.formVerdict]
    split <;> exact Verdict.not_passes_malformed
  | _ => exact Verdict.not_passes_malformed

/-- An object type has something against every value that is no object. -/
theorem checkShape_object_ne_nil {t : ObjectType}
    (noObject : ∀ members, value ≠ .obj members) :
    v.checkShape scope (.object t) value ≠ [] := by
  have plain : v.checkShape scope (.object t) value =
      ofVerdict v.options (.object t) (.ofNode (.object t) value) := checkShape_eq_ofVerdict
    (fun _ _ other => nomatch other) (fun _ members _ => noObject members)
  rw [plain, ne_eq, Verdict.ofVerdict_eq_nil_iff]
  cases value with
  | obj members => exact absurd rfl (noObject members)
  | _ => exact Verdict.not_passes_malformed

theorem checkShape_leaf_eq_nil_iff (leaf : node.IsLeaf) :
    v.checkShape scope node value = [] ↔
      Conforms v.options.mode v.registry hops scope node value := by
  have noArray : ∀ t elements, node = .array t → value ≠ .arr elements := by
    rintro t elements rfl
    exact leaf.elim
  have noObject : ∀ t members, node = .object t → value ≠ .obj members := by
    rintro t members rfl
    exact leaf.elim
  rw [checkShape_eq_ofVerdict noArray noObject, Verdict.ofVerdict_eq_nil_iff,
    Verdict.passes_ofNode_iff leaf]

/-- A node that is followed nowhere agrees with conformance once its children do. -/
theorem checkShape_eq_nil_iff (ih : v.ChildrenAgree value)
    (stays : Move.ofNode scope value node = .stay) :
    v.checkShape scope node value = [] ↔
      Conforms v.options.mode v.registry hops scope node value := by
  cases node with
  | array t =>
    by_cases form : ∃ elements, value = .arr elements
    · obtain ⟨elements, rfl⟩ := form
      exact checkShape_array_eq_nil_iff ih
    · refine ⟨fun empty => absurd empty (checkShape_array_ne_nil fun elements same =>
        form ⟨elements, same⟩), fun conforms => ?_⟩
      cases conforms
      exact absurd ⟨_, rfl⟩ form
  | object t =>
    by_cases form : ∃ members, value = .obj members
    · obtain ⟨members, rfl⟩ := form
      exact checkShape_object_eq_nil_iff ih
    · refine ⟨fun empty => absurd empty (checkShape_object_ne_nil fun members same =>
        form ⟨members, same⟩), fun conforms => ?_⟩
      cases conforms
      exact absurd ⟨_, rfl⟩ form
  | ref t => cases stays
  | union t =>
    -- A union never stays: it is followed, refused or accepted.
    by_cases named : ∃ members discriminator, value = .obj members ∧
        members.lookup Union.typeKey = some (.str discriminator)
    · obtain ⟨members, discriminator, rfl, named⟩ := named
      rw [Move.ofNode_union_of_named named] at stays
      split at stays
      · cases stays
      · split at stays <;> cases stays
    · obtain ⟨cause, refused⟩ : ∃ cause, Move.ofNode scope value (.union t) = .refuse cause :=
        Move.ofNode_union_of_not_named fun members discriminator same named' =>
          named ⟨members, discriminator, same, named'⟩
      simp [refused] at stays
  | _ => exact checkShape_leaf_eq_nil_iff trivial

/-! ### All values -/

/-- A reference agrees with conformance once its targets do with one hop less. -/
theorem checkReference_eq_nil_iff_conforms {reference : String} {strict : Bool}
    (ih : ∀ scope node, v.checkWithin hops scope node value = [] ↔
      Conforms v.options.mode v.registry hops scope node value) :
    v.checkReference hops scope reference strict value = [] ↔
      Conforms v.options.mode v.registry (hops + 1) scope (.ref ⟨none, reference⟩) value ∨
      (strict = false ∧ Dangles v.registry scope reference) := by
  rw [checkReference_eq_nil_iff, Conforms.ref_succ_iff, or_assoc]
  simp only [ih]

/-- A union agrees with conformance once the members it selects do. -/
theorem checkWithin_union_eq_nil_iff {t : UnionType}
    (ih : ∀ member strict members, value = .obj members →
      Move.ofNode scope value (.union t) = .follow member strict →
      (v.checkWithin hops scope (.union t) value = [] ↔
        Conforms v.options.mode v.registry hops scope (.ref ⟨none, member⟩) value ∨
        (hops ≠ 0 ∧ strict = false ∧ Dangles v.registry scope member))) :
    v.checkWithin hops scope (.union t) value = [] ↔
      Conforms v.options.mode v.registry hops scope (.union t) value := by
  -- Only an object with a text for its type selects a member.
  by_cases named : ∃ members discriminator, value = .obj members ∧
      members.lookup Union.typeKey = some (.str discriminator)
  · obtain ⟨members, discriminator, rfl, named⟩ := named
    have asked := @Move.ofNode_union_of_named scope t members discriminator named
    cases chosen : (UnionResolver.ofScope scope).member? t discriminator with
    | some member =>
      have follow : Move.ofNode scope (.obj members) (.union t) = .follow member t.closed := by
        simp only [asked, chosen]
      rw [ih member t.closed members rfl follow,
        Conforms.union_selected_iff named (UnionResolver.member?_eq_some_iff.mp chosen)]
    | none =>
      rw [Conforms.union_omitted_iff named (UnionResolver.member?_eq_none_iff.mp chosen)]
      simp only [chosen] at asked
      cases opened : t.closed with
      | true =>
        simp only [opened, if_true] at asked
        simp [checkWithin_of_refuse hops asked]
      | false =>
        simp only [opened, Bool.false_eq_true, if_false] at asked
        simp [checkWithin_of_accept hops asked]
  · obtain ⟨cause, refused⟩ : ∃ cause, Move.ofNode scope value (.union t) = .refuse cause :=
      Move.ofNode_union_of_not_named fun members discriminator same named' =>
        named ⟨members, discriminator, same, named'⟩
    rw [checkWithin_of_refuse hops refused]
    constructor
    · intro empty
      cases empty
    · intro conforms
      exact absurd conforms.union_named named

/-- At one value, by induction on the number of references that may be followed. -/
theorem checkWithin_eq_nil_iff_of_children (ih : v.ChildrenAgree value) (hops : Nat) :
    ∀ scope node, v.checkWithin hops scope node value = [] ↔
      Conforms v.options.mode v.registry hops scope node value := by
  have stay {hops : Nat} {scope : Option Document} {node : TypeNode}
      (stays : Move.ofNode scope value node = .stay) :
      v.checkWithin hops scope node value = [] ↔
        Conforms v.options.mode v.registry hops scope node value := by
    rw [checkWithin_of_stay hops stays]
    exact checkShape_eq_nil_iff ih stays
  induction hops with
  | zero =>
    intro scope node
    -- Whatever has to be followed is given up, and conforms to nothing.
    cases node with
    | ref t =>
      rw [checkWithin_of_follow_zero (Move.ofNode_ref scope value t)]
      simp [Conforms.ref_zero]
    | union t =>
      refine checkWithin_union_eq_nil_iff fun member strict members _ follow => ?_
      rw [checkWithin_of_follow_zero follow]
      simp [Conforms.ref_zero]
    | _ => exact stay rfl
  | succ hops ihHops =>
    intro scope node
    -- One hop is used up at the same value, so the inner induction applies to the target.
    cases node with
    | ref t =>
      rw [checkWithin_of_follow_succ hops (Move.ofNode_ref scope value t),
        checkReference_eq_nil_iff_conforms ihHops, Conforms.ref_succ_iff, Conforms.ref_succ_iff]
      simp
    | union t =>
      refine checkWithin_union_eq_nil_iff fun member strict members _ follow => ?_
      rw [checkWithin_of_follow_succ hops follow, checkReference_eq_nil_iff_conforms ihHops]
      simp
    | _ => exact stay rfl

/-- Nothing is found at a value exactly if it conforms, however many references may be
followed. -/
theorem checkWithin_eq_nil_iff_conforms (v : Validator) (value : Json) (hops : Nat)
    (scope : Option Document) (node : TypeNode) :
    v.checkWithin hops scope node value = [] ↔
      Conforms v.options.mode v.registry hops scope node value := by
  -- Children are checked with all hops again, so the hops are generalized.
  induction value using Json.induction_children generalizing hops scope node with
  | step value ih =>
    refine checkWithin_eq_nil_iff_of_children (fun child inside scope node => ?_) hops scope node
    rw [check_eq_checkWithin]
    exact ih child inside maxHops scope node

theorem check_eq_nil_iff_conforms (v : Validator) (scope : Option Document) (node : TypeNode)
    (value : Json) :
    v.check scope node value = [] ↔
      Conforms v.options.mode v.registry maxHops scope node value := by
  rw [check_eq_checkWithin]
  exact checkWithin_eq_nil_iff_conforms v value maxHops scope node

/-- A definition with data admits the values that conform to its type inside its document. -/
theorem validateDefinition_eq_nil_iff (v : Validator) {doc : Document} {name : String}
    {definition : Definition} (found : doc.definition? name = some definition)
    (typed : definition.dataType? = some node) (value : Json) :
    v.validateDefinition value doc name = [] ↔
      Conforms v.options.mode v.registry maxHops (some doc) node value := by
  rw [← check_eq_nil_iff_conforms, validateDefinition_eq_report, report, List.map_eq_nil_iff]
  simp only [checkDefinition, found, target_eq_ok_iff.mpr typed]

/-- A value is valid, inside a document or without one, exactly if it conforms to the field
type. -/
theorem valid_iff_conforms (v : Validator) (value : Json) (node : TypeNode) :
    (v.validate value node = [] ↔
      Conforms v.options.mode v.registry maxHops none node value) ∧
    ∀ doc, v.validateInDocument value node doc = [] ↔
      Conforms v.options.mode v.registry maxHops (some doc) node value := by
  simp only [validate, validateAt_eq_report, validateInDocument_eq_report, report,
    List.map_eq_nil_iff, check_eq_nil_iff_conforms, implies_true, and_self]

end Validator

end Lexicon
