import Mathlib.Data.List.Forall2
import Mathlib.Data.List.Perm.Basic
import Lexicon.Proofs.JsonReading
import Lexicon.Proofs.Walk

/-!
# Lexicon.Proofs.MemberOrder

The order of members does not matter to validation.

Members are looked up by their keys, and declared fields are checked in the
order of the schema. Only undeclared fields are listed in the order of the
value, and only the strict mode lists them.

## Main definition

`Json.Reordered`: two values differ in the order of members, at any depth.

## Main result

`Validator.members_reordered`: the outcome is the same, but for the order of
the errors in the strict mode.

## Proof strategy

By induction on the value. An object is asked for single members and for the
list of its keys. With distinct keys the order does not matter to a look-up, and
the list of keys is only put in another order.
-/

namespace Lexicon

/-! ### Reordered values -/

/-- Two values differ in the order of the members of objects, at any depth. -/
inductive Json.Reordered : Json → Json → Prop where
  | same (value : Json) : Reordered value value
  | arr {elements others : List Json} (each : List.Forall₂ Reordered elements others) :
      Reordered (.arr elements) (.arr others)
  -- The members are moved first; then each one is reordered where it stands.
  | obj {members moved others : List (String × Json)} (order : members.Perm moved)
      (keys : Entries.keys moved = Entries.keys others)
      (each : List.Forall₂ Reordered (moved.map Prod.snd) (others.map Prod.snd)) :
      Reordered (.obj members) (.obj others)

namespace Json

/-- A value in which keys are distinct, and the same one in another order. -/
structure Alike (value other : Json) : Prop where
  distinct : value.KeysDistinct
  reordered : value.Reordered other

/-- Two objects agree: they have the same keys in some order, and alike values under every key. -/
structure Agree (members others : List (String × Json)) : Prop where
  keys : (Entries.keys members).Perm (Entries.keys others)
  lookup : ∀ key, Option.Rel Alike (members.lookup key) (others.lookup key)

theorem forall₂_alike {elements others : List Json}
    (distinct : ∀ element ∈ elements, element.KeysDistinct)
    (each : List.Forall₂ Reordered elements others) : List.Forall₂ Alike elements others := by
  induction each with
  | nil => exact .nil
  | cons reordered _ ih =>
    obtain ⟨first, rest⟩ := List.forall_mem_cons.mp distinct
    exact .cons ⟨first, reordered⟩ (ih rest)

theorem rel_lookup {moved others : List (String × Json)}
    (keys : Entries.keys moved = Entries.keys others)
    (each : List.Forall₂ Alike (moved.map Prod.snd) (others.map Prod.snd)) (key : String) :
    Option.Rel Alike (moved.lookup key) (others.lookup key) := by
  induction moved generalizing others with
  | nil =>
    cases others with
    | nil => exact .none
    | cons other rest => cases keys
  | cons member rest ih =>
    cases others with
    | nil => cases keys
    | cons other others =>
      obtain ⟨name, value⟩ := member
      obtain ⟨otherName, otherValue⟩ := other
      obtain ⟨rfl, later⟩ := List.cons.inj keys
      obtain ⟨here, there⟩ := List.forall₂_cons.mp each
      by_cases same : key = name
      · subst same
        rw [Entries.lookup_cons_self, Entries.lookup_cons_self]
        exact .some here
      · rw [Entries.lookup_cons_of_ne same, Entries.lookup_cons_of_ne same]
        exact ih later there

theorem Alike.agree {members others : List (String × Json)}
    (alike : Alike (.obj members) (.obj others)) : Agree members others := by
  obtain ⟨distinct, reordered⟩ := alike
  cases distinct with
  | obj distinct values =>
    cases reordered with
    | same =>
      refine ⟨.refl _, fun key => ?_⟩
      cases found : members.lookup key with
      | none => exact .none
      | some value => exact .some ⟨values key value (mem_of_lookup found), .same value⟩
    | @obj _ moved _ order keys each =>
      refine ⟨keys ▸ order.map Prod.fst, fun key => ?_⟩
      have kept : ∀ value ∈ moved.map Prod.snd, value.KeysDistinct := by
        intro value inside
        obtain ⟨⟨name, _⟩, there, rfl⟩ := List.mem_map.mp inside
        exact values name _ (order.mem_iff.mpr there)
      -- With distinct keys the moved members are found as before.
      rw [Entries.lookup_perm distinct order]
      exact rel_lookup keys (forall₂_alike kept each) key

theorem Alike.each {elements others : List Json} (alike : Alike (.arr elements) (.arr others)) :
    List.Forall₂ Alike elements others := by
  obtain ⟨distinct, reordered⟩ := alike
  cases distinct with
  | arr values =>
    cases reordered with
    | same => exact List.forall₂_same.mpr fun value inside => ⟨values value inside, .same value⟩
    | arr each => exact forall₂_alike values each

/-- Alike values are the same, or both are arrays, or both are objects. -/
theorem Alike.cases {value other : Json} (alike : Alike value other) :
    value = other ∨
      (∃ elements others, value = .arr elements ∧ other = .arr others ∧
        List.Forall₂ Alike elements others) ∨
      ∃ members others, value = .obj members ∧ other = .obj others ∧ Agree members others := by
  cases alike.reordered with
  | same => exact .inl rfl
  | arr each => exact .inr (.inl ⟨_, _, rfl, rfl, alike.each⟩)
  | obj order keys each => exact .inr (.inr ⟨_, _, rfl, rfl, alike.agree⟩)

/-! ### What a value is asked for -/

variable {value other : Json}

theorem Alike.isNull_eq (alike : Alike value other) : value.isNull = other.isNull := by
  rcases alike.cases with rfl | ⟨_, _, rfl, rfl, _⟩ | ⟨_, _, rfl, rfl, _⟩ <;> rfl

theorem Alike.asString?_eq (alike : Alike value other) : value.asString? = other.asString? := by
  rcases alike.cases with rfl | ⟨_, _, rfl, rfl, _⟩ | ⟨_, _, rfl, rfl, _⟩ <;> rfl

theorem Alike.asUInt64?_eq (alike : Alike value other) : value.asUInt64? = other.asUInt64? := by
  rcases alike.cases with rfl | ⟨_, _, rfl, rfl, _⟩ | ⟨_, _, rfl, rfl, _⟩ <;> rfl

variable {members others : List (String × Json)}

theorem Agree.lookup_cases (agree : Agree members others) (key : String) :
    (members.lookup key = none ∧ others.lookup key = none) ∨
      ∃ value other, members.lookup key = some value ∧ others.lookup key = some other ∧
        Alike value other := by
  have related := agree.lookup key
  revert related
  generalize members.lookup key = found, others.lookup key = again
  rintro (alike | _)
  · exact .inr ⟨_, _, rfl, rfl, alike⟩
  · exact .inl ⟨rfl, rfl⟩

/-- What does not tell alike values apart is the same under a key of either object. -/
theorem Agree.bind_eq {α : Type} (agree : Agree members others) {view : Json → Option α}
    (same : ∀ {value other}, Alike value other → view value = view other) (key : String) :
    (members.lookup key).bind view = (others.lookup key).bind view := by
  rcases agree.lookup_cases key with ⟨left, right⟩ | ⟨value, other, left, right, alike⟩
  · rw [left, right]
  · rw [left, right]
    exact same alike

theorem Agree.bind_asString?_eq (agree : Agree members others) (key : String) :
    (members.lookup key).bind asString? = (others.lookup key).bind asString? :=
  agree.bind_eq Alike.asString?_eq key

theorem Alike.isLink_eq (alike : Alike value other) :
    BlobType.isLink value = BlobType.isLink other := by
  rcases alike.cases with rfl | ⟨_, _, rfl, rfl, _⟩ | ⟨members, others, rfl, rfl, agree⟩
  · rfl
  · rfl
  · simp only [BlobType.isLink, get?, agree.bind_asString?_eq]

theorem Agree.has_eq (agree : Agree members others) (key : String) :
    Entries.has members key = Entries.has others key := by
  have inKeys : ∀ entries : List (String × Json),
      Entries.has entries key = (Entries.keys entries).any (· == key) := by
    intro entries
    rw [Entries.has, Entries.keys, List.any_map]
    rfl
  rw [inKeys, inKeys, agree.keys.any_eq]

theorem Agree.isIndexKeyed_eq (agree : Agree members others) :
    isIndexKeyed members = isIndexKeyed others := by
  have inKeys : ∀ entries : List (String × Json), isIndexKeyed entries =
      (!(Entries.keys entries).isEmpty &&
        (Entries.keys entries).all fun key =>
          !key.isEmpty && key.toList.all Text.isAsciiDigit) := by
    intro entries
    rw [isIndexKeyed, Entries.keys, List.all_map, List.isEmpty_map]
    rfl
  rw [inKeys, inKeys, agree.keys.isEmpty_eq, agree.keys.all_eq]

end Json

/-! ### One value -/

section Value

variable {value other : Json} {members others : List (String × Json)}

/-- The type that an object names is a text, and texts have no members to move. -/
theorem Union.discriminator_eq (agree : Json.Agree members others) :
    discriminator (.obj members) = discriminator (.obj others) := by
  unfold discriminator
  simp only [Json.get?]
  rcases agree.lookup_cases typeKey with ⟨left, right⟩ | ⟨value, other, left, right, alike⟩
  · rw [left, right]
  · rw [left, right]
    rcases alike.cases with rfl | ⟨_, _, rfl, rfl, _⟩ | ⟨_, _, rfl, rfl, _⟩ <;> rfl

theorem Move.ofNode_eq (alike : Json.Alike value other) (scope : Option Document)
    (node : TypeNode) : ofNode scope value node = ofNode scope other node := by
  cases node with
  | union t =>
    rcases alike.cases with rfl | ⟨_, _, rfl, rfl, _⟩ | ⟨members, others, rfl, rfl, agree⟩
    · rfl
    · rfl
    · simp only [ofNode, ofUnion, Union.discriminator_eq agree]
  | _ => rfl

/-- What a value is held to in the end depends on nothing else of it. -/
theorem settle_eq (registry : Option Registry) (alike : Json.Alike value other) (hops : Nat)
    (scope : Option Document) (node : TypeNode) :
    settle registry value hops scope node = settle registry other hops scope node := by
  induction hops generalizing scope node with
  | zero => unfold settle; rw [Move.ofNode_eq alike]
  | succ hops ih =>
    unfold settle
    rw [Move.ofNode_eq alike]
    simp only [ih]

theorem BlobType.parts_eq (agree : Json.Agree members others) :
    parts (.obj members) = parts (.obj others) := by
  have size := agree.bind_eq Json.Alike.asUInt64?_eq "size"
  have link : (members.lookup "ref").any isLink = (others.lookup "ref").any isLink := by
    rcases agree.lookup_cases "ref" with ⟨left, right⟩ | ⟨value, other, left, right, alike⟩
    · rw [left, right]
    · rw [left, right]
      exact alike.isLink_eq
  simp only [parts, agree.bind_asString?_eq, size, link]

theorem Verdict.ofNode_eq (alike : Json.Alike value other) (node : TypeNode) :
    ofNode node value = ofNode node other := by
  rcases alike.cases with rfl | ⟨_, _, rfl, rfl, _⟩ | ⟨members, others, rfl, rfl, agree⟩
  · rfl
  · cases node <;> rfl
  · cases node with
    | bytes t =>
      simp only [ofNode, BytesType.verdict, BytesType.encoded, agree.bind_asString?_eq]
    | cidLink t => simp only [ofNode, CidLinkType.verdict, agree.bind_asString?_eq]
    | blob t => simp only [ofNode, BlobType.verdict, BlobType.parts_eq agree]
    | array t => simp only [ofNode, ArrayShape.formVerdict, agree.isIndexKeyed_eq]
    | _ => rfl

end Value

/-! ### Findings in another order -/

/-- Two lists hold the same, and in the same order unless the mode is the strict one. -/
structure Rearranged {α : Type} (mode : ValidationMode) (as bs : List α) : Prop where
  perm : as.Perm bs
  same : mode ≠ .strict → as = bs

namespace Rearranged

variable {α β : Type} {mode : ValidationMode} {as bs cs ds : List α}

theorem of_eq (same : as = bs) : Rearranged mode as bs := ⟨.of_eq same, fun _ => same⟩

theorem append (first : Rearranged mode as bs) (second : Rearranged mode cs ds) :
    Rearranged mode (as ++ cs) (bs ++ ds) where
  perm := first.perm.append second.perm
  same loose := by rw [first.same loose, second.same loose]

theorem map (f : α → β) (given : Rearranged mode as bs) :
    Rearranged mode (as.map f) (bs.map f) where
  perm := given.perm.map f
  same loose := by rw [given.same loose]

theorem flatMap {f g : β → List α} (others : List β)
    (each : ∀ b ∈ others, Rearranged mode (f b) (g b)) :
    Rearranged mode (others.flatMap f) (others.flatMap g) where
  perm := List.Perm.flatMap_left others fun b inside => (each b inside).perm
  same loose := List.flatMap_congr fun b inside => (each b inside).same loose

end Rearranged

namespace Validator

variable {v : Validator} {members others : List (String × Json)}

theorem missingFindings_eq (agree : Json.Agree members others) (options : ValidationOptions)
    (t : ObjectType) :
    missingFindings options t members = missingFindings options t others := by
  simp only [missingFindings, agree.has_eq]

/-- Undeclared fields are listed in the order of the value, but in the strict mode only. -/
theorem undeclaredFindings_rearranged (agree : Json.Agree members others)
    (options : ValidationOptions) (t : ObjectType) :
    Rearranged options.mode (undeclaredFindings options t members)
      (undeclaredFindings options t others) where
  perm := by
    -- The findings depend on the keys only, which are permuted.
    have inKeys : ∀ entries : List (String × Json),
        undeclaredFindings options t entries =
          if options.mode.refusesUndeclared then
            ((Entries.keys entries).filter fun key =>
              key != Union.typeKey && !Entries.has t.properties key).map fun key =>
                { steps := [.field key], expected := "no field", cause := .undeclared }
          else [] := by
      intro entries
      rw [undeclaredFindings, Entries.keys, List.filter_map, List.map_map]
      rfl
    rw [inKeys, inKeys]
    split
    · exact (agree.keys.filter _).map _
    · exact .refl _
  same loose := by
    have ignored : options.mode.refusesUndeclared = false := by
      simpa [ValidationMode.refusesUndeclared] using loose
    simp only [undeclaredFindings, ignored]
    rfl

/-- What is found is the same but for the order. -/
def IndifferentTo (v : Validator) (value : Json) : Prop :=
  ∀ other, value.Alike other → ∀ scope node,
    Rearranged v.options.mode (v.check scope node value) (v.check scope node other)

theorem checkElements_rearranged {elements others : List Json}
    (each : List.Forall₂ Json.Alike elements others)
    (indifferent : ∀ element ∈ elements, v.IndifferentTo element) (scope : Option Document)
    (items : TypeNode) (index : Nat) :
    Rearranged v.options.mode (v.checkElements scope items index elements)
      (v.checkElements scope items index others) := by
  induction each generalizing index with
  | nil => exact .of_eq rfl
  | cons alike _ ih =>
    obtain ⟨first, rest⟩ := List.forall_mem_cons.mp indifferent
    rw [checkElements, checkElements]
    exact ((first _ alike scope items).map _).append (ih rest (index + 1))

theorem memberFindings_rearranged {value other : Json} (alike : value.Alike other)
    (indifferent : v.IndifferentTo value) (scope : Option Document) (t : ObjectType)
    (field : String) :
    Rearranged v.options.mode (v.memberFindings scope t field value)
      (v.memberFindings scope t field other) := by
  unfold memberFindings
  rw [alike.isNull_eq]
  split
  · exact .of_eq rfl
  · split
    · exact .of_eq rfl
    · exact indifferent other alike scope _

theorem checkMembers_rearranged (agree : Json.Agree members others)
    (indifferent : ∀ key value, (key, value) ∈ members → v.IndifferentTo value)
    (scope : Option Document) (t : ObjectType) :
    Rearranged v.options.mode (inSchemaOrder t (v.checkMembers scope t members))
      (inSchemaOrder t (v.checkMembers scope t others)) := by
  rw [inSchemaOrder_checkMembers, inSchemaOrder_checkMembers]
  refine .flatMap _ fun property _ => .map _ ?_
  rcases agree.lookup_cases property.1 with ⟨left, right⟩ | ⟨value, other, left, right, alike⟩
  · rw [left, right]
    exact .of_eq rfl
  · rw [left, right]
    exact memberFindings_rearranged alike (indifferent _ _ (Json.mem_of_lookup left)) scope t _

theorem checkShape_rearranged {value other : Json} (alike : value.Alike other)
    (indifferent : ∀ child, child.IsChild value → v.IndifferentTo child)
    (scope : Option Document) (node : TypeNode) :
    Rearranged v.options.mode (v.checkShape scope node value) (v.checkShape scope node other) := by
  have verdict : ofVerdict v.options node (.ofNode node value) =
      ofVerdict v.options node (.ofNode node other) := by rw [Verdict.ofNode_eq alike]
  -- Members are moved in this object, or somewhere inside of the elements or members.
  rcases alike.cases with rfl | ⟨elements, others, rfl, rfl, each⟩ |
    ⟨members, others, rfl, rfl, agree⟩
  · exact .of_eq rfl
  · cases node with
    | array t =>
      have below := checkElements_rearranged each fun element inside =>
        indifferent element (.element inside)
      simp only [checkShape, each.length_eq]
      refine .append (.of_eq rfl) ?_
      split
      · exact .of_eq rfl
      · exact below scope _ 0
    | _ => exact .of_eq verdict
  · cases node with
    | object t =>
      have declared := checkMembers_rearranged agree
        (fun key value inside => indifferent value (.member inside)) scope t
      have undeclared := undeclaredFindings_rearranged agree v.options t
      simp only [checkShape, missingFindings_eq agree]
      exact ((Rearranged.of_eq rfl).append declared).append undeclared
    | _ => exact .of_eq verdict

/-- Whatever a value is held to, its order does not matter. -/
theorem indifferentTo (v : Validator) (value : Json) : v.IndifferentTo value := by
  induction value using Json.induction_children with
  | step value ih =>
    intro other alike scope node
    -- References are followed alike, so both values end up at the same node.
    rw [check_eq_checkWithin, check_eq_checkWithin, checkWithin, checkWithin,
      settle_eq v.registry alike]
    split
    · exact .of_eq rfl
    · exact .of_eq rfl
    · exact checkShape_rearranged alike ih _ _

/-! ### Reports -/

/-- Two outcomes are equally valid and have the same errors, in the same order unless the mode is
the strict one. -/
structure SameOutcome (mode : ValidationMode) (errors others : List Violation) : Prop where
  valid : errors = [] ↔ others = []
  ordered : mode ≠ .strict → errors = others
  permuted : errors.Perm others

theorem SameOutcome.of_findings {mode : ValidationMode} {findings others : List Finding}
    (rearranged : Rearranged mode findings others) (start : String) :
    SameOutcome mode (report start findings) (report start others) where
  valid := by
    have permuted := rearranged.perm.map (Violation.ofFinding start)
    exact ⟨fun empty => (permuted.symm.trans (.of_eq empty)).eq_nil,
      fun empty => (permuted.trans (.of_eq empty)).eq_nil⟩
  ordered loose := congrArg (report start) (rearranged.same loose)
  permuted := rearranged.perm.map _

/-- The order of the members of objects does not matter, at any depth: wherever the value stands,
inside a document or without one, and for the definitions of a document. Only the errors of the
strict mode may come in another order. The keys of an object are distinct, as they are in every
value that was read from a text (`Json.keysDistinct_of_parse?`). -/
theorem members_reordered (v : Validator) {value other : Json} (distinct : value.KeysDistinct)
    (reordered : value.Reordered other) :
    (∀ node path, SameOutcome v.options.mode (v.validateAt value node path)
      (v.validateAt other node path)) ∧
    (∀ node doc, SameOutcome v.options.mode (v.validateInDocument value node doc)
      (v.validateInDocument other node doc)) ∧
    ∀ doc name, SameOutcome v.options.mode (v.validateDefinition value doc name)
      (v.validateDefinition other doc name) := by
  have check (scope : Option Document) (node : TypeNode) :
      Rearranged v.options.mode (v.check scope node value) (v.check scope node other) :=
    v.indifferentTo value other ⟨distinct, reordered⟩ scope node
  simp only [validateAt_eq_report, validateInDocument_eq_report, validateDefinition_eq_report]
  refine ⟨fun node path => .of_findings (check none node) path,
    fun node doc => .of_findings (check (some doc) node) "", fun doc name => ?_⟩
  refine .of_findings ?_ ""
  unfold checkDefinition
  split
  · exact .of_eq rfl
  · dsimp only
    split
    · exact check (some doc) _
    · exact .of_eq rfl

/-- Two undeclared fields change places, and so do two members of one of them. -/
theorem members_reordered_undeclared :
    let strict : Validator := { options := { mode := .strict }, registry := none }
    let node : TypeNode := .object ⟨none, [], [], [("text", .boolean ⟨none, none, none⟩)]⟩
    let value : Json :=
      .obj [("more", .int 1), ("text", .int 2), ("extra", .obj [("a", .int 1), ("b", .int 2)])]
    let other : Json :=
      .obj [("extra", .obj [("b", .int 2), ("a", .int 1)]), ("text", .int 2), ("more", .int 1)]
    (∃ text, Json.parse? text = some value) ∧ value.Reordered other ∧
      SameOutcome .strict (strict.validateAt value node "") (strict.validateAt other node "") ∧
      (strict.validateAt value node "").map (·.path) = ["text", "more", "extra"] ∧
      (strict.validateAt other node "").map (·.path) = ["text", "extra", "more"] := by
  intro strict node value other
  have read : Json.parse?
      "\x7b\"more\":1,\"text\":2,\"extra\":\x7b\"a\":1,\"b\":2\x7d\x7d" = some value := by rfl
  have inner : (Json.obj [("a", .int 1), ("b", .int 2)]).Reordered
      (.obj [("b", .int 2), ("a", .int 1)]) :=
    .obj (.swap _ _ _) rfl (List.forall₂_same.mpr fun _ _ => .same _)
  have order : [("more", .int 1), ("text", .int 2),
      ("extra", .obj [("a", .int 1), ("b", .int 2)])].Perm
      [("extra", .obj [("a", .int 1), ("b", .int 2)]), ("text", .int 2), ("more", Json.int 1)] :=
    (List.reverse_perm _).symm
  have reordered : value.Reordered other :=
    .obj order rfl (.cons inner (.cons (.same _) (.cons (.same _) .nil)))
  have outcome := (strict.members_reordered (Json.keysDistinct_of_parse? read) reordered).1 node ""
  exact ⟨⟨_, read⟩, reordered, outcome, rfl, rfl⟩

end Validator

end Lexicon
