import Lexicon.Proofs.DefinitionPasses
import Lexicon.Proofs.WrittenKeys

/-!
# Lexicon.Proofs.KeyFaults

What a fault says about the object that it was found in.

An object is read key by key. A reader fails only where the key is absent that
has to be there, or where its value has not the shape that the reader asks for,
and that is what the fault says.

## Main definitions

- `KeyShape.Fits`: a value has the shape that a key asks for.
- `KeyRule.Broken`: what an object is asked for under a key, and a fault that says it is not there.
- `NodeFault.Of`: what a fault says about the value that it was found at.
- `FaultHere`, `FaultWithin`: errors by the location of their fault.

## Main results

- `Fields.optional_raises`, `Fields.required_raises`: a reader of one key fails where its rule is
  broken.
- `KeyRule.Broken.of`: so the key is absent, or its value has another shape.
-/

namespace Lexicon

/-! ### Shapes of values -/

/-- A value has the shape that a key asks for. Integers have to fit their word. -/
def KeyShape.Fits (shape : KeyShape) (value : Json) : Prop :=
  match shape with
  | text => ∃ s, value = .str s
  | boolean => ∃ b, value = .bool b
  | integer => ∃ n, value = TypeNode.jsonOfInt64 n
  | natural => ∃ n, value = TypeNode.jsonOfUInt64 n
  | texts => ∃ ss : List String, value = .arr (ss.map .str)
  | integers => ∃ ns : List Int64, value = .arr (ns.map TypeNode.jsonOfInt64)
  | list => ∃ elements, value = .arr elements
  | object => ∃ members, value = .obj members

theorem Json.asInt64?_eq_some {value : Json} {n : Int64} :
    value.asInt64? = some n ↔ value = TypeNode.jsonOfInt64 n := by
  constructor
  · intro taken
    cases value with
    | int k =>
      obtain ⟨fits, same⟩ := Option.ite_none_right_eq_some.mp taken
      cases same
      have below : k < 2 ^ 63 := Int.lt_of_le_of_lt fits.2 (by decide)
      rw [TypeNode.jsonOfInt64, Int64.toInt_ofInt_of_le fits.1 below]
    | _ => cases taken
  · rintro rfl
    exact asInt64?_jsonOfInt64 n

namespace Fields

/-- A view takes every value of a shape. -/
def Views {α : Type} (shape : KeyShape) (view : Json → Except Kind α) : Prop :=
  ∀ value, shape.Fits value → Succeeds (view value)

theorem views_text : Views .text viewText := by
  rintro _ ⟨s, rfl⟩
  exact ⟨s, rfl⟩

theorem views_boolean : Views .boolean viewBool := by
  rintro _ ⟨b, rfl⟩
  exact ⟨b, rfl⟩

theorem views_integer : Views .integer viewInt64 := by
  rintro _ ⟨n, rfl⟩
  exact ⟨n, viewInt64_jsonOfInt64 n⟩

theorem views_natural : Views .natural viewUInt64 := by
  rintro _ ⟨n, rfl⟩
  exact ⟨n, viewUInt64_jsonOfUInt64 n⟩

theorem views_texts : Views .texts (viewList viewText) := by
  rintro _ ⟨ss, rfl⟩
  exact ⟨ss, viewList_map viewText .str (fun _ => rfl) ss⟩

theorem views_integers : Views .integers (viewList viewInt64) := by
  rintro _ ⟨ns, rfl⟩
  exact ⟨ns, viewList_map viewInt64 TypeNode.jsonOfInt64 viewInt64_jsonOfInt64 ns⟩

end Fields

/-! ### Rules for keys -/

/-- What an object is asked for under a key. -/
structure KeyRule where
  key : String
  shape : KeyShape
  /-- Whether the key has to be there. -/
  required : Bool
deriving DecidableEq, Repr

/-- A fault says that an object breaks a rule: the key is absent that has to be there, or its value
has another shape. -/
inductive KeyRule.Broken (rule : KeyRule) (members : List (String × Json)) : NodeFault → Prop where
  | missing {variant : String} (required : rule.required = true)
      (absent : members.lookup rule.key = none) : Broken rule members (.missingKey variant rule.key)
  | misshapen {variant : String} {held : Json} {found : Kind}
      (given : members.lookup rule.key = some held) (misfit : ¬rule.shape.Fits held) :
      Broken rule members (.invalidKey variant rule.key (.wrongShape rule.shape found))

/-! ### Faults of nodes -/

/-- What a fault says about the value under a key. -/
inductive KeyFault.Of (members : List (String × Json)) (held : Json) : KeyFault → Prop where
  | wrongShape {shape : KeyShape} {found : Kind} (misfit : ¬shape.Fits held) :
      Of members held (.wrongShape shape found)
  | notObjectNode {kind : String} (tagged : Document.rawTag held = kind) (other : kind ≠ "object") :
      Of members held (.notObjectNode kind)
  | notParams {tag : String} (tagged : held = .str tag) (other : tag ≠ "params") :
      Of members held (.notParams tag)
  | emptyRange {low high : Int} (least : held = .int low)
      (greatest : members.lookup "maximum" = some (.int high)) (empty : high < low) :
      Of members held (.emptyRange low high)

/-- What a fault says about the value that it was found at. -/
inductive NodeFault.Of (node : Json) : NodeFault → Prop where
  | notAnObject (noObject : ∀ members, node ≠ .obj members) : Of node (.notAnObject node.kind)
  | missingKey {members : List (String × Json)} {variant key : String}
      (object : node = .obj members) (absent : members.lookup key = none) :
      Of node (.missingKey variant key)
  | invalidKey {members : List (String × Json)} {variant key : String} {held : Json}
      {fault : KeyFault} (object : node = .obj members) (given : members.lookup key = some held)
      (wrong : fault.Of members held) : Of node (.invalidKey variant key fault)
  | unknownTag {tag : String} (tagged : node.get? "type" = some (.str tag))
      (noNode : ∀ type : TypeNode, type.kind ≠ tag) (noDefinition : tag ∉ definitionTags) :
      Of node (.unknownTag tag)
  | misplacedTag {tag : String} (tagged : node.get? "type" = some (.str tag))
      (definition : tag ∈ definitionTags) : Of node (.misplacedTag tag)

theorem KeyRule.Broken.of {rule : KeyRule} {members : List (String × Json)} {fault : NodeFault}
    (broken : rule.Broken members fault) : fault.Of (.obj members) := by
  cases broken with
  | missing required absent => exact .missingKey rfl absent
  | misshapen given misfit => exact .invalidKey rfl given (.wrongShape misfit)

/-! ### Errors by their location -/

/-- An error is a fault of the node at hand. -/
def FaultHere (P : NodeFault → Prop) (e : ParseError) : Prop := ∃ fault, e = .here fault ∧ P fault

/-- An error is a fault that was found at some location. -/
def FaultWithin (P : List String → NodeFault → Prop) (e : ParseError) : Prop :=
  ∃ location fault, e = .node location fault ∧ P location fault

theorem FaultHere.imp {P Q : NodeFault → Prop} {e : ParseError} (given : FaultHere P e)
    (weaker : ∀ fault, P fault → Q fault) : FaultHere Q e := by
  obtain ⟨fault, same, holds⟩ := given
  exact ⟨fault, same, weaker fault holds⟩

theorem FaultHere.within {P : NodeFault → Prop} {Q : List String → NodeFault → Prop}
    {e : ParseError} (given : FaultHere P e) (located : ∀ fault, P fault → Q [] fault) :
    FaultWithin Q e := by
  obtain ⟨fault, same, holds⟩ := given
  exact ⟨[], fault, same, located fault holds⟩

/-- An error is a fault of a value at hand, and says what is wrong with it. -/
abbrev FaultOf (node : Json) : ParseError → Prop := FaultHere (NodeFault.Of node)

/-- What is found inside of a node is reported with the segment that leads there. -/
theorem insideOf_raises {α : Type} {P : List String → NodeFault → Prop} {segment : String}
    (nonempty : segment ≠ "") {result : Except ParseError α}
    (given : Raises result (FaultWithin fun location => P (segment :: location))) :
    Raises (insideOf segment result) (FaultWithin P) := by
  refine .mapError fun e failed => ?_
  obtain ⟨location, fault, rfl, holds⟩ := given e failed
  exact ⟨segment :: location, fault, by simp [ParseError.inside, nonempty], holds⟩

/-! ### Readers of one key -/

namespace Fields

/-- What has fields is an object. -/
theorem of_eq_ok {variant : String} {value : Json} {f : Fields}
    (opened : Fields.of variant value = .ok f) :
    ∃ members, value = .obj members ∧ f = ⟨variant, members⟩ := by
  cases value with
  | obj members =>
    cases opened
    exact ⟨members, rfl, rfl⟩
  | _ => cases opened

theorem of_raises (variant : String) (value : Json) :
    Raises (Fields.of variant value) fun e =>
      e = .here (.notAnObject value.kind) ∧ ∀ members, value ≠ .obj members := by
  cases value with
  | obj members => exact .ok
  | _ => exact .error ⟨rfl, fun _ same => nomatch same⟩

variable {α : Type} (f : Fields) (key : String) {shape : KeyShape} {view : Json → Except Kind α}

theorem optional_raises (views : Views shape view) :
    Raises (f.optional key shape view)
      (FaultHere (KeyRule.Broken ⟨key, shape, false⟩ f.members)) := by
  unfold optional
  split
  · exact .ok
  · next held given =>
    split
    · exact .ok
    · next found failed =>
      refine .error ⟨_, rfl, .misshapen given fun fits => ?_⟩
      obtain ⟨a, viewed⟩ := views held fits
      cases failed.symm.trans viewed

theorem required_raises (views : Views shape view) :
    Raises (f.required key shape view)
      (FaultHere (KeyRule.Broken ⟨key, shape, true⟩ f.members)) := by
  refine .bind (fun e failed => ?_) fun found read => ?_
  · refine (f.optional_raises key views e failed).imp fun fault broken => ?_
    cases broken with
    | missing required absent => cases required
    | misshapen given misfit => exact .misshapen given misfit
  · cases found with
    | some a => exact .ok
    | none =>
      refine .error ⟨_, rfl, .missing rfl ?_⟩
      -- A value that is there is viewed or reported.
      unfold optional at read
      split at read
      · assumption
      · split at read <;> cases read

/-- What an optional key is reported for. -/
theorem optional_of (views : Views shape view) :
    Raises (f.optional key shape view) (FaultOf (.obj f.members)) :=
  (f.optional_raises key views).imp fun _ given => given.imp fun _ => KeyRule.Broken.of

/-- What a key that has to be there is reported for. -/
theorem required_of (views : Views shape view) :
    Raises (f.required key shape view) (FaultOf (.obj f.members)) :=
  (f.required_raises key views).imp fun _ given => given.imp fun _ => KeyRule.Broken.of

/-- What is read as an integer is one. -/
theorem raw?_of_int64? {n : Int64} (read : f.int64? key = .ok (some n)) :
    f.raw? key = some (.int n.toInt) := by
  rw [int64?, optional_eq_expect] at read
  cases given : f.raw? key with
  | none =>
    rw [given] at read
    cases read
  | some value =>
    rw [given, expect, viewInt64] at read
    cases taken : value.asInt64? with
    | none =>
      rw [taken] at read
      cases read
    | some m =>
      rw [taken] at read
      cases read
      rw [Json.asInt64?_eq_some.mp taken]
      rfl

end Fields

end Lexicon
