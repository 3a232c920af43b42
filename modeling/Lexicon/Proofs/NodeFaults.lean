import Lexicon.Proofs.KeyFaults
import Lexicon.Proofs.KnownKeys

/-!
# Lexicon.Proofs.NodeFaults

Where the reading of a type node fails.

A node is read before the nodes below it, and these in document order. So
reading stops at the first node in this order whose own keys are at fault, and
the location of the error consists of the steps that lead to it.

## Main definitions

- `NodeStep`: a step from a type node to a node right below it.
- `TypeNode.rawNodes`: the nodes that a value spells, in document order.
- `TypeNode.readOwn`: reads the keys of a node, and nothing below it.
- `TypeNode.FirstFault`: a node is the first one whose keys are at fault.

## Main results

- `TypeNode.parse_eq_forM`: a value is read exactly if the keys of all of its nodes are, in order.
- `TypeNode.readOwn_raises`: the keys of a node are refused for what is wrong with that node.

## Proof strategy

By recursion on the size of the value. The errors of a child are handed outwards
one step at a time, just as the steps to its nodes are put together.
-/

namespace Lexicon

/-! ### Nodes of a value -/

/-- A step from a type node to a node right below it. -/
inductive NodeStep where
  | items
  | property (name : String)
deriving DecidableEq, Repr

namespace NodeStep

/-- The part of a location that the step accounts for. -/
def segment : NodeStep → String
  | items => "items"
  | property name => "properties/" ++ name

theorem segment_ne_empty (step : NodeStep) : step.segment ≠ "" := by
  cases step <;> simp [segment]

/-- A step leads from a node to a child. Only arrays have items, and only objects properties. -/
inductive Leads (value : Json) : NodeStep → Json → Prop where
  | items {child : Json} (tagged : Document.rawTag value = "array")
      (found : value.get? "items" = some child) : Leads value items child
  | property {child : Json} {name : String} {members : List (String × Json)}
      (tagged : Document.rawTag value = "object")
      (found : value.get? "properties" = some (.obj members)) (inside : (name, child) ∈ members) :
      Leads value (property name) child

theorem Leads.sizeOf_lt {value child : Json} {step : NodeStep} (leads : step.Leads value child) :
    sizeOf child < sizeOf value := by
  cases leads with
  | items tagged found => exact Json.sizeOf_lt_of_get? found
  | property tagged found inside =>
    exact Nat.lt_trans (Json.sizeOf_lt_of_mem_members inside) (Json.sizeOf_lt_of_get? found)

end NodeStep

namespace TypeNode

/-- Steps lead from a node to a node at or below it. -/
inductive Leads : Json → List NodeStep → Json → Prop where
  | here (value : Json) : Leads value [] value
  | step {value child node : Json} {step : NodeStep} {steps : List NodeStep}
      (first : step.Leads value child) (rest : Leads child steps node) :
      Leads value (step :: steps) node

/-- The nodes right below a node, in document order. -/
def rawChildren (value : Json) : List (NodeStep × Json) :=
  match Document.rawTag value with
  | "array" => (value.get? "items").toList.map fun child => (.items, child)
  | "object" =>
    match value.get? "properties" with
    | some (.obj members) => members.map fun entry => (.property entry.1, entry.2)
    | _ => []
  | _ => []

theorem mem_rawChildren_iff {value child : Json} {step : NodeStep} :
    (step, child) ∈ rawChildren value ↔ step.Leads value child := by
  constructor
  · intro inside
    unfold rawChildren at inside
    split at inside
    · next tagged =>
      obtain ⟨held, found, same⟩ := List.mem_map.mp inside
      cases same
      exact .items tagged (Option.mem_toList.mp found)
    · next tagged =>
      split at inside
      · next members found =>
        obtain ⟨entry, member, same⟩ := List.mem_map.mp inside
        cases same
        exact .property tagged found member
      · cases inside
    · cases inside
  · rintro (⟨tagged, found⟩ | ⟨tagged, found, inside⟩)
    · simp [rawChildren, tagged, found]
    · simp only [rawChildren, tagged, found]
      exact List.mem_map.mpr ⟨_, inside, rfl⟩

/-- A node and all nodes below it, in document order, with the steps that lead there. -/
def rawNodes (value : Json) : List (List NodeStep × Json) :=
  ([], value) :: (rawChildren value).attach.flatMap fun (entry : { e // e ∈ rawChildren value }) =>
    have : sizeOf entry.1.2 < sizeOf value := (mem_rawChildren_iff.mp entry.2).sizeOf_lt
    (rawNodes entry.1.2).map fun node => (entry.1.1 :: node.1, node.2)
termination_by sizeOf value

/-- The nodes that a step leads to. -/
def nodesInside (entry : NodeStep × Json) : List (List NodeStep × Json) :=
  (rawNodes entry.2).map fun node => (entry.1 :: node.1, node.2)

theorem rawNodes_eq (value : Json) :
    rawNodes value = ([], value) :: (rawChildren value).flatMap nodesInside := by
  rw [rawNodes]
  congr 1
  conv_rhs => rw [← List.attach_map_subtype_val (rawChildren value), List.flatMap_map]
  rfl

/-- The nodes of a value are those that steps lead to. -/
theorem mem_rawNodes_iff {value node : Json} {steps : List NodeStep} :
    (steps, node) ∈ rawNodes value ↔ Leads value steps node := by
  -- Nodes are listed from the value down, so the value is free in the induction.
  induction steps generalizing value with
  | nil =>
    rw [rawNodes_eq, List.mem_cons]
    constructor
    · rintro (same | inside)
      · cases same
        exact .here _
      · obtain ⟨entry, _, inside⟩ := List.mem_flatMap.mp inside
        obtain ⟨inner, _, same⟩ := List.mem_map.mp inside
        cases same
    · rintro ⟨⟩
      exact .inl rfl
  | cons step steps ih =>
    rw [rawNodes_eq, List.mem_cons]
    constructor
    · rintro (same | inside)
      · cases same
      · obtain ⟨entry, child, inside⟩ := List.mem_flatMap.mp inside
        obtain ⟨inner, below, same⟩ := List.mem_map.mp inside
        cases same
        exact .step (mem_rawChildren_iff.mp child) (ih.mp below)
    · rintro (_ | ⟨first, rest⟩)
      exact .inr (List.mem_flatMap.mpr ⟨_, mem_rawChildren_iff.mpr first,
        List.mem_map.mpr ⟨_, ih.mpr rest, rfl⟩⟩)

end TypeNode

/-! ### The keys of one node -/

section Keys

open Fields

variable (f : Fields)

theorem IntegerType.ofFields_raises : Raises (ofFields f) (FaultOf (.obj f.members)) := by
  refine (f.optional_of "description" views_text).bind fun _ _ => ?_
  refine (f.optional_of "minimum" views_integer).bind fun minimum least => ?_
  refine (f.optional_of "maximum" views_integer).bind fun maximum greatest => ?_
  refine (f.optional_of "enum" views_integers).bind fun _ _ => ?_
  refine (f.optional_of "const" views_integer).bind fun _ _ => ?_
  refine (f.optional_of "default" views_integer).bind fun _ _ => ?_
  dsimp only
  split
  · split
    · next low high empty =>
      exact .error ⟨_, rfl, .invalidKey rfl (f.raw?_of_int64? "minimum" least)
        (.emptyRange rfl (f.raw?_of_int64? "maximum" greatest) empty)⟩
    · exact .ok
  · exact .ok

theorem StringType.ofFields_raises : Raises (ofFields f) (FaultOf (.obj f.members)) :=
  (f.optional_of "description" views_text).bind fun _ _ =>
  (f.optional_of "format" views_text).bind fun _ _ =>
  (f.optional_of "minLength" views_natural).bind fun _ _ =>
  (f.optional_of "maxLength" views_natural).bind fun _ _ =>
  (f.optional_of "minGraphemes" views_natural).bind fun _ _ =>
  (f.optional_of "maxGraphemes" views_natural).bind fun _ _ =>
  (f.optional_of "enum" views_texts).bind fun _ _ =>
  (f.optional_of "const" views_text).bind fun _ _ =>
  (f.optional_of "knownValues" views_texts).bind fun _ _ =>
  (f.optional_of "default" views_text).bind fun _ _ => .ok

theorem ObjectShape.ofFields_raises : Raises (ofFields f) (FaultOf (.obj f.members)) :=
  (f.optional_of "description" views_text).bind fun _ _ =>
  (f.optional_of "required" views_texts).bind fun _ _ =>
  (f.optional_of "nullable" views_texts).bind fun _ _ => .ok

theorem UnionType.ofFields_raises : Raises (ofFields f) (FaultOf (.obj f.members)) :=
  (f.required_of "refs" views_texts).bind fun _ _ =>
  (f.optional_of "description" views_text).bind fun _ _ =>
  (f.optional_of "closed" views_boolean).bind fun _ _ => .ok

end Keys

namespace TypeNode

open Fields

theorem ofMembers_raises {tag : String} {members : List (String × Json)}
    (tagged : members.lookup "type" = some (.str tag)) :
    Raises (ofMembers tag members) (FaultOf (.obj members)) := by
  have description := Fields.optional_of ⟨tag, members⟩ "description" views_text
  cases tag using tag_cases with
  | null | cidLink | unknown => exact description.bind fun _ _ => .ok
  | boolean =>
    exact description.bind fun _ _ => (optional_of _ "default" views_boolean).bind fun _ _ =>
      (optional_of _ "const" views_boolean).bind fun _ _ => .ok
  | integer => exact (IntegerType.ofFields_raises _).bind fun _ _ => .ok
  | string => exact (StringType.ofFields_raises _).bind fun _ _ => .ok
  | bytes | array =>
    exact description.bind fun _ _ => (optional_of _ "minLength" views_natural).bind fun _ _ =>
      (optional_of _ "maxLength" views_natural).bind fun _ _ => .ok
  | blob =>
    exact description.bind fun _ _ => (optional_of _ "accept" views_texts).bind fun _ _ =>
      (optional_of _ "maxSize" views_natural).bind fun _ _ => .ok
  | object => exact (ObjectShape.ofFields_raises _).bind fun _ _ => .ok
  | ref =>
    exact description.bind fun _ _ => (required_of _ "ref" views_text).bind fun _ _ => .ok
  | union => exact (UnionType.ofFields_raises _).bind fun _ _ => .ok
  | other tag unlisted =>
    have found : (Json.obj members).get? "type" = some (.str tag) := tagged
    -- A tag that is no type is misplaced if it belongs to a definition.
    rw [ofMembers_of_unlisted unlisted]
    split
    · next definition =>
      exact .error ⟨_, rfl, .misplacedTag found (List.contains_iff_mem.mp definition)⟩
    · next unknown =>
      have noType (type : TypeNode) : type.kind ≠ tag := fun same =>
        unlisted (same ▸ type.kind_mem_tags)
      exact .error ⟨_, rfl, .unknownTag found noType
        fun inside => unknown (List.contains_iff_mem.mpr inside)⟩

theorem parseShallow_raises (value : Json) :
    Raises (parseShallow value) (FaultOf value) := by
  have object : Raises (Fields.of "type" value) (FaultOf value) :=
    (of_raises "type" value).imp fun _ given => ⟨_, given.1, .notAnObject given.2⟩
  refine object.bind fun f opened => ?_
  obtain ⟨members, rfl, rfl⟩ := Fields.of_eq_ok opened
  exact (required_of _ "type" views_text).bind fun tag tagged =>
    ofMembers_raises ((text_eq_ok_iff _ _).mp tagged)

/-- Reads the keys of a node. The nodes below it are left alone, but properties have to be an object
for there to be any. -/
def readOwn (value : Json) : Except ParseError Unit := do
  match ← parseShallow value with
  | .object _ =>
    match value.get? "properties" with
    | none | some (.obj _) => .ok ()
    | some other =>
      .error (.here (.invalidKey "object" "properties" (.wrongShape .object other.kind)))
  | _ => .ok ()

/-- The keys of a node are refused for what is wrong with that node. -/
theorem readOwn_raises (value : Json) : Raises (readOwn value) (FaultOf value) := by
  refine (parseShallow_raises value).bind fun node read => ?_
  split
  · split
    · exact .ok
    · exact .ok
    · next other noObject found =>
      cases value with
      | obj members =>
        refine .error ⟨_, rfl, .invalidKey rfl found (.wrongShape ?_)⟩
        rintro ⟨members, same⟩
        exact noObject members same
      | _ => cases found
  · exact .ok

/-- Reads the keys of one of the nodes of a value. -/
def readNode (entry : List NodeStep × Json) : Except ParseError Unit :=
  entry.1.foldr (fun step => insideOf step.segment) (readOwn entry.2)

theorem readNode_cons (step : NodeStep) (entry : List NodeStep × Json) :
    readNode (step :: entry.1, entry.2) = insideOf step.segment (readNode entry) := rfl

end TypeNode

theorem insideOf_forM {α : Type} (segment : String) (check : α → Except ParseError Unit)
    (as : List α) :
    insideOf segment (as.forM check) = as.forM fun a => insideOf segment (check a) := by
  induction as with
  | nil => rfl
  | cons a rest ih =>
    simp only [List.forM, ← ih]
    cases check a <;> rfl

namespace TypeNode

theorem forM_nodesInside (entry : NodeStep × Json) :
    (nodesInside entry).forM readNode =
      insideOf entry.1.segment ((rawNodes entry.2).forM readNode) := by
  rw [insideOf_forM, nodesInside, List.forM_eq_forM, List.forM_map]
  rfl

theorem forM_rawNodes (value : Json) :
    (rawNodes value).forM readNode = readOwn value >>= fun _ =>
      (rawChildren value).forM fun entry =>
        insideOf entry.1.segment ((rawNodes entry.2).forM readNode) := by
  rw [rawNodes_eq, List.forM, forM_flatMap]
  simp only [forM_nodesInside]
  rfl

theorem rawTag_of_parseShallow {value : Json} {node : TypeNode}
    (read : parseShallow value = .ok node) : Document.rawTag value = node.kind := by
  obtain ⟨f, opened, _⟩ := bind_eq_ok_iff.mp read
  obtain ⟨members, rfl, _⟩ := Fields.of_eq_ok opened
  simp [Document.rawTag, Json.get?, lookup_type_of_parseShallow read, Json.asString?]

/-- What is attached to a node is what its children are read as. -/
theorem attachNode_eq_forM {value : Json} {node : TypeNode} (read : parseShallow value = .ok node) :
    (Definition.attachNode value node).map (fun _ => ()) = readOwn value >>= fun _ =>
      (rawChildren value).forM fun entry =>
        (insideOf entry.1.segment (parse entry.2)).map fun _ => () := by
  have tagged := rawTag_of_parseShallow read
  -- Only arrays and objects have children to attach.
  cases node with
  | array t =>
    simp only [readOwn, read, ok_bind, rawChildren, tagged, kind, Definition.attachNode]
    cases value.get? "items" with
    | none => rfl
    | some child =>
      simp only [Option.toList_some, List.map_cons, List.map_nil, List.forM, NodeStep.segment]
      cases insideOf "items" (parse child) <;> rfl
  | object t =>
    obtain ⟨f, opened, _⟩ := bind_eq_ok_iff.mp read
    obtain ⟨own, rfl, _⟩ := Fields.of_eq_ok opened
    simp only [readOwn, read, ok_bind, rawChildren, tagged, kind, Definition.attachNode,
      parseProperties_eq, Fields.of, Except.bind]
    cases (Json.obj own).get? "properties" with
    | none => rfl
    | some properties =>
      cases properties with
      | obj members =>
        have each : (members.map fun entry => (NodeStep.property entry.1, entry.2)).forM
            (fun entry => (insideOf entry.1.segment (parse entry.2)).map fun _ => ()) =
              (members.mapM parseProperty).map fun _ => () := by
          rw [map_unit_mapM, List.forM_eq_forM, List.forM_map]
          refine forM_congr fun entry _ => ?_
          simp only [parseProperty, NodeStep.segment]
          cases insideOf ("properties/" ++ entry.1) (parse entry.2) <;> rfl
        simp only [ok_bind, each]
        cases members.mapM parseProperty <;> rfl
      | _ => rfl
  | _ =>
    simp only [readOwn, read, ok_bind, rawChildren, tagged, kind]
    rfl

/-- A value is read exactly if the keys of all of its nodes are, and otherwise fails like the first
one that is not. -/
theorem parse_eq_forM (value : Json) :
    (parse value).map (fun _ => ()) = (rawNodes value).forM readNode := by
  -- By recursion on the size of the value.
  have children : ∀ entry ∈ rawChildren value,
      (insideOf entry.1.segment (parse entry.2)).map (fun _ => ()) =
        insideOf entry.1.segment ((rawNodes entry.2).forM readNode) := by
    intro entry inside
    have : sizeOf entry.2 < sizeOf value := (mem_rawChildren_iff.mp inside).sizeOf_lt
    rw [← Definition.insideOf_map, parse_eq_forM entry.2]
  rw [forM_rawNodes, ← forM_congr children, parse_eq]
  cases read : parseShallow value with
  | error e =>
    simp only [readOwn, read]
    rfl
  | ok node => exact attachNode_eq_forM read
termination_by sizeOf value

/-! ### The first fault -/

theorem insideOf_error {α : Type} {segment : String} (nonempty : segment ≠ "")
    (location : List String) (fault : NodeFault) :
    insideOf segment (.error (.node location fault) : Except ParseError α) =
      .error (.node (segment :: location) fault) := by
  change Except.error (ParseError.inside segment (.node location fault)) = _
  simp [ParseError.inside, nonempty]

/-- A fault of a node is reported with the steps that lead to the node. -/
theorem readNode_of_error {node : Json} {fault : NodeFault}
    (failed : readOwn node = .error (.here fault)) (steps : List NodeStep) :
    readNode (steps, node) = .error (.node (steps.map NodeStep.segment) fault) := by
  induction steps with
  | nil => exact failed
  | cons step steps ih =>
    rw [readNode_cons step (steps, node), ih, insideOf_error step.segment_ne_empty, List.map_cons]

theorem readNode_of_ok {node : Json} (read : readOwn node = .ok ()) (steps : List NodeStep) :
    readNode (steps, node) = .ok () := by
  induction steps with
  | nil => exact read
  | cons step steps ih =>
    rw [readNode_cons step (steps, node), ih]
    rfl

/-- A node is at fault by its own keys, and that is what an error says. -/
def FaultAt (steps : List NodeStep) (node : Json) (e : ParseError) : Prop :=
  ∃ fault, readOwn node = .error (.here fault) ∧ fault.Of node ∧
    e = .node (steps.map NodeStep.segment) fault

theorem readNode_raises (steps : List NodeStep) (node : Json) :
    Raises (readNode (steps, node)) (FaultAt steps node) := by
  intro e failed
  cases own : readOwn node with
  | ok done => cases failed.symm.trans (readNode_of_ok own steps)
  | error inner =>
    obtain ⟨fault, rfl, wrong⟩ := readOwn_raises node inner own
    cases failed.symm.trans (readNode_of_error own steps)
    exact ⟨fault, own, wrong, rfl⟩

theorem readOwn_of_readNode {steps : List NodeStep} {node : Json}
    (read : readNode (steps, node) = .ok ()) : readOwn node = .ok () := by
  cases own : readOwn node with
  | ok done => rfl
  | error e =>
    obtain ⟨fault, rfl, _⟩ := readOwn_raises node e own
    cases read.symm.trans (readNode_of_error own steps)

/-- Reading stops at the first node that is at fault. -/
theorem exists_faultAt_of_parse {value : Json} {e : ParseError} (failed : parse value = .error e) :
    ∃ before steps node after, rawNodes value = before ++ (steps, node) :: after ∧
      (∀ earlier ∈ before, readNode earlier = .ok ()) ∧ FaultAt steps node e := by
  have stops : (rawNodes value).forM readNode = .error e := by
    rw [← parse_eq_forM, failed]
    rfl
  obtain ⟨before, ⟨steps, node⟩, after, split, earlier, fails⟩ := exists_of_forM_eq_error stops
  exact ⟨before, steps, node, after, split, earlier, readNode_raises steps node e fails⟩

/-- Every error of a type node has a location. -/
theorem parse_raises (value : Json) :
    Raises (parse value) (FaultWithin fun location fault =>
      parse value = .error (.node location fault)) := by
  intro e failed
  obtain ⟨_, steps, _, _, _, _, fault, _, _, rfl⟩ := exists_faultAt_of_parse failed
  exact ⟨_, fault, rfl, failed⟩

/-- Reading a value stops at a node, for a fault of its own keys. -/
structure FirstFault (value : Json) (steps : List NodeStep) (node : Json) (fault : NodeFault) :
    Prop where
  leads : Leads value steps node
  own : readOwn node = .error (.here fault)
  /-- The fault says what is wrong with the node. -/
  wrong : fault.Of node
  /-- The nodes before it, in document order, are read without their children. -/
  first : ∃ before after, rawNodes value = before ++ (steps, node) :: after ∧
    ∀ earlier ∈ before, Succeeds (parseShallow earlier.2)

/-- Reading fails for the keys of the first node that is at fault, and the steps that lead there are
the location of the error. -/
theorem parse_fails_at_firstFault {value : Json} {e : ParseError}
    (failed : parse value = .error e) :
    ∃ steps node fault, FirstFault value steps node fault ∧
      e = .node (steps.map NodeStep.segment) fault ∧
        e.message =
          String.intercalate "/" (steps.map NodeStep.segment) ++ ": " ++ fault.message := by
  obtain ⟨before, steps, node, after, split, earlier, fault, own, wrong, rfl⟩ :=
    exists_faultAt_of_parse failed
  refine ⟨steps, node, fault, ⟨?_, own, wrong, before, after, split, ?_⟩, rfl, rfl⟩
  · exact mem_rawNodes_iff.mp (split ▸ List.mem_append_right before List.mem_cons_self)
  · intro other inside
    obtain ⟨type, read, _⟩ := bind_eq_ok_iff.mp (readOwn_of_readNode (earlier other inside))
    exact ⟨type, read⟩

/-- A reference without a target. -/
def aimlessRef : Json := .obj [("type", .str "ref")]

/-- An object with a property that is in order, a list of references without a target, and a
property that is no object. -/
def faultyObject : Json :=
  .obj [("type", .str "object"), ("properties", .obj [
    ("done", .obj [("type", .str "boolean")]),
    ("list", .obj [("type", .str "array"), ("items", aimlessRef)]),
    ("last", .int 5)])]

theorem faultyObject_firstFault :
    parse faultyObject = .error (.node ["properties/list", "items"] (.missingKey "ref" "ref")) ∧
      ∃ steps node, FirstFault faultyObject steps node (.missingKey "ref" "ref") ∧
        steps.map NodeStep.segment = ["properties/list", "items"] := by
  have item : parse aimlessRef = .error (.node [] (.missingKey "ref" "ref")) := by
    rw [parse_eq]
    rfl
  have list : parse (.obj [("type", .str "array"), ("items", aimlessRef)]) =
      .error (.node ["items"] (.missingKey "ref" "ref")) := by
    rw [parse_eq]
    change (insideOf "items" (parse aimlessRef)).bind _ = _
    rw [item]
    rfl
  have done : parse (.obj [("type", .str "boolean")]) = .ok (.boolean ⟨none, none, none⟩) := by
    rw [parse_eq]
    rfl
  have failed : parse faultyObject =
      .error (.node ["properties/list", "items"] (.missingKey "ref" "ref")) := by
    rw [parse_eq]
    change (parseProperties "object" faultyObject).bind _ = _
    rw [parseProperties_eq]
    change ((List.mapM parseProperty [_, _, _]).map _).bind _ = _
    simp only [List.mapM_cons, parseProperty, done, list]
    rfl
  obtain ⟨steps, node, fault, first, same, _⟩ := parse_fails_at_firstFault failed
  obtain ⟨located, rfl⟩ := ParseError.node.inj same
  exact ⟨failed, steps, node, first, located.symm⟩

end TypeNode

end Lexicon
