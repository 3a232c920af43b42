import Lexicon.Proofs.NodeFaults

/-!
# Lexicon.Proofs.DefinitionFaults

Where the reading of a definition fails.

A definition has parts of its own beside its type nodes: parameters, payloads, a
message, declared errors. Each is an object that is asked for some keys. A fault
of a part is reported with the location of the part, but for the documentation
of messages and declared errors, whose faults are reported for the definition.

## Main definitions

- `Definition.Part`: an object of a definition that is no type node.
- `Definition.Part.Faulty`: what can be wrong with a part.
- `Definition.Part.reported`: where a fault of a part is reported.
- `Definition.Refusal`: why a definition is refused, and where that is reported.

## Main results

- `Definition.Part.Faulty.of`: a fault of a part says what is wrong with that part.
- `Document.parse_refused`: a document is refused for its header, or for a definition.

## Proof strategy

One lemma for each reader says which errors it gives. The parts fail while the
definitions are read without their children, and the type nodes in either pass.
-/

namespace Lexicon

namespace Definition

/-! ### Parts -/

/-- An object of a definition that is no type node. -/
inductive Part where
  | definition
  | parameters
  | input
  | output
  | message
  | declaredError (index : Nat)
deriving DecidableEq, Repr

namespace Part

/-- The location of a part inside its definition. -/
def segments : Part → List String
  | definition => []
  | parameters => ["parameters"]
  | input => ["input"]
  | output => ["output"]
  | message => ["message"]
  | declaredError index => ["errors/" ++ toString index]

/-- The value of a part. -/
def find? (value : Json) : Part → Option Json
  | definition => some value
  | parameters => value.get? "parameters"
  | input => value.get? "input"
  | output => value.get? "output"
  | message => value.get? "message"
  | declaredError index =>
    match value.get? "errors" with
    | some (.arr items) => items[index]?
    | _ => none

/-- The keys that a definition of some tag is asked for beside its type. -/
def definitionRules (tag : String) : List KeyRule :=
  match tag with
  | "record" => [⟨"record", .object, true⟩, ⟨"key", .text, false⟩]
  | "query" | "procedure" | "subscription" => [⟨"errors", .list, false⟩]
  | _ => []

/-- The keys that a part is asked for in a definition of some tag. -/
def rules (tag : String) : Part → List KeyRule
  | definition => ⟨"type", .text, true⟩ :: ⟨"description", .text, false⟩ :: definitionRules tag
  | parameters => [⟨"type", .text, true⟩, ⟨"description", .text, false⟩,
      ⟨"required", .texts, false⟩, ⟨"nullable", .texts, false⟩, ⟨"properties", .object, false⟩]
  | input | output => [⟨"description", .text, false⟩, ⟨"encoding", .text, true⟩]
  | message => [⟨"description", .text, false⟩]
  | declaredError _ => [⟨"name", .text, true⟩, ⟨"description", .text, false⟩]

/-- What can be wrong with a part in a definition of some tag. -/
inductive Faulty (tag : String) (object : Json) : Part → NodeFault → Prop where
  | notAnObject {part : Part} (noObject : ∀ members, object ≠ .obj members) :
      Faulty tag object part (.notAnObject object.kind)
  | broken {part : Part} {members : List (String × Json)} {rule : KeyRule} {fault : NodeFault}
      (same : object = .obj members) (asked : rule ∈ part.rules tag)
      (broken : rule.Broken members fault) : Faulty tag object part fault
  /-- A record is a type node of its own, but no object. -/
  | notObjectNode {members : List (String × Json)} {variant kind : String} {record : Json}
      (same : object = .obj members) (given : members.lookup "record" = some record)
      (tagged : Document.rawTag record = kind) (other : kind ≠ "object") :
      Faulty tag object definition (.invalidKey variant "record" (.notObjectNode kind))
  /-- Parameters carry the tag of something else. -/
  | notParams {members : List (String × Json)} {variant other : String}
      (same : object = .obj members) (given : members.lookup "type" = some (.str other))
      (noParams : other ≠ "params") :
      Faulty tag object parameters (.invalidKey variant "type" (.notParams other))

/-- A fault of a part says what is wrong with that part. -/
theorem Faulty.of {tag : String} {object : Json} {part : Part} {fault : NodeFault}
    (faulty : Faulty tag object part fault) : fault.Of object := by
  cases faulty with
  | notAnObject noObject => exact .notAnObject noObject
  | broken same asked broken =>
    subst same
    exact broken.of
  | notObjectNode same given tagged other =>
    exact .invalidKey same given (.notObjectNode tagged other)
  | notParams same given noParams => exact .invalidKey same given (.notParams rfl noParams)

/-- Where a fault of a part is reported. The documentation of messages and declared errors is
reported for the definition, unlike everything else. -/
def reported : Part → NodeFault → List String
  | message, .invalidKey _ "description" _ => []
  | declaredError _, .invalidKey _ "description" _ => []
  | part, _ => part.segments

end Part

/-! ### Type nodes -/

/-- A type node of a definition is found at some location. -/
inductive NodeAt (value : Json) : List String → Json → Prop where
  | definition : NodeAt value [] value
  | record {node : Json} (found : value.get? "record" = some node) : NodeAt value ["record"] node
  | parameter {raw node : Json} {name : String} {members : List (String × Json)}
      (found : value.get? "parameters" = some raw)
      (properties : raw.get? "properties" = some (.obj members)) (inside : (name, node) ∈ members) :
      NodeAt value ["parameters", "properties/" ++ name] node
  | schema {part : Part} {raw node : Json} (holder : part ∈ [Part.input, Part.output, Part.message])
      (found : part.find? value = some raw) (schema : raw.get? "schema" = some node) :
      NodeAt value (part.segments ++ ["schema"]) node

/-- Why a definition is refused, and where that is reported. -/
inductive Refusal (value : Json) : List String → NodeFault → Prop where
  /-- A part is at fault. -/
  | part {part : Part} {object : Json} {fault : NodeFault} (found : part.find? value = some object)
      (faulty : part.Faulty (Document.rawTag value) object fault) :
      Refusal value (part.reported fault) fault
  /-- One of the type nodes of the definition cannot be read. -/
  | node {root location : List String} {node : Json} {fault : NodeFault}
      (found : NodeAt value root node)
      (failed : TypeNode.parse node = .error (.node location fault)) :
      Refusal value (root ++ location) fault
  /-- Only the main definition may be a record or an endpoint. -/
  | misplaced {tag : String} (tagged : Document.rawTag value = tag)
      (definition : tag ∈ definitionTags) : Refusal value [] (.misplacedTag tag)
  /-- A reference is malformed. -/
  | reference {reference : String} {reason : IdentifierError}
      (malformed : Reference.parse reference = .error reason) :
      Refusal value [] (.invalidKey "ref" "ref" (.badReference reason))

/-! ### Readers of parts -/

open Fields

section Readers

variable {tag : String} {members : List (String × Json)}

theorem of_faulty (variant : String) (part : Part) (raw : Json) :
    Raises (Fields.of variant raw) (FaultHere (part.Faulty tag raw)) :=
  (of_raises variant raw).imp fun _ given => ⟨_, given.1, .notAnObject given.2⟩

section Keys

variable (part : Part) (variant key : String) {α : Type} {shape : KeyShape}
  {view : Json → Except Kind α}

theorem optional_faulty (views : Views shape view) (asked : ⟨key, shape, false⟩ ∈ part.rules tag) :
    Raises (optional ⟨variant, members⟩ key shape view)
      (FaultHere (part.Faulty tag (.obj members))) :=
  (optional_raises _ key views).imp fun _ given => given.imp fun _ => .broken rfl asked

theorem required_faulty (views : Views shape view) (asked : ⟨key, shape, true⟩ ∈ part.rules tag) :
    Raises (required ⟨variant, members⟩ key shape view)
      (FaultHere (part.Faulty tag (.obj members))) :=
  (required_raises _ key views).imp fun _ given => given.imp fun _ => .broken rfl asked

end Keys

theorem readParameters_raises (raw : Json) :
    Raises (readParameters raw) (FaultHere (Part.parameters.Faulty tag raw)) := by
  refine (of_faulty "params" .parameters raw).bind fun f opened => ?_
  obtain ⟨members, rfl, rfl⟩ := of_eq_ok opened
  refine (required_faulty .parameters "params" "type" views_text (by simp [Part.rules])).bind
    fun other tagged => ?_
  split
  · next noParams =>
    exact .error ⟨_, rfl, .notParams rfl ((text_eq_ok_iff _ _).mp tagged) noParams⟩
  · exact (optional_faulty _ _ _ views_text (by simp [Part.rules])).bind fun _ _ =>
      (optional_faulty _ _ _ views_texts (by simp [Part.rules])).bind fun _ _ =>
        (optional_faulty _ _ _ views_texts (by simp [Part.rules])).bind fun _ _ => .ok

theorem readBody_raises (variant : String) {part : Part} (body : part = .input ∨ part = .output)
    (raw : Json) : Raises (readBody variant raw) (FaultHere (part.Faulty tag raw)) := by
  refine (of_faulty variant part raw).bind fun f opened => ?_
  obtain ⟨members, rfl, rfl⟩ := of_eq_ok opened
  rcases body with rfl | rfl <;>
    exact (optional_faulty _ _ _ views_text (by simp [Part.rules])).bind fun _ _ =>
      (required_faulty _ _ _ views_text (by simp [Part.rules])).bind fun _ _ => .ok

theorem readOption_raises {α : Type} {read : Json → Except ParseError α} {value : Option Json}
    {P : ParseError → Prop} (each : ∀ raw, value = some raw → Raises (read raw) P) :
    Raises (readOption read value) P := by
  cases value with
  | none => exact .ok
  | some raw => exact (each raw rfl).map some

end Readers

/-! ### Type nodes of definitions -/

section Nodes

variable {value node : Json} {root : List String}

/-- A type node fails with the location that leads to it. -/
theorem node_raises {α : Type} (found : NodeAt value root node) {read : Except ParseError α}
    (same : ∀ e, read = .error e → TypeNode.parse node = .error e) :
    Raises read (FaultWithin fun location => Refusal value (root ++ location)) := by
  intro e failed
  obtain ⟨location, fault, rfl, refused⟩ := TypeNode.parse_raises node e (same e failed)
  exact ⟨location, fault, rfl, .node found refused⟩

theorem parse_of_parseShallow_error {e : ParseError}
    (failed : TypeNode.parseShallow node = .error e) : TypeNode.parse node = .error e := by
  rw [TypeNode.parse_eq, failed]
  rfl

theorem parse_of_attachNode_error {e : ParseError} {shallow : TypeNode}
    (read : TypeNode.parseShallow node = .ok shallow)
    (failed : attachNode node shallow = .error e) : TypeNode.parse node = .error e := by
  rw [TypeNode.parse_eq, read]
  exact failed

theorem parseSchema_raises {part : Part} {raw : Json}
    (holder : part ∈ [Part.input, Part.output, Part.message])
    (found : part.find? value = some raw) :
    Raises (parseSchema raw)
      (FaultWithin fun location => Refusal value (part.segments ++ location)) := by
  rw [parseSchema_eq]
  refine readOption_raises fun schema given => insideOf_raises (by decide) ?_
  simpa only [List.append_assoc, List.singleton_append] using
    node_raises (NodeAt.schema holder found given) fun e failed => failed

end Nodes

/-! ### Definitions without their children -/

section Shallow

variable {members : List (String × Json)} {tag : String} (variant : String)

/-- A definition is refused for one of its parts, or for one of its type nodes. -/
abbrev Refuses (value : Json) : ParseError → Prop := FaultWithin (Refusal value)

theorem definition_raises {α : Type} {read : Except ParseError α}
    (given : Raises read
      (FaultHere (Part.definition.Faulty (Document.rawTag (.obj members)) (.obj members)))) :
    Raises read (Refuses (.obj members)) :=
  given.imp fun _ given => given.within fun _ faulty => .part rfl faulty

/-- A part all of whose faults are reported where it is found. -/
theorem part_raises {α : Type} (value : Json) {part : Part} {segment : String}
    (located : ∀ fault, part.reported fault = [segment]) (nonempty : segment ≠ "")
    {read : Json → Except ParseError α}
    (each : ∀ raw, Raises (read raw) (FaultHere (part.Faulty (Document.rawTag value) raw))) :
    Raises (readOption (fun raw => insideOf segment (read raw)) (part.find? value))
      (Refuses value) := by
  refine readOption_raises fun raw found => insideOf_raises nonempty ?_
  refine (each raw).imp fun _ given => given.within fun fault faulty => ?_
  exact located fault ▸ .part found faulty

theorem parseParameters_raises :
    Raises (parseParameters ⟨variant, members⟩) (Refuses (.obj members)) := by
  rw [parseParameters_eq]
  exact part_raises (.obj members) (fun _ => rfl) (by decide) readParameters_raises

theorem parseInput_raises :
    Raises (parseBody ⟨variant, members⟩ "input") (Refuses (.obj members)) := by
  rw [parseBody_eq]
  exact part_raises (.obj members) (fun _ => rfl) (by decide) (readBody_raises variant (.inl rfl))

theorem parseOutput_raises :
    Raises (parseBody ⟨variant, members⟩ "output") (Refuses (.obj members)) := by
  rw [parseBody_eq]
  exact part_raises (.obj members) (fun _ => rfl) (by decide) (readBody_raises variant (.inr rfl))

theorem parseRecordObject_raises (tagged : Document.rawTag (.obj members) = "record") :
    Raises (parseRecordObject ⟨variant, members⟩) (Refuses (.obj members)) := by
  unfold parseRecordObject
  cases found : members.lookup "record" with
  | none =>
    simp only [raw?, found]
    have asked : ⟨"record", .object, true⟩ ∈ Part.definition.rules "record" := by decide
    refine definition_raises (.error ⟨_, rfl, ?_⟩)
    rw [tagged]
    exact .broken rfl asked (.missing rfl found)
  | some raw =>
    simp only [raw?, found]
    have held : (Json.obj members).get? "record" = some raw := found
    refine .bind (insideOf_raises (by decide) ?_) fun node read => ?_
    · exact node_raises (.record held) fun e => parse_of_parseShallow_error
    · split
      · exact .ok
      · next noObject =>
        refine definition_raises (.error ⟨_, rfl, .notObjectNode rfl found
          (TypeNode.rawTag_of_parseShallow (mapError_eq_ok_iff.mp read)) fun same => ?_⟩)
        cases node with
        | object t => exact noObject t rfl
        | _ => simp [TypeNode.kind] at same

/-! #### Messages and declared errors -/

section Undocumented

variable {value : Json} {part : Part} {segment : String}

/-- A message or a declared error that is no object is reported where it is found. -/
theorem notAnObject_raises (located : part.segments = [segment]) (nonempty : segment ≠ "")
    {raw : Json} (found : part.find? value = some raw) :
    Raises (insideOf segment (Fields.of variant raw)) (Refuses value) := by
  refine insideOf_raises nonempty ((of_raises variant raw).imp fun e given => ?_)
  have reported : part.reported (.notAnObject raw.kind) = [segment] := by
    rw [← located]
    cases part <;> rfl
  have refused : Refusal value [segment] (.notAnObject raw.kind) :=
    reported ▸ .part found (.notAnObject given.2)
  exact ⟨[], _, given.1, refused⟩

/-- The documentation of a message or a declared error is reported for the definition. -/
theorem description_raises (reported : ∀ variant fault,
      part.reported (.invalidKey variant "description" fault) = [])
    (asked : ∀ tag, ⟨"description", .text, false⟩ ∈ part.rules tag)
    (found : part.find? value = some (.obj members)) :
    Raises (Fields.description ⟨variant, members⟩) (Refuses value) := by
  refine (optional_raises _ "description" views_text).imp fun _ given =>
    given.within fun fault broken => ?_
  cases broken with
  | missing required absent => cases required
  | misshapen given misfit =>
    exact reported _ _ ▸ .part found (.broken rfl (asked _) (.misshapen given misfit))

end Undocumented

theorem parseMessage_raises :
    Raises (parseMessage ⟨variant, members⟩) (Refuses (.obj members)) := by
  rw [parseMessage_eq]
  change Raises (readOption _ (Part.message.find? (.obj members))) _
  refine readOption_raises fun raw found =>
    (notAnObject_raises variant rfl (by decide) found).bind fun f opened => ?_
  obtain ⟨held, rfl, rfl⟩ := of_eq_ok (mapError_eq_ok_iff.mp opened)
  exact (description_raises variant (fun _ _ => rfl) (by simp [Part.rules]) found).bind
    fun _ _ => .ok

theorem parseErrorDecl_raises {value raw : Json} {index : Nat}
    (found : (Part.declaredError index).find? value = some raw) :
    Raises (parseErrorDecl variant index raw) (Refuses value) := by
  have nonempty : "errors/" ++ toString index ≠ "" := by simp
  refine (notAnObject_raises variant rfl nonempty found).bind fun f opened => ?_
  obtain ⟨held, rfl, rfl⟩ := of_eq_ok (mapError_eq_ok_iff.mp opened)
  refine .bind (insideOf_raises nonempty ?_) fun name _ =>
    (description_raises variant (fun _ _ => rfl) (by simp [Part.rules]) found).bind fun _ _ => .ok
  refine (required_raises _ "name" views_text).imp fun _ given =>
    given.within fun fault broken => ?_
  have reported : (Part.declaredError index).reported fault = ["errors/" ++ toString index] := by
    cases broken <;> rfl
  exact reported ▸ .part found (.broken rfl (by simp [Part.rules]) broken)

theorem parseErrors_raises (asked : ⟨"errors", .list, false⟩ ∈
      Part.definition.rules (Document.rawTag (.obj members))) :
    Raises (parseErrors ⟨variant, members⟩) (Refuses (.obj members)) := by
  unfold parseErrors
  split
  · exact .ok
  · next items given =>
    have listed : (Json.obj members).get? "errors" = some (.arr items) := given
    refine .mapM fun entry inside => parseErrorDecl_raises variant ?_
    simpa only [Part.find?, listed] using List.mem_zipIdx_iff_getElem?.mp inside
  · next other noList given =>
    refine definition_raises (.error ⟨_, rfl, .broken rfl asked (.misshapen given ?_)⟩)
    rintro ⟨items, same⟩
    exact noList items same

/-- A definition is refused by its own keys for one of its parts or type nodes. -/
theorem parseShallow_raises (value : Json) : Raises (parseShallow value) (Refuses value) := by
  refine .bind ((of_raises "definition" value).imp fun _ given => ?_) fun f opened => ?_
  · exact ⟨[], _, given.1, .part (rfl : Part.definition.find? value = _) (.notAnObject given.2)⟩
  obtain ⟨members, rfl, rfl⟩ := of_eq_ok opened
  refine (definition_raises (required_faulty _ _ _ views_text (by simp [Part.rules]))).bind
    fun tag tagged => ?_
  refine (definition_raises (optional_faulty _ _ _ views_text (by simp [Part.rules]))).bind
    fun description _ => ?_
  have same : Document.rawTag (.obj members) = tag := rawTag_of_text rfl tagged
  have errors {tag : String} (same : Document.rawTag (.obj members) = tag)
      (asked : ⟨"errors", .list, false⟩ ∈ Part.definition.rules tag) :=
    parseErrors_raises tag (same ▸ asked)
  -- The keys of each tag are asked for in the order of reading.
  cases tag using tag_cases with
  | record =>
    refine (parseRecordObject_raises _ same).bind fun _ _ => ?_
    have asked : ⟨"key", .text, false⟩ ∈ Part.definition.rules "record" := by decide
    exact (definition_raises (optional_faulty _ _ _ views_text (same ▸ asked))).bind
      fun _ _ => .ok
  | query =>
    exact (parseParameters_raises _).bind fun _ _ => (parseOutput_raises _).bind fun _ _ =>
      (errors same (by decide)).bind fun _ _ => .ok
  | procedure =>
    exact (parseParameters_raises _).bind fun _ _ => (parseInput_raises _).bind fun _ _ =>
      (parseOutput_raises _).bind fun _ _ => (errors same (by decide)).bind fun _ _ => .ok
  | subscription =>
    exact (parseParameters_raises _).bind fun _ _ => (parseMessage_raises _).bind fun _ _ =>
      (errors same (by decide)).bind fun _ _ => .ok
  | token => exact .ok
  | type tag unlisted =>
    rw [ofTag_of_unlisted unlisted]
    exact (node_raises .definition fun e => parse_of_parseShallow_error).bind fun _ _ => .ok

end Shallow

/-! ### Children of definitions -/

section Children

variable {value : Json}

/-- The schema of a part is read where the part is found. -/
theorem partSchema_raises {α : Type} {part : Part} {key : String} {raw : Json}
    (holder : part ∈ [Part.input, Part.output, Part.message]) (nonempty : key ≠ "")
    (located : part.segments = [key]) (found : part.find? value = some raw)
    (attach : Option TypeNode → α) :
    Raises (insideOf key (attach <$> parseSchema raw)) (Refuses value) := by
  have schema := parseSchema_raises holder found
  rw [located] at schema
  exact insideOf_raises nonempty (schema.map attach)

theorem attachBody_raises {part : Part} {key : String}
    (holder : part ∈ [Part.input, Part.output, Part.message]) (nonempty : key ≠ "")
    (located : part.segments = [key]) (same : part.find? value = value.get? key)
    (body : Option Body) : Raises (attachBody value key body) (Refuses value) := by
  cases body with
  | none => exact .ok
  | some body =>
    cases found : value.get? key with
    | none =>
      simp only [attachBody, found]
      exact .ok
    | some raw =>
      simp only [attachBody, found]
      exact partSchema_raises holder nonempty located (same.trans found) fun schema =>
        some { body with schema }

theorem attachMessage_raises (message : Option Message) :
    Raises (attachMessage value message) (Refuses value) := by
  cases message with
  | none => exact .ok
  | some message =>
    cases found : value.get? "message" with
    | none =>
      simp only [attachMessage, found]
      exact .ok
    | some raw =>
      simp only [attachMessage, found]
      have held : Part.message.find? value = some raw := found
      exact partSchema_raises (by simp) (by decide) rfl held
        fun schema => some { message with schema }

/-- The properties of parameters are type nodes, and they have to be an object. -/
theorem parameterProperties_raises {raw : Json} (found : value.get? "parameters" = some raw)
    {members : List (String × Json)} (object : raw = .obj members) :
    Raises (TypeNode.parseProperties "params" raw)
      (FaultWithin fun location => Refusal value ("parameters" :: location)) := by
  have part : Part.parameters.find? value = some raw := found
  subst object
  rw [TypeNode.parseProperties_eq]
  refine Raises.ok.bind fun f opened => ?_
  cases opened
  split
  · exact .ok
  · next entries properties =>
    refine Raises.map (.mapM fun entry inside => ?_) Entries.ofPairs
    refine Raises.map (insideOf_raises (by simp) ?_) fun node => (entry.1, node)
    exact node_raises (.parameter found properties inside) fun e failed => failed
  · next other noObject properties =>
    have held : members.lookup "properties" = some other := properties
    have misfit : ¬KeyShape.object.Fits other := by
      rintro ⟨entries, same⟩
      exact noObject entries same
    have broken : KeyRule.Broken ⟨"properties", .object, false⟩ members
        (.invalidKey "params" "properties" (.wrongShape .object other.kind)) :=
      .misshapen held misfit
    exact .error ⟨[], _, rfl, .part part (.broken rfl (by simp [Part.rules]) broken)⟩

theorem attachParameters_raises {members : List (String × Json)} {variant : String}
    {parameters : Option ObjectType}
    (read : parseParameters ⟨variant, members⟩ = .ok parameters) :
    Raises (attachParameters (.obj members) parameters) (Refuses (.obj members)) := by
  cases parameters with
  | none => exact .ok
  | some object =>
    cases found : (Json.obj members).get? "parameters" with
    | none =>
      simp only [attachParameters, found]
      exact .ok
    | some raw =>
      -- The first pass has opened the parameters, so they are an object.
      have given : members.lookup "parameters" = some raw := found
      rw [parseParameters_eq, raw?_mk, given] at read
      obtain ⟨_, read, _⟩ := map_eq_ok_iff.mp read
      obtain ⟨f, opened, _⟩ := bind_eq_ok_iff.mp (mapError_eq_ok_iff.mp read)
      obtain ⟨held, object, _⟩ := of_eq_ok opened
      simp only [attachParameters, found]
      exact insideOf_raises (by decide)
        ((parameterProperties_raises found object).bind fun _ _ => .ok)

/-- The object of a record is a type node of its own. -/
theorem of_parseRecordObject {members : List (String × Json)} (variant : String) :
    Ensures (parseRecordObject ⟨variant, members⟩) fun object =>
      ∃ raw, (Json.obj members).get? "record" = some raw ∧
        TypeNode.parseShallow raw = .ok (.object object) := by
  unfold parseRecordObject
  split
  · exact .error
  · next raw found =>
    refine .bind fun node read => ?_
    split
    · exact .ok ⟨raw, found, mapError_eq_ok_iff.mp read⟩
    · exact .error

/-- A definition that was read without its children is refused for one of these. -/
theorem attachChildren_raises {value : Json} {definition : Definition}
    (read : parseShallow value = .ok definition) :
    Raises (definition.attachChildren value) (Refuses value) := by
  obtain ⟨f, opened, read⟩ := bind_eq_ok_iff.mp read
  obtain ⟨members, rfl, rfl⟩ := of_eq_ok opened
  obtain ⟨tag, tagged, read⟩ := bind_eq_ok_iff.mp read
  obtain ⟨description, _, read⟩ := bind_eq_ok_iff.mp read
  -- The first pass has read the same keys, so what is left are faults inside the children.
  cases tag using tag_cases with
  | record =>
    obtain ⟨object, recorded, read⟩ := bind_eq_ok_iff.mp read
    obtain ⟨key, _, read⟩ := bind_eq_ok_iff.mp read
    cases read
    obtain ⟨raw, found, shallow⟩ := of_parseRecordObject _ object recorded
    simp only [attachChildren, found, Option.getD_some]
    refine .bind (insideOf_raises (by decide) ?_) fun _ _ => .ok
    refine node_raises (.record found) fun e failed => parse_of_attachNode_error shallow ?_
    rw [attachNode, failed]
    rfl
  | query =>
    obtain ⟨parameters, parametrized, read⟩ := bind_eq_ok_iff.mp read
    obtain ⟨output, _, read⟩ := bind_eq_ok_iff.mp read
    obtain ⟨errors, _, read⟩ := bind_eq_ok_iff.mp read
    cases read
    exact (attachParameters_raises parametrized).bind fun _ _ =>
      (attachBody_raises (by simp : Part.output ∈ _) (by decide) rfl rfl output).bind fun _ _ => .ok
  | procedure =>
    obtain ⟨parameters, parametrized, read⟩ := bind_eq_ok_iff.mp read
    obtain ⟨input, _, read⟩ := bind_eq_ok_iff.mp read
    obtain ⟨output, _, read⟩ := bind_eq_ok_iff.mp read
    obtain ⟨errors, _, read⟩ := bind_eq_ok_iff.mp read
    cases read
    exact (attachParameters_raises parametrized).bind fun _ _ =>
      (attachBody_raises (by simp : Part.input ∈ _) (by decide) rfl rfl input).bind fun _ _ =>
        (attachBody_raises (by simp : Part.output ∈ _) (by decide) rfl rfl output).bind
          fun _ _ => .ok
  | subscription =>
    obtain ⟨parameters, parametrized, read⟩ := bind_eq_ok_iff.mp read
    obtain ⟨message, _, read⟩ := bind_eq_ok_iff.mp read
    obtain ⟨errors, _, read⟩ := bind_eq_ok_iff.mp read
    cases read
    exact (attachMessage_raises message).bind fun _ _ =>
      (attachParameters_raises parametrized).bind fun _ _ => .ok
  | token =>
    cases read
    exact .ok
  | type tag unlisted =>
    rw [ofTag_of_unlisted unlisted] at read
    obtain ⟨node, shallow, read⟩ := bind_eq_ok_iff.mp read
    cases read
    exact (node_raises .definition fun e => parse_of_attachNode_error shallow).bind fun _ _ => .ok

end Children

end Definition

namespace Document

open Definition (Refusal Refuses)

variable {raws : List (String × Json)}

/-- A definition of a document is refused, and its name comes first in the location. -/
def RefusesDefinition (raws : List (String × Json)) (e : ParseError) : Prop :=
  ∃ name value location fault, (name, value) ∈ raws ∧
    e = .node (("defs/" ++ name) :: location) fault ∧ Refusal value location fault

/-- The keys of a document beside its definitions. -/
def headerKeys : List String := ["lexicon", "id", "revision", "description"]

/-- A document is refused for one of its own keys. -/
inductive RefusesHeader : ParseError → Prop where
  | missing {key : String} (own : key ∈ headerKeys) :
      RefusesHeader (.here (.missingKey "document" key))
  | invalid {key : String} {fault : KeyFault} (own : key ∈ headerKeys) :
      RefusesHeader (.here (.invalidKey "document" key fault))
  | identifier (reason : IdentifierError) : RefusesHeader (.identifier reason)

section Header

variable {α : Type} {members : List (String × Json)} {key : String} {shape : KeyShape}
  {view : Json → Except Kind α}

theorem optional_raises (own : key ∈ headerKeys) :
    Raises (Fields.optional ⟨"document", members⟩ key shape view) RefusesHeader := by
  unfold Fields.optional
  split
  · exact .ok
  · split
    · exact .ok
    · exact .error (.invalid own)

theorem required_raises (own : key ∈ headerKeys) :
    Raises (Fields.required ⟨"document", members⟩ key shape view) RefusesHeader := by
  refine (optional_raises own).bind fun found _ => ?_
  cases found with
  | none => exact .error (.missing own)
  | some a => exact .ok

theorem parseId_raises : Raises (parseId ⟨"document", members⟩) RefusesHeader := by
  refine (required_raises (by decide)).bind fun text _ => .bind ?_ fun id _ => ?_
  · exact .mapError fun reason _ => .identifier reason
  · split
    · exact .ok
    · exact .error (.invalid (by decide))

end Header

theorem insideOf_entry_raises {α : Type} {name : String} {value : Json}
    (inside : (name, value) ∈ raws) {read : Except ParseError α}
    (given : Raises read (Refuses value)) :
    Raises (insideOf ("defs/" ++ name) read) (RefusesDefinition raws) := by
  refine .mapError fun e failed => ?_
  obtain ⟨location, fault, rfl, refused⟩ := given e failed
  exact ⟨name, value, location, fault, inside, by simp [ParseError.inside], refused⟩

theorem parseShallowEntry_raises {entry : String × Json} (inside : entry ∈ raws) :
    Raises (parseShallowEntry entry) (RefusesDefinition raws) := by
  refine insideOf_entry_raises inside ?_
  split
  · next misplaced =>
    have definition : rawTag entry.2 ∈ definitionTags := by
      simpa using (Bool.and_eq_true_iff.mp misplaced).2
    exact .error ⟨[], _, rfl, .misplaced rfl definition⟩
  · exact (Definition.parseShallow_raises entry.2).bind fun _ _ => .ok

theorem attachEntry_raises (distinct : (Entries.keys raws).Nodup) {entry : String × Json}
    (inside : entry ∈ raws) {shallow : String × Definition}
    (read : parseShallowEntry entry = .ok shallow) :
    Raises (attachEntry raws shallow) (RefusesDefinition raws) := by
  obtain ⟨named, read⟩ := of_parseShallowEntry entry shallow read
  rw [attachEntry_of_mem distinct inside named]
  obtain ⟨name, definition⟩ := shallow
  obtain ⟨name, value⟩ := entry
  cases named
  simp only [attachEntry, Entries.lookup_cons_self, Option.getD_some]
  exact insideOf_entry_raises inside ((Definition.attachChildren_raises read).bind fun _ _ => .ok)

theorem parseDefinitions_raises (distinct : (Entries.keys raws).Nodup) :
    Raises (parseDefinitions raws) (RefusesDefinition raws) := by
  refine .bind (.mapM fun entry inside => parseShallowEntry_raises inside) fun shallow passed => ?_
  refine .bind (.mapM fun read held => ?_) fun _ _ => .ok
  obtain ⟨entry, inside, given⟩ := mem_of_mapM_eq_ok passed _ (Entries.mem_of_mem_ofPairs held)
  exact attachEntry_raises distinct inside given

/-- Every definition is named by what it was read from. -/
theorem named_of_parseDefinitions (raws : List (String × Json)) :
    Ensures (parseDefinitions raws) fun definitions =>
      ∀ entry ∈ definitions, ∃ value, (entry.1, value) ∈ raws := by
  refine .bind fun shallow passed => .bind fun full attached => .ok fun entry held => ?_
  obtain ⟨before, held, second⟩ :=
    mem_of_mapM_eq_ok attached entry (Entries.mem_of_mem_ofPairs held)
  obtain ⟨origin, inside, first⟩ :=
    mem_of_mapM_eq_ok passed before (Entries.mem_of_mem_ofPairs held)
  rw [name_of_attachEntry raws before entry second, (of_parseShallowEntry origin before first).1]
  exact ⟨origin.2, inside⟩

theorem checkReferences_raises {definitions : List (String × Definition)}
    (named : ∀ entry ∈ definitions, ∃ value, (entry.1, value) ∈ raws) :
    Raises (checkReferences definitions) (RefusesDefinition raws) := by
  refine .forM fun entry inside => .forM fun reference _ => ?_
  obtain ⟨value, held⟩ := named entry inside
  unfold checkReference
  split
  · exact .ok
  · next reason malformed =>
    exact .error ⟨entry.1, value, [], _, held, rfl, .reference malformed⟩

/-- A document is refused for a key of its own or for one of its definitions, and then the location
leads to what is at fault. -/
theorem parse_refused {document : Json} (given : document.get? "defs" = some (.obj raws))
    (distinct : (Entries.keys raws).Nodup) {e : ParseError} (failed : parse document = .error e) :
    RefusesHeader e ∨ RefusesDefinition raws e := by
  cases document with
  | obj members =>
    have found : rawDefinitions ⟨"document", members⟩ = .ok raws := by
      have held : members.lookup "defs" = some (.obj raws) := given
      simp only [rawDefinitions, Fields.raw?, held]
    have header {α : Type} {read : Except ParseError α} (raised : Raises read RefusesHeader) :
        Raises read fun e => RefusesHeader e ∨ RefusesDefinition raws e :=
      raised.imp fun _ => .inl
    have refused : Raises (parse (.obj members))
        fun e => RefusesHeader e ∨ RefusesDefinition raws e := by
      -- The header is read around the definitions, and the references are checked last.
      refine Raises.ok.bind fun f opened => ?_
      cases opened
      refine (header (required_raises (by decide))).bind fun lexicon _ => ?_
      refine (header parseId_raises).bind fun id _ => ?_
      rw [found, ok_bind]
      refine ((parseDefinitions_raises distinct).imp fun _ => .inr).bind fun definitions read => ?_
      refine (header (optional_raises (by decide))).bind fun revision _ => ?_
      refine (header (optional_raises (by decide))).bind fun description _ => ?_
      exact ((checkReferences_raises (named_of_parseDefinitions raws _ read)).imp fun _ =>
        .inr).bind fun _ _ => .ok
    exact refused e failed
  | _ => cases given

/-- A document with one definition. -/
def streamDocument (main : Json) : Json :=
  .obj [("lexicon", .int 1), ("id", .str "com.example.stream"), ("defs", .obj [("main", main)])]

theorem parse_streamDocument {main : Json} {e : ParseError}
    (failed : parseDefinitions [("main", main)] = .error e) :
    parse (streamDocument main) = .error e := by
  have identifier : Nsid.parse "com.example.stream" = .ok ⟨["com", "example"], "stream", none⟩ := by
    decide
  have id : parseId ⟨"document", [("lexicon", .int 1), ("id", .str "com.example.stream"),
      ("defs", .obj [("main", main)])]⟩ = .ok ⟨["com", "example"], "stream", none⟩ := by
    change ((Nsid.parse "com.example.stream").mapError ParseError.identifier >>= _) = _
    rw [identifier]
    rfl
  simp only [parse, streamDocument, Fields.of, ok_bind, id]
  change parseDefinitions [("main", main)] >>= _ = _
  rw [failed, error_bind]

/-- A query whose payload has no media type. -/
def unencodedQuery : Json := .obj [("type", .str "query"), ("output", .obj [])]

theorem unencodedQuery_refused :
    parse (streamDocument unencodedQuery) =
        .error (.node ["defs/main", "output"] (.missingKey "query" "encoding")) ∧
      RefusesDefinition [("main", unencodedQuery)]
        (.node ["defs/main", "output"] (.missingKey "query" "encoding")) := by
  have failed : parse (streamDocument unencodedQuery) =
      .error (.node ["defs/main", "output"] (.missingKey "query" "encoding")) :=
    parse_streamDocument rfl
  refine ⟨failed, ?_⟩
  rcases parse_refused rfl (by decide) failed with header | definition
  · cases header
  · exact definition

/-- A subscription whose message has a number for its documentation. -/
def misdescribedStream : Json :=
  .obj [("type", .str "subscription"), ("message", .obj [("description", .int 1)])]

/-- The documentation of a message is reported for the subscription, which has none. -/
theorem misdescribedStream_misreported :
    parse (streamDocument misdescribedStream) = .error (.node ["defs/main"]
        (.invalidKey "subscription" "description" (.wrongShape .text .integer))) ∧
      ∀ part : Definition.Part, part.segments = [] → ∀ object,
        part.find? misdescribedStream = some object →
          ¬NodeFault.Of object
            (.invalidKey "subscription" "description" (.wrongShape .text .integer)) := by
  refine ⟨parse_streamDocument rfl, ?_⟩
  rintro part none object found wrong
  cases part with
  | definition =>
    cases found
    cases wrong with
    | invalidKey same given _ =>
      cases same
      cases given
  | _ => cases none

end Document

end Lexicon
