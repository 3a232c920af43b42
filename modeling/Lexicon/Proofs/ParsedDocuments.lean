import Lexicon.Proofs.Entries
import Lexicon.Proofs.Results
import Lexicon.Proofs.Tags
import Lexicon.Proofs.TypeParsing
import Lexicon.Proofs.WellFormed
import Lexicon.Proofs.WrittenKeys

/-!
# Lexicon.Proofs.ParsedDocuments

Every document that is read is well formed.

## Main result

`Document.wellFormed_of_parse`.

## Proof strategy

What holds of a field type as soon as it holds of its children is shown by
induction on the size of the value that the type is read from. References are
checked when everything else has been read, so a field type is shown to be well
formed under the assumption that its references can be read.
-/

namespace Lexicon

namespace TypeNode

/-! ### Field types -/

/-- The conditions on a field type that has been read without its children. -/
def Shallow : TypeNode → Prop
  | integer t => t.Ordered
  | string t => ∀ format, t.format = some format → format.Proper
  | array t => t.items = none
  | object t => t.properties = []
  | _ => True

theorem ordered_of_ofFields (f : Fields) :
    Ensures (IntegerType.ofFields f) IntegerType.Ordered := by
  unfold IntegerType.ofFields
  -- Six keys are read before the bounds are compared.
  iterate 6 refine .bind fun _ _ => ?_
  dsimp only
  split
  · split
    · exact .error
    · next ordered =>
      refine .ok fun low high lowest highest => ?_
      cases lowest
      cases highest
      exact Int.not_lt.mp ordered
  · next unbounded =>
    exact .ok fun low high lowest highest => absurd highest (unbounded low high lowest)

theorem proper_of_ofFields (f : Fields) :
    Ensures (StringType.ofFields f) fun t => ∀ format, t.format = some format → format.Proper := by
  unfold StringType.ofFields
  iterate 10 refine .bind fun _ _ => ?_
  -- The format is looked up by its name, so another dialect is the last resort.
  refine .ok fun format given => ?_
  obtain ⟨name, _, rfl⟩ := Option.map_eq_some_iff.mp given
  rw [StringFormat.proper_iff, StringFormat.name_ofName]

theorem properties_of_ofFields (f : Fields) :
    Ensures (ObjectShape.ofFields f) fun t => t.properties = [] := by
  unfold ObjectShape.ofFields
  iterate 3 refine .bind fun _ _ => ?_
  exact .ok rfl

theorem shallow_of_ofMembers (tag : String) (members : List (String × Json)) :
    Ensures (ofMembers tag members) Shallow := by
  cases tag using tag_cases with
  | integer => exact .bind fun t read => .ok (ordered_of_ofFields _ t read)
  | string => exact .bind fun t read => .ok (proper_of_ofFields _ t read)
  | array => exact .bind fun _ _ => .bind fun _ _ => .bind fun _ _ => .ok rfl
  | object => exact .bind fun t read => .ok (properties_of_ofFields _ t read)
  | other tag unlisted =>
    rw [ofMembers_of_unlisted unlisted]
    split <;> exact .error
  -- The remaining variants have no conditions of their own.
  | _ =>
    repeat refine .bind fun _ _ => ?_
    exact .ok trivial

theorem shallow_of_parseShallow (value : Json) : Ensures (parseShallow value) Shallow :=
  .bind fun _ _ => .bind fun _ _ => shallow_of_ofMembers _ _

/-- A condition on field types that goes from the children to the whole. A type that was read
without its children satisfies it. -/
structure Hereditary (P : TypeNode → Prop) : Prop where
  shallow : ∀ {node : TypeNode}, node.Shallow → P node
  array : ∀ {t : ArrayType}, (∀ node, t.items = some node → P node) → P (array t)
  object : ∀ {t : ObjectType}, (Entries.keys t.properties).Nodup →
    (∀ name node, (name, node) ∈ t.properties → P node) → P (object t)

namespace Hereditary

variable {P : TypeNode → Prop}

/-- The properties inside a value satisfy the condition once everything smaller does. -/
theorem of_parseProperties {variant : String} {value : Json}
    (children : ∀ child, sizeOf child < sizeOf value → Ensures (parse child) P) :
    Ensures (parseProperties variant value) fun properties =>
      (Entries.keys properties).Nodup ∧ ∀ name node, (name, node) ∈ properties → P node := by
  rw [parseProperties_eq]
  refine .bind fun f _ => ?_
  split
  · exact .ok ⟨by simp [Entries.keys], by simp⟩
  · next members found =>
    intro properties read
    obtain ⟨entries, each, rfl⟩ := map_eq_ok_iff.mp read
    -- A repeated key keeps its place and its last value, so every property was read somewhere.
    refine ⟨Entries.nodup_keys_ofPairs entries, fun name node inside => ?_⟩
    obtain ⟨⟨key, child⟩, held, one⟩ :=
      mem_of_mapM_eq_ok each _ (Entries.mem_of_mem_ofPairs inside)
    obtain ⟨type, parsed, same⟩ := map_eq_ok_iff.mp one
    cases same
    refine children child ?_ node (mapError_eq_ok_iff.mp parsed)
    exact Nat.lt_trans (Json.sizeOf_lt_of_mem_members held) (Json.sizeOf_lt_of_get? found)
  · exact .error

/-- A node satisfies the condition with its children once everything smaller does. -/
theorem of_attachNode (hereditary : Hereditary P) {value : Json} {shallow : TypeNode}
    (own : shallow.Shallow)
    (children : ∀ child, sizeOf child < sizeOf value → Ensures (parse child) P) :
    Ensures (Definition.attachNode value shallow) P := by
  cases shallow with
  | array t =>
    simp only [Definition.attachNode]
    split
    · exact .ok (hereditary.shallow own)
    · next child found =>
      refine .bind fun items read => .ok (hereditary.array fun node given => ?_)
      cases given
      exact children child (Json.sizeOf_lt_of_get? found) items (mapError_eq_ok_iff.mp read)
  | object t =>
    refine .bind fun properties read => .ok ?_
    obtain ⟨distinct, each⟩ := of_parseProperties children properties read
    exact hereditary.object distinct each
  | _ => exact .ok (hereditary.shallow own)

/-- Every field type that is read satisfies the condition. -/
theorem of_parse (hereditary : Hereditary P) (value : Json) : Ensures (parse value) P := by
  -- By recursion on the size of the value; the children are smaller.
  intro node read
  rw [parse_eq] at read
  obtain ⟨shallow, first, second⟩ := bind_eq_ok_iff.mp read
  exact hereditary.of_attachNode (shallow_of_parseShallow value shallow first)
    (fun child smaller => of_parse hereditary child) node second
termination_by sizeOf value

theorem of_properties (hereditary : Hereditary P) {variant : String} {value : Json}
    {object : ObjectType} {properties : List (String × TypeNode)}
    (read : parseProperties variant value = .ok properties) :
    P (.object (object.withProperties properties)) := by
  obtain ⟨distinct, each⟩ :=
    of_parseProperties (fun child _ => hereditary.of_parse child) properties read
  exact hereditary.object distinct each

end Hereditary

/-- A field type is well formed, provided that its references can be read. -/
def Acceptable (node : TypeNode) : Prop :=
  (∀ reference ∈ node.dependencies, Reference.Formed reference) → node.WellFormed

theorem acceptable_array {t : ArrayType}
    (items : ∀ node, t.items = some node → node.Acceptable) : (array t).Acceptable := by
  intro formed
  refine .array fun node given => items node given fun reference held => formed reference ?_
  obtain ⟨description, inner, minLength, maxLength⟩ := t
  rw [dependencies]
  exact mem_itemDependencies.mpr ⟨node, given, held⟩

theorem acceptable_object {t : ObjectType} (distinct : (Entries.keys t.properties).Nodup)
    (properties : ∀ name node, (name, node) ∈ t.properties → node.Acceptable) :
    (object t).Acceptable := by
  intro formed
  refine .object distinct fun name node inside =>
    properties name node inside fun reference held => formed reference ?_
  rw [Definition.dependencies_object]
  exact mem_propertyDependencies.mpr ⟨name, node, inside, held⟩

theorem acceptable_of_shallow {node : TypeNode} (shallow : node.Shallow) : node.Acceptable := by
  cases node with
  | null t => exact fun _ => .null t
  | boolean t => exact fun _ => .boolean t
  | integer t => exact fun _ => .integer shallow
  | string t => exact fun _ => .string shallow
  | bytes t => exact fun _ => .bytes t
  | cidLink t => exact fun _ => .cidLink t
  | blob t => exact fun _ => .blob t
  | array t =>
    refine acceptable_array fun node given => ?_
    cases shallow.symm.trans given
  | object t =>
    have none : t.properties = [] := shallow
    exact acceptable_object (by simp [none, Entries.keys]) (by simp [none])
  | ref t =>
    intro formed
    exact .ref (formed t.target (by simp [dependencies]))
  | union t =>
    intro formed
    exact .union fun reference held => formed reference (by simpa [dependencies] using held)
  | unknown t => exact fun _ => .unknown t

theorem hereditary_acceptable : Hereditary Acceptable :=
  ⟨acceptable_of_shallow, acceptable_array, acceptable_object⟩

end TypeNode

/-! ### Definitions -/

namespace Definition

/-- All field types of a definition are acceptable. -/
def Acceptable (definition : Definition) : Prop :=
  ∀ node ∈ definition.nodes, node.Acceptable

/-- All field types of a definition have been read without their children. -/
def Shallow (definition : Definition) : Prop :=
  ∀ node ∈ definition.nodes, node.Shallow

/-- A tag is that of a record or an endpoint. -/
def PrimaryTag (tag : String) : Prop := tag ≠ "token" ∧ definitionTags.contains tag = true

theorem shallow_of_parseRecordObject (f : Fields) :
    Ensures (parseRecordObject f) fun object => (TypeNode.object object).Shallow := by
  unfold parseRecordObject
  split
  · exact .error
  · next raw found =>
    refine .bind fun node read => ?_
    -- The record is read as a field type first, and has to be an object then.
    have own := TypeNode.shallow_of_parseShallow raw node (mapError_eq_ok_iff.mp read)
    split
    · exact .ok own
    · exact .error

theorem shallow_of_parseParameters (f : Fields) :
    Ensures (parseParameters f) fun parameters =>
      ∀ node ∈ (parameters.map TypeNode.object).toList, node.Shallow := by
  unfold parseParameters
  split
  · exact .ok (by simp)
  · next raw found =>
    refine .mapError (.bind fun params _ => .bind fun tag _ => ?_)
    split
    · exact .error
    · refine .map fun object read node inside => ?_
      obtain rfl : node = .object object := by simpa using inside
      exact TypeNode.properties_of_ofFields _ object read

theorem schema_of_parseBody (f : Fields) (key : String) :
    Ensures (parseBody f key) fun body => body.bind (·.schema) = none := by
  unfold parseBody
  split
  · exact .ok rfl
  · refine .mapError ?_
    refine .bind fun _ _ => .bind fun _ _ => .bind fun _ _ => .ok rfl

theorem schema_of_parseMessage (f : Fields) :
    Ensures (parseMessage f) fun message => message.bind (·.schema) = none := by
  unfold parseMessage
  split
  · exact .ok rfl
  · exact .bind fun _ _ => .bind fun _ _ => .ok rfl

theorem rawTag_of_text {variant tag : String} {value : Json} {f : Fields}
    (opened : Fields.of variant value = .ok f) (tagged : f.text "type" = .ok tag) :
    Document.rawTag value = tag := by
  have found := (Fields.text_eq_ok_iff f "type").mp tagged
  cases value with
  | obj members =>
    cases opened
    simp only [Fields.raw?] at found
    simp [Document.rawTag, Json.get?, found, Json.asString?]
  | _ => cases opened

theorem shallow_of_parseShallow (value : Json) :
    Ensures (parseShallow value) fun definition =>
      definition.Shallow ∧ (definition.IsPrimary → PrimaryTag (Document.rawTag value)) := by
  refine .bind fun f opened => .bind fun tag tagged => .bind fun description _ => ?_
  rw [rawTag_of_text opened tagged]
  cases tag using tag_cases with
  | record =>
    refine .bind fun object read => .bind fun key _ => .ok ⟨?_, fun _ => ⟨by decide, by decide⟩⟩
    simpa [Shallow, nodes] using shallow_of_parseRecordObject _ object read
  | query =>
    refine .bind fun parameters read => .bind fun output written => .bind fun errors _ =>
      .ok ⟨?_, fun _ => ⟨by decide, by decide⟩⟩
    simpa [Shallow, nodes, schema_of_parseBody _ _ output written] using
      shallow_of_parseParameters _ parameters read
  | procedure =>
    refine .bind fun parameters read => .bind fun input given => .bind fun output written =>
      .bind fun errors _ => .ok ⟨?_, fun _ => ⟨by decide, by decide⟩⟩
    simpa [Shallow, nodes, schema_of_parseBody _ _ input given,
      schema_of_parseBody _ _ output written] using shallow_of_parseParameters _ parameters read
  | subscription =>
    refine .bind fun parameters read => .bind fun message written => .bind fun errors _ =>
      .ok ⟨?_, fun _ => ⟨by decide, by decide⟩⟩
    simpa [Shallow, nodes, schema_of_parseMessage _ message written] using
      shallow_of_parseParameters _ parameters read
  | token => exact .ok ⟨by simp [Shallow, nodes], False.elim⟩
  | type tag unlisted =>
    rw [ofTag_of_unlisted unlisted]
    refine .bind fun node read => .ok ⟨?_, False.elim⟩
    simpa [Shallow, nodes] using TypeNode.shallow_of_parseShallow value node read

/-! ### Attaching the children of definitions -/

theorem acceptable_of_attachParameters {value : Json} {parameters : Option ObjectType}
    (own : ∀ node ∈ (parameters.map TypeNode.object).toList, node.Shallow) :
    Ensures (attachParameters value parameters) fun full =>
      ∀ node ∈ (full.map TypeNode.object).toList, node.Acceptable := by
  cases parameters with
  | none => exact .ok (by simp)
  | some object =>
    simp only [attachParameters]
    split
    · exact .ok fun node inside => TypeNode.acceptable_of_shallow (own node inside)
    · refine .mapError (.bind fun properties read => .ok ?_)
      simpa using TypeNode.hereditary_acceptable.of_properties read

theorem acceptable_of_parseSchema (value : Json) :
    Ensures (parseSchema value) fun schema => ∀ node ∈ schema.toList, node.Acceptable := by
  unfold parseSchema
  split
  · exact .ok (by simp)
  · next raw found =>
    refine .mapError (.map fun schema read => ?_)
    simpa using TypeNode.hereditary_acceptable.of_parse raw schema read

theorem acceptable_of_attachBody {value : Json} {key : String} {body : Option Body}
    (own : ∀ node ∈ (body.bind (·.schema)).toList, node.Shallow) :
    Ensures (attachBody value key body) fun full =>
      ∀ node ∈ (full.bind (·.schema)).toList, node.Acceptable := by
  cases body with
  | none => exact .ok (by simp)
  | some body =>
    simp only [attachBody]
    split
    · exact .ok fun node inside => TypeNode.acceptable_of_shallow (own node inside)
    · next raw found =>
      exact .mapError (.bind fun schema read => .ok (acceptable_of_parseSchema raw schema read))

theorem acceptable_of_attachMessage {value : Json} {message : Option Message}
    (own : ∀ node ∈ (message.bind (·.schema)).toList, node.Shallow) :
    Ensures (attachMessage value message) fun full =>
      ∀ node ∈ (full.bind (·.schema)).toList, node.Acceptable := by
  cases message with
  | none => exact .ok (by simp)
  | some message =>
    simp only [attachMessage]
    split
    · exact .ok fun node inside => TypeNode.acceptable_of_shallow (own node inside)
    · next raw found =>
      exact .mapError (.bind fun schema read => .ok (acceptable_of_parseSchema raw schema read))

/-- A definition is acceptable with its children, and stays what it is. -/
theorem acceptable_of_attachChildren {value : Json} {definition : Definition}
    (own : definition.Shallow) :
    Ensures (attachChildren value definition) fun full =>
      full.Acceptable ∧ (full.IsPrimary → definition.IsPrimary) := by
  cases definition with
  | record description key object =>
    refine .bind fun properties read => .ok ⟨?_, fun _ => trivial⟩
    simpa [Acceptable, nodes] using
      TypeNode.hereditary_acceptable.of_properties (mapError_eq_ok_iff.mp read)
  | query description parameters output errors =>
    obtain ⟨ownParameters, ownOutput⟩ := List.forall_mem_append.mp own
    refine .bind fun parameters read => .bind fun output written => .ok ⟨?_, fun _ => trivial⟩
    exact List.forall_mem_append.mpr ⟨acceptable_of_attachParameters ownParameters _ read,
      acceptable_of_attachBody ownOutput _ written⟩
  | procedure description parameters input output errors =>
    obtain ⟨own, ownOutput⟩ := List.forall_mem_append.mp own
    obtain ⟨ownParameters, ownInput⟩ := List.forall_mem_append.mp own
    refine .bind fun parameters read => .bind fun input given => .bind fun output written =>
      .ok ⟨?_, fun _ => trivial⟩
    exact List.forall_mem_append.mpr ⟨List.forall_mem_append.mpr
      ⟨acceptable_of_attachParameters ownParameters _ read,
        acceptable_of_attachBody ownInput _ given⟩,
      acceptable_of_attachBody ownOutput _ written⟩
  | subscription description parameters message errors =>
    obtain ⟨ownParameters, ownMessage⟩ := List.forall_mem_append.mp own
    refine .bind fun message written => .bind fun parameters read => .ok ⟨?_, fun _ => trivial⟩
    exact List.forall_mem_append.mpr ⟨acceptable_of_attachParameters ownParameters _ read,
      acceptable_of_attachMessage ownMessage _ written⟩
  | token description => exact .ok ⟨by simp [Acceptable, nodes], id⟩
  | data node =>
    refine .bind fun full read => .ok ⟨?_, id⟩
    have acceptable := TypeNode.hereditary_acceptable.of_attachNode (own node (by simp [nodes]))
      (fun child _ => TypeNode.hereditary_acceptable.of_parse child) full read
    simpa [Acceptable, nodes] using acceptable

theorem Acceptable.wellFormed {definition : Definition} (acceptable : definition.Acceptable)
    (formed : ∀ reference ∈ definition.dependencies, Reference.Formed reference) :
    definition.WellFormed := by
  intro node held
  refine acceptable node held fun reference inside => formed reference ?_
  rw [dependencies_eq]
  exact List.mem_flatMap.mpr ⟨node, held, inside⟩

end Definition

/-! ### Documents -/

namespace Document

theorem noFragment_of_parseId (f : Fields) :
    Ensures (parseId f) fun id => (∃ text, Nsid.parse text = .ok id) ∧ id.fragment = none := by
  refine .bind fun text _ => .bind fun id parsed => ?_
  split
  · next main =>
    exact .ok ⟨⟨text, mapError_eq_ok_iff.mp parsed⟩, Option.isNone_iff_eq_none.mp main⟩
  · exact .error

/-- A definition is read without its children, and stands where it may. -/
theorem shallow_of_parseShallowEntry (entry : String × Json) :
    Ensures (parseShallowEntry entry) fun read =>
      read.2.Shallow ∧ (read.2.IsPrimary → read.1 = mainDefinition) := by
  obtain ⟨name, raw⟩ := entry
  simp only [parseShallowEntry]
  refine .mapError ?_
  split
  · exact .error
  · next placed =>
    refine .bind fun definition read => ?_
    obtain ⟨own, tagged⟩ := Definition.shallow_of_parseShallow raw definition read
    refine .ok ⟨own, fun primary => ?_⟩
    -- The place was checked by the raw tag, which is the tag that was read.
    obtain ⟨notToken, known⟩ := tagged primary
    simpa [notToken, List.contains_iff_mem.mp known] using placed

theorem acceptable_of_attachEntry (raws : List (String × Json)) {entry : String × Definition}
    (own : entry.2.Shallow) :
    Ensures (attachEntry raws entry) fun full =>
      full.1 = entry.1 ∧ full.2.Acceptable ∧ (full.2.IsPrimary → entry.2.IsPrimary) := by
  obtain ⟨name, shallow⟩ := entry
  simp only [attachEntry]
  refine .mapError (.bind fun full read => .ok ⟨rfl, ?_⟩)
  exact Definition.acceptable_of_attachChildren own full read

theorem acceptable_of_parseDefinitions (raws : List (String × Json)) :
    Ensures (parseDefinitions raws) fun definitions =>
      (Entries.keys definitions).Nodup ∧
        ∀ name definition, (name, definition) ∈ definitions →
          definition.Acceptable ∧ (definition.IsPrimary → name = mainDefinition) := by
  refine .bind fun shallow read => .bind fun full attached =>
    .ok ⟨Entries.nodup_keys_ofPairs full, fun name definition inside => ?_⟩
  -- Every definition comes from one entry in either pass.
  obtain ⟨⟨first, before⟩, held, attach⟩ :=
    mem_of_mapM_eq_ok attached _ (Entries.mem_of_mem_ofPairs inside)
  obtain ⟨raw, _, parsed⟩ := mem_of_mapM_eq_ok read _ (Entries.mem_of_mem_ofPairs held)
  obtain ⟨own, placed⟩ := shallow_of_parseShallowEntry raw _ parsed
  obtain ⟨rfl, acceptable, same⟩ := acceptable_of_attachEntry raws own _ attach
  exact ⟨acceptable, fun primary => placed (same primary)⟩

theorem formed_of_checkReferences {definitions : List (String × Definition)}
    (checked : checkReferences definitions = .ok ()) :
    ∀ name definition, (name, definition) ∈ definitions →
      ∀ reference ∈ definition.dependencies, Reference.Formed reference := by
  intro name definition inside reference held
  -- One check for each definition, and inside it one for each of its references.
  have each := forM_eq_ok_iff.mp (forM_eq_ok_iff.mp checked _ inside) reference held
  unfold checkReference at each
  split at each
  · next target parsed => exact ⟨target, parsed⟩
  · cases each

/-- Every document that is read is well formed. -/
theorem wellFormed_of_parse (value : Json) : Ensures (parse value) WellFormed := by
  refine .bind fun f _ => .bind fun lexicon _ => .bind fun id identified => .bind fun raws _ =>
    .bind fun definitions read => .bind fun revision _ => .bind fun description _ =>
    .bind fun _ checked => .ok ?_
  obtain ⟨identifier, noFragment⟩ := noFragment_of_parseId f id identified
  obtain ⟨distinct, each⟩ := acceptable_of_parseDefinitions raws definitions read
  exact {
    identifier, noFragment, distinct
    primary := fun name definition inside => (each name definition inside).2
    definitions := fun name definition inside =>
      (each name definition inside).1.wellFormed
        (formed_of_checkReferences checked name definition inside) }

theorem wellFormed_of_accepted {docs : List Document}
    (accepted : ∀ doc ∈ docs, ∃ value, parse value = .ok doc) : ∀ doc ∈ docs, doc.WellFormed := by
  intro doc inside
  obtain ⟨value, parsed⟩ := accepted doc inside
  exact wellFormed_of_parse value doc parsed

end Document

end Lexicon
