import Mathlib.Data.Option.Basic
import Lexicon.Proofs.DefinitionPasses
import Lexicon.Proofs.FieldAgreement
import Lexicon.Proofs.ParsedDocuments

/-!
# Lexicon.Proofs.KnownKeys

Which keys of a document are read.

An object is read by looking up the keys that its tag knows. Most are read as
they are, and some as further objects. Two objects that agree on the known keys
are read alike, where a further object agrees if it is read alike itself.

## Main definitions

- `Role`, `KnownKeys`: what a value is read as, and the keys that are looked up in it.
- `Role.SameReading`: two values are read alike, whether that gives a result or an error.
- `KnownKeys.Agree`: two objects agree on the known keys.

## Main result

`Role.sameReading_obj`: objects that agree on their known keys are read alike.

## Proof strategy

A definition and a type node are read in passes, which have to be compared apart:
the children are looked up once more when they are attached. Which children
there are is known from what the first pass gave.
-/

namespace Lexicon

/-! ### Known keys -/

/-- What a JSON value of a document is read as. -/
inductive Role where
  | document
  | definition
  | node
  | parameters
  | body
  | message
  | declaredError
  /-- Definitions by name. -/
  | definitions
  /-- Types by the names of their properties. -/
  | properties
  /-- A list of declared errors. -/
  | errors
deriving DecidableEq, Repr

/-- The keys that are looked up in an object. -/
structure KnownKeys where
  /-- The keys whose values are read as they are. -/
  own : List String
  /-- The keys whose values have keys of their own. -/
  children : List (String × Role)

namespace KnownKeys

def all (keys : KnownKeys) : List String := keys.own ++ keys.children.map Prod.fst

/-- The keys of an object whose tag tells which ones are known. Without a tag there is nothing more
to look up. -/
def tagged (ofTag : String → KnownKeys) (members : List (String × Json)) : KnownKeys :=
  match (members.lookup "type").bind Json.asString? with
  | some tag => { ofTag tag with own := "type" :: (ofTag tag).own }
  | none => { own := ["type"], children := [] }

end KnownKeys

/-- The keys of a type node of the given tag. -/
def TypeNode.knownKeys (tag : String) : KnownKeys where
  own := ownKeys tag
  children :=
    match tag with
    | "array" => [("items", .node)]
    | "object" => [("properties", .properties)]
    | _ => []

/-- The keys of a definition of the given tag. -/
def Definition.knownKeys (tag : String) : KnownKeys where
  own := "description" :: (if tag = "record" then ["key"] else TypeNode.ownKeys tag)
  children :=
    match tag with
    | "record" => [("record", .node)]
    | "query" => [("parameters", .parameters), ("output", .body), ("errors", .errors)]
    | "procedure" =>
      [("parameters", .parameters), ("input", .body), ("output", .body), ("errors", .errors)]
    | "subscription" => [("parameters", .parameters), ("message", .message), ("errors", .errors)]
    | tag => (TypeNode.knownKeys tag).children

/-- The keys of parameters of the given tag, of which one is right. -/
def Definition.parameterKeys (tag : String) : KnownKeys :=
  match tag with
  | "params" =>
    { own := ["description", "required", "nullable"], children := [("properties", .properties)] }
  | _ => { own := [], children := [] }

/-- The keys that are looked up in an object by name. Dictionaries and lists have none: all of their
entries are read, in order. -/
def Role.known? (role : Role) (members : List (String × Json)) : Option KnownKeys :=
  match role with
  | document => some {
      own := ["lexicon", "id", "revision", "description"], children := [("defs", .definitions)] }
  | definition => some (.tagged Definition.knownKeys members)
  | node => some (.tagged TypeNode.knownKeys members)
  | parameters => some (.tagged Definition.parameterKeys members)
  | body => some { own := ["description", "encoding"], children := [("schema", .node)] }
  | message => some { own := ["description"], children := [("schema", .node)] }
  | declaredError => some { own := ["name", "description"], children := [] }
  | definitions | properties | errors => none

/-! ### Readers of optional parts -/

namespace Definition

/-- A part that may be absent. -/
def readOption {α : Type} (read : Json → Except ParseError α) :
    Option Json → Except ParseError (Option α)
  | none => .ok none
  | some raw => (read raw).map some

/-- Parameters without their properties. -/
def readParameters (raw : Json) : Except ParseError ObjectType := do
  let params ← Fields.of "params" raw
  let tag ← params.text "type"
  if tag ≠ "params" then .error (params.invalid "type" (.notParams tag))
  else ObjectShape.ofFields { params with variant := "object" }

/-- A payload without its schema. -/
def readBody (variant : String) (raw : Json) : Except ParseError Body := do
  let body ← Fields.of variant raw
  return { description := ← body.description, encoding := ← body.text "encoding", schema := none }

/-- A message without its schema. -/
def readMessage (variant : String) (raw : Json) : Except ParseError Message := do
  let message ← insideOf "message" (Fields.of variant raw)
  return { description := ← message.description, schema := none }

theorem insideOf_map {α β : Type} (segment : String) (result : Except ParseError α) (f : α → β) :
    insideOf segment (result.map f) = (insideOf segment result).map f := by
  cases result <;> rfl

theorem parseParameters_eq (f : Fields) :
    parseParameters f =
      readOption (fun raw => insideOf "parameters" (readParameters raw)) (f.raw? "parameters") := by
  unfold parseParameters
  cases f.raw? "parameters" with
  | none => rfl
  | some raw =>
    simp only [readOption, ← insideOf_map, readParameters]
    cases Fields.of "params" raw with
    | error e => rfl
    | ok params =>
      simp only [ok_bind]
      cases params.text "type" with
      | error e => rfl
      | ok tag =>
        simp only [ok_bind]
        split <;> rfl

theorem parseBody_eq (f : Fields) (key : String) :
    parseBody f key =
      readOption (fun raw => insideOf key (readBody f.variant raw)) (f.raw? key) := by
  unfold parseBody
  cases f.raw? key with
  | none => rfl
  | some raw =>
    simp only [readOption, ← insideOf_map, readBody]
    cases Fields.of f.variant raw with
    | error e => rfl
    | ok body =>
      simp only [ok_bind]
      cases body.description with
      | error e => rfl
      | ok description => cases body.text "encoding" <;> rfl

theorem parseMessage_eq (f : Fields) :
    parseMessage f = readOption (readMessage f.variant) (f.raw? "message") := by
  unfold parseMessage
  cases f.raw? "message" with
  | none => rfl
  | some raw =>
    simp only [readOption, readMessage]
    cases insideOf "message" (Fields.of f.variant raw) with
    | error e => rfl
    | ok message =>
      simp only [ok_bind]
      cases message.description <;> rfl

theorem parseSchema_eq (value : Json) :
    parseSchema value =
      readOption (fun raw => insideOf "schema" (TypeNode.parse raw)) (value.get? "schema") := by
  unfold parseSchema
  cases value.get? "schema" with
  | none => rfl
  | some raw => exact insideOf_map "schema" (TypeNode.parse raw) some

end Definition

/-! ### Values that are read alike -/

/-- Two values are read alike as type nodes. -/
structure TypeNode.SameReading (value other : Json) : Prop where
  shallow : parseShallow value = parseShallow other
  whole : parse value = parse other
  /-- The properties are read by themselves where an object is called for. -/
  properties : ∀ variant object, parseShallow value = .ok (.object object) →
    parseProperties variant value = parseProperties variant other

/-- Two values are read alike as definitions, in both passes. -/
structure Definition.SameReading (value other : Json) : Prop where
  tag : Document.rawTag value = Document.rawTag other
  shallow : parseShallow value = parseShallow other
  children : ∀ definition, parseShallow value = .ok definition →
    definition.attachChildren value = definition.attachChildren other

/-- Two values are read alike as parameters, in both passes. -/
structure Definition.SameParameters (value other : Json) : Prop where
  shallow : readParameters value = readParameters other
  properties : ∀ object, readParameters value = .ok object →
    TypeNode.parseProperties "params" value = TypeNode.parseProperties "params" other

/-- Two values are read alike in a role. -/
def Role.SameReading (role : Role) (value other : Json) : Prop :=
  match role with
  | document => Document.parse value = Document.parse other
  | definition => Definition.SameReading value other
  | node => TypeNode.SameReading value other
  | parameters => Definition.SameParameters value other
  | body => (∀ variant, Definition.readBody variant value = Definition.readBody variant other) ∧
      Definition.parseSchema value = Definition.parseSchema other
  | message =>
    (∀ variant, Definition.readMessage variant value = Definition.readMessage variant other) ∧
      Definition.parseSchema value = Definition.parseSchema other
  | declaredError => ∀ variant index,
      Definition.parseErrorDecl variant index value = Definition.parseErrorDecl variant index other
  | definitions => value = other ∨ ∃ raws others, value = .obj raws ∧ other = .obj others ∧
      Document.parseDefinitions raws = Document.parseDefinitions others
  | properties => value = other ∨ ∃ members others, value = .obj members ∧ other = .obj others ∧
      members.mapM TypeNode.parseProperty = others.mapM TypeNode.parseProperty
  | errors => value = other ∨ ∃ items others, value = .arr items ∧ other = .arr others ∧
      ∀ variant,
        items.zipIdx.mapM (fun (raw, index) => Definition.parseErrorDecl variant index raw) =
          others.zipIdx.mapM fun (raw, index) => Definition.parseErrorDecl variant index raw

theorem Role.SameReading.refl (role : Role) (value : Json) : role.SameReading value value := by
  cases role with
  | document => rfl
  | definition => exact ⟨rfl, rfl, fun _ _ => rfl⟩
  | node => exact ⟨rfl, rfl, fun _ _ _ => rfl⟩
  | parameters => exact ⟨rfl, fun _ _ => rfl⟩
  | body => exact ⟨fun _ => rfl, rfl⟩
  | message => exact ⟨fun _ => rfl, rfl⟩
  | declaredError => exact fun _ _ => rfl
  | definitions => exact .inl rfl
  | properties => exact .inl rfl
  | errors => exact .inl rfl

/-- Two objects agree on the known keys: what is read as it is is the same, and what has keys of its
own is read alike. -/
structure KnownKeys.Agree (keys : KnownKeys) (members others : List (String × Json)) : Prop where
  own : ∀ key ∈ keys.own, members.lookup key = others.lookup key
  children : ∀ key role, (key, role) ∈ keys.children →
    Option.Rel role.SameReading (members.lookup key) (others.lookup key)

namespace KnownKeys.Agree

variable {keys : KnownKeys} {ofTag : String → KnownKeys} {members others : List (String × Json)}

theorem fields (agree : keys.Agree members others) (variant : String) :
    Fields.AgreeOn keys.own ⟨variant, members⟩ ⟨variant, others⟩ := ⟨rfl, agree.own⟩

theorem lookup_type (agree : (tagged ofTag members).Agree members others) :
    members.lookup "type" = others.lookup "type" := by
  refine agree.own "type" ?_
  unfold tagged
  split <;> exact List.mem_cons_self

/-- Two objects agree on what their tag knows exactly if they agree on the rest of it. -/
theorem tagged_iff {tag : String} (found : members.lookup "type" = some (.str tag)) :
    (tagged ofTag members).Agree members others ↔
      members.lookup "type" = others.lookup "type" ∧ (ofTag tag).Agree members others := by
  have keys : tagged ofTag members = { ofTag tag with own := "type" :: (ofTag tag).own } := by
    simp only [tagged, found, Option.bind_some, Json.asString?]
  rw [keys]
  constructor
  · rintro ⟨own, children⟩
    obtain ⟨type, own⟩ := List.forall_mem_cons.mp own
    exact ⟨type, own, children⟩
  · rintro ⟨type, own, children⟩
    exact ⟨List.forall_mem_cons.mpr ⟨type, own⟩, children⟩

/-- The tag itself is read alike. -/
theorem type (agree : (tagged ofTag members).Agree members others) (variant : String) :
    Fields.AgreeOn ["type"] ⟨variant, members⟩ ⟨variant, others⟩ := by
  refine ⟨rfl, fun key inside => ?_⟩
  rw [List.mem_singleton.mp inside]
  exact agree.lookup_type

end KnownKeys.Agree

/-! ### Objects that agree -/

/-- Related values are both there or both absent. -/
theorem rel_cases {α : Type} {R : α → α → Prop} {value other : Option α}
    (related : Option.Rel R value other) :
    (value = none ∧ other = none) ∨ ∃ a b, value = some a ∧ other = some b ∧ R a b := by
  cases related with
  | none => exact .inl ⟨rfl, rfl⟩
  | some given => exact .inr ⟨_, _, rfl, rfl, given⟩

section Objects

variable {members others : List (String × Json)}

theorem Definition.readOption_congr {α : Type} {R : Json → Json → Prop}
    {read readOther : Json → Except ParseError α} {value other : Option Json}
    (related : Option.Rel R value other)
    (same : ∀ raw again, R raw again → read raw = readOther again) :
    readOption read value = readOption readOther other := by
  cases related with
  | none => rfl
  | some related => rw [readOption, readOption, same _ _ related]

namespace TypeNode

theorem kind_of_ofMembers (tag : String) (members : List (String × Json)) :
    Ensures (ofMembers tag members) fun node => node.kind = tag := by
  cases tag using tag_cases with
  | other tag unlisted =>
    rw [ofMembers_of_unlisted unlisted]
    split <;> exact .error
  | _ =>
    repeat refine .bind fun _ _ => ?_
    exact .ok rfl

theorem parseShallow_obj (members : List (String × Json)) :
    parseShallow (.obj members) =
      Fields.text ⟨"type", members⟩ "type" >>= fun tag => ofMembers tag members := rfl

/-- What is read as a node carries its tag. -/
theorem lookup_type_of_parseShallow {node : TypeNode}
    (read : parseShallow (.obj members) = .ok node) :
    members.lookup "type" = some (.str node.kind) := by
  obtain ⟨tag, tagged, read⟩ := bind_eq_ok_iff.mp (parseShallow_obj members ▸ read)
  rw [kind_of_ofMembers tag members node read]
  exact (Fields.text_eq_ok_iff _ _).mp tagged

theorem parseProperties_congr (variant : String)
    (related : Option.Rel (Role.SameReading .properties) (members.lookup "properties")
      (others.lookup "properties")) :
    parseProperties variant (.obj members) = parseProperties variant (.obj others) := by
  rw [parseProperties_eq, parseProperties_eq]
  simp only [Fields.of, Json.get?, Except.bind]
  rcases rel_cases related with ⟨absent, again⟩ | ⟨value, other, found, again, alike⟩
  · simp only [absent, again]
  · rw [found, again]
    rcases alike with rfl | ⟨entries, others, rfl, rfl, same⟩
    · cases value <;> rfl
    · simp only [same]

theorem attachNode_congr (agree : (KnownKeys.tagged knownKeys members).Agree members others)
    {node : TypeNode} (read : parseShallow (.obj members) = .ok node) :
    Definition.attachNode (.obj members) node = Definition.attachNode (.obj others) node := by
  have known := ((KnownKeys.Agree.tagged_iff (lookup_type_of_parseShallow read)).mp agree).2
  cases node with
  | array t =>
    have related := known.children "items" .node List.mem_cons_self
    rcases rel_cases related with ⟨absent, again⟩ | ⟨value, other, found, again, alike⟩
    · simp only [Definition.attachNode, Json.get?, absent, again]
    · simp only [Definition.attachNode, Json.get?, found, again, alike.whole]
  | object t =>
    have related := known.children "properties" .properties List.mem_cons_self
    simp only [Definition.attachNode, parseProperties_congr "object" related]
  | _ => rfl

theorem sameReading_obj (agree : (KnownKeys.tagged knownKeys members).Agree members others) :
    SameReading (.obj members) (.obj others) := by
  have shallow : parseShallow (.obj members) = parseShallow (.obj others) := by
    rw [parseShallow_obj, parseShallow_obj, ← (agree.type "type").text "type" List.mem_cons_self]
    cases tagged : Fields.text ⟨"type", members⟩ "type" with
    | error e => rfl
    | ok tag =>
      have found := (Fields.text_eq_ok_iff _ _).mp tagged
      exact ofMembers_congr ((KnownKeys.Agree.tagged_iff found).mp agree).2.own
  refine ⟨shallow, ?_, fun variant object read => ?_⟩
  · rw [parse_eq, parse_eq, ← shallow]
    cases read : parseShallow (.obj members) with
    | error e => rfl
    | ok node => exact attachNode_congr agree read
  · have known := ((KnownKeys.Agree.tagged_iff (lookup_type_of_parseShallow read)).mp agree).2
    exact parseProperties_congr variant (known.children "properties" .properties List.mem_cons_self)

end TypeNode

namespace Definition

theorem parseSchema_congr
    (related : Option.Rel (Role.SameReading .node) (members.lookup "schema")
      (others.lookup "schema")) :
    parseSchema (.obj members) = parseSchema (.obj others) := by
  rw [parseSchema_eq, parseSchema_eq]
  exact readOption_congr related fun raw again alike => by rw [TypeNode.SameReading.whole alike]

theorem sameParameters_obj (agree : (KnownKeys.tagged parameterKeys members).Agree members others) :
    SameParameters (.obj members) (.obj others) := by
  have tags := (agree.type "params").text "type" List.mem_cons_self
  -- Only the right tag leads on to the keys of an object.
  have known (tagged : Fields.text ⟨"params", members⟩ "type" = .ok "params") :
      (parameterKeys "params").Agree members others :=
    ((KnownKeys.Agree.tagged_iff ((Fields.text_eq_ok_iff _ _).mp tagged)).mp agree).2
  constructor
  · simp only [readParameters, Fields.of, ok_bind, ← tags]
    cases tagged : Fields.text ⟨"params", members⟩ "type" with
    | error e => rfl
    | ok tag =>
      by_cases params : tag = "params"
      · subst params
        simp only [ok_bind, ObjectShape.ofFields_congr ((known tagged).fields "object")]
        rfl
      · simp only [ok_bind, ne_eq, params, not_false_eq_true, if_true]
        rfl
  · intro object read
    obtain ⟨params, opened, read⟩ := bind_eq_ok_iff.mp read
    cases opened
    obtain ⟨tag, tagged, read⟩ := bind_eq_ok_iff.mp read
    split at read
    · cases read
    · next params =>
      rw [not_not.mp params] at tagged
      exact TypeNode.parseProperties_congr "params"
        ((known tagged).children "properties" .properties List.mem_cons_self)

theorem readBody_congr (variant : String)
    (agree : Fields.AgreeOn ["description", "encoding"] ⟨variant, members⟩ ⟨variant, others⟩) :
    readBody variant (.obj members) = readBody variant (.obj others) := by
  simp only [readBody, Fields.of, ok_bind, agree.description (by simp),
    agree.text "encoding" (by simp)]

theorem readMessage_congr (variant : String)
    (agree : Fields.AgreeOn ["description"] ⟨variant, members⟩ ⟨variant, others⟩) :
    readMessage variant (.obj members) = readMessage variant (.obj others) := by
  simp only [readMessage, Fields.of, insideOf, mapError_ok, ok_bind, agree.description (by simp)]

theorem parseErrorDecl_congr (variant : String) (index : Nat)
    (agree : Fields.AgreeOn ["name", "description"] ⟨variant, members⟩ ⟨variant, others⟩) :
    parseErrorDecl variant index (.obj members) = parseErrorDecl variant index (.obj others) := by
  simp only [parseErrorDecl, Fields.of, insideOf, mapError_ok, ok_bind, agree.text "name" (by simp),
    agree.description (by simp)]

/-! ### Definitions -/

section Parts

variable (variant : String)

theorem parseRecordObject_congr
    (related : Option.Rel (Role.SameReading .node) (members.lookup "record")
      (others.lookup "record")) :
    parseRecordObject ⟨variant, members⟩ = parseRecordObject ⟨variant, others⟩ := by
  rcases rel_cases related with ⟨absent, again⟩ | ⟨value, other, found, again, alike⟩
  · simp only [parseRecordObject, Fields.raw?, absent, again]
    rfl
  · simp only [parseRecordObject, Fields.raw?, found, again, alike.shallow]
    rfl

theorem parseParameters_congr
    (related : Option.Rel (Role.SameReading .parameters) (members.lookup "parameters")
      (others.lookup "parameters")) :
    parseParameters ⟨variant, members⟩ = parseParameters ⟨variant, others⟩ := by
  rw [parseParameters_eq, parseParameters_eq]
  exact readOption_congr related fun raw again alike => by rw [SameParameters.shallow alike]

theorem parseBody_congr {key : String}
    (related : Option.Rel (Role.SameReading .body) (members.lookup key) (others.lookup key)) :
    parseBody ⟨variant, members⟩ key = parseBody ⟨variant, others⟩ key := by
  rw [parseBody_eq, parseBody_eq]
  exact readOption_congr related fun raw again alike => by rw [alike.1]

theorem parseMessage_congr
    (related : Option.Rel (Role.SameReading .message) (members.lookup "message")
      (others.lookup "message")) :
    parseMessage ⟨variant, members⟩ = parseMessage ⟨variant, others⟩ := by
  rw [parseMessage_eq, parseMessage_eq]
  exact readOption_congr related fun raw again alike => alike.1 variant

theorem parseErrors_congr
    (related : Option.Rel (Role.SameReading .errors) (members.lookup "errors")
      (others.lookup "errors")) :
    parseErrors ⟨variant, members⟩ = parseErrors ⟨variant, others⟩ := by
  rcases rel_cases related with ⟨absent, again⟩ | ⟨value, other, found, again, alike⟩
  · simp only [parseErrors, Fields.raw?, absent, again]
  · simp only [parseErrors, Fields.raw?, found, again]
    rcases alike with rfl | ⟨items, others, rfl, rfl, same⟩
    · rfl
    · simp only [same]

end Parts

/-! ### Children of definitions -/

theorem properties_of_parseRecordObject (variant : String)
    (related : Option.Rel (Role.SameReading .node) (members.lookup "record")
      (others.lookup "record")) :
    Ensures (parseRecordObject ⟨variant, members⟩) fun _ =>
      TypeNode.parseProperties "object" ((members.lookup "record").getD .null) =
        TypeNode.parseProperties "object" ((others.lookup "record").getD .null) := by
  intro object read
  rcases rel_cases related with ⟨absent, _⟩ | ⟨value, other, found, again, alike⟩
  · simp only [parseRecordObject, Fields.raw?, absent] at read
    cases read
  · simp only [parseRecordObject, Fields.raw?, found] at read
    obtain ⟨node, shallow, read⟩ := bind_eq_ok_iff.mp read
    rw [found, again]
    split at read
    · exact alike.properties "object" _ (mapError_eq_ok_iff.mp shallow)
    · cases read

theorem attachParameters_congr (variant : String)
    (related : Option.Rel (Role.SameReading .parameters) (members.lookup "parameters")
      (others.lookup "parameters")) :
    Ensures (parseParameters ⟨variant, members⟩) fun parameters =>
      attachParameters (.obj members) parameters = attachParameters (.obj others) parameters := by
  intro parameters read
  cases parameters with
  | none => rfl
  | some object =>
    rcases rel_cases related with ⟨absent, again⟩ | ⟨value, other, found, again, alike⟩
    · simp only [attachParameters, Json.get?, absent, again]
    · simp only [parseParameters_eq, Fields.raw?, found, readOption] at read
      obtain ⟨first, shallow, same⟩ := map_eq_ok_iff.mp read
      cases same
      simp only [attachParameters, Json.get?, found, again,
        alike.properties object (mapError_eq_ok_iff.mp shallow)]

theorem attachBody_congr {key : String} (body : Option Body)
    (related : Option.Rel (Role.SameReading .body) (members.lookup key) (others.lookup key)) :
    attachBody (.obj members) key body = attachBody (.obj others) key body := by
  cases body with
  | none => rfl
  | some body =>
    rcases rel_cases related with ⟨absent, again⟩ | ⟨value, other, found, again, alike⟩
    · simp only [attachBody, Json.get?, absent, again]
    · simp only [attachBody, Json.get?, found, again, alike.2]

theorem attachMessage_congr (message : Option Message)
    (related : Option.Rel (Role.SameReading .message) (members.lookup "message")
      (others.lookup "message")) :
    attachMessage (.obj members) message = attachMessage (.obj others) message := by
  cases message with
  | none => rfl
  | some message =>
    rcases rel_cases related with ⟨absent, again⟩ | ⟨value, other, found, again, alike⟩
    · simp only [attachMessage, Json.get?, absent, again]
    · simp only [attachMessage, Json.get?, found, again, alike.2]

/-! ### Whole definitions -/

/-- Where a definition is a type, its keys are those of the type, and the documentation. -/
theorem knownKeys_of_unlisted {tag : String} (unlisted : tag ∉ definitionTags) :
    knownKeys tag =
      { TypeNode.knownKeys tag with own := "description" :: TypeNode.ownKeys tag } := by
  have noRecord : tag ≠ "record" := by
    rintro rfl
    exact unlisted (by decide)
  unfold knownKeys
  rw [if_neg noRecord]
  split <;> first | exact absurd (by decide) unlisted | rfl

theorem agree_node {tag : String} (known : (knownKeys tag).Agree members others)
    (unlisted : tag ∉ definitionTags) : (TypeNode.knownKeys tag).Agree members others := by
  rw [knownKeys_of_unlisted unlisted] at known
  exact ⟨fun key inside => known.own key (List.mem_cons_of_mem _ inside), known.children⟩

theorem parseShallow_congr (agree : (KnownKeys.tagged knownKeys members).Agree members others) :
    parseShallow (.obj members) = parseShallow (.obj others) := by
  simp only [parseShallow, Fields.of, ok_bind,
    ← (agree.type "definition").text "type" List.mem_cons_self]
  cases tagged : Fields.text ⟨"definition", members⟩ "type" with
  | error e => rfl
  | ok tag =>
    have found := (Fields.text_eq_ok_iff _ _).mp tagged
    obtain ⟨type, known⟩ := (KnownKeys.Agree.tagged_iff found).mp agree
    simp only [ok_bind, ← (known.fields "definition").description List.mem_cons_self]
    congr 1
    funext description
    -- Each tag has children of its own.
    cases tag using tag_cases with
    | record =>
      simp only [ofTag,
        parseRecordObject_congr _ (known.children "record" .node (by simp [knownKeys])),
        (known.fields "record").text? "key" (by simp [knownKeys])]
    | query =>
      simp only [ofTag,
        parseParameters_congr _ (known.children "parameters" .parameters (by simp [knownKeys])),
        parseBody_congr _ (known.children "output" .body (by simp [knownKeys])),
        parseErrors_congr _ (known.children "errors" .errors (by simp [knownKeys]))]
    | procedure =>
      simp only [ofTag,
        parseParameters_congr _ (known.children "parameters" .parameters (by simp [knownKeys])),
        parseBody_congr _ (known.children "input" .body (by simp [knownKeys])),
        parseBody_congr _ (known.children "output" .body (by simp [knownKeys])),
        parseErrors_congr _ (known.children "errors" .errors (by simp [knownKeys]))]
    | subscription =>
      simp only [ofTag,
        parseParameters_congr _ (known.children "parameters" .parameters (by simp [knownKeys])),
        parseMessage_congr _ (known.children "message" .message (by simp [knownKeys])),
        parseErrors_congr _ (known.children "errors" .errors (by simp [knownKeys]))]
    | token => rfl
    | type tag unlisted =>
      have node := agree_node known unlisted
      have same := (TypeNode.sameReading_obj
        ((KnownKeys.Agree.tagged_iff found).mpr ⟨type, node⟩)).shallow
      rw [ofTag_of_unlisted unlisted, ofTag_of_unlisted unlisted, same]

theorem attachChildren_congr (agree : (KnownKeys.tagged knownKeys members).Agree members others) :
    Ensures (parseShallow (.obj members)) fun definition =>
      definition.attachChildren (.obj members) = definition.attachChildren (.obj others) := by
  refine .bind fun f opened => .bind fun tag tagged => .bind fun description _ => ?_
  cases opened
  have found := (Fields.text_eq_ok_iff _ _).mp tagged
  obtain ⟨type, known⟩ := (KnownKeys.Agree.tagged_iff found).mp agree
  cases tag using tag_cases with
  | record =>
    have related := known.children "record" .node (by simp [knownKeys])
    refine .bind fun object read => .bind fun key _ => .ok ?_
    simp only [attachChildren, Json.get?, properties_of_parseRecordObject _ related object read]
  | query =>
    have output := known.children "output" .body (by simp [knownKeys])
    refine .bind fun parameters read => .bind fun body _ => .bind fun errors _ => .ok ?_
    simp only [attachChildren, attachBody_congr body output,
      attachParameters_congr _ (known.children "parameters" .parameters (by simp [knownKeys]))
        parameters read]
  | procedure =>
    have input := known.children "input" .body (by simp [knownKeys])
    have output := known.children "output" .body (by simp [knownKeys])
    refine .bind fun parameters read => .bind fun given _ => .bind fun body _ =>
      .bind fun errors _ => .ok ?_
    simp only [attachChildren, attachBody_congr given input, attachBody_congr body output,
      attachParameters_congr _ (known.children "parameters" .parameters (by simp [knownKeys]))
        parameters read]
  | subscription =>
    have related := known.children "message" .message (by simp [knownKeys])
    refine .bind fun parameters read => .bind fun message _ => .bind fun errors _ => .ok ?_
    simp only [attachChildren, attachMessage_congr message related,
      attachParameters_congr _ (known.children "parameters" .parameters (by simp [knownKeys]))
        parameters read]
  | token => exact .ok rfl
  | type tag unlisted =>
    have node := agree_node known unlisted
    rw [ofTag_of_unlisted unlisted]
    refine .bind fun shallow read => .ok ?_
    simp only [attachChildren, TypeNode.attachNode_congr
      ((KnownKeys.Agree.tagged_iff found).mpr ⟨type, node⟩) read]

theorem sameReading_obj (agree : (KnownKeys.tagged knownKeys members).Agree members others) :
    SameReading (.obj members) (.obj others) where
  tag := by simp only [Document.rawTag, Json.get?, agree.lookup_type]
  shallow := parseShallow_congr agree
  children := attachChildren_congr agree

end Definition

/-! ### Whole documents -/

namespace Document

theorem parse_congr {keys : KnownKeys} (known : Role.document.known? members = some keys)
    (agree : keys.Agree members others) : parse (.obj members) = parse (.obj others) := by
  cases known
  have fields := agree.fields "document"
  have related := agree.children "defs" .definitions (by simp)
  -- The definitions are looked up and read at once.
  have read : (rawDefinitions ⟨"document", members⟩ >>= parseDefinitions) =
      rawDefinitions ⟨"document", others⟩ >>= parseDefinitions := by
    rcases rel_cases related with ⟨absent, again⟩ | ⟨value, other, found, again, alike⟩
    · simp only [rawDefinitions, Fields.raw?, absent, again]
      rfl
    · simp only [rawDefinitions, Fields.raw?, found, again]
      rcases alike with rfl | ⟨raws, others, rfl, rfl, same⟩
      · cases value <;> rfl
      · exact same
  simp only [parse, Fields.of, ok_bind, parseVersion_congr fields (by simp),
    parseId_congr fields (by simp), fields.uint64? "revision" (by simp),
    fields.description (by simp)]
  congr 1
  funext lexicon
  congr 1
  funext id
  simp only [← bind_assoc, read]

/-- A definition may be replaced by one that is read alike. The names are distinct, so its children
are found under its name. -/
theorem parseDefinitions_replaced {before after : List (String × Json)} {name : String}
    {raw other : Json} (distinct : (Entries.keys (before ++ (name, raw) :: after)).Nodup)
    (alike : Definition.SameReading raw other) :
    parseDefinitions (before ++ (name, raw) :: after) =
      parseDefinitions (before ++ (name, other) :: after) := by
  have first : parseShallowEntry (name, raw) = parseShallowEntry (name, other) := by
    simp only [parseShallowEntry, alike.tag, alike.shallow]
  have otherDistinct : (Entries.keys (before ++ (name, other) :: after)).Nodup := by
    simpa [Entries.keys] using distinct
  simp only [parseDefinitions, ← mapM_replaced first]
  cases passed : (before ++ (name, raw) :: after).mapM parseShallowEntry with
  | error e => rfl
  | ok shallow =>
    -- Every definition of the first pass gets the same children.
    have second : ∀ entry ∈ Entries.ofPairs shallow,
        attachEntry (before ++ (name, raw) :: after) entry =
          attachEntry (before ++ (name, other) :: after) entry := by
      rintro ⟨called, definition⟩ inside
      obtain ⟨⟨origin, source⟩, held, given⟩ :=
        mem_of_mapM_eq_ok passed _ (Entries.mem_of_mem_ofPairs inside)
      obtain ⟨rfl, read⟩ := of_parseShallowEntry _ _ given
      dsimp only at held read
      by_cases same : called = name
      · subst called
        have found : (before ++ (name, raw) :: after).lookup name = some raw :=
          Entries.lookup_of_mem distinct (by simp)
        have foundOther : (before ++ (name, other) :: after).lookup name = some other :=
          Entries.lookup_of_mem otherDistinct (by simp)
        cases found.symm.trans (Entries.lookup_of_mem distinct held)
        simp only [attachEntry, found, foundOther, Option.getD_some, alike.children _ read]
      · simp only [attachEntry, Entries.lookup_replace_of_ne raw other same]
    simp only [ok_bind, mapM_congr second]

end Document

/-! ### Objects of any role -/

theorem Role.sameReading_obj {role : Role} {keys : KnownKeys}
    (known : role.known? members = some keys) (agree : keys.Agree members others) :
    role.SameReading (.obj members) (.obj others) := by
  cases role with
  | document => exact Document.parse_congr known agree
  | definition =>
    cases known
    exact Definition.sameReading_obj agree
  | node =>
    cases known
    exact TypeNode.sameReading_obj agree
  | parameters =>
    cases known
    exact Definition.sameParameters_obj agree
  | body =>
    cases known
    exact ⟨fun variant => Definition.readBody_congr variant (agree.fields variant),
      Definition.parseSchema_congr (agree.children "schema" .node List.mem_cons_self)⟩
  | message =>
    cases known
    exact ⟨fun variant => Definition.readMessage_congr variant (agree.fields variant),
      Definition.parseSchema_congr (agree.children "schema" .node List.mem_cons_self)⟩
  | declaredError =>
    cases known
    exact fun variant index => Definition.parseErrorDecl_congr variant index (agree.fields variant)
  | definitions | properties | errors => cases known

end Objects

end Lexicon
