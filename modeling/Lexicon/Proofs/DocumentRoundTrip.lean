import Lexicon.Proofs.NsidText
import Lexicon.Proofs.ParsedDocuments
import Lexicon.Proofs.TypeRoundTrip

/-!
# Lexicon.Proofs.DocumentRoundTrip

Reading documents and writing them are inverse to each other.

## Main result

`Document.parse_and_toJson_inverse`: documents that are read are well
formed, and well-formed documents read back from what is written for them.
-/

namespace Lexicon

@[simp] theorem insideOf_ok {α : Type} (segment : String) (a : α) :
    insideOf segment (.ok a) = .ok a := rfl

namespace Definition

/-! ### The parts of a definition without their children -/

/-- A payload without its schema. -/
def bareBody (body : Body) : Body := { body with schema := none }

/-- A message without its schema. -/
def bareMessage (message : Message) : Message := { message with schema := none }

/-- An object without its properties. -/
def bareObject (object : ObjectType) : ObjectType := object.withProperties []

/-- A definition without the children of its field types. -/
def shallow : Definition → Definition
  | record description key object => record description key (bareObject object)
  | query description parameters output errors =>
    query description (parameters.map bareObject) (output.map bareBody) errors
  | procedure description parameters input output errors =>
    procedure description (parameters.map bareObject) (input.map bareBody) (output.map bareBody)
      errors
  | subscription description parameters message errors =>
    subscription description (parameters.map bareObject) (message.map bareMessage) errors
  | token description => token description
  | data node => data node.shallow

/-! ### Reading the parts -/

section Parts

variable (variant : String) {members : List (String × Json)}

theorem parseRecordObject_written {object : ObjectType}
    (wellFormed : (TypeNode.object object).WellFormed)
    (found : members.lookup "record" = some (object.toJson "object")) :
    parseRecordObject ⟨variant, members⟩ = .ok (bareObject object) := by
  have read := TypeNode.parseShallow_toJson wellFormed
  rw [TypeNode.toJson_object] at read
  simp only [parseRecordObject, Fields.raw?_mk, found, read]
  rfl

theorem parseParameters_written {parameters : Option ObjectType}
    (found : members.lookup "parameters" = parameters.map (ObjectShape.toJson "params")) :
    parseParameters ⟨variant, members⟩ = .ok (parameters.map bareObject) := by
  cases parameters with
  | none =>
    simp only [parseParameters, Fields.raw?_mk, found]
    rfl
  | some object =>
    -- The object of parameters goes by its own tag.
    have tag : Fields.text ⟨"params", TypeNode.header "params" object.description ++ object.keys⟩
        "type" = .ok "params" :=
      (Fields.text_eq_ok_iff _ "type").mpr (TypeNode.lookup_type _ _ _)
    simp only [parseParameters, Fields.raw?_mk, found, Option.map_some, ObjectShape.toJson_eq,
      Fields.of, ok_bind, tag, ObjectShape.ofFields_written]
    rfl

/-- The members of a payload. -/
def bodyMembers (body : Body) : List (String × Json) :=
  TypeNode.member "description" .str body.description ++
    TypeNode.member "encoding" .str (some body.encoding) ++
    TypeNode.member "schema" TypeNode.toJson body.schema

theorem bodyJson_eq (body : Body) : bodyJson body = .obj (bodyMembers body) := rfl

theorem parseBody_written {body : Option Body} {key : String}
    (found : members.lookup key = body.map bodyJson) :
    parseBody ⟨variant, members⟩ key = .ok (body.map bareBody) := by
  cases body with
  | none =>
    simp only [parseBody, Fields.raw?_mk, found]
    rfl
  | some body =>
    have encoding : Fields.text ⟨variant, bodyMembers body⟩ "encoding" = .ok body.encoding := by
      simp [Fields.text_eq_ok_iff, bodyMembers, List.lookup_append]
    have described : Fields.description ⟨variant, bodyMembers body⟩ = .ok body.description := by
      simp [bodyMembers, List.lookup_append]
    simp only [parseBody, Fields.raw?_mk, found, Option.map_some, bodyJson_eq, Fields.of, ok_bind,
      described, encoding]
    rfl

theorem parseMessage_written {message : Option Message}
    (found : members.lookup "message" = message.map messageJson) :
    parseMessage ⟨variant, members⟩ = .ok (message.map bareMessage) := by
  cases message with
  | none =>
    simp only [parseMessage, Fields.raw?_mk, found]
    rfl
  | some message =>
    simp only [parseMessage, Fields.raw?_mk, found, Option.map_some, messageJson, Fields.of]
    simp [List.lookup_append, bareMessage]

theorem parseErrorDecl_written (index : Nat) (e : ErrorDecl) :
    parseErrorDecl variant index (errorJson e) = .ok e := by
  let members := TypeNode.member "name" .str (some e.name) ++
    TypeNode.member "description" .str e.description
  have written : errorJson e = .obj members := rfl
  have named : Fields.text ⟨variant, members⟩ "name" = .ok e.name := by
    simp [Fields.text_eq_ok_iff, members, List.lookup_append]
  have described : Fields.description ⟨variant, members⟩ = .ok e.description := by
    simp [members, List.lookup_append]
  simp only [parseErrorDecl, written, Fields.of, insideOf_ok, ok_bind, named, described]
  rfl

theorem mapM_parseErrorDecl_written (errors : List ErrorDecl) (index : Nat) :
    ((errors.map errorJson).zipIdx index).mapM
      (fun entry => parseErrorDecl variant entry.2 entry.1) = .ok errors := by
  induction errors generalizing index with
  | nil => rfl
  | cons e rest ih =>
    rw [List.map_cons, List.zipIdx_cons, List.mapM_cons, parseErrorDecl_written, ok_bind, ih]
    rfl

theorem parseErrors_written {errors : List ErrorDecl}
    (found : members.lookup "errors" =
      (TypeNode.written? errors).map fun es => .arr (es.map errorJson)) :
    parseErrors ⟨variant, members⟩ = .ok errors := by
  cases errors with
  | nil =>
    simp only [parseErrors, Fields.raw?_mk, found]
    rfl
  | cons e rest =>
    have some : TypeNode.written? (e :: rest) = some (e :: rest) := rfl
    simp only [parseErrors, Fields.raw?_mk, found, some, Option.map_some]
    exact mapM_parseErrorDecl_written variant (e :: rest) 0

end Parts

/-! ### Attaching the parts -/

section Children

variable {members : List (String × Json)}

theorem attachParameters_written {parameters : Option ObjectType}
    (found : members.lookup "parameters" = parameters.map (ObjectShape.toJson "params"))
    (wellFormed : ∀ node ∈ (parameters.map TypeNode.object).toList, node.WellFormed) :
    attachParameters (.obj members) (parameters.map bareObject) = .ok parameters := by
  cases parameters with
  | none => rfl
  | some object =>
    have own : (TypeNode.object object).WellFormed := wellFormed _ (by simp)
    cases own with
    | object distinct properties =>
      simp only [attachParameters, Option.map_some, Json.get?, found]
      rw [TypeNode.parseProperties_toJson "params" "params" distinct fun name node inside =>
        (properties name node inside).parse_toJson]
      rfl

theorem parseSchema_written {value : Json} {schema : Option TypeNode}
    (found : value.get? "schema" = schema.map TypeNode.toJson)
    (wellFormed : ∀ node ∈ schema.toList, node.WellFormed) :
    parseSchema value = .ok schema := by
  cases schema with
  | none =>
    simp only [parseSchema, found]
    rfl
  | some node =>
    have read : TypeNode.parse node.toJson = .ok node := (wellFormed node (by simp)).parse_toJson
    simp only [parseSchema, found, Option.map_some, read]
    rfl

theorem attachBody_written {body : Option Body} {key : String}
    (found : members.lookup key = body.map bodyJson)
    (wellFormed : ∀ node ∈ (body.bind (·.schema)).toList, node.WellFormed) :
    attachBody (.obj members) key (body.map bareBody) = .ok body := by
  cases body with
  | none => rfl
  | some body =>
    have schema : parseSchema (bodyJson body) = .ok body.schema := by
      refine parseSchema_written ?_ wellFormed
      simp [bodyJson_eq, bodyMembers, Json.get?, List.lookup_append]
    simp only [attachBody, Option.map_some, Json.get?, found, schema]
    rfl

theorem attachMessage_written {message : Option Message}
    (found : members.lookup "message" = message.map messageJson)
    (wellFormed : ∀ node ∈ (message.bind (·.schema)).toList, node.WellFormed) :
    attachMessage (.obj members) (message.map bareMessage) = .ok message := by
  cases message with
  | none => rfl
  | some message =>
    have schema : parseSchema (messageJson message) = .ok message.schema := by
      refine parseSchema_written ?_ wellFormed
      simp [messageJson, Json.get?, List.lookup_append]
    simp only [attachMessage, Option.map_some, Json.get?, found, schema]
    rfl

end Children

/-! ### Definitions -/

/-- The members of an endpoint of any kind. -/
def endpointMembers (tag : String) (description : Option String) (parameters : Option ObjectType)
    (input output : Option Body) (message : Option Message) (errors : List ErrorDecl) :
    List (String × Json) :=
  TypeNode.header tag description ++ parametersMember parameters ++
    TypeNode.member "input" bodyJson input ++ TypeNode.member "output" bodyJson output ++
    TypeNode.member "message" messageJson message ++
    TypeNode.member "errors" (fun es => .arr (es.map errorJson)) (TypeNode.written? errors)

section Endpoint

variable (tag : String) (description : Option String) (parameters : Option ObjectType)
  (input output : Option Body) (message : Option Message) (errors : List ErrorDecl)

theorem errorsMember_eq :
    errorsMember errors = TypeNode.member "errors" (fun es => .arr (es.map errorJson))
      (TypeNode.written? errors) := by
  rw [TypeNode.member_written?]
  rfl

theorem toJson_query : (query description parameters output errors).toJson =
    .obj (endpointMembers "query" description parameters none output none errors) := by
  simp [toJson, endpointMembers, errorsMember_eq]

theorem toJson_procedure : (procedure description parameters input output errors).toJson =
    .obj (endpointMembers "procedure" description parameters input output none errors) := by
  simp [toJson, endpointMembers, errorsMember_eq]

theorem toJson_subscription : (subscription description parameters message errors).toJson =
    .obj (endpointMembers "subscription" description parameters none none message errors) := by
  simp [toJson, endpointMembers, errorsMember_eq]

/-- What the keys of an endpoint hold. -/
structure EndpointKeys (members : List (String × Json)) : Prop where
  description : members.lookup "description" = description.map .str
  parameters : members.lookup "parameters" = parameters.map (ObjectShape.toJson "params")
  input : members.lookup "input" = input.map bodyJson
  output : members.lookup "output" = output.map bodyJson
  message : members.lookup "message" = message.map messageJson
  errors : members.lookup "errors" =
    (TypeNode.written? errors).map fun es => .arr (es.map errorJson)

theorem endpointKeys : EndpointKeys description parameters input output message errors
    (endpointMembers tag description parameters input output message errors) := by
  constructor <;> simp [endpointMembers, parametersMember, List.lookup_append]

end Endpoint

theorem toJson_record (description key : Option String) (object : ObjectType) :
    (record description key object).toJson =
      .obj (TypeNode.header "record" description ++ (TypeNode.member "key" .str key ++
        TypeNode.member "record" (ObjectShape.toJson "object") (some object))) := by
  simp [toJson, TypeNode.member]

theorem kind_notMem_definitionTags (node : TypeNode) : node.kind ∉ definitionTags := by
  cases node <;> simp [TypeNode.kind, definitionTags]

theorem text_type_header (variant tag : String) (description : Option String)
    (rest : List (String × Json)) :
    Fields.text ⟨variant, TypeNode.header tag description ++ rest⟩ "type" = .ok tag :=
  (Fields.text_eq_ok_iff _ "type").mpr (TypeNode.lookup_type tag description rest)

theorem description_header (variant tag : String) (description : Option String)
    {rest : List (String × Json)} (absent : rest.lookup "description" = none) :
    Fields.description ⟨variant, TypeNode.header tag description ++ rest⟩ = .ok description := by
  simp [List.lookup_append, absent]

theorem lookup_description_keys (node : TypeNode) : node.keys.lookup "description" = none := by
  cases node <;>
    simp [TypeNode.keys, ObjectShape.keys, TypeNode.booleanMembers, TypeNode.integerMembers,
      TypeNode.stringMembers, List.lookup_append]

/-- A definition with the tag of a field type is that field type. -/
theorem parseShallow_of_unlisted {tag : String} (unlisted : tag ∉ definitionTags)
    (description : Option String) {rest : List (String × Json)}
    (absent : rest.lookup "description" = none) :
    parseShallow (.obj (TypeNode.header tag description ++ rest)) =
      (TypeNode.parseShallow (.obj (TypeNode.header tag description ++ rest))).map data := by
  simp only [parseShallow, Fields.of, ok_bind, text_type_header,
    description_header _ _ _ absent, ofTag_of_unlisted unlisted]
  rfl

/-- An endpoint is read by its tag. -/
theorem parseShallow_endpoint (tag : String) (description : Option String)
    (parameters : Option ObjectType) (input output : Option Body) (message : Option Message)
    (errors : List ErrorDecl) :
    let members := endpointMembers tag description parameters input output message errors
    parseShallow (.obj members) = ofTag (.obj members) ⟨tag, members⟩ description tag := by
  intro members
  have keys := endpointKeys tag description parameters input output message errors
  have tagged : Fields.text ⟨"definition", members⟩ "type" = .ok tag := by
    simp only [members, endpointMembers, List.append_assoc]
    exact text_type_header "definition" tag description _
  simp only [parseShallow, Fields.of, ok_bind, tagged, Fields.description_mk, keys.description,
    Fields.expect_text, members]

/-- What is written for a definition reads back without the children of its field types. -/
theorem parseShallow_toJson {definition : Definition} (wellFormed : definition.WellFormed) :
    parseShallow definition.toJson = .ok definition.shallow := by
  cases definition with
  | record description key object =>
    have own := wellFormed (.object object) (by simp [nodes])
    have absent : (TypeNode.member "key" .str key ++ TypeNode.member "record"
        (ObjectShape.toJson "object") (some object)).lookup "description" = none := by
      simp [List.lookup_append]
    simp only [toJson_record, parseShallow, Fields.of, ok_bind, text_type_header,
      description_header _ _ _ absent, ofTag]
    rw [parseRecordObject_written "record" own (by simp [List.lookup_append])]
    simp [List.lookup_append, shallow]
  | query description parameters output errors =>
    have keys := endpointKeys "query" description parameters none output none errors
    rw [toJson_query, parseShallow_endpoint]
    simp only [ofTag, parseParameters_written _ keys.parameters,
      parseBody_written _ keys.output, parseErrors_written _ keys.errors]
    rfl
  | procedure description parameters input output errors =>
    have keys := endpointKeys "procedure" description parameters input output none errors
    rw [toJson_procedure, parseShallow_endpoint]
    simp only [ofTag, parseParameters_written _ keys.parameters,
      parseBody_written _ keys.input, parseBody_written _ keys.output,
      parseErrors_written _ keys.errors]
    rfl
  | subscription description parameters message errors =>
    have keys := endpointKeys "subscription" description parameters none none message errors
    rw [toJson_subscription, parseShallow_endpoint]
    simp only [ofTag, parseParameters_written _ keys.parameters,
      parseMessage_written _ keys.message, parseErrors_written _ keys.errors]
    rfl
  | token description =>
    have written : (token description).toJson =
        .obj (TypeNode.header "token" description ++ []) := by simp [toJson]
    simp only [written, parseShallow, Fields.of, ok_bind, text_type_header,
      description_header _ _ _ List.lookup_nil]
    rfl
  | data node =>
    -- A field type is written as itself, so its tag decides that it is read as one.
    have read := TypeNode.parseShallow_toJson (wellFormed node (by simp [nodes]))
    rw [TypeNode.toJson_eq] at read
    rw [toJson, TypeNode.toJson_eq, parseShallow_of_unlisted (kind_notMem_definitionTags node) _
      (lookup_description_keys node), read]
    rfl

/-- Attaching the children to a definition without them gives the definition. -/
theorem attachChildren_toJson {definition : Definition} (wellFormed : definition.WellFormed) :
    attachChildren definition.toJson definition.shallow = .ok definition := by
  cases definition with
  | record description key object =>
    have own := wellFormed (.object object) (by simp [nodes])
    -- The properties are read from the record that stands inside the definition.
    have found : (record description key object).toJson.get? "record" =
        some (object.toJson "object") := by
      simp [toJson_record, Json.get?, List.lookup_append]
    cases own with
    | object distinct properties =>
      simp only [shallow, attachChildren, found]
      rw [Option.getD_some, TypeNode.parseProperties_toJson "object" "object" distinct
        fun name node inside => (properties name node inside).parse_toJson]
      rfl
  | query description parameters output errors =>
    obtain ⟨ownParameters, ownOutput⟩ := List.forall_mem_append.mp wellFormed
    have keys := endpointKeys "query" description parameters none output none errors
    rw [toJson_query, shallow, attachChildren,
      attachParameters_written keys.parameters ownParameters, ok_bind,
      attachBody_written keys.output ownOutput]
    rfl
  | procedure description parameters input output errors =>
    obtain ⟨own, ownOutput⟩ := List.forall_mem_append.mp wellFormed
    obtain ⟨ownParameters, ownInput⟩ := List.forall_mem_append.mp own
    have keys := endpointKeys "procedure" description parameters input output none errors
    rw [toJson_procedure, shallow, attachChildren,
      attachParameters_written keys.parameters ownParameters, ok_bind,
      attachBody_written keys.input ownInput, ok_bind, attachBody_written keys.output ownOutput]
    rfl
  | subscription description parameters message errors =>
    obtain ⟨ownParameters, ownMessage⟩ := List.forall_mem_append.mp wellFormed
    have keys := endpointKeys "subscription" description parameters none none message errors
    rw [toJson_subscription, shallow, attachChildren,
      attachMessage_written keys.message ownMessage, ok_bind,
      attachParameters_written keys.parameters ownParameters]
    rfl
  | token description => rfl
  | data node =>
    have read := (wellFormed node (by simp [nodes])).attachNode_toJson
    simp only [shallow, attachChildren, toJson, read]
    rfl

theorem rawTag_toJson (definition : Definition) :
    Document.rawTag definition.toJson = definition.kind := by
  cases definition with
  | data node =>
    rw [toJson, TypeNode.toJson_eq]
    rfl
  | _ => rfl

end Definition

/-! ### Documents -/

namespace Document

/-- The raw definitions of a document. -/
def rawsOf (definitions : List (String × Definition)) : List (String × Json) :=
  definitions.map fun entry => (entry.1, entry.2.toJson)

theorem parseShallowEntry_toJson {name : String} {definition : Definition}
    (wellFormed : definition.WellFormed)
    (primary : definition.IsPrimary → name = mainDefinition) :
    parseShallowEntry (name, definition.toJson) = .ok (name, definition.shallow) := by
  -- Nothing but a token or a field type may stand elsewhere than in the main place.
  have placed : (name ≠ mainDefinition && definition.kind ≠ "token" &&
      definitionTags.contains definition.kind) = false := by
    cases definition with
    | token description => simp [Definition.kind]
    | data node =>
      have unlisted := Definition.kind_notMem_definitionTags node
      simp [Definition.kind, unlisted]
    | _ => simp [primary trivial]
  simp only [parseShallowEntry, Definition.rawTag_toJson, placed,
    Definition.parseShallow_toJson wellFormed]
  rfl

theorem lookup_rawsOf {definitions : List (String × Definition)}
    (distinct : (Entries.keys definitions).Nodup) {name : String} {definition : Definition}
    (inside : (name, definition) ∈ definitions) :
    (rawsOf definitions).lookup name = some definition.toJson := by
  have keys : Entries.keys (rawsOf definitions) = Entries.keys definitions := by
    simp [rawsOf, Entries.keys]
  refine Entries.lookup_of_mem (keys ▸ distinct) ?_
  exact List.mem_map.mpr ⟨(name, definition), inside, rfl⟩

theorem attachEntry_toJson {definitions : List (String × Definition)}
    (distinct : (Entries.keys definitions).Nodup) {name : String} {definition : Definition}
    (inside : (name, definition) ∈ definitions) (wellFormed : definition.WellFormed) :
    attachEntry (rawsOf definitions) (name, definition.shallow) = .ok (name, definition) := by
  simp only [attachEntry, lookup_rawsOf distinct inside, Option.getD_some,
    Definition.attachChildren_toJson wellFormed]
  rfl

/-- Definitions in distinct places read back in both passes. -/
theorem parseDefinitions_rawsOf {definitions : List (String × Definition)}
    (distinct : (Entries.keys definitions).Nodup)
    (primary : ∀ name definition, (name, definition) ∈ definitions → definition.IsPrimary →
      name = mainDefinition)
    (wellFormed : ∀ name definition, (name, definition) ∈ definitions → definition.WellFormed) :
    parseDefinitions (rawsOf definitions) = .ok definitions := by
  -- The first pass reads every definition without its children, the second one attaches them.
  have first : (rawsOf definitions).mapM parseShallowEntry =
      .ok (definitions.map fun entry => (entry.1, entry.2.shallow)) :=
    mapM_map_eq_ok fun entry inside =>
      parseShallowEntry_toJson (wellFormed _ _ inside) (primary _ _ inside)
  have second : (definitions.map fun entry => (entry.1, entry.2.shallow)).mapM
      (attachEntry (rawsOf definitions)) = .ok definitions :=
    mapM_map_eq_ok_self fun entry inside =>
      attachEntry_toJson distinct inside (wellFormed _ _ inside)
  have keys : Entries.keys (definitions.map fun entry => (entry.1, entry.2.shallow)) =
      Entries.keys definitions := by
    simp [Entries.keys]
  rw [parseDefinitions, first, ok_bind, Entries.ofPairs_of_nodup (keys ▸ distinct), second,
    ok_bind, Entries.ofPairs_of_nodup distinct]
  rfl

theorem checkReferences_of_wellFormed {definitions : List (String × Definition)}
    (wellFormed : ∀ name definition, (name, definition) ∈ definitions → definition.WellFormed) :
    checkReferences definitions = .ok () := by
  -- One check for each definition, and inside it one for each of its references.
  refine forM_eq_ok_iff.mpr fun entry inside => forM_eq_ok_iff.mpr fun reference held => ?_
  obtain ⟨target, parsed⟩ := (wellFormed _ _ inside).formed reference held
  simp only [checkReference, parsed]

/-- The members of a document. -/
def members (doc : Document) : List (String × Json) :=
  TypeNode.member "lexicon" TypeNode.jsonOfUInt64 (some doc.lexicon) ++
    TypeNode.member "id" .str (some doc.id.text) ++
    TypeNode.member "revision" TypeNode.jsonOfUInt64 doc.revision ++
    TypeNode.member "description" .str doc.description ++
    TypeNode.member "defs" .obj (some (rawsOf doc.definitions))

theorem toJson_eq (doc : Document) : doc.toJson = .obj doc.members := rfl

section Keys

variable (variant : String) (doc : Document)

theorem parseVersion_members : parseVersion ⟨variant, doc.members⟩ = .ok doc.lexicon := by
  refine Fields.required_of_view _ _ _ ?_ (Fields.viewUInt64_jsonOfUInt64 doc.lexicon)
  simp [members, List.lookup_append]

theorem parseId_members {doc : Document} (wellFormed : doc.WellFormed) :
    parseId ⟨variant, doc.members⟩ = .ok doc.id := by
  obtain ⟨text, identified⟩ := wellFormed.identifier
  -- The identifier is written with its fragment, and there is none.
  have written : Fields.text ⟨variant, doc.members⟩ "id" = .ok doc.id.text := by
    rw [Fields.text_eq_ok_iff]
    simp [members, List.lookup_append]
  have main : doc.id.isMain = true := by
    rw [Nsid.isMain, wellFormed.noFragment]
    rfl
  simp only [parseId, written, ok_bind, Nsid.parse_text identified, mapError_ok, main, if_true]

theorem rawDefinitions_members :
    rawDefinitions ⟨variant, doc.members⟩ = .ok (rawsOf doc.definitions) := by
  have found : doc.members.lookup "defs" = some (.obj (rawsOf doc.definitions)) := by
    simp [members, List.lookup_append]
  simp only [rawDefinitions, Fields.raw?_mk, found]

theorem revision_members :
    Fields.uint64? ⟨variant, doc.members⟩ "revision" = .ok doc.revision := by
  simp [members, List.lookup_append]

theorem description_members :
    Fields.description ⟨variant, doc.members⟩ = .ok doc.description := by
  simp [members, List.lookup_append]

end Keys

/-- A well-formed document reads back from what is written for it. -/
theorem parse_toJson {doc : Document} (wellFormed : doc.WellFormed) :
    parse doc.toJson = .ok doc := by
  rw [toJson_eq, parse, Fields.of, ok_bind, parseVersion_members, ok_bind,
    parseId_members _ wellFormed, ok_bind, rawDefinitions_members, ok_bind,
    parseDefinitions_rawsOf wellFormed.distinct wellFormed.primary wellFormed.definitions,
    ok_bind, revision_members, ok_bind, description_members, ok_bind,
    checkReferences_of_wellFormed wellFormed.definitions]
  rfl

theorem accepted_of_wellFormed {docs : List Document} (wellFormed : ∀ doc ∈ docs, doc.WellFormed) :
    ∀ doc ∈ docs, ∃ value, parse value = .ok doc :=
  fun doc inside => ⟨doc.toJson, parse_toJson (wellFormed doc inside)⟩

/-- Reading and writing are inverse to each other: every document that is read is well formed, and
every well-formed document reads back from what is written for it. -/
theorem parse_and_toJson_inverse :
    (∀ value doc, parse value = .ok doc → doc.WellFormed) ∧
      ∀ doc : Document, doc.WellFormed → parse doc.toJson = .ok doc :=
  ⟨wellFormed_of_parse, fun _ => parse_toJson⟩

/-- A document of posts, which have tags and may reply to other posts. -/
def postDocument : Document where
  lexicon := 1
  id := { labels := ["com", "example"], name := "post", fragment := none }
  revision := none
  description := some "A post."
  definitions := [
    ("main", .record none (some "tid") {
      description := none
      required := ["tags"]
      nullable := []
      properties := [
        ("tags", .array ⟨none, some (.integer ⟨none, some 0, some 9, none, none, none⟩), none,
          some 3⟩),
        ("reply", .ref ⟨none, "#main"⟩)] }),
    ("end", .token none)]

theorem postDocument_wellFormed : postDocument.WellFormed where
  identifier := ⟨"com.example.post", by decide⟩
  noFragment := rfl
  distinct := by decide
  primary := by
    intro name definition inside primary
    simp only [postDocument, List.mem_cons, Prod.mk.injEq, List.not_mem_nil, or_false] at inside
    rcases inside with ⟨rfl, rfl⟩ | ⟨rfl, rfl⟩
    · rfl
    · cases primary
  definitions := by
    intro name definition inside node held
    simp only [postDocument, List.mem_cons, Prod.mk.injEq, List.not_mem_nil, or_false] at inside
    rcases inside with ⟨rfl, rfl⟩ | ⟨rfl, rfl⟩
    · obtain rfl := List.mem_singleton.mp held
      refine .object (by decide) fun field type found => ?_
      simp only [List.mem_cons, Prod.mk.injEq, List.not_mem_nil, or_false] at found
      rcases found with ⟨rfl, rfl⟩ | ⟨rfl, rfl⟩
      · refine .array ?_
        rintro node ⟨⟩
        refine .integer ?_
        rintro low high ⟨⟩ ⟨⟩
        decide
      · exact .ref ⟨.fragment "main", by decide⟩
    · cases held

theorem parse_and_toJson_inverse_postDocument :
    postDocument.WellFormed ∧ parse postDocument.toJson = .ok postDocument := by
  obtain ⟨read, back⟩ := parse_and_toJson_inverse
  have round := back _ postDocument_wellFormed
  exact ⟨read _ _ round, round⟩

end Document

end Lexicon
