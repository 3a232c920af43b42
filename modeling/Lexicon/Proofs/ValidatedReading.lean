import Lexicon.Proofs.DocumentRoundTrip
import Lexicon.Proofs.GeneratedReading
import Lexicon.Proofs.HopBudget

/-!
# Lexicon.Proofs.ValidatedReading

Validated data can be read by generated code.

## Main result

`TypeMapper.structReader_ok_of_valid`: a value without violations of the
definition of a record or an object is read by its struct.

## Proof strategy

By induction on conformance. The type mapper may give up following references
before the validator does, since it counts them through arrays; then it reads
any value at all, so nothing has to be known about its count.
-/

namespace Lexicon

/-! ### Values with small integers -/

/-- All integers of a value fit a signed 64-bit word. -/
inductive Json.IntegersFit : Json → Prop where
  | null : IntegersFit .null
  | bool (b : Bool) : IntegersFit (.bool b)
  | int {n : Int} (low : Int64.minValue.toInt ≤ n) (high : n ≤ Int64.maxValue.toInt) :
      IntegersFit (.int n)
  | real (x : Binary64) : IntegersFit (.real x)
  | str (s : String) : IntegersFit (.str s)
  | arr {elements : List Json} (each : ∀ element ∈ elements, IntegersFit element) :
      IntegersFit (.arr elements)
  | obj {members : List (String × Json)}
      (each : ∀ key value, (key, value) ∈ members → IntegersFit value) :
      IntegersFit (.obj members)

/-! ### Plain values -/

namespace Reader

theorem integer_succeeds {n : Int} (fits : (Json.int n).IntegersFit) :
    Succeeds (integer (.int n)) := by
  cases fits with
  | int low high =>
    have viewed : (Json.int n).asInt64? = some (Int64.ofInt n) := by
      simp only [Json.asInt64?, if_pos (And.intro low high)]
    exact ⟨Int64.ofInt n, by rw [integer, viewed]⟩

theorem datetime_succeeds {s : String} (admitted : StringFormat.datetime.admits? s = some true) :
    Succeeds (datetime (.str s)) := by
  have read : (Datetime.parse s).isOk = true := Option.some.inj admitted
  refine Succeeds.mapError ?_ _
  cases parsed : Datetime.parse s with
  | ok t => exact ⟨t, rfl⟩
  | error e => simp [parsed, Except.isOk, Except.toBool] at read

theorem bytes_succeeds {value : Json} {s : String} {decoded : List UInt8}
    (encodes : BytesType.Encodes value s) (decodes : Base64.decode s = .ok decoded) :
    Succeeds (bytes value) := by
  have text : Succeeds (Reader.decoded s) := Succeeds.mapError ⟨decoded, decodes⟩ _
  cases encodes with
  | text s => exact text
  | member tagged => simpa only [bytes, tagged] using text

theorem cidLink_succeeds {value : Json} (links : CidLinkType.Links value) :
    Succeeds (cidLink value) := by
  cases links with
  | @intro members cid tagged valid => exact ⟨cid, by simp only [cidLink, tagged]⟩

theorem required_succeeds {α : Type} {members : List (String × Json)} {field : String}
    {value : Json} {read : Reader α} (found : members.lookup field = some value)
    (given : Succeeds (read value)) : Succeeds (required members field read) := by
  simpa only [required, found] using given.mapError _

theorem blob_succeeds {members : List (String × Json)} {mimeType : String} {size : Nat}
    (describes : BlobType.Describes members mimeType size) :
    Succeeds (blob (.obj members)) := by
  obtain ⟨link, referred, links⟩ := describes.reference
  obtain ⟨sized, bounded⟩ := describes.size
  have natural : Succeeds (natural (.int size)) :=
    ⟨UInt64.ofNat size, by rw [Reader.natural, Json.asUInt64?_natCast bounded]⟩
  simp only [blob, object, ok_bind, describes.tag, Option.bind_some, Json.asString?, if_true]
  refine (required_succeeds referred (cidLink_succeeds links)).bind fun cid => ?_
  refine (required_succeeds describes.mimeType ⟨mimeType, rfl⟩).bind fun mimeType => ?_
  refine (required_succeeds sized natural).bind fun size => ⟨_, rfl⟩

theorem elements_succeeds {α : Type} {read : Reader α} {values : List Json}
    (each : ∀ value ∈ values, Succeeds (read value)) (index : Nat) :
    Succeeds (elements read index values) := by
  induction values generalizing index with
  | nil => exact ⟨[], rfl⟩
  | cons value rest ih =>
    rw [elements]
    refine ((each value List.mem_cons_self).mapError _).bind fun head => ?_
    refine (ih (fun later inside => each later (List.mem_cons_of_mem _ inside)) _).bind ?_
    exact fun tail => ⟨_, rfl⟩

end Reader

/-- A field is read if it is there when it has to be, and if its value can be read unless it is a
`null` that may be there. -/
theorem Presence.read_succeeds {isRequired isNullable : Bool} {members : List (String × Json)}
    {field : String} {read : Reader ReadValue}
    (there : isRequired = true → ∃ value, members.lookup field = some value)
    (each : ∀ value, members.lookup field = some value →
      (value = .null ∧ isNullable = true) ∨ Succeeds (read value)) :
    Succeeds ((Presence.ofFlags isRequired isNullable).read members field read) := by
  -- One case for each of the readers; the flags decide between them.
  cases isRequired with
  | true =>
    obtain ⟨value, found⟩ := there rfl
    cases isNullable with
    | false =>
      rcases each value found with ⟨_, impossible⟩ | given
      · cases impossible
      · exact Reader.required_succeeds found given
    | true =>
      refine (Reader.required_succeeds found ?_).map _
      rcases each value found with ⟨rfl, _⟩ | given
      · exact ⟨none, rfl⟩
      · cases value with
        | null => exact ⟨none, rfl⟩
        | _ => exact given.map _
  | false =>
    refine Succeeds.map ?_ _
    cases found : members.lookup field with
    | none => exact ⟨none, by simp only [Reader.optional, found]⟩
    | some value =>
      cases value with
      | null => exact ⟨none, by simp only [Reader.optional, found]⟩
      | _ =>
        rcases each _ found with ⟨impossible, _⟩ | given
        · cases impossible
        · simpa only [Reader.optional, found] using (given.map some).mapError _

/-! ### Mappings -/

/-- The struct reader of a mapping reads a value. -/
def Mapping.Reads (mapper : TypeMapper) (mapping : Mapping) (value : Json) : Prop :=
  Succeeds (mapping.reader.run (TypeMapper.structNamed mapper.fromValue mapping.core?) value)

namespace Mapping

variable {mapper : TypeMapper} {value : Json}

theorem reads_plain {reader : PlainReader} (given : Succeeds (reader.read value)) :
    (Mapping.plain reader).Reads mapper value := given

theorem reads_unknown : Mapping.unknown.Reads mapper value := ⟨.json value, rfl⟩

theorem reads_struct {id : Nsid} {external : Bool} (given : Succeeds (mapper.fromValue id value)) :
    (Mapping.struct id external).Reads mapper value := by
  simpa only [Reads, reader, ReaderExpr.run, core?, TypeMapper.structNamed, if_pos] using given

theorem reads_list {item : Mapping} {elements : List Json}
    (each : ∀ element ∈ elements, item.Reads mapper element) :
    (Mapping.list item).Reads mapper (.arr elements) :=
  (Reader.elements_succeeds each 0).map _

end Mapping

/-! ### Definitions of structs -/

namespace Definition

variable {definition : Definition} {object : ObjectType}

/-- What has an object is the object itself or a record of it. -/
theorem object?_eq_some_iff : definition.object? = some object ↔
    definition = .data (.object object) ∨
      ∃ description key, definition = .record description key object := by
  cases definition with
  | record description key held => simp [object?]
  | data node => cases node <;> simp [object?]
  | _ => simp [object?]

theorem dataType?_of_object? (struct : definition.object? = some object) :
    definition.dataType? = some (.object object) := by
  rcases object?_eq_some_iff.mp struct with rfl | ⟨description, key, rfl⟩ <;> rfl

theorem structParts?_of_object? (struct : definition.object? = some object) :
    ∃ key, SourceModule.structParts? definition = some (object, key) := by
  rcases object?_eq_some_iff.mp struct with rfl | ⟨description, key, rfl⟩
  · exact ⟨none, rfl⟩
  · exact ⟨key, rfl⟩

theorem WellFormed.distinct_of_object? (wellFormed : definition.WellFormed)
    (struct : definition.object? = some object) : (Entries.keys object.properties).Nodup := by
  have own : (TypeNode.object object).WellFormed := by
    refine wellFormed _ ?_
    rcases object?_eq_some_iff.mp struct with rfl | ⟨description, key, rfl⟩ <;> simp [nodes]
  cases own with
  | object distinct properties => exact distinct

end Definition

/-! ### Registered documents -/

theorem Registry.get?_congr {registry : Registry} {id other : Nsid}
    (same : id.base = other.base) : registry.get? id = registry.get? other := by
  simp only [get?, same]

/-- References inside a registered document lead to registered documents. -/
theorem Resolves.owner_held {registry : Registry} {given : Option Registry}
    {doc owner : Document} {text : String} {definition : Definition}
    (known : given = some registry) (held : registry.get? doc.id = some doc)
    (resolves : Resolves given (some doc) text owner definition) :
    registry.get? owner.id = some owner := by
  obtain ⟨id, _, owned, base, _⟩ := resolves.absolute (Registry.fragment_of_get? held)
  subst known
  unfold TypeMapper.owner? at owned
  split at owned
  · cases owned
    exact held
  · rw [← base, ← owned]
    exact Registry.get?_congr rfl

/-! ### Structs -/

namespace TypeMapper

variable {mapper : TypeMapper} {doc : Document} {object : ObjectType}
  {members : List (String × Json)}

/-- A box is read as what is inside it. -/
theorem run_stored (structs : String → Reader ReadValue) (id : Nsid) (mapping : Mapping) :
    (Declaration.stored mapper doc id mapping).2.run structs = mapping.reader.run structs := by
  unfold Declaration.stored
  split <;> rfl

/-- A struct reads an object with all required members, each of which is readable or a `null` that
may be there. -/
theorem structReader_succeeds {definition : Definition} (struct : definition.object? = some object)
    (distinct : (Entries.keys object.properties).Nodup)
    (there : ∀ field ∈ object.required, ∃ value, members.lookup field = some value)
    (each : ∀ field node value, object.property? field = some node →
      members.lookup field = some value →
      (value = .null ∧ field ∈ object.nullable) ∨ (mapper.map node doc).Reads mapper value)
    (id : Nsid) : Succeeds (mapper.structReader doc id definition (.obj members)) := by
  obtain ⟨key, parts⟩ := Definition.structParts?_of_object? struct
  simp only [structReader, structStep, parts, Reader.object, ok_bind]
  refine Succeeds.bind (Succeeds.mapM fun field inside => ?_) fun read => ⟨_, rfl⟩
  obtain ⟨⟨⟨property, node⟩, ident⟩, zipped, rfl⟩ := List.mem_map.mp inside
  have declared : object.property? property = some node :=
    Entries.lookup_of_mem distinct (List.of_mem_zip zipped).1
  refine Succeeds.map ?_ _
  simp only [readField, Declaration.fieldOf, declared, Option.bind_some, run_stored]
  refine Presence.read_succeeds (fun required => ?_) fun value found => ?_
  · exact there property (by simpa [ObjectShape.isRequired] using required)
  · simpa [ObjectShape.isNullable, Mapping.Reads] using each property node value declared found

/-! ### Conforming values -/

variable {registry : Registry}

/-- What the induction shows of a value that conforms to a node: a mapping of the node reads it,
and if the node is an object, so does every struct of that object. -/
structure Readable (mapper : TypeMapper) (doc : Document) (node : TypeNode) (value : Json) :
    Prop where
  mapped : ∀ hops, (mapWith (mapReference mapper.registry hops doc) node).Reads mapper value
  struct : ∀ object definition, node = .object object → definition.object? = some object →
    (Entries.keys object.properties).Nodup →
    ∀ id, Succeeds (mapper.structReader doc id definition value)

theorem readable_of_plain {node : TypeNode} {value : Json} (reader : PlainReader)
    (mapped : ∀ follow, mapWith follow node = .plain reader)
    (noStruct : (Definition.data node).object? = none) (reads : Succeeds (reader.read value)) :
    mapper.Readable doc node value where
  mapped hops := by
    rw [mapped]
    exact Mapping.reads_plain reads
  struct object _ same := by
    subst same
    cases noStruct

/-- A reference is readable if its target is: the struct of a definition reads what the definition
admits, and an alias stands for its type. -/
theorem readable_of_reference {t : RefType} {owner : Document} {definition : Definition}
    {node : TypeNode} {value : Json} (known : mapper.registry = some registry)
    (accepted : ∀ other ∈ registry.documents, other.WellFormed)
    (held : registry.get? doc.id = some doc)
    (resolves : Resolves mapper.registry (some doc) t.target owner definition)
    (typed : definition.dataType? = some node)
    (target : registry.get? owner.id = some owner → mapper.Readable owner node value) :
    mapper.Readable doc (.ref t) value := by
  -- The mapper follows references from documents with main identifiers only.
  have main := Registry.fragment_of_get? held
  have ownerHeld := resolves.owner_held known held
  have readable := target ownerHeld
  refine ⟨fun hops => ?_, by rintro object definition ⟨⟩⟩
  rw [mapWith]
  cases hops with
  -- The mapper has given up before the validator did, and any value is read.
  | zero => exact Mapping.reads_unknown
  | succ hops =>
    have mapped := isMappingOf_mapReference hops main resolves
    unfold IsMappingOf at mapped
    split at mapped
    · next object struct =>
      obtain ⟨id, external, mapped, base, found⟩ := mapped
      have resolved : registry.resolve? id = some (owner, definition) := by
        have same : registry.get? id = some owner := by
          rw [← ownerHeld]
          exact Registry.get?_congr (by rw [← base]; rfl)
        simp [Registry.resolve?, same, found]
      -- The struct that is named is that of the definition, and reads by its own definition.
      rw [mapped]
      refine Mapping.reads_struct ?_
      rw [mapper.fromValue_of_resolve known resolved]
      have sameNode : node = .object object :=
        Option.some.inj (typed.symm.trans (Definition.dataType?_of_object? struct))
      have wellFormed :=
        (accepted owner (List.mem_of_find?_eq_some ownerHeld)).of_definition? found
      exact readable.struct object definition sameNode struct
        (wellFormed.distinct_of_object? struct) id
    · rw [mapped node typed]
      exact readable.mapped hops

theorem readable_of_array {t : ArrayType} {elements : List Json}
    (each : ∀ items, t.items = some items → ∀ element ∈ elements,
      mapper.Readable doc items element) : mapper.Readable doc (.array t) (.arr elements) := by
  obtain ⟨description, items, minLength, maxLength⟩ := t
  refine ⟨fun hops => ?_, by rintro object definition ⟨⟩⟩
  cases items with
  | none =>
    rw [mapWith]
    exact Mapping.reads_list fun element _ => Mapping.reads_unknown
  | some items =>
    rw [mapWith]
    exact Mapping.reads_list fun element inside => (each items rfl element inside).mapped hops

theorem readable_of_object (there : ∀ field ∈ object.required, ∃ value,
      members.lookup field = some value)
    (each : ∀ field node value, object.property? field = some node →
      members.lookup field = some value → ¬(value = .null ∧ field ∈ object.nullable) →
      mapper.Readable doc node value) : mapper.Readable doc (.object object) (.obj members) := by
  refine ⟨fun hops => ?_, ?_⟩
  -- An object without a name of its own is mapped to a dictionary.
  · rw [mapWith]
    exact Mapping.reads_plain ⟨.map members, rfl⟩
  · rintro object definition ⟨⟩ struct distinct id
    refine structReader_succeeds struct distinct there ?_ id
    intro field node value typed found
    by_cases absent : value = .null ∧ field ∈ object.nullable
    · exact .inl absent
    · exact .inr ((each field node value typed found absent).mapped maxHops)

/-- What conforms can be read. -/
theorem readable_of_conforms {mode : ValidationMode} {hops : Nat} {scope : Option Document}
    {node : TypeNode} {value : Json} (known : mapper.registry = some registry)
    (accepted : ∀ other ∈ registry.documents, other.WellFormed) (checked : mode ≠ .lenient)
    (conforms : Conforms mode mapper.registry hops scope node value) (fits : value.IntegersFit) :
    ∀ doc, scope = some doc → registry.get? doc.id = some doc →
      mapper.Readable doc node value := by
  -- The mapper's count of hops is free in what is shown, since it runs through arrays while the
  -- validator starts afresh at every element.
  induction conforms with
  | null t => exact fun _ _ _ => readable_of_plain .null (fun _ => rfl) rfl ⟨.unit, rfl⟩
  | @boolean _ _ t b _ =>
    exact fun _ _ _ => readable_of_plain .bool (fun _ => rfl) rfl ⟨.bool b, rfl⟩
  | integer _ =>
    exact fun _ _ _ => readable_of_plain .integer (fun _ => rfl) rfl
      ((Reader.integer_succeeds fits).map _)
  | @string _ _ t s admitted =>
    intro doc _ _
    by_cases format : t.format = some .datetime
    · have timestamp := (admitted checked).format .datetime format (by rintro name ⟨⟩)
      exact readable_of_plain .datetime (fun _ => if_pos format) rfl
        ((Reader.datetime_succeeds timestamp).map _)
    · exact readable_of_plain .string (fun _ => if_neg format) rfl ⟨.string s, rfl⟩
  | bytes encodes decodes _ =>
    exact fun _ _ _ => readable_of_plain .bytes (fun _ => rfl) rfl
      ((Reader.bytes_succeeds encodes decodes).map _)
  | cidLink t links =>
    exact fun _ _ _ => readable_of_plain .cidLink (fun _ => rfl) rfl
      ((Reader.cidLink_succeeds links).map _)
  | blob describes _ =>
    exact fun _ _ _ => readable_of_plain .blob (fun _ => rfl) rfl
      ((Reader.blob_succeeds describes).map _)
  | array _ _ ih =>
    intro doc inside held
    cases fits with
    | arr fits =>
    exact readable_of_array fun items given element listed =>
      ih items given element listed (fits element listed) doc inside held
  | object required _ _ ih =>
    intro doc inside held
    cases fits with
    | obj fits =>
    refine readable_of_object (required checked) fun field node value typed found given => ?_
    exact ih field node value typed found given (fits field value (Json.mem_of_lookup found)) doc
      inside held
  | reference resolves typed _ ih =>
    rintro doc rfl held
    exact readable_of_reference known accepted held resolves typed (ih fits _ rfl)
  | unanswerable nothing =>
    -- With a registry and an enclosing document every reference has an answer.
    rintro doc rfl _
    cases nothing with
    | noScope parsed outside => cases outside
    | noRegistry parsed foreign absent => cases known.symm.trans absent
  -- Unions are mapped to any value at all, so it does not matter which member was selected.
  | member | dangling | unlisted | unknown =>
    exact fun _ _ _ => readable_of_plain .unknown (fun _ => rfl) rfl ⟨.json _, rfl⟩

/-- Validated data can be read: a value with small integers and without violations of the
definition of a record or an object is read by the struct that is generated for the definition,
under whatever identifier it is generated. -/
theorem structReader_ok_of_valid {mapper : TypeMapper} {registry : Registry}
    (known : mapper.registry = some registry)
    (accepted : ∀ other ∈ registry.documents, ∃ raw, Document.parse raw = .ok other)
    {options : ValidationOptions} (checked : options.mode ≠ .lenient) {doc : Document}
    (held : registry.get? doc.id = some doc) {name : String} {definition : Definition}
    (found : doc.definition? name = some definition) {object : ObjectType}
    (struct : definition.object? = some object) {value : Json} (fits : value.IntegersFit)
    (valid : ({ options, registry := some registry } : Validator).validateDefinition value doc name
      = [])
    (id : Nsid) :
    ∃ read, mapper.structReader doc id definition value = .ok read := by
  have wellFormed := Document.wellFormed_of_accepted accepted
  have conforms := (Validator.validateDefinition_eq_nil_iff _ found
    (Definition.dataType?_of_object? struct) value).mp valid
  rw [← known] at conforms
  have distinct := ((wellFormed doc (List.mem_of_find?_eq_some held)).definitions _ definition
    (Json.mem_of_lookup found)).distinct_of_object? struct
  exact (readable_of_conforms known wellFormed checked conforms fits doc rfl held).struct
    object definition rfl struct distinct id

/-- The mapper that knows the document of posts. -/
def postMapper : TypeMapper :=
  { layout := {}, runtime := "lex_runtime", registry := some ⟨[Document.postDocument]⟩ }

/-- A post that replies to another one. -/
def postValue : Json :=
  .obj [("tags", .arr [.int 1]), ("reply", .obj [("tags", .arr [])])]

theorem postValue_fits : postValue.IntegersFit := by
  have tags : (Json.arr [.int 1]).IntegersFit := by
    refine .arr fun element inside => ?_
    obtain rfl := List.mem_singleton.mp inside
    exact .int (by decide) (by decide)
  have reply : (Json.obj [("tags", .arr [])]).IntegersFit := by
    refine .obj fun key value inside => ?_
    cases List.mem_singleton.mp inside
    exact .arr nofun
  refine .obj fun key value inside => ?_
  rcases List.mem_cons.mp inside with same | inside
  · cases same
    exact tags
  · cases List.mem_singleton.mp inside
    exact reply

theorem structReader_ok_of_valid_postValue :
    ({ options := {}, registry := some ⟨[Document.postDocument]⟩ } : Validator).validateDefinition
        postValue Document.postDocument "main" = [] ∧
      ∃ definition read, Document.postDocument.definition? "main" = some definition ∧
        postMapper.structReader Document.postDocument Document.postDocument.id definition
          postValue = .ok read := by
  have accepted : ∀ other ∈ [Document.postDocument], ∃ raw, Document.parse raw = .ok other := by
    intro other inside
    obtain rfl := List.mem_singleton.mp inside
    exact ⟨_, Document.parse_toJson Document.postDocument_wellFormed⟩
  have checked : ({} : ValidationOptions).mode ≠ .lenient := by decide
  have known : postMapper.registry = some ⟨[Document.postDocument]⟩ := rfl
  have found : Document.postDocument.definition? "main" = some _ := rfl
  have valid : ({ options := {}, registry := some ⟨[Document.postDocument]⟩ } : Validator
      ).validateDefinition postValue Document.postDocument "main" = [] := rfl
  obtain ⟨read, result⟩ := structReader_ok_of_valid known accepted checked rfl found rfl
    postValue_fits valid Document.postDocument.id
  exact ⟨valid, _, read, found, result⟩

end TypeMapper

end Lexicon
