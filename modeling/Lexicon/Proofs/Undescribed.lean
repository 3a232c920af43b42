import Lexicon.Proofs.SilentSource

/-!
# Lexicon.Proofs.Undescribed

Descriptions in schemas, and what they come to in generated source.

Any part of a schema may have a description. Two documents that differ in
nothing else map to the same types, box the same fields and import the same
paths, and so their modules are the same but for the texts in them. Such texts
are written as comments, whatever they hold. A default documents a schema as
well, but gets into methods, so it stays where descriptions are left out.

## Main definitions

- `TypeNode.undescribed`, `Definition.undescribed`, `Document.undescribed`:
  schemas without their descriptions.
- `Generator.Inert`: texts get into the comments of generated source only.

## Main results

- `SourceModule.exists_silent_eq`: without its texts, a module does not depend
  on descriptions.
- `Generator.textsCommented`: documentation is always commented out.
-/

namespace Lexicon

/-! ### Schemas without descriptions -/

namespace TypeNode

mutual

/-- The type without its descriptions, at any depth. -/
def undescribed : TypeNode → TypeNode
  | null _ => .null { description := none }
  | boolean t => .boolean { t with description := none }
  | integer t => .integer { t with description := none }
  | string t => .string { t with description := none }
  | bytes t => .bytes { t with description := none }
  | cidLink _ => .cidLink { description := none }
  | blob t => .blob { t with description := none }
  | array ⟨_, items, low, high⟩ => .array ⟨none, undescribedItems items, low, high⟩
  | object ⟨_, required, nullable, properties⟩ =>
    .object ⟨none, required, nullable, undescribedProperties properties⟩
  | ref t => .ref { t with description := none }
  | union t => .union { t with description := none }
  | unknown _ => .unknown { description := none }

def undescribedItems : Option TypeNode → Option TypeNode
  | none => none
  | some node => some (undescribed node)

def undescribedProperties : List (String × TypeNode) → List (String × TypeNode)
  | [] => []
  | (name, node) :: rest => (name, undescribed node) :: undescribedProperties rest

end

theorem undescribedProperties_eq_map (properties : List (String × TypeNode)) :
    undescribedProperties properties =
      properties.map fun property => (property.1, undescribed property.2) := by
  induction properties with
  | nil => rw [undescribedProperties]; rfl
  | cons property rest ih => rw [undescribedProperties, ih]; rfl

end TypeNode

namespace ObjectShape

/-- The object without its descriptions. -/
def undescribed (t : ObjectType) : ObjectType :=
  { t with
    description := none
    properties := t.properties.map fun property => (property.1, property.2.undescribed) }

end ObjectShape

theorem TypeNode.undescribed_object (t : ObjectType) :
    (object t).undescribed = .object t.undescribed := by
  rw [undescribed, undescribedProperties_eq_map]
  rfl

/-- The body of a request or response without its descriptions. -/
def Body.undescribed (body : Body) : Body :=
  { body with description := none, schema := body.schema.map TypeNode.undescribed }

/-- The message without its descriptions. -/
def Message.undescribed (message : Message) : Message :=
  { description := none, schema := message.schema.map TypeNode.undescribed }

/-- The declared error without its description. -/
def ErrorDecl.undescribed (error : ErrorDecl) : ErrorDecl := { error with description := none }

namespace Definition

/-- The definition without its descriptions. -/
def undescribed : Definition → Definition
  | record _ key object => .record none key object.undescribed
  | query _ parameters output errors =>
    .query none (parameters.map ObjectShape.undescribed) (output.map Body.undescribed)
      (errors.map ErrorDecl.undescribed)
  | procedure _ parameters input output errors =>
    .procedure none (parameters.map ObjectShape.undescribed) (input.map Body.undescribed)
      (output.map Body.undescribed) (errors.map ErrorDecl.undescribed)
  | subscription _ parameters message errors =>
    .subscription none (parameters.map ObjectShape.undescribed)
      (message.map Message.undescribed) (errors.map ErrorDecl.undescribed)
  | token _ => .token none
  | data node => .data node.undescribed

theorem undescribed_object (t : ObjectType) :
    (data (.object t)).undescribed = .data (.object t.undescribed) := by
  rw [undescribed, TypeNode.undescribed_object]

@[simp] theorem kind_undescribed (definition : Definition) :
    definition.undescribed.kind = definition.kind := by
  cases definition with
  | data node => cases node <;> rw [undescribed, TypeNode.undescribed] <;> rfl
  | _ => rfl

theorem object?_undescribed (definition : Definition) :
    definition.undescribed.object? = definition.object?.map ObjectShape.undescribed := by
  cases definition with
  | data node =>
    cases node with
    | object t => rw [undescribed_object]; rfl
    | _ => rw [undescribed, TypeNode.undescribed]; rfl
  | _ => rfl

end Definition

namespace Document

/-- The document without its descriptions. One of the document itself that is not empty is blank
instead, since the header of a module shows whether there is one. -/
def undescribed (doc : Document) : Document :=
  { doc with
    description := SourceModule.silence doc.description
    definitions := doc.definitions.map fun entry => (entry.1, entry.2.undescribed) }

theorem definition?_undescribed (doc : Document) (name : String) :
    doc.undescribed.definition? name = (doc.definition? name).map Definition.undescribed :=
  Entries.lookup_map_snd Definition.undescribed doc.definitions name

end Document

/-! ### Types -/

namespace TypeMapper

theorem mapWith_undescribed (follow : String → Mapping) (node : TypeNode) :
    mapWith follow node.undescribed = mapWith follow node := by
  induction node using TypeNode.list_induction with
  | list description items minLength maxLength ih =>
    rw [TypeNode.undescribed, TypeNode.undescribedItems, mapWith, ih, mapWith]
  | bare description minLength maxLength =>
    rw [TypeNode.undescribed, TypeNode.undescribedItems, mapWith, mapWith]
  | single node noList =>
    cases node with
    | array t => exact absurd rfl (noList t)
    | _ => simp only [TypeNode.undescribed, mapWith]

theorem mapReference_undescribed (registry : Option Registry) (hops : Nat) (doc : Document) :
    mapReference registry hops doc.undescribed = mapReference registry hops doc := by
  induction hops with
  | zero => rfl
  | succ hops ih =>
    funext reference
    have same : doc.undescribed.id = doc.id := rfl
    simp only [mapReference, same]
    cases (Reference.parse reference).bind (·.absolute doc.id) with
    | error malformed => rfl
    | ok id =>
      -- Only the document itself is another one. What the registry holds is the same, and so is
      -- all that is mapped from there.
      by_cases own : id.base = doc.id
      · have ownBare : id.base = doc.undescribed.id := own
        simp only [owner?, if_pos own, if_pos ownBare, doc.definition?_undescribed]
        cases doc.definition? id.definitionName with
        | none => rfl
        | some definition =>
          cases definition with
          | data node =>
            have mapped := mapWith_undescribed (mapReference registry hops doc) node
            rw [Option.map_some, Definition.undescribed, ih]
            cases node with
            | object t => rw [TypeNode.undescribed_object]
            | _ =>
              rw [TypeNode.undescribed] at mapped ⊢
              exact mapped
          | _ => rfl
      · have foreign : id.base ≠ doc.undescribed.id := own
        simp only [owner?, if_neg own, if_neg foreign]

theorem map_undescribed (mapper : TypeMapper) (node : TypeNode) (doc : Document) :
    mapper.map node.undescribed doc.undescribed = mapper.map node doc := by
  rw [map, map, mapWith_undescribed, mapReference_undescribed]

theorem inlineStructs_undescribed (mapper : TypeMapper) (doc : Document) :
    mapper.inlineStructs doc.undescribed = mapper.inlineStructs doc := by
  funext id
  unfold inlineStructs structOf? owner?
  by_cases own : id.base = doc.id
  · have ownBare : id.base = doc.undescribed.id := own
    simp only [if_pos own, if_pos ownBare, Option.bind_eq_bind, Option.bind_some,
      doc.definition?_undescribed, Option.bind_map]
    cases doc.definition? id.definitionName with
    | none => rfl
    | some definition =>
      simp only [Option.bind_some, Function.comp_apply, Definition.object?_undescribed]
      cases definition.object? with
      | none => rfl
      | some object =>
        simp [ObjectShape.undescribed, List.filterMap_map, map_undescribed]
  · have foreign : id.base ≠ doc.undescribed.id := own
    rw [if_neg own, if_neg foreign]

theorem propertyCount_undescribed (doc : Document) :
    propertyCount doc.undescribed = propertyCount doc := by
  simp only [propertyCount, Document.undescribed, List.flatMap_map, List.length_flatMap,
    Definition.object?_undescribed]
  congr 1
  refine List.map_congr_left fun entry _ => ?_
  cases entry.2.object? with
  | none => rfl
  | some object => simp [ObjectShape.undescribed]

theorem leadsBack_undescribed (mapper : TypeMapper) (doc : Document) :
    mapper.leadsBack doc.undescribed = mapper.leadsBack doc := by
  funext start goal
  -- The search takes the same steps, and as many of them: its bound counts properties.
  simp only [leadsBack, reachable, inlineStructs_undescribed, structBound, List.foldl_cons,
    propertyCount_undescribed]

end TypeMapper

/-! ### Structs -/

namespace Declaration

variable (mapper : TypeMapper) (doc : Document)

theorem silent_fieldOf_undescribed (id : Nsid) (object : ObjectType) (property ident : String)
    (node : TypeNode) :
    (fieldOf mapper doc.undescribed id object.undescribed property ident node.undescribed).silent =
      (fieldOf mapper doc id object property ident node).silent := by
  simp only [fieldOf, stored, mapper.map_undescribed, mapper.leadsBack_undescribed]
  rfl

theorem ofDefault?_undescribed (property ident : String) (node : TypeNode) (optional : Bool) :
    Accessor.ofDefault? property ident node.undescribed optional =
      Accessor.ofDefault? property ident node optional := by
  cases node <;> rw [TypeNode.undescribed] <;> rfl

theorem accessorsOf_undescribed (object : ObjectType) (property ident : String) (node : TypeNode) :
    accessorsOf mapper doc.undescribed object.undescribed property ident node.undescribed =
      accessorsOf mapper doc object property ident node := by
  have optional : object.undescribed.isOptional property = object.isOptional property := rfl
  simp only [accessorsOf, ofDefault?_undescribed, optional]
  congr 1
  cases node with
  | array t =>
    obtain ⟨description, items, low, high⟩ := t
    rw [TypeNode.undescribed]
    cases items with
    | none => rfl
    | some items => simp only [TypeNode.undescribedItems, itemMapping, mapper.map_undescribed]
  | _ => rw [TypeNode.undescribed]

theorem keys_undescribed (object : ObjectType) :
    Entries.keys object.undescribed.properties = Entries.keys object.properties := by
  simp [Entries.keys, ObjectShape.undescribed, Function.comp_def]

/-- Without its texts, a struct does not depend on descriptions. -/
theorem silent_ofObject_undescribed (id : Nsid) (definition : Definition) (object : ObjectType)
    (key : Option String) :
    (ofObject mapper doc.undescribed id definition.undescribed object.undescribed key).silent =
      (ofObject mapper doc id definition object key).silent := by
  have properties : object.undescribed.properties.zip
        (identsFrom [] (Entries.keys object.undescribed.properties)) =
      (object.properties.zip (identsFrom [] (Entries.keys object.properties))).map
        fun entry => ((entry.1.1, entry.1.2.undescribed), entry.2) := by
    rw [keys_undescribed, ObjectShape.undescribed, List.zip_map_left]
    rfl
  -- The summaries differ, but they are left out on both sides.
  simp only [ofObject, silent, properties, List.map_map, List.flatMap_map,
    accessorsOf_undescribed]
  rw [Declaration.mk.injEq]
  refine ⟨rfl, rfl, rfl, rfl, rfl, List.map_congr_left fun entry _ => ?_, rfl⟩
  exact silent_fieldOf_undescribed mapper doc id object _ _ _

theorem importsOf_undescribed (object : ObjectType) :
    importsOf mapper doc.undescribed object.undescribed = importsOf mapper doc object := by
  simp only [importsOf, ObjectShape.undescribed, List.flatMap_map, mapper.map_undescribed]

end Declaration

/-! ### Modules -/

theorem SourceModule.silence_silence (description : Option String) :
    silence (silence description) = silence description := by
  cases description with
  | none => rfl
  | some text =>
    by_cases nothing : text = ""
    · simp [silence, nothing]
    · simp [silence, nothing]

namespace SourceModule

variable (mapper : TypeMapper) (doc : Document)

theorem structParts?_undescribed (definition : Definition) :
    structParts? definition.undescribed =
      (structParts? definition).map fun parts => (parts.1.undescribed, parts.2) := by
  cases definition with
  | data node =>
    cases node with
    | object t => rw [Definition.undescribed_object]; rfl
    | _ => rw [Definition.undescribed, TypeNode.undescribed]; rfl
  | _ => rfl

theorem main_undescribed : main doc.undescribed =
    (main doc).map fun parts => (parts.1.undescribed, parts.2.1.undescribed, parts.2.2) := by
  simp only [main, Document.main?, doc.definition?_undescribed]
  cases doc.definition? mainDefinition with
  | none => rfl
  | some definition =>
    simp only [Option.map_some, structParts?_undescribed, Definition.kind_undescribed]
    cases structParts? definition with
    | none => rfl
    | some parts => rfl

theorem others_undescribed : others doc.undescribed =
    (others doc).map fun other => (other.1, other.2.1.undescribed, other.2.2.undescribed) := by
  have named (name : String) : doc.undescribed.idOf? name = doc.idOf? name := rfl
  have definitions : doc.undescribed.definitions =
      doc.definitions.map fun entry => (entry.1, entry.2.undescribed) := rfl
  simp only [others, named, definitions, List.filterMap_map, List.map_filterMap]
  refine List.filterMap_congr fun entry _ => ?_
  obtain ⟨name, definition⟩ := entry
  cases definition with
  | data node =>
    cases node with
    | object t =>
      simp only [Function.comp_apply, Definition.undescribed_object]
      split
      · rfl
      · simp [Definition.undescribed_object, Function.comp_def]
    | _ =>
      simp only [Function.comp_apply, Definition.undescribed]
      rw [TypeNode.undescribed]
      rfl
  | _ => rfl

/-- Without its texts, a module does not depend on descriptions. -/
theorem silent_ofDocument_undescribed :
    (ofDocument mapper doc.undescribed).map silent = (ofDocument mapper doc).map silent := by
  unfold ofDocument
  rw [main_undescribed, others_undescribed]
  cases main doc with
  | error reason => rfl
  | ok parts =>
    obtain ⟨definition, object, key⟩ := parts
    have same : doc.undescribed.id = doc.id := rfl
    have description : silence doc.undescribed.description = silence doc.description :=
      silence_silence doc.description
    have first := Declaration.silent_ofObject_undescribed mapper doc doc.id definition object key
    simp only [Except.map, ok_bind, pure_eq_ok, silent, same, description, List.map_cons,
      List.map_map, List.flatMap_cons, List.flatMap_map, Declaration.importsOf_undescribed, first]
    rw [Except.ok.injEq, SourceModule.mk.injEq]
    refine ⟨rfl, rfl, congrArg (Sorted.texts <| _ ++ ·) ?_, congrArg (_ :: ·) ?_⟩
    · exact List.flatMap_congr fun _ _ => Declaration.importsOf_undescribed mapper doc _
    · exact List.map_congr_left fun _ _ =>
        Declaration.silent_ofObject_undescribed mapper doc _ _ _ none

/-- Documents that differ in descriptions only have the same module, its texts apart. -/
theorem exists_silent_eq {other : Document} {module : SourceModule}
    (same : other.undescribed = doc.undescribed) (generated : ofDocument mapper doc = .ok module) :
    ∃ otherModule, ofDocument mapper other = .ok otherModule ∧
      otherModule.silent = module.silent := by
  have silents : (ofDocument mapper other).map silent = .ok module.silent := by
    rw [← silent_ofDocument_undescribed, same, silent_ofDocument_undescribed, generated]
    rfl
  exact map_eq_ok_iff.mp silents

end SourceModule

/-! ### Generation -/

/-- The indent that a helper for comments is given. -/
def Helper.indentOf (options : List (String × Json)) : String :=
  textOr "" (options.lookup "indent")

/-- The mark that a helper for comments is given. -/
def Helper.markerOf (options : List (String × Json)) : String :=
  textOr "///" (options.lookup "marker")

namespace Generator

variable {generator : Generator} {doc : Document} {module : SourceModule} {file : GeneratedFile}

/-- The source of a module is the source `plain` of the silent module, with comments in between.
The same lines are behind the source of every document that differs in descriptions only. -/
structure Inert (generator : Generator) (doc : Document) (module : SourceModule)
    (file : GeneratedFile) (plain : String) : Prop where
  silent : module.silent.render generator.stubs generator.mapper.runtime = .ok plain
  comments : Text.Interspersed Helper.IsComment (Text.splitOn '\n' plain)
    (Text.splitOn '\n' file.source)
  undescribed : ∀ other : Document, other.undescribed = doc.undescribed →
    ∃ otherFile, generator.generate other = .ok otherFile ∧
      Text.Interspersed Helper.IsComment (Text.splitOn '\n' plain)
        (Text.splitOn '\n' otherFile.source)

theorem Produces.interspersed_source (builtIn : generator.stubs = .builtIn)
    (produces : generator.Produces doc module file) :
    Text.Interspersed Helper.IsComment
      (Text.splitOn '\n' (Text.lined (module.silent.lines generator.mapper.runtime)))
      (Text.splitOn '\n' file.source) := by
  rw [produces.source_eq builtIn]
  exact (module.interspersed_lines generator.mapper.runtime).splitOn_lined fun _ comment =>
    comment.1

/-- Documentation is always commented out. Whatever a text holds, the helper for comments puts a
mark in front of each of its lines, and so no description and no summary puts a line of its own
into the source that the built-in templates lay out. -/
theorem textsCommented :
    (∀ operands options, Text.IsLine (Helper.indentOf options) →
      Text.IsLine (Helper.markerOf options) →
        Helper.CommentsOut (Helper.indentOf options) (Helper.markerOf options)
          (Helper.textOr "" operands[0]?) (Helper.doc.apply operands options)) ∧
      ∀ (generator : Generator) doc module file, generator.stubs = .builtIn →
        generator.Produces doc module file → ∃ plain, generator.Inert doc module file plain := by
  constructor
  · intro operands options margin mark
    exact Helper.commentsOut_docText margin mark _
  · intro generator doc module file builtIn produces
    refine ⟨_, ?_, produces.interspersed_source builtIn, fun other same => ?_⟩
    · rw [builtIn, SourceModule.render_builtIn]
    -- Without their texts the two modules are the same, and so are the lines in between.
    · obtain ⟨otherModule, generated, silents⟩ :=
        SourceModule.exists_silent_eq generator.mapper doc same produces.generated
      have laidOut := otherModule.render_builtIn generator.mapper.runtime
      rw [← builtIn] at laidOut
      have otherProduces : generator.Produces other otherModule
          ⟨other.id, generator.mapper.layout.filePath other.id,
            generator.mapper.layout.modulePath other.id, _⟩ := ⟨generated, laidOut, rfl, rfl, rfl⟩
      refine ⟨_, generate_eq_ok_iff.mpr ⟨otherModule, otherProduces⟩, ?_⟩
      rw [← silents]
      exact otherProduces.interspersed_source builtIn

end Generator

/-- A document with the same words about all of it. -/
def noteDocument (words : String) : Document where
  lexicon := 1
  id := ⟨["com", "example"], "note", none⟩
  revision := none
  description := some words
  definitions := [
    ("main", .record (some words) none {
      description := some words
      required := ["text"]
      nullable := []
      properties :=
        [("text", .string ⟨some words, none, none, none, none, none, none, none, none, none⟩)] })]

namespace Generator

theorem textsCommented_noteDocument :
    graphGenerator.stubs = .builtIn ∧
      (Text.IsLine "  " ∧ Text.IsLine "//" ∧
        Helper.CommentsOut "  " "//" "one\r\n\n two \t\n \n"
          (Helper.doc.apply [.str "one\r\n\n two \t\n \n"]
            [("indent", .str "  "), ("marker", .str "//")])) ∧
      (noteDocument "A note.").undescribed =
        (noteDocument "\x7d\npub struct Note;").undescribed ∧
      ∃ module file,
        graphGenerator.Produces (noteDocument "\x7d\npub struct Note;") module file ∧
          ∃ plain, graphGenerator.Inert (noteDocument "\x7d\npub struct Note;") module file
            plain := by
  have builtIn : graphGenerator.stubs = .builtIn := rfl
  have struct : (noteDocument "\x7d\npub struct Note;").Generatable := ⟨_, _, rfl, rfl⟩
  obtain ⟨module, file, produces⟩ := exists_produces builtIn struct
  obtain ⟨helper, inert⟩ := textsCommented
  have written := helper [.str "one\r\n\n two \t\n \n"]
    [("indent", .str "  "), ("marker", .str "//")] (by decide) (by decide)
  refine ⟨builtIn, ⟨by decide, by decide, written⟩, ?_, module, file, produces,
    inert graphGenerator _ module file builtIn produces⟩
  simp [noteDocument, Document.undescribed, Definition.undescribed, ObjectShape.undescribed,
    TypeNode.undescribed, SourceModule.silence]

end Generator

end Lexicon
