import Lexicon.Proofs.Entries
import Lexicon.Proofs.Recursion

/-!
# Lexicon.Proofs.Documentation

Schemas without their documentation.

Descriptions, defaults and known values tell readers and generated code what a
schema is for, and so do the version and the revision of a document and the key
of a record. A schema is bare when all of it is left out. Validation takes the
same way through bare schemas and finds the same, so two schemas with the same
bare form cannot be told apart by it.

## Main definitions

- `TypeNode.bare`, `Definition.bare`, `Document.bare`: what is left.
- `Registry.view`: the bare documents of a registry by their identifiers.

## Main results

- `Visit.findings_bare`: bare schemas lead to the same findings.
- `Validator.validateDefinition_congr`: documentation decides nothing.
-/

namespace Lexicon

/-! ### Bare schemas -/

namespace TypeNode

mutual

/-- The type without its documentation, at any depth. -/
def bare : TypeNode → TypeNode
  | null _ => .null { description := none }
  | boolean t => .boolean { t with description := none, default := none }
  | integer t => .integer { t with description := none, default := none }
  | string t => .string { t with description := none, knownValues := none, default := none }
  | bytes t => .bytes { t with description := none }
  | cidLink _ => .cidLink { description := none }
  | blob t => .blob { t with description := none }
  | array ⟨_, items, low, high⟩ => .array ⟨none, bareItems items, low, high⟩
  | object ⟨_, required, nullable, properties⟩ =>
    .object ⟨none, required, nullable, bareProperties properties⟩
  | ref t => .ref { t with description := none }
  | union t => .union { t with description := none }
  | unknown _ => .unknown { description := none }

def bareItems : Option TypeNode → Option TypeNode
  | none => none
  | some node => some (bare node)

def bareProperties : List (String × TypeNode) → List (String × TypeNode)
  | [] => []
  | (name, node) :: rest => (name, bare node) :: bareProperties rest

end

theorem bareItems_eq_map (items : Option TypeNode) : bareItems items = items.map bare := by
  cases items with
  | none => rw [bareItems]; rfl
  | some node => rw [bareItems]; rfl

theorem bareProperties_eq_map (properties : List (String × TypeNode)) :
    bareProperties properties = properties.map fun property => (property.1, property.2.bare) := by
  induction properties with
  | nil => rw [bareProperties]; rfl
  | cons property rest ih => rw [bareProperties, ih]; rfl

end TypeNode

namespace ArrayShape

/-- The array without its documentation. -/
def bare (t : ArrayType) : ArrayType :=
  { t with description := none, items := t.items.map TypeNode.bare }

end ArrayShape

namespace ObjectShape

/-- The object without its documentation. -/
def bare (t : ObjectType) : ObjectType :=
  { t with
    description := none
    properties := t.properties.map fun property => (property.1, property.2.bare) }

end ObjectShape

namespace TypeNode

theorem bare_array (t : ArrayType) : (array t).bare = .array t.bare := by
  rw [bare, bareItems_eq_map]
  rfl

theorem bare_object (t : ObjectType) : (object t).bare = .object t.bare := by
  rw [bare, bareProperties_eq_map]
  rfl

@[simp] theorem kind_bare (node : TypeNode) : node.bare.kind = node.kind := by
  cases node <;> rw [bare] <;> rfl

end TypeNode

/-- The body of a request or response without its documentation. -/
def Body.bare (body : Body) : Body :=
  { body with description := none, schema := body.schema.map TypeNode.bare }

/-- The message without its documentation. -/
def Message.bare (message : Message) : Message :=
  { description := none, schema := message.schema.map TypeNode.bare }

/-- The declared error without its documentation. -/
def ErrorDecl.bare (error : ErrorDecl) : ErrorDecl := { error with description := none }

namespace Definition

/-- The definition without its documentation; the key of a record is part of that. -/
def bare : Definition → Definition
  | record _ _ object => .record none none object.bare
  | query _ parameters output errors =>
    .query none (parameters.map ObjectShape.bare) (output.map Body.bare) (errors.map ErrorDecl.bare)
  | procedure _ parameters input output errors =>
    .procedure none (parameters.map ObjectShape.bare) (input.map Body.bare) (output.map Body.bare)
      (errors.map ErrorDecl.bare)
  | subscription _ parameters message errors =>
    .subscription none (parameters.map ObjectShape.bare) (message.map Message.bare)
      (errors.map ErrorDecl.bare)
  | token _ => .token none
  | data node => .data node.bare

@[simp] theorem kind_bare (definition : Definition) : definition.bare.kind = definition.kind := by
  cases definition with
  | data node => exact node.kind_bare
  | _ => rfl

/-- What data is held to is the same, documentation apart. -/
theorem target_bare (definition : Definition) (reference : String) :
    definition.bare.target reference = (definition.target reference).map TypeNode.bare := by
  cases definition with
  | record description key object => exact congrArg Except.ok (TypeNode.bare_object object).symm
  | _ => rfl

end Definition

namespace Document

/-- The document without its documentation; its version and revision are part of that. -/
def bare (doc : Document) : Document where
  lexicon := 0
  id := doc.id
  revision := none
  description := none
  definitions := doc.definitions.map fun entry => (entry.1, entry.2.bare)

theorem definition?_bare (doc : Document) (name : String) :
    doc.bare.definition? name = (doc.definition? name).map Definition.bare :=
  Entries.lookup_map_snd Definition.bare doc.definitions name

end Document

namespace Registry

/-- The bare document under an identifier. -/
def view (registry : Registry) (id : Nsid) : Option Document :=
  (registry.get? id).map Document.bare

/-- The registry of the bare documents. -/
def bare (registry : Registry) : Registry := { documents := registry.documents.map Document.bare }

theorem get?_bare (registry : Registry) : registry.bare.get? = registry.view := by
  funext id
  simp only [bare, view, get?, List.find?_map]
  rfl

end Registry

/-! ### The way through bare schemas -/

/-- The answer to a look-up without documentation. -/
def Lookup.bare : Lookup → Lookup
  | found scope definition => found scope.bare definition.bare
  | other => other

namespace Lookup

theorem inDocument_bare (doc : Document) (name : String) :
    inDocument doc.bare name = (inDocument doc name).bare := by
  unfold inDocument
  rw [doc.definition?_bare]
  cases doc.definition? name <;> rfl

variable {registry bareRegistry : Option Registry}
  (held : bareRegistry.map Registry.get? = registry.map Registry.view)
include held

theorem inRegistry_bare (id : Nsid) :
    inRegistry bareRegistry id = (inRegistry registry id).bare := by
  cases registry with
  | none =>
    rw [Option.map_eq_none_iff.mp held]
    rfl
  | some registry =>
    obtain ⟨bareRegistry, rfl, same⟩ := Option.map_eq_some_iff.mp held
    simp only [inRegistry, same, Registry.view]
    cases registry.get? id with
    | none => rfl
    | some doc => exact inDocument_bare doc id.definitionName

theorem ofText_bare (scope : Option Document) (reference : String) :
    ofText bareRegistry (scope.map Document.bare) reference =
      (ofText registry scope reference).bare := by
  unfold ofText
  split
  · next target parsed =>
    cases target with
    | fragment name =>
      cases scope with
      | none => rfl
      | some doc => exact inDocument_bare doc name
    | external id =>
      cases scope with
      | none => exact inRegistry_bare held id
      | some doc =>
        -- The enclosing document goes by the same identifier, so the same side is asked.
        by_cases own : id.base = doc.id
        · have ownBare : id.base = doc.bare.id := own
          simp only [Option.map_some, ofReference, if_pos own, if_pos ownBare]
          exact inDocument_bare doc id.definitionName
        · have foreign : id.base ≠ doc.bare.id := own
          simp only [Option.map_some, ofReference, if_neg own, if_neg foreign]
          exact inRegistry_bare held id
  · rfl

end Lookup

theorem UnionResolver.ofScope_bare (scope : Option Document) :
    ofScope (scope.map Document.bare) = ofScope scope := by
  cases scope <;> rfl

theorem Move.ofNode_bare (scope : Option Document) (value : Json) (node : TypeNode) :
    ofNode (scope.map Document.bare) value node.bare = ofNode scope value node := by
  cases node with
  | union t =>
    simp only [TypeNode.bare, ofNode, ofUnion, UnionResolver.ofScope_bare]
    rfl
  | _ => rw [TypeNode.bare]; rfl

theorem Verdict.ofNode_bare (node : TypeNode) (value : Json) :
    ofNode node.bare value = ofNode node value := by
  cases node <;> rw [TypeNode.bare] <;> rfl

theorem Validator.ofVerdict_bare (options : ValidationOptions) (node : TypeNode)
    (verdict : Verdict) : ofVerdict options node.bare verdict = ofVerdict options node verdict := by
  cases verdict <;> simp only [ofVerdict, TypeNode.kind_bare]

namespace ObjectShape

theorem property?_bare (t : ObjectType) (field : String) :
    t.bare.property? field = (t.property? field).map TypeNode.bare :=
  Entries.lookup_map_snd TypeNode.bare t.properties field

theorem has_properties_bare (t : ObjectType) (field : String) :
    Entries.has t.bare.properties field = Entries.has t.properties field := by
  simp [Entries.has, bare, Function.comp_def]

end ObjectShape

theorem Validator.missingFindings_bare (options : ValidationOptions) (t : ObjectType)
    (members : List (String × Json)) :
    missingFindings options t.bare members = missingFindings options t members := by
  have kinds (field : String) :
      (t.bare.property? field).map TypeNode.kind = (t.property? field).map TypeNode.kind := by
    rw [t.property?_bare, Option.map_map]
    exact congrArg (Option.map · _) (funext TypeNode.kind_bare)
  simp only [missingFindings, kinds]
  rfl

theorem Validator.undeclaredFindings_bare (options : ValidationOptions) (t : ObjectType)
    (members : List (String × Json)) :
    undeclaredFindings options t.bare members = undeclaredFindings options t members := by
  simp only [undeclaredFindings, t.has_properties_bare]

/-! ### One step -/

namespace Visit

/-- The same visit with bare schemas. -/
def bare : Visit → Visit
  | .atNode hops scope node value => .atNode hops (scope.map Document.bare) node.bare value
  | .atDefinition hops doc definition reference value =>
    .atDefinition hops doc.bare definition.bare reference value

variable {options : ValidationOptions} {registry bareRegistry : Option Registry}
  {ask askBare : Visit → List Finding}

theorem memberStep_bare {hops : Nat} {scope : Option Document} {t : ObjectType}
    {members : List (String × Json)}
    (agree : ∀ later, Calls registry (.atNode hops scope (.object t) (.obj members)) later →
      askBare later.bare = ask later) {field : String} {value : Json}
    (found : members.lookup field = some value) :
    memberStep askBare (scope.map Document.bare) t.bare field value =
      memberStep ask scope t field value := by
  unfold memberStep
  rw [t.property?_bare]
  cases declared : t.property? field with
  | none => rfl
  | some node =>
    have nullable : t.bare.isNullable field = t.isNullable field := rfl
    simp only [Option.map_some, nullable]
    split
    · rfl
    · next present => exact agree _ (.member declared found (by simpa using present))

theorem shapeStep_bare {hops : Nat} {scope : Option Document} {node : TypeNode} {value : Json}
    (agree : ∀ later, Calls registry (.atNode hops scope node value) later →
      askBare later.bare = ask later) :
    shapeStep { options, registry := bareRegistry } askBare (scope.map Document.bare) node.bare
        value =
      shapeStep { options, registry } ask scope node value := by
  have leaf : Validator.ofVerdict options node.bare (.ofNode node.bare value) =
      Validator.ofVerdict options node (.ofNode node value) := by
    rw [Validator.ofVerdict_bare, Verdict.ofNode_bare]
  -- The value has no documentation, so the same cases arise on both sides.
  cases node with
  | array t =>
    rw [TypeNode.bare_array] at leaf ⊢
    cases value with
    | arr elements =>
      simp only [shapeStep, ArrayShape.bare]
      congr 1
      cases given : t.items with
      | none => rfl
      | some items =>
        refine List.flatMap_congr fun entry inside => ?_
        exact congrArg _ (agree _ (.element given (List.fst_mem_of_mem_zipIdx inside)))
    | _ => exact leaf
  | object t =>
    rw [TypeNode.bare_object] at leaf ⊢
    cases value with
    | obj members =>
      have fields : (t.bare.properties.flatMap fun property =>
            (((members.lookup property.1).map
              (memberStep askBare (scope.map Document.bare) t.bare property.1)).getD []).map
              (Finding.inside (.field property.1))) =
          t.properties.flatMap fun property =>
            (((members.lookup property.1).map (memberStep ask scope t property.1)).getD []).map
              (Finding.inside (.field property.1)) := by
        simp only [ObjectShape.bare, List.flatMap_map]
        refine List.flatMap_congr fun property _ => ?_
        cases found : members.lookup property.1 with
        | none => rfl
        | some value => exact congrArg _ (memberStep_bare agree found)
      simp only [shapeStep, Validator.missingFindings_bare, Validator.undeclaredFindings_bare,
        fields]
    | _ => exact leaf
  | _ =>
    rw [TypeNode.bare] at leaf ⊢
    exact leaf

/-- A step at a bare schema asks for the same things, and puts them together in the same way. -/
theorem step_bare (held : bareRegistry.map Registry.get? = registry.map Registry.view)
    {visit : Visit} (agree : ∀ later, Calls registry visit later → askBare later.bare = ask later) :
    step { options, registry := bareRegistry } askBare visit.bare =
      step { options, registry } ask visit := by
  cases visit with
  | atDefinition hops doc definition reference value =>
    simp only [bare, step, Definition.target_bare, Definition.kind_bare]
    cases typed : definition.target reference with
    | error cause => rfl
    | ok node => exact agree _ (.target typed)
  | atNode hops scope node value =>
    simp only [bare, step, Move.ofNode_bare, TypeNode.kind_bare]
    cases asked : Move.ofNode scope value node with
    | stay => exact shapeStep_bare agree
    | accept => rfl
    | refuse cause => rfl
    | follow reference strict =>
      cases hops with
      | zero => rfl
      | succ hops =>
        simp only [Lookup.ofText_bare held]
        cases found : Lookup.ofText registry scope reference with
        | found doc definition => exact agree _ (.follow asked found)
        | _ => rfl

/-! ### Whole runs -/

/-- Bare schemas lead to the same findings. -/
theorem findings_bare (held : bareRegistry.map Registry.get? = registry.map Registry.view)
    (visit : Visit) :
    findings { options, registry := bareRegistry } visit.bare =
      findings { options, registry } visit := by
  -- The calls on the documented side carry the induction; the bare side makes the same calls.
  induction visit using (calls_wellFounded registry).induction with
  | h visit ih =>
    rw [findings_eq_step, findings_eq_step]
    exact step_bare held ih

end Visit

namespace Validator

variable {registry bareRegistry : Option Registry}

theorem checkDefinition_bare (options : ValidationOptions)
    (held : bareRegistry.map Registry.get? = registry.map Registry.view)
    (value : Json) (doc : Document) (name : String) :
    checkDefinition { options, registry := bareRegistry } value doc.bare name =
      checkDefinition { options, registry } value doc name := by
  unfold checkDefinition
  rw [doc.definition?_bare]
  cases doc.definition? name with
  | none => rfl
  | some definition =>
    have reference : doc.bare.idOf? name = doc.idOf? name := rfl
    simp only [Option.map_some, reference, Definition.target_bare, Definition.kind_bare]
    cases definition.target (((doc.idOf? name).map Nsid.text).getD ("#" ++ name)) with
    | error cause => rfl
    | ok node =>
      simp only [Except.map, check_eq_checkWithin]
      exact Visit.findings_bare held (.atNode maxHops (some doc) node value)

/-- What is documentation decides nothing: two documents with the same bare form lead to the same
violations, with registries that hold documents of the same bare form. -/
theorem validateDefinition_congr {doc other : Document} {registry otherRegistry : Option Registry}
    (documents : doc.bare = other.bare)
    (registries : registry.map Registry.view = otherRegistry.map Registry.view)
    (options : ValidationOptions) (value : Json) (name : String) :
    validateDefinition { options, registry } value doc name =
      validateDefinition { options, registry := otherRegistry } value other name := by
  -- Both sides are compared with a registry that holds the bare documents.
  have held : (registry.map Registry.bare).map Registry.get? = registry.map Registry.view := by
    rw [Option.map_map]
    exact congrArg (Option.map · _) (funext Registry.get?_bare)
  have findings := calc
    checkDefinition { options, registry } value doc name
      = checkDefinition { options, registry := registry.map Registry.bare } value doc.bare name :=
        (checkDefinition_bare options held value doc name).symm
    _ = checkDefinition { options, registry := registry.map Registry.bare } value other.bare name :=
        by rw [documents]
    _ = checkDefinition { options, registry := otherRegistry } value other name :=
        checkDefinition_bare options (held.trans registries) value other name
  rw [validateDefinition_eq_report, validateDefinition_eq_report, findings]

end Validator

/-- A record of a feeling, with these words about all of it. -/
def moodDocument (words : Option String) (known : Option (List String)) : Document where
  lexicon := 1
  id := { labels := ["com", "example"], name := "mood", fragment := none }
  revision := none
  description := words
  definitions := [
    ("main", .record words words {
      description := words
      required := ["feeling", "since"]
      nullable := []
      properties := [
        ("feeling", .string ⟨words, none, none, some 3, none, none, none, none, known, words⟩),
        ("before", .ref ⟨words, "com.example.mood"⟩)] })]

/-- The registry that knows the document. -/
def moodRegistry (words : Option String) (known : Option (List String)) : Registry :=
  .ofDocuments [moodDocument words known]

namespace Validator

theorem validateDefinition_congr_moodDocument :
    (moodDocument none none).bare = (moodDocument (some "Sad.") (some ["sad"])).bare ∧
      (some (moodRegistry none none)).map Registry.view =
        (some (moodRegistry (some "Sad.") (some ["sad"]))).map Registry.view ∧
      validateDefinition
          { options := { accumulate := true }, registry := some (moodRegistry none none) }
          (.obj [("feeling", .str "happy")]) (moodDocument none none) "main" =
        validateDefinition
          { options := { accumulate := true },
            registry := some (moodRegistry (some "Sad.") (some ["sad"])) }
          (.obj [("feeling", .str "happy")]) (moodDocument (some "Sad.") (some ["sad"]))
          "main" := by
  have documents :
      (moodDocument none none).bare = (moodDocument (some "Sad.") (some ["sad"])).bare :=
    rfl
  have registries : (some (moodRegistry none none)).map Registry.view =
      (some (moodRegistry (some "Sad.") (some ["sad"]))).map Registry.view := by
    rw [Option.map_some, Option.map_some, ← Registry.get?_bare, ← Registry.get?_bare]
    rfl
  exact ⟨documents, registries, validateDefinition_congr documents registries _ _ _⟩

-- There is something to report about this value: a missing field, and a text that is too long.
example :
    (validateDefinition
      { options := { accumulate := true }, registry := some (moodRegistry none none) }
      (.obj [("feeling", .str "happy")]) (moodDocument none none) "main").map (·.path) =
        ["since", "feeling"] := by
  decide +kernel

end Validator

end Lexicon
