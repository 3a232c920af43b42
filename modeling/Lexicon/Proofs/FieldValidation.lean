import Lexicon.Proofs.ValidatedReading
import Lexicon.Validation.Service

/-!
# Lexicon.Proofs.FieldValidation

Validating an object field by field.

A service answers for a whole object and for a single field of it. The two
answers are given by different functions: the one for a field looks its
property up, applies the rule about `null` and starts a validation of its own.

## Main result

`ValidationService.accepts_iff_acceptsField`: an object is accepted exactly if
each of its declared fields is, none is missing, and in the strict mode none is
undeclared.

## Proof strategy

Both answers are put as conformance. An object conforms by a rule that speaks
of its fields one at a time, so neither the path to a field nor the fields
beside it have to be carried along.
-/

namespace Lexicon

/-- An object conforms to an object type exactly by the rule for objects. -/
theorem Conforms.object_iff {mode : ValidationMode} {registry : Option Registry} {hops : Nat}
    {scope : Option Document} {t : ObjectType} {members : List (String × Json)} :
    Conforms mode registry hops scope (.object t) (.obj members) ↔
      (mode ≠ .lenient → ∀ field ∈ t.required, ∃ value, members.lookup field = some value) ∧
      (∀ field node value, t.property? field = some node → members.lookup field = some value →
        ¬(value = .null ∧ field ∈ t.nullable) →
        Conforms mode registry maxHops scope node value) ∧
      (mode = .strict → ∀ field value, (field, value) ∈ members → field ≠ Union.typeKey →
        ∃ node, t.property? field = some node) := by
  constructor
  · intro conforms
    cases conforms with
    | object required declared closed => exact ⟨required, declared, closed⟩
  · rintro ⟨required, declared, closed⟩
    exact .object required declared closed

namespace ValidationService

variable {s : ValidationService} {doc : Document} {definition : Definition} {object : ObjectType}

theorem accepts_iff_conforms (main : doc.main? = some definition)
    (struct : definition.object? = some object) (value : Json) :
    s.accepts value doc = true ↔
      Conforms s.options.mode (some s.registry) maxHops (some doc) (.object object) value := by
  have typed := Definition.dataType?_of_object? struct
  rw [accepts, List.isEmpty_iff]
  exact s.validator.validateDefinition_eq_nil_iff main typed value

/-- A field is acceptable if it is declared, and its value conforms or is a `null` that may be
there. -/
theorem acceptsField_iff_conforms (main : doc.main? = some definition)
    (struct : definition.object? = some object) (value : Json) (field : String) :
    s.acceptsField value field doc = true ↔
      ∃ node, object.property? field = some node ∧
        ((value = .null ∧ field ∈ object.nullable) ∨
          Conforms s.options.mode (some s.registry) maxHops (some doc) node value) := by
  have null : value.isNull = true ↔ value = .null := by cases value <;> simp [Json.isNull]
  unfold acceptsField
  simp only [main, Option.bind_some, struct]
  cases object.property? field with
  | none => simp
  | some node =>
    have valid : s.validator.validateInDocument value node doc = [] ↔
        Conforms s.options.mode (some s.registry) maxHops (some doc) node value := by
      rw [Validator.validateInDocument_eq_report, Validator.report, List.map_eq_nil_iff]
      exact s.validator.check_eq_nil_iff_conforms (some doc) node value
    simp only [Bool.or_eq_true, Bool.and_eq_true, List.isEmpty_iff, null, valid,
      ObjectShape.isNullable, List.contains_iff_mem, Option.some.injEq, exists_eq_left']

/-- An object is accepted exactly if all required fields are there, every declared field that is
there is acceptable by itself, and in the strict mode no other field is there but `$type`. -/
theorem accepts_iff_acceptsField (s : ValidationService) {doc : Document}
    {definition : Definition} {object : ObjectType} (main : doc.main? = some definition)
    (struct : definition.object? = some object) (members : List (String × Json)) :
    s.accepts (.obj members) doc = true ↔
      (s.options.mode ≠ .lenient → ∀ field ∈ object.required, field ∈ Entries.keys members) ∧
      (∀ field ∈ Entries.keys object.properties, ∀ value, members.lookup field = some value →
        s.acceptsField value field doc = true) ∧
      (s.options.mode = .strict → ∀ key ∈ Entries.keys members, key ≠ "$type" →
        key ∈ Entries.keys object.properties) := by
  rw [accepts_iff_conforms main struct, Conforms.object_iff]
  simp only [ObjectShape.property?, Entries.exists_lookup_iff]
  refine and_congr_right fun _ => and_congr ?_ ?_
  · simp only [acceptsField_iff_conforms main struct, ← Entries.exists_lookup_iff]
    constructor
    · rintro each field ⟨node, declared⟩ value found
      by_cases null : value = .null ∧ field ∈ object.nullable
      · exact ⟨node, declared, .inl null⟩
      · exact ⟨node, declared, .inr (each field node value declared found null)⟩
    · intro each field node value declared found null
      obtain ⟨other, same, admitted⟩ := each field ⟨node, declared⟩ value found
      obtain rfl := Option.some.inj (declared.symm.trans same)
      exact admitted.resolve_left null
  · -- The keys of the object are those of its members, whatever their values.
    refine imp_congr_right fun _ => ?_
    constructor
    · intro closed key inside other
      obtain ⟨⟨_, value⟩, held, rfl⟩ := List.mem_map.mp inside
      exact closed _ value held other
    · intro closed key value held other
      exact closed key (Entries.mem_keys_of_mem held) other

/-- The strict service that knows the document of posts. -/
def postService : ValidationService :=
  { registry := ⟨[Document.postDocument]⟩, options := { mode := .strict } }

/-- The tags of a post and the post that it replies to. -/
def postMembers : List (String × Json) :=
  [("tags", .arr [.int 1]), ("reply", .obj [("tags", .arr [])])]

theorem accepts_iff_acceptsField_postMembers :
    ∃ definition object, Document.postDocument.main? = some definition ∧
      definition.object? = some object ∧
      postService.accepts (.obj postMembers) Document.postDocument = true ∧
      (∀ field ∈ object.required, field ∈ Entries.keys postMembers) ∧
      (∀ field ∈ Entries.keys object.properties, ∀ value, postMembers.lookup field = some value →
        postService.acceptsField value field Document.postDocument = true) ∧
      ∀ key ∈ Entries.keys postMembers, key ≠ "$type" → key ∈ Entries.keys object.properties := by
  have main : Document.postDocument.main? = some _ := rfl
  have accepted : postService.accepts (.obj postMembers) Document.postDocument = true := by
    decide +kernel
  obtain ⟨required, each, closed⟩ :=
    (postService.accepts_iff_acceptsField main rfl postMembers).mp accepted
  exact ⟨_, _, main, rfl, accepted, required (by decide), each, closed rfl⟩

-- A field may be refused for something deep inside of it.
example :
    postService.acceptsField (.obj [("tags", .arr []), ("mood", .null)]) "reply"
      Document.postDocument = false := by
  decide +kernel

end ValidationService

end Lexicon
