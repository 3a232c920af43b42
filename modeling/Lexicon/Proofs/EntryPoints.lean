import Lexicon.Proofs.Accumulation
import Lexicon.Proofs.FieldValidation
import Lexicon.Proofs.Transparency

/-!
# Lexicon.Proofs.EntryPoints

All ways to ask for a validation give the same outcome.

The outcome of a validation is its list of violations. A service tells it as a
truth value, as a result, or grouped by path, for a document that is given or
one that is looked up; and a validator may be given the name of a definition or
the type that its data has.

## Main definitions

- `ValidationService.Tells`: a result tells which violations there are.
- `ValidationService.Groups`: messages are grouped by path.

## Main result

`ValidationService.entryPoints_agree`.
-/

namespace Lexicon

namespace ValidationService

/-- A result under the name of a schema tells which violations there are. -/
structure Tells (schema : Nsid) (violations : List Violation) (result : Except ServiceError Unit) :
    Prop where
  ok : result = .ok () ↔ violations = []
  error : ∀ e, result = .error e ↔ violations ≠ [] ∧ e = .validationFailed schema violations

/-- The messages of violations are grouped by path: there is one group for each path, in the order
in which paths first failed, and it holds all messages of its path in their order. -/
structure Groups (violations : List Violation) (groups : List (String × List String)) : Prop where
  paths : Entries.keys groups = (violations.map (·.path)).eraseDups
  messages : ∀ path messages, (path, messages) ∈ groups →
    messages = (violations.filter (·.path = path)).map (·.message)

theorem tells_ensure (schema : Nsid) (violations : List Violation) :
    Tells schema violations (ensure schema violations) := by
  unfold ensure
  cases violations with
  | nil => exact ⟨by simp, by simp⟩
  | cons violation rest => exact ⟨by simp, by simp [eq_comm]⟩

/-! ### Groups of messages -/

theorem lookup_groupByPath (violations : List Violation) (path : String) :
    ((groupByPath violations).lookup path).getD [] =
      (violations.filter (·.path = path)).map (·.message) := by
  -- Messages go to the end of their group, so the violations are taken from the end.
  induction violations using List.reverseRecOn with
  | nil => rfl
  | append_singleton violations violation ih =>
    rw [groupByPath_concat, Entries.lookup_put, List.filter_append, List.map_append, ← ih]
    by_cases same : path = violation.path
    · subst same
      simp
    · simp [same, Ne.symm same]

theorem groups_groupByPath (violations : List Violation) :
    Groups violations (groupByPath violations) := by
  have paths := keys_groupByPath violations
  refine ⟨paths, fun path messages inside => ?_⟩
  have distinct : (Entries.keys (groupByPath violations)).Nodup := paths ▸ nodup_eraseDups _
  rw [← lookup_groupByPath, Entries.lookup_of_mem distinct inside, Option.getD_some]

theorem Groups.eq_nil_iff {violations : List Violation} {groups : List (String × List String)}
    (grouped : Groups violations groups) : groups = [] ↔ violations = [] := by
  have paths := grouped.paths
  constructor
  · rintro rfl
    cases violations with
    | nil => rfl
    | cons violation rest =>
      rw [List.map_cons, List.eraseDups_cons] at paths
      cases paths
  · rintro rfl
    exact List.map_eq_nil_iff.mp paths

/-! ### Looking a document up -/

/-- A document that the registry holds is found under the identifiers of its definitions. -/
theorem validateId_of_get? (s : ValidationService) (value : Json) {doc : Document}
    (held : s.registry.get? doc.id = some doc) {name : String}
    (named : Label.isName name = true) :
    ∃ id, doc.idOf? name = some id ∧
      s.validateId value id = ensure id (s.validator.validateDefinition value doc name) := by
  obtain ⟨id, given, base, definition⟩ := doc.id.withFragment_of_isName named
  have found : s.registry.get? id = some doc := (Registry.get?_congr base).trans held
  refine ⟨id, ?_, ?_⟩
  · rw [Document.idOf?, given]
    rfl
  · simp only [validateId, found, definition]

/-- All entry points agree: the truth value, the result and the groups of messages tell one and the
same outcome; a document that is looked up gives what it gives itself; and a definition with a data
type gives what its type gives inside its document. -/
theorem entryPoints_agree (s : ValidationService) (value : Json) (doc : Document) :
    (s.accepts value doc = true ↔ s.ensureValid value doc = .ok ()) ∧
    (s.accepts value doc = true ↔ s.violationsByPath value doc = []) ∧
    Tells doc.id (s.validator.validateDefinition value doc "main") (s.ensureValid value doc) ∧
    Groups (s.validator.validateDefinition value doc "main") (s.violationsByPath value doc) ∧
    (s.registry.get? doc.id = some doc → ∀ name, Label.isName name = true ∨ name = "main" →
      ∃ id, doc.idOf? name = some id ∧
        Tells id (s.validator.validateDefinition value doc name) (s.validateId value id)) ∧
    ∀ (v : Validator) (name : String) (definition : Definition) (node : TypeNode),
      doc.definition? name = some definition → definition.dataType? = some node →
      v.validateDefinition value doc name = v.validateInDocument value node doc := by
  have result := tells_ensure doc.id (s.violations value doc)
  have groups := groups_groupByPath (s.violations value doc)
  have accepted : s.accepts value doc = true ↔ s.violations value doc = [] := List.isEmpty_iff
  refine ⟨accepted.trans result.ok.symm, accepted.trans groups.eq_nil_iff.symm, result, groups,
    fun held name named => ?_, fun v name definition node found typed => ?_⟩
  · have shape : Label.isName name = true := named.elim (·) fun main => main ▸ by decide
    obtain ⟨id, identified, looked⟩ := s.validateId_of_get? value held shape
    exact ⟨id, identified, looked ▸ tells_ensure id _⟩
  · rw [Validator.validateDefinition_eq_report, Validator.checkDefinition_of_dataType found typed,
      ← Validator.check_eq_checkWithin, Validator.validateInDocument_eq_report]

/-- A token has no data, whether it is named or looked up; and the type of posts has the errors that
posts have, all of which the result tells. -/
theorem entryPoints_agree_postDocument :
    let value : Json := .obj [("tags", .arr [.int 12]), ("extra", .null)]
    let errors : List Violation := [
      { path := "tags[0]", expected := "integer", message := "12 is greater than maximum 9" },
      { path := "extra", expected := "no field", message := "field is not declared by the schema" }]
    postService.registry.get? Document.postDocument.id = some Document.postDocument ∧
      (∃ id, Document.postDocument.idOf? "end" = some id ∧
        Tells id (postService.validator.validateDefinition value Document.postDocument "end")
          (postService.validateId value id)) ∧
      (∃ definition node, Document.postDocument.definition? "main" = some definition ∧
        definition.dataType? = some node ∧
        postService.validator.validateInDocument value node Document.postDocument = errors) ∧
      postService.ensureValid value Document.postDocument =
        .error (.validationFailed Document.postDocument.id errors) := by
  intro value errors
  have held : postService.registry.get? Document.postDocument.id = some Document.postDocument := rfl
  have outcome : postService.validator.validateDefinition value Document.postDocument "main" =
      errors := rfl
  obtain ⟨definition, node, found, typed⟩ : ∃ definition node,
      Document.postDocument.definition? "main" = some definition ∧
        definition.dataType? = some node := ⟨_, _, rfl, rfl⟩
  obtain ⟨_, _, result, _, looked, byType⟩ :=
    postService.entryPoints_agree value Document.postDocument
  have same := byType postService.validator "main" _ _ found typed
  refine ⟨held, looked held "end" (.inl (by decide)), ⟨_, _, found, typed, same ▸ outcome⟩, ?_⟩
  exact (result.error _).mpr ⟨outcome ▸ List.cons_ne_nil _ _, by rw [outcome]⟩

end ValidationService

end Lexicon
