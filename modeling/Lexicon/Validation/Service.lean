import Lexicon.Validation.Validator

/-!
# Lexicon.Validation.Service

Validation against the documents of a registry.

A service holds a registry and options. Its questions are about the main
definition of a document unless an identifier says otherwise.

## Main definitions

- `ValidationService.accepts`, `ensureValid`, `violationsByPath`: the same
  outcome as a truth value, as a result, and grouped by path.
- `ValidationService.acceptsField`: one field by itself.
- `ValidationService.validateId`: a definition that is looked up.
-/

namespace Lexicon

/-- Why a value is refused by name. -/
inductive ServiceError where
  | validationFailed (schema : Nsid) (violations : List Violation)
  | schemaNotFound (schema : Nsid)
deriving DecidableEq, Repr

namespace ServiceError

/-- The error in words. -/
def message : ServiceError → String
  | validationFailed schema violations =>
    s!"validation failed against schema '{schema.text}':\n" ++ Violation.texts violations
  | schemaNotFound schema => s!"schema '{schema.text}' is not registered"

end ServiceError

/-- A registry with fixed options. -/
structure ValidationService where
  registry : Registry
  options : ValidationOptions

namespace ValidationService

/-- The validator that resolves references through the registry. -/
def validator (s : ValidationService) : Validator :=
  { options := s.options, registry := some s.registry }

/-- The violations of a value against the main definition of a document. -/
def violations (s : ValidationService) (value : Json) (doc : Document) : List Violation :=
  s.validator.validateDefinition value doc mainDefinition

/-- Whether a value conforms to a document. -/
def accepts (s : ValidationService) (value : Json) (doc : Document) : Bool :=
  (s.violations value doc).isEmpty

/-- The messages by path, in the order in which paths first failed. -/
def groupByPath (violations : List Violation) : List (String × List String) :=
  violations.foldl (fun groups violation =>
    Entries.put groups violation.path
      ((groups.lookup violation.path).getD [] ++ [violation.message])) []

/-- The messages against a value, by path. -/
def violationsByPath (s : ValidationService) (value : Json) (doc : Document) :
    List (String × List String) :=
  groupByPath (s.violations value doc)

/-- Whether a value is acceptable for a field of the main object of a document. Fields that are
not declared admit nothing. -/
def acceptsField (s : ValidationService) (value : Json) (field : String) (doc : Document) : Bool :=
  match doc.main?.bind Definition.object? with
  | none => false
  | some object =>
    match object.property? field with
    | none => false
    | some node =>
      (value.isNull && object.isNullable field) ||
        (s.validator.validateInDocument value node doc).isEmpty

/-- The violations as a result under the name of the schema. -/
def ensure (schema : Nsid) (violations : List Violation) : Except ServiceError Unit :=
  if violations.isEmpty then .ok () else .error (.validationFailed schema violations)

/-- Succeeds if the value conforms to the document. -/
def ensureValid (s : ValidationService) (value : Json) (doc : Document) :
    Except ServiceError Unit :=
  ensure doc.id (s.violations value doc)

/-- Looks a document up and holds the value to the definition that the identifier names. -/
def validateId (s : ValidationService) (value : Json) (id : Nsid) : Except ServiceError Unit :=
  match s.registry.get? id with
  | none => .error (.schemaNotFound id)
  | some doc => ensure id (s.validator.validateDefinition value doc id.definitionName)

end ValidationService

end Lexicon
