import Lexicon.Validation.Leaf
import Lexicon.Validation.Options
import Lexicon.Validation.Resolution

/-!
# Lexicon.Validation.Validator

Holding JSON values to field types.

At every value references are followed first; then the form of the value is
checked, then its constraints, then its children. Fields that are missing come
before fields that are there, which are checked in the order of the schema,
and undeclared fields come last, in the order of the value.

A walk carries the path of the value along, and joins an index or a field to it
at every step down.

## Main definitions

- `Validator.walk`: the violations of a value that stands at a path.
- `Validator.validateAt`, `Validator.validateInDocument`,
  `Validator.validateDefinition`: the entry points.
-/

namespace Lexicon

/-- The settings of a validation and the documents that references may lead to. -/
structure Validator where
  options : ValidationOptions
  registry : Option Registry

namespace Validator

/-- The constraints that are reported of those that fail. -/
def reported (options : ValidationOptions) (failing : List Cause) : List Cause :=
  if !options.mode.checksConstraints then []
  else if options.accumulate then failing
  -- The constraints stand in a fixed order, so the first one that fails is well defined.
  else failing.take 1

def ofVerdict (options : ValidationOptions) (node : TypeNode) : Verdict → List Finding
  | .malformed cause => [.here node.kind cause]
  | .formed failing => (reported options failing).map (.here node.kind)

/-- The findings about the number of elements. All of them are reported. -/
def countFindings (options : ValidationOptions) (t : ArrayType) (count : Nat) : List Finding :=
  if options.mode.checksConstraints then (t.failures count).map (.here "array") else []

/-- The findings about required fields that are missing. -/
def missingFindings (options : ValidationOptions) (t : ObjectType)
    (members : List (String × Json)) : List Finding :=
  if options.mode.checksConstraints then
    (t.required.filter fun field => !Entries.has members field).map fun field =>
      { steps := [.field field]
        expected := ((t.property? field).map TypeNode.kind).getD "value"
        cause := .requiredMissing }
  else []

/-- The findings about fields that the schema does not declare. -/
def undeclaredFindings (options : ValidationOptions) (t : ObjectType)
    (members : List (String × Json)) : List Finding :=
  if options.mode.refusesUndeclared then
    (members.filter fun (key, _) => key != Union.typeKey && !Entries.has t.properties key).map
      fun (key, _) => { steps := [.field key], expected := "no field", cause := .undeclared }
  else []

/-! ### The walk -/

/-- The violations of findings written from a start path. -/
def report (start : String) (findings : List Finding) : List Violation :=
  findings.map (.ofFinding start)

/-- The violations of the declared fields, in the order of the schema. -/
def fieldsInOrder (t : ObjectType) (violations : List (String × List Violation)) :
    List Violation :=
  -- A field that the value lacks has no entry and nothing is found at it.
  t.properties.flatMap fun (field, _) => (violations.lookup field).getD []

mutual

/-- The violations of a value that stands at the given path, and of all that is below it. -/
def walk (v : Validator) (scope : Option Document) (node : TypeNode) (path : String)
    (value : Json) : List Violation :=
  match settle v.registry value maxHops scope node with
  | .accepted => []
  | .refused expected cause => report path [.here expected cause]
  | .shape scope node =>
    match node, value with
    | .array t, .arr elements =>
      report path (countFindings v.options t elements.length) ++
        match t.items with
        | none => []
        | some items => walkElements v scope items path 0 elements
    | .object t, .obj members =>
      -- Members are walked in the order of the value and put in that of the schema afterwards.
      report path (missingFindings v.options t members) ++
        fieldsInOrder t (walkMembers v scope t path members) ++
        report path (undeclaredFindings v.options t members)
    | node, value => report path (ofVerdict v.options node (.ofNode node value))

/-- The violations of the elements of an array at the given path, the first of which stands at
`index`. -/
def walkElements (v : Validator) (scope : Option Document) (items : TypeNode) (path : String)
    (index : Nat) : List Json → List Violation
  | [] => []
  | value :: rest =>
    walk v scope items (Path.joinIndex path index) value ++
      walkElements v scope items path (index + 1) rest

/-- The violations of the members of an object at the given path, each under its key. -/
def walkMembers (v : Validator) (scope : Option Document) (t : ObjectType) (path : String) :
    List (String × Json) → List (String × List Violation)
  | [] => []
  | (key, value) :: rest =>
    let violations :=
      match t.property? key with
      -- Members that the schema does not declare are left to `undeclaredFindings`.
      | none => []
      | some node =>
        if value.isNull && t.isNullable key then []
        else walk v scope node (Path.joinField path key) value
    (key, violations) :: walkMembers v scope t path rest

end

/-! ### Entry points -/

/-- The violations of a value that stands at the given path. -/
def validateAt (v : Validator) (value : Json) (node : TypeNode) (path : String) :
    List Violation :=
  v.walk none node path value

def validate (v : Validator) (value : Json) (node : TypeNode) : List Violation :=
  v.validateAt value node ""

/-- The violations of a value, where local references lead into the document. -/
def validateInDocument (v : Validator) (value : Json) (node : TypeNode) (doc : Document) :
    List Violation :=
  v.walk (some doc) node "" value

/-- The violations of a value that is held to a definition of a document. -/
def validateDefinition (v : Validator) (value : Json) (doc : Document) (name : String) :
    List Violation :=
  match doc.definition? name with
  | none => report "" [.here "definition" (.missingDefinition doc.id name)]
  | some definition =>
    -- The reference is only named in the message about a definition without data.
    let reference := ((doc.idOf? name).map Nsid.text).getD ("#" ++ name)
    match definition.target reference with
    | .ok node => v.walk (some doc) node "" value
    | .error cause => report "" [.here definition.kind cause]

end Validator

end Lexicon
