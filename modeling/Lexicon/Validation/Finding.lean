import Lexicon.Base64
import Lexicon.Schema.Union
import Lexicon.Text.Quoted

/-!
# Lexicon.Validation.Finding

What validation finds.

A finding has a place, given as the steps that lead there from the value that
was validated, the thing that the schema expected there, and a cause. A
violation is a finding as it is reported: with the place as one path, written
from wherever the caller starts, and the cause in words.

## Main definitions

- `Step`, `Path.text`: places and how they are written.
- `Cause`, `Cause.message`: what can be wrong.
- `Finding`, `Violation`, `Outcome`.
-/

namespace Lexicon

/-! ### Places -/

/-- One step into a value. -/
inductive Step where
  | field (name : String)
  | index (position : Nat)
deriving DecidableEq, Repr

namespace Path

/-- A path with a field joined on: `path.field`, or the field alone at the root. -/
def joinField (path field : String) : String :=
  if path.isEmpty then field else path ++ "." ++ field

/-- A path with an index joined on: `path[index]`. -/
def joinIndex (path : String) (index : Nat) : String := s!"{path}[{index}]"

/-- A path with a step joined on. -/
def join (path : String) : Step → String
  | .field name => joinField path name
  | .index position => joinIndex path position

/-- The steps written from a start path. -/
def extend (start : String) (steps : List Step) : String := steps.foldl join start

end Path

/-! ### Causes -/

/-- What can be wrong with a value. -/
inductive Cause where
  /-- The value is of the wrong kind. -/
  | mismatch (expected : String) (found : Kind)
  | notConstBool (expected : Bool)
  | notConstInteger (expected : Int)
  | notConstString (expected : String)
  | integerNotListed (value : Int) (allowed : List Int)
  | stringNotListed (value : String) (allowed : List String)
  | belowMinimum (value minimum : Int)
  | aboveMaximum (value maximum : Int)
  | fewBytes (length minimum : Nat)
  | manyBytes (length maximum : Nat)
  | fewGraphemes (count minimum : Nat)
  | manyGraphemes (count maximum : Nat)
  | fewElements (count minimum : Nat)
  | manyElements (count maximum : Nat)
  | badFormat (value format : String)
  | notBytes
  | badBase64 (reason : Base64.DecodeError)
  | notLink
  | badCid (link : String)
  | blobTag
  | blobReference
  | blobMimeType
  | blobSize
  | mimeTypeNotAccepted (mimeType : String)
  | sizeAboveMaximum (size maximum : Nat)
  /-- An array written as an object with the indices as keys. -/
  | sparseArray
  | requiredMissing
  | undeclared
  | union (reason : UnionError)
  /-- A reference leads through too many others. -/
  | tooManyHops (limit : Nat) (reference : String)
  | unresolvable (reason : IdentifierError)
  | noDefinition (reference : String) (document : Nsid)
  | notRegistered (document : Nsid)
  /-- A reference leads to an endpoint or a token. -/
  | noDataType (reference kind : String)
  /-- The document has no definition of the name that is to be validated against. -/
  | missingDefinition (document : Nsid) (name : String)
deriving DecidableEq, Repr

namespace Cause

/-- The cause in words. -/
def message : Cause → String
  | mismatch expected found => s!"expected {expected}, found {found.name}"
  | notConstBool expected => s!"must be {expected}"
  | notConstInteger expected => s!"must be {expected}"
  | notConstString expected => s!"must be \"{expected}\""
  | integerNotListed value allowed =>
    toString value ++ " is not one of " ++ Text.bracketed (allowed.map toString)
  | stringNotListed value allowed =>
    "\"" ++ value ++ "\" is not one of " ++ Text.quotedList allowed
  | belowMinimum value minimum => s!"{value} is less than minimum {minimum}"
  | aboveMaximum value maximum => s!"{value} is greater than maximum {maximum}"
  | fewBytes length minimum => s!"{length} bytes is shorter than minLength {minimum}"
  | manyBytes length maximum => s!"{length} bytes is longer than maxLength {maximum}"
  | fewGraphemes count minimum => s!"{count} graphemes is fewer than minGraphemes {minimum}"
  | manyGraphemes count maximum => s!"{count} graphemes is more than maxGraphemes {maximum}"
  | fewElements count minimum => s!"{count} elements is fewer than minLength {minimum}"
  | manyElements count maximum => s!"{count} elements is more than maxLength {maximum}"
  | badFormat value format => s!"\"{value}\" is not a valid {format}"
  | notBytes => "expected a \x7b\"$bytes\": ...\x7d object"
  | badBase64 reason => "invalid base64: " ++ reason.message
  | notLink => "expected a \x7b\"$link\": ...\x7d object"
  | badCid link => s!"\"{link}\" is not a valid cid"
  | blobTag => "blob must carry $type \"blob\""
  | blobReference => "blob ref must be a cid link"
  | blobMimeType => "blob is missing string mimeType"
  | blobSize => "blob is missing integer size"
  | mimeTypeNotAccepted mimeType => s!"mimeType \"{mimeType}\" is not accepted"
  | sizeAboveMaximum size maximum => s!"size {size} exceeds maxSize {maximum}"
  | sparseArray => "expected array, found sparse or associative sequence"
  | requiredMissing => "required field is missing"
  | undeclared => "field is not declared by the schema"
  | union reason => reason.message
  | tooManyHops limit reference => s!"reference chain exceeds {limit} hops at {reference}"
  | unresolvable reason => "unresolvable reference: " ++ reason.message
  | noDefinition reference document =>
    s!"reference {reference} names no definition in {document.text}"
  | notRegistered document => s!"schema {document.text} is not registered"
  | noDataType reference kind => s!"{reference} is a {kind} and carries no data type"
  | missingDefinition document name =>
    s!"document {document.text} has no definition named \"{name}\""

end Cause

/-! ### Findings and what is reported of them -/

/-- One failure, with its place relative to the value that was validated. -/
structure Finding where
  steps : List Step
  /-- What the schema expected at the place. -/
  expected : String
  cause : Cause
deriving DecidableEq, Repr

namespace Finding

/-- A failure of the value itself. -/
def here (expected : String) (cause : Cause) : Finding := { steps := [], expected, cause }

/-- The same failure seen from the enclosing value. -/
def inside (step : Step) (finding : Finding) : Finding :=
  { finding with steps := step :: finding.steps }

end Finding

/-- One failure as it is reported. -/
structure Violation where
  path : String
  expected : String
  message : String
deriving DecidableEq, Repr

namespace Violation

/-- The report of a finding for a value that stands at the start path. -/
def ofFinding (start : String) (finding : Finding) : Violation :=
  { path := Path.extend start finding.steps
    expected := finding.expected
    message := finding.cause.message }

/-- One line about a failure. -/
def text (violation : Violation) : String :=
  if violation.path.isEmpty then "  (root): " ++ violation.message
  else "  " ++ violation.path ++ ": " ++ violation.message

/-- The lines about several failures. -/
def texts (violations : List Violation) : String :=
  String.intercalate "\n" (violations.map text)

end Violation

end Lexicon
