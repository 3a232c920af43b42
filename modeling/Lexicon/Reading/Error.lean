import Lexicon.Base64
import Lexicon.Format.Datetime
import Lexicon.Json.Basic

/-!
# Lexicon.Reading.Error

What can go wrong when a value is read into a type.

An error knows the place of the value that could not be read. The place is
written from the inside outwards: each enclosing reader puts its own segment in
front with `ReadError.within`.
-/

namespace Lexicon

/-- Why a value cannot be read. -/
inductive ReadCause where
  /-- A required field is not there. -/
  | missing
  /-- The value is of another kind. -/
  | wrongKind (expected : String) (found : Kind)
  | badDatetime (text : String) (error : DatetimeError)
  /-- An object that does not hold encoded bytes. -/
  | noBytes
  | badBase64 (error : Base64.DecodeError)
  /-- An object that does not hold a link. -/
  | noLink
  /-- An object that is not tagged as a blob. -/
  | noBlobTag
deriving DecidableEq, Repr

namespace ReadCause

/-- The cause in words. -/
def message : ReadCause → String
  | missing => "required field is missing"
  | wrongKind expected found => "expected " ++ expected ++ ", found " ++ found.name
  | badDatetime text error => "invalid datetime \"" ++ text ++ "\": " ++ error.message
  | noBytes => "expected a \x7b\"$bytes\": ...\x7d object"
  | badBase64 error => "invalid base64: " ++ error.message
  | noLink => "expected a \x7b\"$link\": ...\x7d object"
  | noBlobTag => "blob must carry $type \"blob\""

end ReadCause

/-- A value that cannot be read: its place and the cause. -/
structure ReadError where
  path : String
  cause : ReadCause
deriving DecidableEq, Repr

namespace ReadError

/-- An error at the value at hand. -/
def here (cause : ReadCause) : ReadError := { path := "", cause }

/-- The path with a segment in front. An index takes no dot before it. -/
def prepend (segment path : String) : String :=
  if path.isEmpty then segment
  else if path.toList.head? = some '[' then segment ++ path
  else segment ++ "." ++ path

/-- The error as the enclosing value sees it. -/
def within (segment : String) (error : ReadError) : ReadError :=
  { error with path := prepend segment error.path }

/-- The error in words. -/
def message (error : ReadError) : String := error.path ++ ": " ++ error.cause.message

end ReadError

end Lexicon
