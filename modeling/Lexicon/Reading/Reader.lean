import Lexicon.Reading.Error

/-!
# Lexicon.Reading.Reader

Reading JSON values into types.

A reader takes a value and gives something of its type, or the first error. No
constraints of a schema are checked. Fields that are optional may be absent or
`null`; fields that are required and nullable have to be there, and lists are
read element by element.

## Main definitions

- `Reader`: readers of a type.
- `Reader.required`, `Reader.optional`, `Reader.nullable`, `Reader.list`: the
  combinations.
- `BlobRef`: what a blob is read into.
-/

namespace Lexicon

/-- A reader of a type. -/
abbrev Reader (α : Type) := Json → Except ReadError α

/-- A reference to stored binary content. -/
structure BlobRef where
  cid : String
  mimeType : String
  /-- In bytes. -/
  size : UInt64
deriving DecidableEq, Repr

namespace Reader

variable {α : Type}

/-- The error that a value is of another kind than the expected one. -/
def wrongKind (expected : String) (value : Json) : Except ReadError α :=
  .error (.here (.wrongKind expected value.kind))

/-- The error at the value at hand. -/
def fail (cause : ReadCause) : Except ReadError α := .error (.here cause)

/-! ### Fields -/

/-- The members of an object. -/
def object : Reader (List (String × Json))
  | .obj members => .ok members
  | value => wrongKind "object" value

/-- Reads a field that has to be there. -/
def required (members : List (String × Json)) (field : String) (read : Reader α) :
    Except ReadError α :=
  match members.lookup field with
  | none => .error { path := field, cause := .missing }
  | some value => (read value).mapError (·.within field)

/-- Reads a field that may be absent; `null` counts as absent. -/
def optional (members : List (String × Json)) (field : String) (read : Reader α) :
    Except ReadError (Option α) :=
  match members.lookup field with
  | none | some .null => .ok none
  | some value => ((read value).map some).mapError (·.within field)

/-- Reads a value that may be `null`. -/
def nullable (read : Reader α) : Reader (Option α)
  | .null => .ok none
  | value => (read value).map some

/-! ### Plain values -/

def null : Reader Unit
  | .null => .ok ()
  | value => wrongKind "null" value

def bool : Reader Bool
  | .bool b => .ok b
  | value => wrongKind "boolean" value

/-- Reads an integer that fits a signed 64-bit word. -/
def integer : Reader Int64 := fun value =>
  match value.asInt64? with
  | some n => .ok n
  | none => wrongKind "integer" value

/-- Reads an integer that fits an unsigned 64-bit word. -/
def natural : Reader UInt64 := fun value =>
  match value.asUInt64? with
  | some n => .ok n
  | none => wrongKind "integer" value

def string : Reader String
  | .str s => .ok s
  | value => wrongKind "string" value

def datetime : Reader Datetime
  | .str s => (Datetime.parse s).mapError fun error => .here (.badDatetime s error)
  | value => wrongKind "string" value

def decoded (text : String) : Except ReadError (List UInt8) :=
  (Base64.decode text).mapError fun error => .here (.badBase64 error)

/-- Reads bytes, which are encoded text or an object that holds it. -/
def bytes : Reader (List UInt8)
  | .str s => decoded s
  | .obj members =>
    match members.lookup "$bytes" with
    | some (.str s) => decoded s
    | _ => fail .noBytes
  | value => wrongKind "bytes" value

/-- Reads the content identifier of a link. -/
def cidLink : Reader String
  | .obj members =>
    match members.lookup "$link" with
    | some (.str cid) => .ok cid
    | _ => fail .noLink
  | value => wrongKind "object" value

def blob : Reader BlobRef := fun value => do
  let members ← object value
  -- The tag is checked first, so a value of another type is not reported by its missing parts.
  if (members.lookup "$type").bind Json.asString? = some "blob" then
    let cid ← required members "ref" cidLink
    let mimeType ← required members "mimeType" string
    let size ← required members "size" natural
    return { cid, mimeType, size }
  else fail .noBlobTag

def unknown : Reader Json := .ok

/-! ### Lists -/

/-- Reads elements; the first one is at the given place. -/
def elements (read : Reader α) (index : Nat) : List Json → Except ReadError (List α)
  | [] => .ok []
  | value :: rest => do
    let head ← (read value).mapError (·.within s!"[{index}]")
    let tail ← elements read (index + 1) rest
    return head :: tail

def list (read : Reader α) : Reader (List α)
  | .arr values => elements read 0 values
  | value => wrongKind "array" value

end Reader

namespace BlobRef

/-- The reference as a value, as the reader takes it. -/
def toJson (blob : BlobRef) : Json :=
  .obj [("$type", .str "blob"), ("ref", .obj [("$link", .str blob.cid)]),
    ("mimeType", .str blob.mimeType), ("size", .int blob.size.toNat)]

end BlobRef

end Lexicon
