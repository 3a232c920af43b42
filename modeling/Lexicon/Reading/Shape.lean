import Lexicon.Reading.Reader

/-!
# Lexicon.Reading.Shape

Shapes of generated data, and reading values of a given shape.

A shape says how a value is read: as a plain value, as a list, as something
that may be `null`, or as the fields of a struct one after the other. What has
been read is data again, so it can be looked at.

## Main definitions

- `PlainReader`: the readers for plain values by name.
- `Shape`, `Shape.read`: shapes and how they are read.
-/

namespace Lexicon

/-- The readers that the support library of generated code has for plain values. -/
inductive PlainReader where
  | null
  | bool
  | integer
  | string
  | datetime
  | bytes
  | cidLink
  | blob
  | map
  | unknown
deriving DecidableEq, Repr

/-- Whether a field has to be there, and may be `null`. -/
inductive Presence where
  | required
  /-- Has to be there and may be `null`. -/
  | requiredNullable
  | optional
deriving DecidableEq, Repr

/-- The presence of a field that is in the list of required or nullable ones. -/
def Presence.ofFlags (isRequired isNullable : Bool) : Presence :=
  match isRequired, isNullable with
  | true, false => required
  | true, true => requiredNullable
  | false, _ => optional

/-- What has been read. -/
inductive ReadValue where
  | unit
  | bool (value : Bool)
  | integer (value : Int64)
  | string (value : String)
  | datetime (value : Datetime)
  | bytes (value : List UInt8)
  | blob (value : BlobRef)
  | map (members : List (String × Json))
  | json (value : Json)
  /-- An optional or nullable value that is not there. -/
  | absent
  | list (items : List ReadValue)
  | struct (fields : List (String × ReadValue))

namespace PlainReader

/-- Reads a plain value. -/
def read : PlainReader → Reader ReadValue
  | null => fun value => (Reader.null value).map fun _ => .unit
  | bool => fun value => (Reader.bool value).map .bool
  | integer => fun value => (Reader.integer value).map .integer
  | string => fun value => (Reader.string value).map .string
  | datetime => fun value => (Reader.datetime value).map .datetime
  | bytes => fun value => (Reader.bytes value).map .bytes
  | cidLink => fun value => (Reader.cidLink value).map .string
  | blob => fun value => (Reader.blob value).map .blob
  | map => fun value => (Reader.object value).map .map
  | unknown => fun value => (Reader.unknown value).map .json

end PlainReader

/-- Reads a field of a struct from the members of an object. -/
def Presence.read (presence : Presence) (members : List (String × Json)) (field : String)
    (read : Reader ReadValue) : Except ReadError ReadValue :=
  match presence with
  | required => Reader.required members field read
  | requiredNullable => (Reader.required members field (Reader.nullable read)).map (·.getD .absent)
  | optional => (Reader.optional members field read).map (·.getD .absent)

/-- How a value is read. -/
inductive Shape where
  | plain (reader : PlainReader)
  | list (item : Shape)
  | nullable (inner : Shape)
  | struct (fields : List (String × Presence × Shape))

namespace Shape

mutual

/-- Reads a value of a shape. -/
def read : Shape → Reader ReadValue
  | plain reader => reader.read
  | list item => fun value => (Reader.list (read item) value).map .list
  | nullable inner => fun value => (Reader.nullable (read inner) value).map (·.getD .absent)
  | struct fields => fun value => do
    let members ← Reader.object value
    return .struct (← readFields fields members)

/-- Reads the fields of a struct in order, up to the first error. -/
def readFields : List (String × Presence × Shape) → List (String × Json) →
    Except ReadError (List (String × ReadValue))
  | [], _ => .ok []
  | (field, presence, shape) :: rest, members => do
    let value ← presence.read members field (read shape)
    let values ← readFields rest members
    return (field, value) :: values

end

end Shape

end Lexicon
