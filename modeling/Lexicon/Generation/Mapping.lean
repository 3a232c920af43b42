import Lexicon.Naming.Layout
import Lexicon.Reading.Shape

/-!
# Lexicon.Generation.Mapping

What a schema type is in generated code.

A mapping is data: from it follow the type of a field, the expression that
reads the field, the struct it refers to, and the paths it has to import. The
type and the reader are data as well and are written out last.

## Main definitions

- `Mapping`: the kinds of fields.
- `Mapping.type`, `Mapping.reader`: the two sides that have to agree.
- `Mapping.imports`: the paths that have to be in scope.
-/

namespace Lexicon

/-- A type of the generated code. -/
inductive GeneratedType where
  | unit
  | bool
  | integer
  | string
  | datetime
  | bytes
  | blob
  | value
  | map
  | struct (name : String)
  | vec (item : GeneratedType)
  | boxed (inner : GeneratedType)
  | optional (inner : GeneratedType)
deriving DecidableEq, Repr

namespace GeneratedType

/-- The type as it is written. -/
def text : GeneratedType → String
  | unit => "()"
  | bool => "bool"
  | integer => "i64"
  | string => "String"
  | datetime => "DateTime<Utc>"
  | bytes => "Vec<u8>"
  | blob => "BlobRef"
  | value => "serde_json::Value"
  | map => "serde_json::Map<String, serde_json::Value>"
  | struct name => name
  | vec item => "Vec<" ++ item.text ++ ">"
  | boxed inner => "Box<" ++ inner.text ++ ">"
  | optional inner => "Option<" ++ inner.text ++ ">"

end GeneratedType

namespace PlainReader

/-- The name of the function. -/
def name : PlainReader → String
  | null => "read_null"
  | bool => "read_bool"
  | integer => "read_integer"
  | string => "read_string"
  | datetime => "read_datetime"
  | bytes => "read_bytes"
  | cidLink => "read_cid_link"
  | blob => "read_blob"
  | map => "read_map"
  | unknown => "read_unknown"

/-- The type that the function reads. -/
def type : PlainReader → GeneratedType
  | null => .unit
  | bool => .bool
  | integer => .integer
  | string => .string
  | datetime => .datetime
  | bytes => .bytes
  | cidLink => .string
  | blob => .blob
  | map => .map
  | unknown => .value

end PlainReader

/-- An expression that reads a value. -/
inductive ReaderExpr where
  | plain (reader : PlainReader)
  /-- Reads a list with a reader for its items. -/
  | array (item : ReaderExpr)
  /-- Reads a generated struct. -/
  | struct (name : String)
  /-- Reads and puts the result on the heap. -/
  | boxed (inner : ReaderExpr)
deriving DecidableEq, Repr

namespace ReaderExpr

/-- The expression as it is written; `runtime` is the path of the support library. -/
def text (runtime : String) : ReaderExpr → String
  | plain reader => runtime ++ "::" ++ reader.name
  | array item => "|v| " ++ runtime ++ "::read_array(v, " ++ item.text runtime ++ ")"
  | struct name => name ++ "::from_value"
  | boxed inner => "|v| " ++ inner.text runtime ++ "(v).map(Box::new)"

end ReaderExpr

/-- What a schema type is in generated code. -/
inductive Mapping where
  | plain (reader : PlainReader)
  | list (item : Mapping)
  /-- The struct of a definition, which another document may declare. -/
  | struct (id : Nsid) (external : Bool)
deriving DecidableEq, Repr

namespace Mapping

/-- Any value at all. -/
def unknown : Mapping := plain .unknown

/-- The type of a value. -/
def type : Mapping → GeneratedType
  | plain reader => reader.type
  | list item => .vec item.type
  | struct id _ => .struct (Layout.typeName id)

/-- The expression that reads a value. -/
def reader : Mapping → ReaderExpr
  | plain reader => .plain reader
  | list item => .array item.reader
  | struct id _ => .struct (Layout.typeName id)

/-- The definition whose struct the value is, lists apart. -/
def target? : Mapping → Option Nsid
  | struct id _ => some id
  | _ => none

/-- The paths that the type needs in scope. -/
def imports (layout : Layout) (runtime : String) : Mapping → List String
  | plain .datetime => ["chrono::DateTime", "chrono::Utc"]
  | plain .blob => [runtime ++ "::BlobRef"]
  | plain _ => []
  | list item => item.imports layout runtime
  | struct id external => if external then [layout.qualifiedTypeName id] else []

end Mapping

end Lexicon
