import Lexicon.Schema.Error

/-!
# Lexicon.Schema.Fields

Typed reading of the keys of one schema node.

A key that is absent is not an error; a key that is there must have the shape
that its reader asks for, and `null` is a value like any other. For a list the
first element of a wrong kind is the one that is reported.
-/

namespace Lexicon

/-- The members of a node, and the variant that errors name. -/
structure Fields where
  variant : String
  members : List (String × Json)

namespace Fields

/-- The members of a value that has to be an object. -/
def of (variant : String) : Json → Except ParseError Fields
  | .obj members => .ok { variant, members }
  | other => .error (.here (.notAnObject other.kind))

/-- The error for a key with a faulty value. -/
def invalid (f : Fields) (key : String) (fault : KeyFault) : ParseError :=
  .here (.invalidKey f.variant key fault)

/-- The error for a key that has to be there. -/
def missing (f : Fields) (key : String) : ParseError := .here (.missingKey f.variant key)

/-- The value of a key. -/
def raw? (f : Fields) (key : String) : Option Json := f.members.lookup key

/-! ### Views of one value -/

/-- A value of the wrong kind is reported by its kind. -/
def viewText : Json → Except Kind String
  | .str s => .ok s
  | other => .error other.kind

/-- A truth value. -/
def viewBool : Json → Except Kind Bool
  | .bool b => .ok b
  | other => .error other.kind

/-- A signed 64-bit integer. -/
def viewInt64 (value : Json) : Except Kind Int64 :=
  match value.asInt64? with
  | some n => .ok n
  | none => .error value.kind

/-- An unsigned 64-bit integer. -/
def viewUInt64 (value : Json) : Except Kind UInt64 :=
  match value.asUInt64? with
  | some n => .ok n
  | none => .error value.kind

/-- A list whose elements have the given view. -/
def viewList {α : Type} (view : Json → Except Kind α) : Json → Except Kind (List α)
  | .arr elements => elements.mapM view
  | other => .error other.kind

/-! ### Readers of one key -/

/-- The value of a key that may be absent. -/
def optional {α : Type} (f : Fields) (key : String) (shape : KeyShape)
    (view : Json → Except Kind α) : Except ParseError (Option α) :=
  match f.raw? key with
  | none => .ok none
  | some value =>
    match view value with
    | .ok a => .ok (some a)
    | .error found => .error (f.invalid key (.wrongShape shape found))

/-- The value of a key that has to be there. -/
def required {α : Type} (f : Fields) (key : String) (shape : KeyShape)
    (view : Json → Except Kind α) : Except ParseError α := do
  match ← f.optional key shape view with
  | some a => .ok a
  | none => .error (f.missing key)

/-- An optional text. -/
def text? (f : Fields) (key : String) : Except ParseError (Option String) :=
  f.optional key .text viewText

/-- A text that has to be there. -/
def text (f : Fields) (key : String) : Except ParseError String :=
  f.required key .text viewText

/-- The documentation of the node. -/
def description (f : Fields) : Except ParseError (Option String) := f.text? "description"

/-- An optional truth value. -/
def bool? (f : Fields) (key : String) : Except ParseError (Option Bool) :=
  f.optional key .boolean viewBool

/-- An optional signed integer. -/
def int64? (f : Fields) (key : String) : Except ParseError (Option Int64) :=
  f.optional key .integer viewInt64

/-- An optional unsigned integer. -/
def uint64? (f : Fields) (key : String) : Except ParseError (Option UInt64) :=
  f.optional key .natural viewUInt64

/-- An optional list of texts. -/
def texts? (f : Fields) (key : String) : Except ParseError (Option (List String)) :=
  f.optional key .texts (viewList viewText)

/-- An optional list of signed integers. -/
def int64s? (f : Fields) (key : String) : Except ParseError (Option (List Int64)) :=
  f.optional key .integers (viewList viewInt64)

end Fields

end Lexicon
