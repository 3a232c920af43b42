import Lexicon.Format.Check
import Lexicon.Unicode.Grapheme
import Lexicon.Validation.Finding

/-!
# Lexicon.Validation.Leaf

Holding a value to a node without children.

First the value has to be of the right form; what is wrong with its form is
one failure. Only then do the constraints of the node apply, and those that
fail are listed in a fixed order: constant, list, size or range, format.

## Main definition

`Verdict.ofNode`: the verdict of a node on a value, children apart.
-/

namespace Lexicon

/-- What a node says of a value, children apart. -/
inductive Verdict where
  /-- The form is wrong. -/
  | malformed (cause : Cause)
  /-- The form is right; these constraints fail. -/
  | formed (failing : List Cause)
deriving Repr

/-- The cause, if it holds against a value. -/
def failing (bad : Bool) (cause : Cause) : List Cause := if bad then [cause] else []

/-- The cause against a value that a constraint gives, if there is a constraint. -/
def against {α : Type} (constraint : Option α) (check : α → List Cause) : List Cause :=
  match constraint with
  | none => []
  | some a => check a

/-- Whether a media type fits a pattern: exact, or with any subtype as in `image/*`. -/
def mimeTypeFits (pattern mimeType : String) : Bool :=
  if pattern = "*/*" then true
  else
    match Text.dropEnd? "/*" pattern with
    -- A media type without a slash has no subtype, so it fits no pattern of this form.
    | some major =>
      match Text.cutAt '/' mimeType with
      | (m, some _) => Text.equalIgnoringAsciiCase m major
      | (_, none) => false
    | none => Text.equalIgnoringAsciiCase pattern mimeType

namespace BooleanType

def failures (t : BooleanType) (b : Bool) : List Cause :=
  against t.const fun c => failing (b != c) (.notConstBool c)

end BooleanType

namespace IntegerType

def failures (t : IntegerType) (n : Int) : List Cause :=
  against t.const (fun c => failing (n != c.toInt) (.notConstInteger c.toInt)) ++
    against t.enum (fun allowed =>
      let allowed := allowed.map Int64.toInt
      failing (!allowed.contains n) (.integerNotListed n allowed)) ++
    against t.minimum (fun m => failing (n < m.toInt) (.belowMinimum n m.toInt)) ++
    against t.maximum (fun m => failing (m.toInt < n) (.aboveMaximum n m.toInt))

end IntegerType

namespace StringType

def failures (t : StringType) (s : String) : List Cause :=
  -- The lengths count bytes of UTF-8, and grapheme clusters have bounds of their own.
  let bytes := s.utf8ByteSize
  let graphemes := Unicode.graphemeCount s
  against t.const (fun c => failing (s != c) (.notConstString c)) ++
    against t.enum (fun allowed => failing (!allowed.contains s) (.stringNotListed s allowed)) ++
    against t.minLength (fun m => failing (bytes < m.toNat) (.fewBytes bytes m.toNat)) ++
    against t.maxLength (fun m => failing (m.toNat < bytes) (.manyBytes bytes m.toNat)) ++
    against t.minGraphemes (fun m =>
      failing (graphemes < m.toNat) (.fewGraphemes graphemes m.toNat)) ++
    against t.maxGraphemes (fun m =>
      failing (m.toNat < graphemes) (.manyGraphemes graphemes m.toNat)) ++
    -- A format of another dialect gives no answer and holds against nothing.
    against t.format (fun f => failing (f.admits? s == some false) (.badFormat s f.name))

end StringType

namespace BytesType

/-- The encoded text of a value: a string, or an object that holds it under `$bytes`. -/
def encoded (value : Json) : Except Cause String :=
  match value with
  | .str s => .ok s
  | .obj members =>
    match (members.lookup "$bytes").bind Json.asString? with
    | some s => .ok s
    | none => .error .notBytes
  | other => .error (.mismatch "bytes" other.kind)

/-- The constraints that fail for that many bytes. -/
def failures (t : BytesType) (length : Nat) : List Cause :=
  against t.minLength (fun m => failing (length < m.toNat) (.fewBytes length m.toNat)) ++
    against t.maxLength (fun m => failing (m.toNat < length) (.manyBytes length m.toNat))

def verdict (t : BytesType) (value : Json) : Verdict :=
  match encoded value with
  | .error cause => .malformed cause
  | .ok s =>
    match Base64.decode s with
    | .error reason => .malformed (.badBase64 reason)
    | .ok bytes => .formed (t.failures bytes.length)

end BytesType

namespace CidLinkType

def verdict (value : Json) : Verdict :=
  match value with
  | .obj members =>
    match (members.lookup "$link").bind Json.asString? with
    | none => .malformed .notLink
    | some link => if Format.isCid link then .formed [] else .malformed (.badCid link)
  | other => .malformed (.mismatch "cid-link" other.kind)

end CidLinkType

namespace BlobType

/-- Whether a value links to content. -/
def isLink (value : Json) : Bool :=
  match (value.get? "$link").bind Json.asString? with
  | some link => Format.isCid link
  | none => false

/-- The media type and the size of a blob. -/
def parts (value : Json) : Except Cause (String × Nat) :=
  match value with
  | .obj members =>
    -- The first part that is wrong is the one that is reported.
    if (members.lookup "$type").bind Json.asString? ≠ some "blob" then .error .blobTag
    else if !((members.lookup "ref").any isLink) then .error .blobReference
    else
      match (members.lookup "mimeType").bind Json.asString? with
      | none => .error .blobMimeType
      | some mimeType =>
        match (members.lookup "size").bind Json.asUInt64? with
        | none => .error .blobSize
        | some size => .ok (mimeType, size.toNat)
  | other => .error (.mismatch "blob" other.kind)

def failures (t : BlobType) (mimeType : String) (size : Nat) : List Cause :=
  against t.accept (fun patterns =>
      failing (!patterns.any (mimeTypeFits · mimeType)) (.mimeTypeNotAccepted mimeType)) ++
    against t.maxSize (fun m => failing (m.toNat < size) (.sizeAboveMaximum size m.toNat))

def verdict (t : BlobType) (value : Json) : Verdict :=
  match parts value with
  | .error cause => .malformed cause
  | .ok (mimeType, size) => .formed (t.failures mimeType size)

end BlobType

/-- Whether all keys are decimal indices: an array that was written as an object. -/
def isIndexKeyed (members : List (String × Json)) : Bool :=
  !members.isEmpty &&
    members.all fun (key, _) => !key.isEmpty && key.toList.all Text.isAsciiDigit

namespace ArrayShape

/-- The verdict on a value, its elements apart. The bounds on the number of elements are not
listed here, since they are reported one beside the other. -/
def formVerdict (value : Json) : Verdict :=
  match value with
  | .arr _ => .formed []
  | .obj members =>
    if isIndexKeyed members then .malformed .sparseArray
    else .malformed (.mismatch "array" .object)
  | other => .malformed (.mismatch "array" other.kind)

/-- The bounds on the number of elements that fail. -/
def failures {node : Type} (t : ArrayShape node) (count : Nat) : List Cause :=
  against t.minLength (fun m => failing (count < m.toNat) (.fewElements count m.toNat)) ++
    against t.maxLength (fun m => failing (m.toNat < count) (.manyElements count m.toNat))

end ArrayShape

namespace Verdict

def mismatch (expected : String) (value : Json) : Verdict :=
  malformed (.mismatch expected value.kind)

/-- The verdict of a node on a value, children apart. References and unions have none of their
own. -/
def ofNode (node : TypeNode) (value : Json) : Verdict :=
  match node with
  | .null _ => if value.isNull then formed [] else mismatch "null" value
  | .boolean t =>
    match value with
    | .bool b => formed (t.failures b)
    | other => mismatch "boolean" other
  | .integer t =>
    match value with
    | .int n => formed (t.failures n)
    | other => mismatch "integer" other
  | .string t =>
    match value with
    | .str s => formed (t.failures s)
    | other => mismatch "string" other
  | .bytes t => t.verdict value
  | .cidLink _ => CidLinkType.verdict value
  | .blob t => t.verdict value
  | .array _ => ArrayShape.formVerdict value
  | .object _ =>
    match value with
    | .obj _ => formed []
    | other => mismatch "object" other
  | .ref _ | .union _ | .unknown _ => formed []

end Verdict

end Lexicon
