import Lexicon.Entries
import Lexicon.Json.Basic
import Lexicon.Number.Binary64
import Lexicon.Text.Ascii
import Lexicon.Text.Split

/-!
# Lexicon.Yaml.Basic

YAML documents as nodes, and the values that they stand for.

A plain scalar is a value of the core schema: null, a Boolean, an integer in
one of four bases, a number, or else text. Scalars in quotes or blocks are
text. A tag of the core schema asks for one kind of value.

## Main definitions

- `Node`: a document before its scalars are given a meaning.
- `Node.toJson?`: the value of a document.
- `Scalar.plainValue`: the core schema.
-/

namespace Lexicon

namespace Yaml

/-- A node of a document. -/
inductive Node where
  | scalar (plain : Bool) (text : String)
  | list (items : List Node)
  | map (pairs : List (Node × Node))
  | tagged (tag : String) (node : Node)

namespace Node

/-- The node that stands where nothing is written. -/
def empty : Node := .scalar true ""

/-- The text of a scalar, whatever its tag. -/
def text? : Node → Option String
  | scalar _ text => some text
  | tagged _ node => node.text?
  | _ => none

end Node

namespace Scalar

/-! ### Integers -/

/-- The digits of a number in a base, when there are any and nothing else. -/
def digits? (base : Nat) (s : List Char) : Option Nat :=
  if s.isEmpty || !(s.all fun c => Text.isHexDigit c && Text.hexDigitValue c < base) then none
  else some (s.foldl (fun n c => n * base + Text.hexDigitValue c) 0)

/-- Whether digits start with a zero that does not belong there. -/
def hasLeadingZero (s : List Char) : Bool :=
  match s with
  | '0' :: d :: rest => (d :: rest).all Text.isAsciiDigit
  | _ => false

/-- A number without its sign: decimal, or in the base that its beginning names. -/
def magnitude? (s : List Char) : Option Nat :=
  match s with
  | '0' :: 'x' :: rest => digits? 16 rest
  | '0' :: 'o' :: rest => digits? 8 rest
  | '0' :: 'b' :: rest => digits? 2 rest
  | s => if hasLeadingZero s then none else digits? 10 s

/-- An integer with an optional sign. -/
def integer? (s : List Char) : Option Int :=
  match s with
  | '-' :: rest => (magnitude? rest).map fun n => -(n : Int)
  | '+' :: rest => (magnitude? rest).map Int.ofNat
  | s => (magnitude? s).map Int.ofNat

/-! ### Numbers -/

/-- The double nearest to `± digits · 10 ^ exponent`; nothing when that is beyond the finite
range. Exponents that leave no doubt are settled first. -/
def nearest? (negative : Bool) (digits : List Char) (exponent : Int) : Option Binary64 :=
  let n := (digits? 10 digits).getD 0
  let size := exponent + digits.length
  if n = 0 ∨ size < -400 then Binary64.ofQuotient? negative 0 1
  else if 400 + digits.length < size then none
  else if exponent < 0 then Binary64.ofQuotient? negative n (Nat.pow 10 (-exponent).toNat)
  else Binary64.ofQuotient? negative (n * Nat.pow 10 exponent.toNat) 1

/-- The exponent of a number: nothing is zero. -/
def exponent? (s : List Char) : Option Int :=
  match s with
  | [] => some 0
  | e :: rest =>
    if e != 'e' && e != 'E' then none
    else
      match rest with
      | '-' :: ds => (digits? 10 ds).map fun n => -(n : Int)
      | '+' :: ds => (digits? 10 ds).map Int.ofNat
      | ds => (digits? 10 ds).map Int.ofNat

/-- A number without its sign: digits with a point among them or beside them, and an exponent. -/
def unsignedNumber? (negative : Bool) (s : List Char) : Option Binary64 := do
  let whole := s.takeWhile Text.isAsciiDigit
  let s := s.dropWhile Text.isAsciiDigit
  let (places, s) :=
    match s with
    | '.' :: rest => (rest.takeWhile Text.isAsciiDigit, rest.dropWhile Text.isAsciiDigit)
    | s => ([], s)
  if whole.isEmpty && places.isEmpty then none
  else nearest? negative (whole ++ places) ((← exponent? s) - places.length)

/-- A finite number with an optional sign. -/
def number? (s : List Char) : Option Binary64 :=
  match s with
  | '-' :: rest => unsignedNumber? true rest
  | '+' :: rest => unsignedNumber? false rest
  | s => unsignedNumber? false s

/-- The spellings of values that are no finite number. -/
def nonFinite : List String :=
  [".inf", ".Inf", ".INF", "+.inf", "+.Inf", "+.INF", "-.inf", "-.Inf", "-.INF", ".nan", ".NaN",
   ".NAN"]

/-! ### The core schema -/

/-- The spellings of null. -/
def nullWords : List String := ["null", "Null", "NULL", "~"]

/-- A Boolean. -/
def bool? (text : String) : Option Bool :=
  if ["true", "True", "TRUE"].contains text then some true
  else if ["false", "False", "FALSE"].contains text then some false
  else none

/-- An integer that fits a signed or unsigned 64-bit word. -/
def fits (n : Int) : Bool := Int64.minValue.toInt ≤ n && n.toNat < UInt64.size

/-- A number or what stands for one; infinities and what is no number become null. -/
def numberValue? (text : String) : Option Json :=
  if nonFinite.contains text then some .null
  else
    let digits := match text.toList with
      | '-' :: rest | '+' :: rest => rest
      | s => s
    if hasLeadingZero digits then none else (number? text.toList).map .real

/-- The value of a plain scalar. Integers beyond the 64-bit words are refused when they fit 128
bits, and are numbers beyond that. -/
def plainValue (text : String) : Option Json :=
  if text.isEmpty || nullWords.contains text then some .null
  else
    match bool? text with
    | some b => some (.bool b)
    | none =>
      match integer? text.toList with
      | some n =>
        if fits n then some (.int n)
        else if -Int.pow 2 127 ≤ n && n < Int.pow 2 128 then none
        else some ((numberValue? text).getD (.str text))
      | none => some ((numberValue? text).getD (.str text))

/-- The beginning of the tags of the core schema. -/
def corePrefix : String := "tag:yaml.org,2002:"

/-- The value of a scalar with a tag. Tags of an application's own are refused. -/
def taggedValue (tag : String) (plain : Bool) (text : String) : Option Json :=
  if tag = "!" then if plain then plainValue text else some (.str text)
  else if Text.hasStart "!" tag then none
  else if tag = corePrefix ++ "null" then
    if nullWords.contains text then some .null else none
  else if tag = corePrefix ++ "bool" then (bool? text).map .bool
  else if tag = corePrefix ++ "int" then
    (integer? text.toList).bind fun n => if fits n then some (.int n) else none
  else if tag = corePrefix ++ "float" then
    if nonFinite.contains text then some .null else (number? text.toList).map .real
  else some (.str text)

end Scalar

namespace Node

/-- The most collections that may lie inside each other. -/
def maxDepth : Nat := 128

mutual

/-- The value of a node, through at most `depth` collections. -/
def value? (depth : Nat) : Node → Option Json
  | scalar plain text => if plain then Scalar.plainValue text else some (.str text)
  | tagged tag (scalar plain text) => Scalar.taggedValue tag plain text
  | tagged tag node => if Text.hasStart "!" tag then none else value? depth node
  | list items => if depth = 0 then none else (values? (depth - 1) items).map .arr
  | map pairs =>
    if depth = 0 then none
    else (members? (depth - 1) pairs).map fun members => .obj (Entries.ofPairs members)

/-- The values of nodes. -/
def values? (depth : Nat) : List Node → Option (List Json)
  | [] => some []
  | node :: rest => do
    let head ← value? depth node
    let tail ← values? depth rest
    return head :: tail

/-- The members of an object, whose keys have to be scalars. -/
def members? (depth : Nat) : List (Node × Node) → Option (List (String × Json))
  | [] => some []
  | (key, node) :: rest => do
    let key ← key.text?
    let head ← value? depth node
    let tail ← members? depth rest
    return (key, head) :: tail

end

end Node

end Yaml

end Lexicon
