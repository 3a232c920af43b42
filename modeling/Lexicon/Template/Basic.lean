import Lexicon.Json.Basic

/-!
# Lexicon.Template.Basic

Templates: text with tags in double braces.

A tag inserts a value (`x`, `o.x`, `@index`), calls a helper with operands and
options (`doc text indent="  "`), or opens, divides or closes a block
(`#if x`, `else`, `/if`).
-/

namespace Lexicon

namespace Template

/-- Where the lookup of a path starts. -/
inductive PathStart where
  /-- The value at hand, or one of those around it. -/
  | context (up : Nat)
  /-- A variable of the innermost loop, such as `index`. -/
  | loop (name : String)
  /-- The value that the template is rendered with. -/
  | root
deriving DecidableEq, Repr

/-- A path to a value. -/
structure PathExpr where
  start : PathStart
  segments : List String
deriving DecidableEq, Repr

/-- An operand of a helper. -/
inductive Operand where
  | literal (value : Json)
  | path (path : PathExpr)
deriving Repr

/-- A helper with its operands and named options. -/
structure Call where
  name : String
  operands : List Operand
  options : List (String × Operand)
deriving Repr

/-- What a tag says. -/
inductive TagContent where
  | value (path : PathExpr)
  | call (call : Call)
  | openBlock (call : Call)
  | otherwise
  /-- `else if x`: divides the block and opens another one in its second part. -/
  | otherwiseBlock (call : Call)
  | closeBlock (name : String)
  | comment
  /-- Inserts another template. -/
  | insertion (name : String)
deriving Repr

/-- A tag. A tilde at a side takes the white space of the text at that side. -/
structure Tag where
  content : TagContent
  trimsBefore : Bool
  trimsAfter : Bool
deriving Repr

/-- A part of a template. -/
inductive Node where
  | text (text : String)
  | value (path : PathExpr)
  | call (call : Call)
  | block (call : Call) (body : List Node) (otherwise : Option (List Node))
  | insertion (name : String)

/-! ### Building templates -/

namespace PathExpr

/-- The path to the value at hand. -/
def this : PathExpr := { start := .context 0, segments := [] }

/-- The path to a member of the value at hand. -/
def member (name : String) : PathExpr := { start := .context 0, segments := [name] }

/-- The path to a variable of the loop at hand. -/
def loopVariable (name : String) : PathExpr := { start := .loop name, segments := [] }

end PathExpr

namespace Node

/-- Inserts a member of the value at hand. -/
def member (name : String) : Node := value (.member name)

/-- Writes a member of the value at hand as comment lines. -/
def comment (name : String) (options : List (String × Operand)) : Node :=
  call { name := "doc", operands := [.path (.member name)], options }

/-- A part that is there for a value that counts as true. -/
def ifTrue (condition : PathExpr) (body : List Node) : Node :=
  block { name := "if", operands := [.path condition], options := [] } body none

/-- One part or the other, as a value counts as true or not. -/
def choose (condition : PathExpr) (body otherwise : List Node) : Node :=
  block { name := "if", operands := [.path condition], options := [] } body (some otherwise)

/-- A part for each element of a member of the value at hand. -/
def forEach (name : String) (body : List Node) : Node :=
  block { name := "each", operands := [.path (.member name)], options := [] } body none

end Node

end Template

/-- A template: its parts in order. -/
abbrev Template := List Template.Node

end Lexicon
