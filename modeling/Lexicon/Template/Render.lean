import Lexicon.Json.Printer
import Lexicon.Template.Basic
import Lexicon.Template.Helper

/-!
# Lexicon.Template.Render

Filling templates with values.

Missing values and `null` are written as nothing. Blocks choose by the truth
of a value: `false`, `null`, zero and everything empty are false. A loop makes
each element the value at hand, and a path is looked up there and nowhere
around it.

## Main definition

`Template.render`: the text of a template for a value.
-/

namespace Lexicon

namespace Template

/-- Why a template cannot be filled. -/
inductive RenderError where
  | unknownHelper (name : String)
  | missingOperand (helper : String)
  | unknownTemplate (name : String)
deriving DecidableEq, Repr

/-- The error in words. -/
def RenderError.message : RenderError → String
  | unknownHelper name => "no helper is called " ++ name
  | missingOperand helper => helper ++ " needs an operand"
  | unknownTemplate name => "no template is called " ++ name

/-- A value at hand, and what the loop that put it there binds. -/
structure Scope where
  value : Json
  bindings : List (String × Json)

/-- The values at hand, innermost first, and the one around all of them. -/
structure Env where
  root : Json
  scopes : List Scope

/-- The value inside of a value that a segment leads to. -/
def segment? (value : Json) (segment : String) : Option Json :=
  match value with
  | .obj members => members.lookup segment
  | .arr elements => segment.toNat?.bind (elements[·]?)
  | _ => none

/-- The value that a path leads to. -/
def PathExpr.value? (path : PathExpr) (env : Env) : Option Json := do
  let start ← match path.start with
    | .root => some env.root
    | .context up => some ((env.scopes[up]?.map (·.value)).getD env.root)
    | .loop name => env.scopes.head?.bind (·.bindings.lookup name)
  path.segments.foldlM segment? start

/-- The value of an operand; a missing one is `null`. -/
def Operand.value (operand : Operand) (env : Env) : Json :=
  match operand with
  | .literal json => json
  | .path route => (route.value? env).getD .null

/-- Whether a value counts as true. -/
def isTruthy : Json → Bool
  | .null => false
  | .bool b => b
  | .int n => n != 0
  -- Subnormal numbers count as zero.
  | .real x => Nat.pow 2 52 ≤ x.mantissa
  | .str s => !s.isEmpty
  | .arr elements => !elements.isEmpty
  | .obj members => !members.isEmpty

mutual

/-- A value as it is written. -/
def valueText : Json → String
  | .null => ""
  | .str s => s
  | .arr elements => "[" ++ String.intercalate ", " (valueTexts elements) ++ "]"
  | .obj _ => "[object]"
  | value => value.text

/-- Values as they are written. -/
def valueTexts : List Json → List String
  | [] => []
  | value :: rest => valueText value :: valueTexts rest

end

/-- The names of blocks and functions that need operands. -/
def operandNames : List String :=
  ["if", "unless", "each", "with", "lookup", "eq", "ne", "gt", "gte", "lt", "lte", "and", "or",
   "not", "len"]

/-- The text of a helper. -/
def callText (env : Env) (call : Call) : Except RenderError String :=
  match Helper.ofName? call.name with
  | some helper =>
    .ok (helper.apply (call.operands.map (·.value env))
      (call.options.map fun (key, operand) => (key, operand.value env)))
  | none => .error (.unknownHelper call.name)

/-- The text of a single value, or of a helper without operands. -/
def pathText (env : Env) (path : PathExpr) : Except RenderError String :=
  match path with
  | { start := .context 0, segments := [name] } =>
    match Helper.ofName? name with
    | some helper => .ok (helper.apply [] [])
    | none =>
      if operandNames.contains name then .error (.missingOperand name)
      else .ok (((path.value? env).map valueText).getD "")
  | path => .ok (((path.value? env).map valueText).getD "")

/-- The scope of one turn of a loop over a list. -/
def elementScope (count index : Nat) (value : Json) : Scope :=
  { value
    bindings := [("index", .int index), ("first", .bool (index == 0)),
      ("last", .bool (index + 1 == count))] }

/-- The scope of one turn of a loop over an object. -/
def memberScope (count index : Nat) (key : String) (value : Json) : Scope :=
  { value
    bindings := [("key", .str key), ("first", .bool (index == 0)),
      ("last", .bool (index + 1 == count))] }

/-- The scopes of the turns of a loop; nothing when there is nothing to loop over. -/
def loopScopes : Json → List Scope
  | .arr elements => elements.zipIdx.map fun (value, i) => elementScope elements.length i value
  | .obj members =>
    members.zipIdx.map fun ((key, value), i) => memberScope members.length i key value
  | _ => []

mutual

/-- The text of a node. -/
def renderNode (env : Env) : Node → Except RenderError String
  | .text text => .ok text
  | .value path => pathText env path
  | .call call => callText env call
  | .insertion name => .error (.unknownTemplate name)
  | .block call body otherwise =>
    let operand := call.operands.head?.map (·.value env)
    if call.name = "if" then
      match operand with
      | none => .error (.missingOperand call.name)
      | some value => if isTruthy value then renderNodes env body else renderOption env otherwise
    else if call.name = "unless" then
      match operand with
      | none => .error (.missingOperand call.name)
      | some value => if isTruthy value then renderOption env otherwise else renderNodes env body
    else if call.name = "each" then
      match operand with
      | none => .error (.missingOperand call.name)
      | some value =>
        match loopScopes value with
        | [] => renderOption env otherwise
        | scopes => do
          let texts ← scopes.mapM fun scope =>
            renderNodes { env with scopes := scope :: env.scopes } body
          .ok (String.join texts)
    else .error (.unknownHelper call.name)

/-- The text of nodes. -/
def renderNodes (env : Env) : List Node → Except RenderError String
  | [] => .ok ""
  | node :: rest => do
    let head ← renderNode env node
    let tail ← renderNodes env rest
    .ok (head ++ tail)

/-- The text of an optional part. -/
def renderOption (env : Env) : Option (List Node) → Except RenderError String
  | none => .ok ""
  | some nodes => renderNodes env nodes

end

/-- The text of a template for a value. -/
def render (template : Template) (data : Json) : Except RenderError String :=
  renderNodes { root := data, scopes := [{ value := data, bindings := [] }] } template

end Template

end Lexicon
