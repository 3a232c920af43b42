import Lexicon.Generation.Stubs
import Lexicon.Proofs.Results
import Lexicon.Proofs.TextLines

/-!
# Lexicon.Proofs.TemplateText

The text that a template writes, node by node.

A template is filled part by part, so its text is known as soon as each of its
nodes is. A loop writes one text for each element of a list, and a condition
writes its body or nothing. The nodes below are those that templates are built
from; each has one law.

## Main results

- `Template.renderNodes_eq_ok`: the texts of nodes one after the other.
- `Template.renderNode_forEach`: the text of a loop.
-/

namespace Lexicon

namespace Template

variable {env : Env} {name : String}

/-! ### Sequences -/

theorem renderNodes_eq_ok {nodes : List Node} {texts : List String}
    (each : List.Forall₂ (fun node text => renderNode env node = .ok text) nodes texts) :
    renderNodes env nodes = .ok (String.join texts) := by
  induction each with
  | nil => rw [renderNodes, String.join_nil]
  | cons first _ ih =>
    rw [renderNodes, first, ok_bind, ih, String.join_cons]
    rfl

theorem renderNodes_append {nodes more : List Node} {first second : String}
    (left : renderNodes env nodes = .ok first) (right : renderNodes env more = .ok second) :
    renderNodes env (nodes ++ more) = .ok (first ++ second) := by
  induction nodes generalizing first with
  | nil =>
    rw [renderNodes] at left
    cases left
    rw [List.nil_append, right, String.empty_append]
  | cons node rest ih =>
    rw [renderNodes] at left
    obtain ⟨head, here, left⟩ := bind_eq_ok_iff.mp left
    obtain ⟨tail, later, same⟩ := bind_eq_ok_iff.mp left
    cases same
    rw [List.cons_append, renderNodes, here, ok_bind, ih later, ok_bind, String.append_assoc]

/-! ### Single nodes -/

theorem renderNode_text (text : String) : renderNode env (.text text) = .ok text := by
  rw [renderNode]

/-- A member is written as its value, unless its name means something else. -/
theorem renderNode_member {value : Json} (found : (PathExpr.member name).value? env = some value)
    (plain : Helper.ofName? name = none ∧ name ∉ operandNames) :
    renderNode env (.member name) = .ok (valueText value) := by
  obtain ⟨noHelper, noBlock⟩ := plain
  rw [Node.member, renderNode, PathExpr.member, pathText, noHelper]
  dsimp only
  rw [if_neg (by simpa using noBlock)]
  have written := congrArg (fun value => (value.map valueText).getD "") found
  exact congrArg Except.ok written

theorem renderNode_this (text : String) (bindings : List (String × Json)) (scopes : List Scope) :
    renderNode { env with scopes := { value := .str text, bindings } :: scopes } (.value .this) =
      .ok text := rfl

theorem renderNode_comment {value : Json} {options : List (String × Operand)}
    (found : (PathExpr.member name).value? env = some value) :
    renderNode env (.comment name options) =
      .ok (Helper.doc.apply [value]
        (options.map fun (key, operand) => (key, operand.value env))) := by
  have helper : Helper.ofName? "doc" = some .doc := by decide
  rw [Node.comment, renderNode, callText, helper]
  simp only [List.map_cons, List.map_nil, Operand.value, found, Option.getD_some]

theorem renderNode_ifTrue {condition : PathExpr} {value : Json} {body : List Node} {text : String}
    (found : condition.value? env = some value) (written : renderNodes env body = .ok text) :
    renderNode env (.ifTrue condition body) = .ok (if isTruthy value then text else "") := by
  rw [Node.ifTrue, renderNode]
  simp only [List.head?_cons, Option.map_some, Operand.value, found, Option.getD_some, if_true]
  split
  · exact written
  · rw [renderOption]

theorem renderNode_choose {condition : PathExpr} {value : Json} {body otherwise : List Node}
    {text other : String} (found : condition.value? env = some value)
    (written : renderNodes env body = .ok text) (instead : renderNodes env otherwise = .ok other) :
    renderNode env (.choose condition body otherwise) =
      .ok (if isTruthy value then text else other) := by
  rw [Node.choose, renderNode]
  simp only [List.head?_cons, Option.map_some, Operand.value, found, Option.getD_some, if_true]
  split
  · exact written
  · rw [renderOption, instead]

/-! ### Loops -/

/-- A loop writes its body once for each element; the body may ask for the place of the
element. -/
theorem renderNode_forEach {α : Type} {items : List α} {toJson : α → Json} {body : List Node}
    {text : α → Nat → String}
    (found : (PathExpr.member name).value? env = some (.arr (items.map toJson)))
    (each : ∀ item index, (item, index) ∈ items.zipIdx →
      renderNodes
        { env with scopes := elementScope items.length index (toJson item) :: env.scopes } body =
          .ok (text item index)) :
    renderNode env (.forEach name body) =
      .ok (String.join (items.zipIdx.map fun (item, index) => text item index)) := by
  have scopes : loopScopes (.arr (items.map toJson)) =
      items.zipIdx.map fun (item, index) => elementScope items.length index (toJson item) := by
    simp [loopScopes, List.zipIdx_map]
  have texts : (loopScopes (.arr (items.map toJson))).mapM
      (fun scope => renderNodes { env with scopes := scope :: env.scopes } body) =
        .ok (items.zipIdx.map fun (item, index) => text item index) := by
    rw [scopes]
    exact mapM_map_eq_ok fun (item, index) inside => each item index inside
  rw [Node.forEach, renderNode]
  simp only [List.head?_cons, Option.map_some, Operand.value, found, Option.getD_some,
    String.reduceEq, if_false, if_true]
  -- A loop over nothing writes nothing, and has no other part here.
  cases items with
  | nil => rw [List.map_nil, loopScopes, List.zipIdx_nil, List.map_nil, renderOption]; rfl
  | cons item rest =>
    split
    · next none =>
      rw [scopes] at none
      cases none
    · rw [texts, ok_bind]

/-- A loop whose body looks at nothing but the element. -/
theorem renderNode_forEach_map {α : Type} {items : List α} {toJson : α → Json} {body : List Node}
    {text : α → String}
    (found : (PathExpr.member name).value? env = some (.arr (items.map toJson)))
    (each : ∀ item bindings,
      renderNodes { env with scopes := { value := toJson item, bindings } :: env.scopes } body =
        .ok (text item)) :
    renderNode env (.forEach name body) = .ok (String.join (items.map text)) := by
  have firsts : items.zipIdx.map (fun (item, _) => text item) = items.map text := by
    have values := List.zipIdx_map_fst 0 items
    conv_rhs => rw [← values, List.map_map]
    rfl
  rw [renderNode_forEach found fun item _ _ => each item _, firsts]

end Template

end Lexicon
