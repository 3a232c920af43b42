import Lexicon.Template.Tag
import Lexicon.Text.Trim

/-!
# Lexicon.Template.Parser

From source text to templates.

White space is settled first. A tilde takes all white space at its side of the
tag. A block tag or comment that stands alone on its line takes the blanks
before it and the line break after it, so the line leaves no trace. Then the
block tags are matched.

## Main definition

`Template.parse?`: the template that a source text spells.
-/

namespace Lexicon

namespace Template

/-! ### White space -/

/-- A blank inside of a line. -/
def isInnerBlank (c : Char) : Bool := c == ' ' || c == '\t'

/-- A line break. -/
def isBreak (c : Char) : Bool := c == '\n' || c == '\r'

/-- Whether the rest of the line is blank. -/
def startsBlankLine (text : String) : Bool :=
  (text.toList.dropWhile isInnerBlank).head?.any isBreak

/-- Whether the line so far is blank; `first` says that the text starts the template. -/
def endsBlankLine (first : Bool) (text : String) : Bool :=
  match text.toList.reverse.dropWhile isInnerBlank with
  | [] => first
  | c :: _ => isBreak c

/-- The text without blanks at its end. -/
def dropEndBlanks (text : String) : String :=
  String.ofList (Text.dropEndWhile isInnerBlank text.toList)

/-- The text without the blanks and the line break at its start. -/
def dropRestOfLine (text : String) : String :=
  match text.toList.dropWhile isInnerBlank with
  | '\r' :: '\n' :: rest => String.ofList rest
  | '\n' :: rest => String.ofList rest
  | rest => String.ofList rest

/-- Whether tags of this content leave no trace of the line that they stand alone on. -/
def ownsLine : TagContent → Bool
  | .openBlock _ | .otherwise | .otherwiseBlock _ | .closeBlock _ | .comment => true
  | _ => false

/-- Whether tags of this content take the line break after them when they stand alone. -/
def takesBreak : TagContent → Bool
  | .insertion _ => true
  | content => ownsLine content

/-- Whether a tag stands alone on its line, between the texts around it. -/
def standsAlone (first last : Bool) (before after : String) : Bool :=
  (startsBlankLine after || (last && after.isEmpty)) && endsBlankLine first before

/-- What the tag before a text does to it. -/
inductive Trim where
  | nothing
  | whiteSpace
  | restOfLine
deriving DecidableEq, Repr

/-- The text after the tag before it has taken its part. -/
def Trim.apply (trim : Trim) (text : String) : String :=
  match trim with
  | nothing => text
  | whiteSpace => Text.trimStart text
  | restOfLine => dropRestOfLine text

/-- The texts and tags with white space settled. `before` is the text at hand as it is written,
`trim` what the tag before it does to it, and `tilde` whether the last tag that is no comment has a
tilde behind. -/
def settleFrom (first : Bool) (before : String) (trim : Trim) (tilde : Bool) :
    List (Tag × String) → List (String ⊕ TagContent)
  | [] => [.inl (trim.apply before)]
  | (tag, after) :: rest =>
    let alone := standsAlone first rest.isEmpty before after
    let text := trim.apply before
    let text := if tag.trimsBefore then Text.trimEnd text else text
    let text := if alone && ownsLine tag.content then dropEndBlanks text else text
    let tilde := match tag.content with
      | .comment => tilde
      | _ => tag.trimsAfter
    let trim :=
      if tilde then Trim.whiteSpace
      else if alone && takesBreak tag.content then .restOfLine
      else .nothing
    .inl text :: .inr tag.content :: settleFrom false after trim tilde rest

/-- The texts and tags of a cut template with white space settled. -/
def settle (cut : Cut) : List (String ⊕ TagContent) :=
  settleFrom true cut.first .nothing false cut.tags

/-! ### Blocks -/

/-- A block that is open. -/
structure Frame where
  call : Call
  /-- The first part, once the block has been divided. -/
  body : Option (List Node)
  /-- The nodes of the part at hand, in reverse. -/
  nodes : List Node
  /-- Opened by a division of the block around it, and closed with it. -/
  chained : Bool

/-- The block as a node. -/
def Frame.node (frame : Frame) : Node :=
  match frame.body with
  | none => .block frame.call frame.nodes.reverse none
  | some body => .block frame.call body (some frame.nodes.reverse)

/-- The open blocks, innermost first, and the nodes outside of them, in reverse. -/
structure Open where
  frames : List Frame
  nodes : List Node

namespace Open

/-- Adds a node to the innermost block. -/
def push (state : Open) (node : Node) : Open :=
  match state.frames with
  | [] => { state with nodes := node :: state.nodes }
  | frame :: rest => { state with frames := { frame with nodes := node :: frame.nodes } :: rest }

/-- Divides the innermost block, which must not be divided yet. -/
def divide? (state : Open) : Option Open :=
  match state.frames with
  | [] => none
  | frame :: rest =>
    if frame.body.isSome then none
    else
      some { state with
        frames := { frame with body := some frame.nodes.reverse, nodes := [] } :: rest }

/-- Opens a block. -/
def openBlock (state : Open) (call : Call) (chained : Bool) : Open :=
  { state with frames := { call, body := none, nodes := [], chained } :: state.frames }

/-- Closes the blocks that divisions have opened, and the block of that name around them. -/
def close? (name : String) (inner : Option Node) :
    List Frame → List Node → Option Open
  | [], _ => none
  | frame :: rest, nodes =>
    let frame := match inner with
      | some node => { frame with nodes := node :: frame.nodes }
      | none => frame
    if frame.chained then close? name (some frame.node) rest nodes
    else if frame.call.name = name then some (push { frames := rest, nodes } frame.node)
    else none

/-- Takes in one text or tag. -/
def take? (state : Open) : String ⊕ TagContent → Option Open
  | .inl text => some (if text.isEmpty then state else state.push (.text text))
  | .inr (.value path) => some (state.push (.value path))
  | .inr (.call call) => some (state.push (.call call))
  | .inr (.insertion name) => some (state.push (.insertion name))
  | .inr .comment => some state
  | .inr (.openBlock call) => some (state.openBlock call false)
  | .inr .otherwise => state.divide?
  | .inr (.otherwiseBlock call) => state.divide?.map (·.openBlock call true)
  | .inr (.closeBlock name) => close? name none state.frames state.nodes

end Open

/-- The template of texts and tags, if the block tags match. -/
def assemble? (parts : List (String ⊕ TagContent)) : Option Template := do
  let state ← parts.foldlM Open.take? { frames := [], nodes := [] }
  if state.frames.isEmpty then some state.nodes.reverse else none

/-- The template that a source text spells. -/
def parse? (source : String) : Option Template := (cut source).bind fun c => assemble? (settle c)

end Template

end Lexicon
