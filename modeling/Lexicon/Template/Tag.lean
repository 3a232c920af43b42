import Lexicon.Json.Parser
import Lexicon.Template.Basic
import Lexicon.Text.Ascii
import Lexicon.Text.Split

/-!
# Lexicon.Template.Tag

Reading tags, and cutting a template into text and tags.

A backslash before the opening braces makes them text; of several backslashes
the first is dropped and the braces open a tag.
-/

namespace Lexicon

namespace Template

/-- The blanks between the words of a tag. -/
def isBlank (c : Char) : Bool := c == ' ' || c == '\t' || c == '\n' || c == '\r'

/-- The text after blanks. -/
def skipBlanks (s : List Char) : List Char := s.dropWhile isBlank

/-- The characters that names are made of. -/
def isNameChar (c : Char) : Bool :=
  Text.isAsciiAlphanumeric c || c == '_' || c == '-' || c == '$' || 0x80 ≤ c.toNat

/-- A name, which has at least one character. -/
def readName (s : List Char) : Option (String × List Char) :=
  let name := s.takeWhile isNameChar
  if name.isEmpty then none else some (String.ofList name, s.dropWhile isNameChar)

/-! ### Paths -/

/-- One segment of a path: a name, or any text in brackets. -/
def readSegment (s : List Char) : Option (String × List Char) :=
  match s with
  | '[' :: rest =>
    match rest.dropWhile (· != ']') with
    | _ :: after => some (String.ofList (rest.takeWhile (· != ']')), after)
    | [] => none
  | s => readName s

/-- Whether the character divides the segments of a path. -/
def isSeparator (c : Char) : Bool := c == '.' || c == '/'

/-- The further segments of a path, each behind a separator. -/
def readSegments : Nat → List Char → Option (List String × List Char)
  | 0, _ => none
  | fuel + 1, s =>
    match s with
    | c :: rest =>
      if isSeparator c then do
        let (segment, rest) ← readSegment rest
        let (segments, rest) ← readSegments fuel rest
        some (segment :: segments, rest)
      else some ([], s)
    | [] => some ([], s)

/-- The steps `../` at the start of a path. -/
def readUps (up : Nat) : List Char → Nat × List Char
  | '.' :: '.' :: '/' :: rest => readUps (up + 1) rest
  | s => (up, s)

/-- A path. -/
def readPath (s : List Char) : Option (PathExpr × List Char) := do
  let fuel := s.length + 1
  match s with
  | '@' :: rest =>
    let (name, rest) ← readName rest
    let (segments, rest) ← readSegments fuel rest
    some ({ start := if name = "root" then .root else .loop name, segments }, rest)
  | s =>
    let (up, s) := readUps 0 s
    match s with
    | '.' :: '.' :: rest => some ({ start := .context (up + 1), segments := [] }, rest)
    | '.' :: '/' :: rest =>
      let (segment, rest) ← readSegment rest
      let (segments, rest) ← readSegments fuel rest
      some ({ start := .context up, segments := segment :: segments }, rest)
    | '.' :: rest => some ({ start := .context up, segments := [] }, rest)
    | s =>
      let (segment, rest) ← readSegment s
      let (segments, rest) ← readSegments fuel rest
      -- At the start `this` is the value at hand itself.
      let segments := if segment = "this" then segments else segment :: segments
      some ({ start := .context up, segments }, rest)

/-! ### Operands -/

/-- The characters of a quoted text up to the closing quote. -/
def readQuoted (quote : Char) : List Char → Option (List Char × List Char)
  | [] => none
  | '\\' :: c :: rest =>
    if c = quote then (readQuoted quote rest).map fun (cs, rest) => (c :: cs, rest)
    else (readQuoted quote (c :: rest)).map fun (cs, rest) => ('\\' :: cs, rest)
  | c :: rest =>
    if c = quote then some ([], rest)
    else (readQuoted quote rest).map fun (cs, rest) => (c :: cs, rest)

/-- A number, which no character of a name follows. -/
def readNumber (s : List Char) : Option (Json × List Char) :=
  match Json.readNumber s with
  | some (value, rest) => if rest.head?.any isNameChar then none else some (value, rest)
  | none => none

/-- A literal or a path. -/
def readOperand (s : List Char) : Option (Operand × List Char) :=
  match s with
  | '"' :: rest =>
    (readQuoted '"' rest).map fun (cs, rest) => (.literal (.str (String.ofList cs)), rest)
  | '\'' :: rest =>
    (readQuoted '\'' rest).map fun (cs, rest) => (.literal (.str (String.ofList cs)), rest)
  | s =>
    match readNumber s with
    | some (value, rest) => some (.literal value, rest)
    | none =>
      match readPath s with
      | none => none
      | some ({ start := .context 0, segments := ["true"] }, rest) =>
        some (.literal (.bool true), rest)
      | some ({ start := .context 0, segments := ["false"] }, rest) =>
        some (.literal (.bool false), rest)
      | some ({ start := .context 0, segments := ["null"] }, rest) => some (.literal .null, rest)
      | some (path, rest) => some (.path path, rest)

/-- The name of an option, when `name=` comes next. -/
def readOptionName (s : List Char) : Option (String × List Char) := do
  let (name, rest) ← readName s
  match skipBlanks rest with
  | '=' :: rest => some (name, skipBlanks rest)
  | _ => none

/-- Whether the end of a tag comes next. -/
def atEnd (s : List Char) : Bool :=
  match s with
  | '~' :: '\x7d' :: '\x7d' :: _ | '\x7d' :: '\x7d' :: _ => true
  | _ => false

/-- The operands and options of a helper, up to the end of the tag. -/
def readOperands (name : String) : Nat → List Char → Option (Call × List Char)
  | 0, _ => none
  | fuel + 1, s =>
    let s := skipBlanks s
    if atEnd s then some ({ name, operands := [], options := [] }, s)
    else
      match readOptionName s with
      | some (key, rest) => do
        let (operand, rest) ← readOperand rest
        let (call, rest) ← readOperands name fuel rest
        some ({ call with options := (key, operand) :: call.options }, rest)
      | none => do
        let (operand, rest) ← readOperand s
        let (call, rest) ← readOperands name fuel rest
        some ({ call with operands := operand :: call.operands }, rest)

/-- A helper with what it is called with. -/
def readCall (s : List Char) : Option (Call × List Char) := do
  let (name, rest) ← readName (skipBlanks s)
  readOperands name (rest.length + 1) rest

/-! ### Tags -/

/-- A value or a call. -/
def readExpression (s : List Char) : Option (TagContent × List Char) :=
  match readPath s with
  | none => none
  | some (path, rest) =>
    if atEnd (skipBlanks rest) then some (.value path, skipBlanks rest)
    else (readCall s).map fun (call, rest) => (.call call, rest)

/-- What comes behind the word `else`. -/
def readOtherwise (s : List Char) : Option (TagContent × List Char) :=
  let s := skipBlanks s
  if atEnd s then some (.otherwise, s)
  else (readCall s).map fun (call, rest) => (.otherwiseBlock call, rest)

/-- What a tag says, up to its end. -/
def readContent (s : List Char) : Option (TagContent × List Char) :=
  match skipBlanks s with
  | '#' :: rest => (readCall rest).map fun (call, rest) => (.openBlock call, rest)
  | '/' :: rest =>
    (readName (skipBlanks rest)).map fun (name, rest) => (.closeBlock name, skipBlanks rest)
  | '>' :: rest => (readCall rest).map fun (call, rest) => (.insertion call.name, rest)
  | '^' :: rest => some (.otherwise, skipBlanks rest)
  | '&' :: rest => readExpression (skipBlanks rest)
  | s =>
    match readName s with
    | some ("else", rest) => readOtherwise rest
    | _ => readExpression s

/-- The end of a tag: whether it has a tilde. -/
def readEnd (close : List Char) (s : List Char) : Option (Bool × List Char) :=
  let (tilde, s) := match s with
    | '~' :: rest => (true, rest)
    | s => (false, s)
  if close.isPrefixOf s then some (tilde, s.drop close.length) else none

/-- A tag behind its opening braces. -/
def readPlainTag (close : List Char) (s : List Char) : Option (Tag × List Char) := do
  let (trimsBefore, s) := match s with
    | '~' :: rest => (true, rest)
    | s => (false, s)
  let (content, s) ← readContent s
  let (trimsAfter, s) ← readEnd close s
  some ({ content, trimsBefore, trimsAfter }, s)

/-- The text behind the first occurrence of a mark. -/
def afterMark? (mark : List Char) : List Char → Option (List Char)
  | [] => none
  | c :: rest =>
    if mark.isPrefixOf (c :: rest) then some ((c :: rest).drop mark.length)
    else afterMark? mark rest

/-- A comment. -/
def commentTag : Tag := { content := .comment, trimsBefore := false, trimsAfter := false }

/-- A tag behind its first two braces. -/
def readTag (s : List Char) : Option (Tag × List Char) :=
  match s with
  | '!' :: '-' :: '-' :: rest =>
    (afterMark? ['-', '-', '\x7d', '\x7d'] rest).map fun rest => (commentTag, rest)
  | '!' :: rest => (afterMark? ['\x7d', '\x7d'] rest).map fun rest => (commentTag, rest)
  | '\x7b' :: rest => readPlainTag ['\x7d', '\x7d', '\x7d'] rest
  | s => readPlainTag ['\x7d', '\x7d'] s

/-! ### Text -/

/-- The text up to the next tag, with its escapes undone. -/
def readText (s : List Char) : List Char × List Char :=
  match s with
  | [] => ([], [])
  | '\x7b' :: '\x7b' :: rest => ([], '\x7b' :: '\x7b' :: rest)
  | '\\' :: '\x7b' :: '\x7b' :: '\x7b' :: '\x7b' :: rest =>
    let (text, rest) := readText rest
    ('\x7b' :: '\x7b' :: '\x7b' :: '\x7b' :: text, rest)
  | '\\' :: '\x7b' :: '\x7b' :: rest =>
    let (text, rest) := readText rest
    ('\x7b' :: '\x7b' :: text, rest)
  | c :: rest =>
    let slashes := rest.takeWhile (· == '\\')
    let after := rest.dropWhile (· == '\\')
    if c == '\\' && !slashes.isEmpty && ['\x7b', '\x7b'].isPrefixOf after then (slashes, after)
    else
      let (text, rest) := readText rest
      (c :: text, rest)

/-- A template cut into its first text, and its tags with the text behind each. -/
structure Cut where
  first : String
  tags : List (Tag × String)

/-- The tags and texts from a position on. -/
def cutFrom : Nat → List Char → Option Cut
  | 0, _ => none
  | fuel + 1, s =>
    let (text, rest) := readText s
    match rest with
    | '\x7b' :: '\x7b' :: rest => do
      let (tag, rest) ← readTag rest
      let after ← cutFrom fuel rest
      some { first := String.ofList text, tags := (tag, after.first) :: after.tags }
    | _ => some { first := String.ofList text, tags := [] }

/-- Cuts a template. -/
def cut (source : String) : Option Cut := cutFrom (source.length + 1) source.toList

end Template

end Lexicon
