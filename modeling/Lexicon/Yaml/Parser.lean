import Lexicon.Yaml.Scan

/-!
# Lexicon.Yaml.Parser

From YAML text to nodes.

Outside of brackets the layout decides: the entries of a list or a mapping
stand in one column, and what belongs to an entry is indented further. A list
may stand in the column of the key that it belongs to. A key has to be on one
line with its colon. Inside of brackets columns mean nothing.

## Main definitions

- `Yaml.parse?`: the node of a text with at most one document.
- `Yaml.value?`: its value.
-/

namespace Lexicon

namespace Yaml

/-! ### Names and tags -/

/-- The characters of the names of nodes. -/
def isNameChar (c : Char) : Bool := Text.isAsciiAlphanumeric c || c == '-' || c == '_'

/-- Reads the name of a node behind its indicator. -/
def scanName : Scan String := do
  pass 1
  let s ← ahead
  let name := s.takeWhile isNameChar
  let rest := s.drop name.length
  let ended := atBlank rest ||
    rest.head?.any fun c => ['?', ':', ',', ']', '\x7d', '%', '@', '\x60'].contains c
  if name.isEmpty || !ended then failure
  pass name.length
  return String.ofList name

/-- Reads a tag. -/
def scanTag : Scan String := do
  let word := (← ahead).takeWhile fun c => !isWhite c
  match word with
  | '!' :: '<' :: rest =>
    let uri := rest.takeWhile (· != '>')
    if uri.isEmpty || rest.drop uri.length != ['>'] then failure
    pass word.length
    return String.ofList uri
  | _ =>
    let word := word.takeWhile fun c => !bracketEnds.contains c
    pass word.length
    match word with
    | ['!', '!'] => failure
    | '!' :: '!' :: name => return Scalar.corePrefix ++ String.ofList name
    | _ :: name => if name.contains '!' then failure else return String.ofList word
    | [] => failure

/-- What is said about a node before it. -/
structure Properties where
  anchor : Option String := none
  tag : Option String := none

/-- Reads the name and the tag of a node, in either order. -/
def scanProperties (brackets : Bool) : Nat → Properties → Scan Properties
  | 0, properties => return properties
  | fuel + 1, properties => do
    match ← ahead with
    | '&' :: _ =>
      if properties.anchor.isSome then return properties
      let name ← scanName
      toToken brackets true
      scanProperties brackets fuel { properties with anchor := some name }
    | '!' :: _ =>
      if properties.tag.isSome then return properties
      let tag ← scanTag
      toToken brackets true
      scanProperties brackets fuel { properties with tag := some tag }
    | _ => return properties

/-- The node with what is said about it; its name is known from here on. -/
def Properties.apply (properties : Properties) (node : Node) : Scan Node := do
  let node := match properties.tag with
    | some tag => .tagged tag node
    | none => node
  match properties.anchor with
  | some name => modify fun s => { s with anchors := (name, node) :: s.anchors }
  | none => pure ()
  return node

/-- Reads a reference to a node that has a name. -/
def scanAlias : Scan Node := do
  let name ← scanName
  match (← get).anchors.lookup name with
  | some node => return node
  | none => failure

/-! ### Inside of brackets -/

/-- Whether what ends an entry comes next. -/
def atEntryEnd (close : Char) (s : List Char) : Bool :=
  s.head? == some ',' || s.head? == some close

mutual

/-- A node inside of brackets. -/
def bracketNode (close : Char) : Nat → Scan Node
  | 0 => failure
  | fuel + 1 => do
    let properties ← scanProperties true 2 {}
    let s ← ahead
    let node ← match s with
      | '*' :: _ => scanAlias
      | '"' :: _ => scanQuoted true
      | '\'' :: _ => scanQuoted false
      | '[' :: _ => bracketList fuel
      | '\x7b' :: _ => bracketMap fuel
      | _ =>
        -- A node may be empty when something is said about it.
        let bare := properties.anchor.isNone && properties.tag.isNone
        if !bare && (atEntryEnd close s || s.head? == some ':') then pure Node.empty
        else scanPlain true 0
    properties.apply node

/-- The value behind a colon, which may be absent. -/
def bracketValue (close : Char) : Nat → Scan Node
  | 0 => failure
  | fuel + 1 => do
    pass 1
    toToken true true
    if atEntryEnd close (← ahead) then return .empty else bracketNode close fuel

/-- A key, and the value if a colon follows. -/
def bracketPair (close : Char) : Nat → Scan (Node × Option Node)
  | 0 => failure
  | fuel + 1 => do
    let marked := atIndicator '?' (← ahead)
    if marked then
      pass 1
      toToken true true
    let start := (← get).line
    let s ← ahead
    let key ←
      if marked && (atEntryEnd close s || s.head? == some ':') then pure Node.empty
      else bracketNode close fuel
    toToken true true
    if (← ahead).head? == some ':' && (marked || (← get).line == start) then
      return (key, some (← bracketValue close fuel))
    else return (key, if marked then some .empty else none)

/-- The entries of a list in brackets, behind the opening one or a comma. -/
def bracketItems : Nat → Scan (List Node)
  | 0 => failure
  | fuel + 1 => do
    toToken true true
    if (← ahead).head? == some ']' then
      pass 1
      return []
    let (key, value?) ← bracketPair ']' fuel
    -- A pair in a list is a mapping of its own.
    let item := match value? with
      | some value => .map [(key, value)]
      | none => key
    toToken true true
    match ← ahead with
    | ',' :: _ =>
      pass 1
      return item :: (← bracketItems fuel)
    | ']' :: _ =>
      pass 1
      return [item]
    | _ => failure

/-- The entries of a mapping in braces, behind the opening one or a comma. -/
def bracketEntries : Nat → Scan (List (Node × Node))
  | 0 => failure
  | fuel + 1 => do
    toToken true true
    if (← ahead).head? == some '\x7d' then
      pass 1
      return []
    let (key, value?) ← bracketPair '\x7d' fuel
    let entry := (key, value?.getD .empty)
    toToken true true
    match ← ahead with
    | ',' :: _ =>
      pass 1
      return entry :: (← bracketEntries fuel)
    | '\x7d' :: _ =>
      pass 1
      return [entry]
    | _ => failure

/-- A list in brackets. -/
def bracketList : Nat → Scan Node
  | 0 => failure
  | fuel + 1 => do
    pass 1
    return .list (← bracketItems fuel)

/-- A mapping in braces. -/
def bracketMap : Nat → Scan Node
  | 0 => failure
  | fuel + 1 => do
    pass 1
    return .map (← bracketEntries fuel)

end

/-! ### By layout -/

/-- A node that does not depend on layout; further lines of it start at the column `floor` at
least. -/
def inlineNode (floor fuel : Nat) : Scan Node := do
  match ← ahead with
  | '*' :: _ => scanAlias
  | '"' :: _ => scanQuoted true
  | '\'' :: _ => scanQuoted false
  | '|' :: _ => scanBlock true floor
  | '>' :: _ => scanBlock false floor
  | '[' :: _ => bracketList fuel
  | '\x7b' :: _ => bracketMap fuel
  | _ => scanPlain false floor

/-- Whether nothing is left for a node that has to start at the column `floor` at least. -/
def nothingLeft (floor : Nat) : Scan Bool := do
  return (← atEnd) || (← get).column < floor

/-- Passes the blanks behind a key; whether its colon comes next on the same line. -/
def colonFollows (line : Nat) : Scan Bool := do
  let s ← ahead
  let rest := s.dropWhile isBlank
  if (← get).line == line && atIndicator ':' rest then
    passTo rest
    return true
  else return false

mutual

/-- A node at the next token, where lists and mappings may start. It has to start at the column
`floor` at least; a list may also start one column before, when `listBefore` is given. -/
def blockNode (listBefore : Bool) (floor : Nat) : Nat → Scan Node
  | 0 => failure
  | fuel + 1 => do
    let start ← get
    if listBefore && start.column + 1 == floor && atIndicator '-' start.rest && !(← atEnd) then
      return .list (← blockItems true start.column fuel)
    else if ← nothingLeft floor then return .empty
    else if atIndicator '-' start.rest then
      return .list (← blockItems false start.column fuel)
    else if atIndicator '?' start.rest then
      return .map (← blockEntries start.column fuel)
    else
      let properties ← scanProperties false 2 {}
      -- On a line of their own the properties belong to the whole node, else to its first key.
      if start.line < (← get).line then
        properties.apply (← blockNode listBefore floor fuel)
      else if ← atEnd then properties.apply .empty
      else
        let node ← inlineNode floor fuel
        if ← colonFollows start.line then
          let key ← properties.apply node
          pass 1
          let value ← lineValue start.column fuel
          return .map ((key, value) :: (← blockMore start.column fuel))
        else properties.apply node
termination_by structural fuel => fuel

/-- The value of a key that stands in the given column, behind the colon. -/
def lineValue (column : Nat) : Nat → Scan Node
  | 0 => failure
  | fuel + 1 => do
    let line := (← get).line
    toToken false true
    if line < (← get).line then blockNode true (column + 1) fuel
    else if ← atEnd then return .empty
    else
      let s ← ahead
      -- On the line of the key no list and no further mapping may start.
      if atIndicator '-' s || atIndicator '?' s then failure
      let properties ← scanProperties false 2 {}
      if line < (← get).line then properties.apply (← blockNode true (column + 1) fuel)
      else if ← atEnd then properties.apply .empty
      else properties.apply (← inlineNode (column + 1) fuel)
termination_by structural fuel => fuel

/-- The items of a list whose indicators stand in the given column; `loose` says that it may end
before something else in that column. -/
def blockItems (loose : Bool) (column : Nat) : Nat → Scan (List Node)
  | 0 => failure
  | fuel + 1 => do
    pass 1
    toToken false false
    let item ← blockNode false (column + 1) fuel
    toToken false false
    if ← nothingLeft column then return [item]
    else
      let s ← get
      if s.column == column && atIndicator '-' s.rest then
        return item :: (← blockItems loose column fuel)
      else if s.column == column && loose then return [item]
      else failure
termination_by structural fuel => fuel

/-- The entries of a mapping whose keys stand in the given column, from a key on. -/
def blockEntries (column : Nat) : Nat → Scan (List (Node × Node))
  | 0 => failure
  | fuel + 1 => do
    let start ← get
    if atIndicator '?' start.rest then
      pass 1
      toToken false false
      let key ← blockNode true (column + 1) fuel
      toToken false false
      let s ← get
      if s.column == column && atIndicator ':' s.rest then
        pass 1
        toToken false false
        let value ← blockNode true (column + 1) fuel
        return (key, value) :: (← blockMore column fuel)
      else return (key, .empty) :: (← blockMore column fuel)
    else
      let properties ← scanProperties false 2 {}
      let key ← properties.apply (← inlineNode (column + 1) fuel)
      if ← colonFollows start.line then
        pass 1
        let value ← lineValue column fuel
        return (key, value) :: (← blockMore column fuel)
      else failure
termination_by structural fuel => fuel

/-- The further entries of a mapping whose keys stand in the given column. -/
def blockMore (column : Nat) : Nat → Scan (List (Node × Node))
  | 0 => failure
  | fuel + 1 => do
    toToken false false
    if ← nothingLeft column then return []
    else if (← get).column == column then blockEntries column fuel
    else failure
termination_by structural fuel => fuel

end

/-! ### Documents -/

/-- Whether a line gives a version or the meaning of tags. -/
def isDirective (line : List Char) : Bool :=
  ["%YAML 1.1", "%YAML 1.2"].any (fun start => start.toList.isPrefixOf line) ||
    "%TAG ".toList.isPrefixOf line

/-- Passes directives. -/
def scanDirectives : Nat → Scan Bool
  | 0 => failure
  | fuel + 1 => do
    toToken false false
    match ← ahead with
    | '%' :: rest =>
      if (← get).column != 0 then failure
      let line := '%' :: rest.takeWhile (· != '\n')
      if !isDirective line then failure
      pass line.length
      let _ ← scanDirectives fuel
      return true
    | _ => return false

/-- Passes marks of the end of a document. -/
def scanEndMarks : Nat → Scan Unit
  | 0 => failure
  | fuel + 1 => do
    toToken false false
    if (← get).column == 0 && (← ahead).take 3 == ['.', '.', '.'] && atBlank ((← ahead).drop 3) then
      pass 3
      toToken false true
      scanEndMarks fuel

/-- The only document of a text. -/
def scanDocument (fuel : Nat) : Scan Node := do
  let directives ← scanDirectives fuel
  let marked := (← get).column == 0 && (← ahead).take 3 == ['-', '-', '-'] &&
    atBlank ((← ahead).drop 3)
  if directives && !marked then failure
  let node ←
    if marked then
      pass 3
      let line := (← get).line
      toToken false true
      if line < (← get).line then blockNode false 0 fuel
      else if ← atEnd then pure Node.empty
      else
        let s ← ahead
        if atIndicator '-' s || atIndicator '?' s then failure
        let properties ← scanProperties false 2 {}
        if line < (← get).line then properties.apply (← blockNode false 0 fuel)
        else if ← atEnd then properties.apply .empty
        else properties.apply (← inlineNode 0 fuel)
    else blockNode false 0 fuel
  toToken false false
  if !(← atEnd) then failure
  scanEndMarks fuel
  if (← ahead).isEmpty then return node else failure

/-- The node of a text with at most one document. -/
def parse? (text : String) : Option Node :=
  let source := match text.toList with
    | c :: rest => if c.toNat == 0xfeff then rest else c :: rest
    | [] => []
  if source.all isAllowed then
    let source := normalize source
    -- Each character is reached through few nested calls.
    let fuel := 8 * source.length + 32
    ((scanDocument fuel).run { rest := source, line := 0, column := 0, anchors := [] }).map
      Prod.fst
  else none

/-- The value of a text with at most one document. -/
def value? (text : String) : Option Json := (parse? text).bind (Node.value? Node.maxDepth)

end Yaml

end Lexicon
