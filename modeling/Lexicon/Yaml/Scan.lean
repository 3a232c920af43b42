import Lexicon.Yaml.Basic

/-!
# Lexicon.Yaml.Scan

The text of a YAML document, and the scalars in it.

The place in the text is known by line and column, since layout means
something. Lines of a scalar that runs over several lines are folded: a single
line break is a space, and of more than one the first is dropped.

## Main definitions

- `State`, `Scan`: the place in the text, and steps through it.
- `scanPlain`, `scanQuoted`, `scanBlock`: the three kinds of scalars.
-/

namespace Lexicon

namespace Yaml

/-- The place in the text, and the nodes that have been given a name. -/
structure State where
  rest : List Char
  line : Nat
  column : Nat
  anchors : List (String × Node)

/-- A step through the text, which fails on text that is no YAML. -/
abbrev Scan := StateT State Option

/-! ### Characters -/

/-- Whether a character may stand in a document. -/
def isAllowed (c : Char) : Bool :=
  let n := c.toNat
  c == '\t' || c == '\n' || c == '\r' || (0x20 ≤ n && n ≤ 0x7e) || n == 0x85 ||
    (0xa0 ≤ n && n ≤ 0xfffd && n != 0xfeff) || 0x10000 ≤ n

/-- The text with every line break written in one way. -/
def normalize : List Char → List Char
  | '\r' :: '\n' :: rest => '\n' :: normalize rest
  | c :: rest => (if c == '\r' || c.toNat == 0x85 then '\n' else c) :: normalize rest
  | [] => []

/-- A blank inside of a line. -/
def isBlank (c : Char) : Bool := c == ' ' || c == '\t'

/-- Whether a blank, a line break or the end comes next. -/
def atBlank (s : List Char) : Bool :=
  match s with
  | [] => true
  | c :: _ => isBlank c || c == '\n'

/-- Whether an indicator comes next that a blank has to follow. -/
def atIndicator (indicator : Char) (s : List Char) : Bool :=
  match s with
  | c :: rest => c == indicator && atBlank rest
  | [] => false

/-- Whether a mark between documents comes next, where a line starts. -/
def atMark (s : List Char) : Bool :=
  let three := s.take 3
  (three == ['-', '-', '-'] || three == ['.', '.', '.']) && atBlank (s.drop 3)

/-! ### Steps -/

/-- The text ahead. -/
def ahead : Scan (List Char) := do return (← get).rest

/-- Passes characters of a line. -/
def pass (count : Nat) : Scan Unit :=
  modify fun s => { s with rest := s.rest.drop count, column := s.column + count }

/-- The place behind characters, which may contain line breaks. -/
def behind (line column : Nat) (passed : List Char) : Nat × Nat :=
  passed.foldl (fun (line, column) c => if c == '\n' then (line + 1, 0) else (line, column + 1))
    (line, column)

/-- Passes all that the given text has more than its rest. -/
def passTo (rest : List Char) : Scan Unit :=
  modify fun s =>
    let passed := s.rest.take (s.rest.length - rest.length)
    let (line, column) := behind s.line s.column passed
    { s with rest, line, column }

/-- The text at the next token: behind blanks, line breaks and comments. Tabs are passed where
they are allowed; inside of brackets they are allowed on every line. -/
def token (brackets tabs comment : Bool) : List Char → List Char
  | [] => []
  | c :: rest =>
    if c == '\n' then token brackets brackets false rest
    else if comment || c == ' ' || (c == '\t' && tabs) then token brackets tabs comment rest
    else if c == '#' then token brackets tabs true rest
    else c :: rest

/-- Goes to the next token. -/
def toToken (brackets tabs : Bool) : Scan Unit := do
  passTo (token brackets tabs false (← ahead))

/-- Whether the document ends here. -/
def atEnd : Scan Bool := do
  let s ← get
  return s.rest.isEmpty || (s.column == 0 && atMark s.rest)

/-! ### Folding -/

/-- Blanks and line breaks as they are joined into a scalar: `escaped` says that a backslash has
taken a line break before them. -/
def fold (escaped : Bool) (blanks : List Char) : List Char :=
  match blanks.count '\n', escaped with
  | 0, false => blanks
  | 0, true => []
  | 1, false => [' ']
  | n, false => List.replicate (n - 1) '\n'
  | n, true => List.replicate n '\n'

/-- Whether one of the lines after the first has a tab before the column where text may start. -/
def hasEarlyTab (floor : Nat) (blanks : List Char) : Bool :=
  ((blanks.splitOn '\n').drop 1).any fun line => (line.take floor).contains '\t'

/-- A blank or a line break. -/
def isWhite (c : Char) : Bool := isBlank c || c == '\n'

/-! ### Plain scalars -/

/-- The characters that end a plain scalar inside of brackets. -/
def bracketEnds : List Char := [',', '[', ']', '\x7b', '\x7d']

/-- The characters that never start a plain scalar. -/
def indicators : List Char := ['#', '&', '*', '!', '|', '>', '\'', '"', '%', '@', '\x60']

/-- Whether a plain scalar may start here. -/
def startsPlain (brackets : Bool) (s : List Char) : Bool :=
  match s with
  | [] => false
  | c :: rest =>
    if c == '-' then !(rest.head?.any isBlank)
    else if c == '?' || c == ':' then !brackets && !atBlank rest
    else !isWhite c && !bracketEnds.contains c && !indicators.contains c

/-- The characters of a plain scalar up to the next blank. -/
def plainRun (brackets : Bool) (s : List Char) : Option (List Char × List Char) :=
  match s with
  | [] => some ([], [])
  | c :: rest =>
    if isWhite c then some ([], s)
    else if c == ':' && atBlank rest then some ([], s)
    -- Such a colon neither ends a key nor belongs to a scalar.
    else if brackets && c == ':' && rest.head?.any fun d => d == '?' || bracketEnds.contains d then
      none
    else if brackets && bracketEnds.contains c then some ([], s)
    else (plainRun brackets rest).map fun (run, rest) => (c :: run, rest)

/-- The words of a plain scalar behind its first one, each with the blanks before it, and the
text behind. -/
def plainWords (brackets : Bool) (floor column : Nat) :
    Nat → List Char → Option (List Char × List Char)
  | 0, _ => none
  | fuel + 1, s =>
    let blanks := s.takeWhile isWhite
    let next := s.dropWhile isWhite
    let (line, here) := behind 0 column blanks
    if blanks.isEmpty then some ([], s)
    else if hasEarlyTab floor blanks then none
    -- Text that is indented too little belongs to what is around the scalar.
    else if 0 < line && ((!brackets && here < floor) || (here == 0 && atMark next)) then
      some ([], next)
    else if next.head? == some '#' then some ([], next)
    else do
      let (word, rest) ← plainRun brackets next
      if word.isEmpty then some ([], next)
      else
        let (words, rest) ← plainWords brackets floor (here + word.length) fuel rest
        some (fold false blanks ++ word ++ words, rest)

/-- A plain scalar. Its further lines have to start at the column `floor` at least. -/
def scanPlain (brackets : Bool) (floor : Nat) : Scan Node := do
  let s ← get
  if !startsPlain brackets s.rest then failure
  let (word, rest) ← plainRun brackets s.rest
  let (words, rest) ←
    plainWords brackets floor (s.column + word.length) (s.rest.length + 1) rest
  passTo rest
  return .scalar true (String.ofList (word ++ words))

/-! ### Scalars in quotes -/

/-- The characters of escapes of one letter. -/
def escapes : List (Char × Nat) :=
  [('0', 0), ('a', 7), ('b', 8), ('t', 9), ('\t', 9), ('n', 10), ('v', 11), ('f', 12), ('r', 13),
   ('e', 27), (' ', 32), ('"', 34), ('/', 47), ('\\', 92), ('N', 0x85), ('_', 0xa0), ('L', 0x2028),
   ('P', 0x2029)]

/-- The number of hexadecimal digits of an escape. -/
def escapeWidths : List (Char × Nat) := [('x', 2), ('u', 4), ('U', 8)]

/-- The character that a number stands for. -/
def charOfNat? (n : Nat) : Option Char := if n.isValidChar then some (Char.ofNat n) else none

/-- The character of an escape behind its backslash. -/
def escape? (s : List Char) : Option (Char × List Char) := do
  match s with
  | [] => none
  | c :: rest =>
    match escapes.lookup c, escapeWidths.lookup c with
    | some n, _ => some (Char.ofNat n, rest)
    | none, some width =>
      if rest.length < width then none
      else
        let n ← Scalar.digits? 16 (rest.take width)
        some (← charOfNat? n, rest.drop width)
    | none, none => none

/-- The characters of a scalar in quotes up to the closing one. `escaped` says that a backslash
has taken a line break just before. -/
def quotedChars (double escaped : Bool) (column : Nat) :
    Nat → List Char → Option (List Char × List Char)
  | 0, _ => none
  | fuel + 1, s =>
    let blanks := s.takeWhile isWhite
    let next := s.dropWhile isWhite
    let (_, here) := behind 0 column blanks
    if (!blanks.isEmpty || escaped) && here == 0 && atMark next then none
    else
      let joined := fold escaped blanks
      let more := fun (c : Char) (width : Nat) (rest : List Char) =>
        (quotedChars double false (here + width) fuel rest).map fun (cs, rest) =>
          (joined ++ c :: cs, rest)
      match next with
      | [] => none
      | '\'' :: '\'' :: rest =>
        if double then more '\'' 1 ('\'' :: rest) else more '\'' 2 rest
      | c :: rest =>
        if c == (if double then '"' else '\'') then some (joined, rest)
        else if double && c == '\\' then
          match rest with
          | '\n' :: rest =>
            (quotedChars double true 0 fuel rest).map fun (cs, rest) => (joined ++ cs, rest)
          | rest => do
            let (d, after) ← escape? rest
            more d (1 + rest.length - after.length) after
        else more c 1 rest

/-- A scalar in single or double quotes. -/
def scanQuoted (double : Bool) : Scan Node := do
  let s ← get
  let (cs, rest) ← quotedChars double false (s.column + 1) (s.rest.length + 1) (s.rest.drop 1)
  passTo rest
  return .scalar false (String.ofList cs)

/-! ### Scalars in blocks -/

/-- What happens to the line breaks at the end of a block. -/
inductive Chomping where
  | strip
  | clip
  | keep
deriving DecidableEq, Repr

/-- The header of a block: how it ends, and its indentation when that is given. -/
structure BlockHeader where
  chomping : Chomping := .clip
  indentation : Option Nat := none

/-- The chomping that an indicator asks for. -/
def chomping? : Char → Option Chomping
  | '-' => some .strip
  | '+' => some .keep
  | _ => none

/-- The indentation that an indicator asks for. -/
def indentation? (c : Char) : Option Nat :=
  if '1' ≤ c && c ≤ '9' then some (c.toNat - '0'.toNat) else none

/-- Reads the indicators of a block, which may stand in either order. -/
def blockHeader (s : List Char) : BlockHeader × List Char :=
  match s with
  | c :: rest =>
    match chomping? c, indentation? c with
    | some chomping, _ =>
      match rest with
      | d :: after =>
        match indentation? d with
        | some n => ({ chomping, indentation := some n }, after)
        | none => ({ chomping }, rest)
      | [] => ({ chomping }, rest)
    | none, some n =>
      match rest with
      | d :: after =>
        match chomping? d with
        | some chomping => ({ chomping, indentation := some n }, after)
        | none => ({ indentation := some n }, rest)
      | [] => ({ indentation := some n }, rest)
    | none, none => ({}, s)
  | [] => ({}, s)

/-- The text behind the line of a block header, which may only have a comment more. -/
def afterHeader? (s : List Char) : Option (List Char) :=
  let s := s.dropWhile isBlank
  let s := if s.head? == some '#' then s.dropWhile (· != '\n') else s
  match s with
  | [] => some []
  | '\n' :: rest => some rest
  | _ => none

/-- The indentation of a block: the widest of its lines up to the first one with text, and at
least `floor`. That line must not have a tab before its text. -/
def detectIndent? (floor widest : Nat) : Nat → List Char → Option Nat
  | 0, _ => none
  | fuel + 1, s =>
    let widest := max widest (s.takeWhile (· == ' ')).length
    match s.dropWhile (· == ' ') with
    | '\n' :: rest => detectIndent? floor widest fuel rest
    | '\t' :: _ => none
    | _ => some (max floor widest)

/-- The lines of a block, empty ones included, and the text behind. A tab must not stand where
the indentation should be. -/
def blockLines (indent : Nat) : Nat → List Char → Option (List (List Char) × List Char)
  | 0, _ => none
  | fuel + 1, s =>
    let spaces := s.takeWhile (· == ' ')
    if indent ≤ spaces.length then
      let text := s.drop indent
      match text.dropWhile (· != '\n') with
      | [] => some (if text.isEmpty then ([], s) else ([text], []))
      | _ :: rest =>
        (blockLines indent fuel rest).map fun (lines, rest) =>
          (text.takeWhile (· != '\n') :: lines, rest)
    else
      match s.drop spaces.length with
      | '\n' :: rest =>
        (blockLines indent fuel rest).map fun (lines, rest) => ([] :: lines, rest)
      | '\t' :: _ => none
      | _ => some ([], s)

/-- The line breaks between two lines of a block with `blank` empty lines between them. -/
def blockBreaks (literal : Bool) (before after : List Char) (blank : Nat) : List Char :=
  let indented := before.head?.any isBlank || after.head?.any isBlank
  if literal || indented then List.replicate (blank + 1) '\n'
  else if blank = 0 then [' ']
  else List.replicate blank '\n'

/-- The lines of a block behind its first one, joined; `blank` counts the empty lines before. -/
def joinLines (literal : Bool) (before : List Char) (blank : Nat) :
    List (List Char) → List Char × Nat
  | [] => ([], blank)
  | line :: rest =>
    if line.isEmpty then joinLines literal before (blank + 1) rest
    else
      let (tail, blank') := joinLines literal line 0 rest
      (blockBreaks literal before line blank ++ line ++ tail, blank')

/-- The text of a block without and with the line breaks at its end. `terminated` says that the
last line with text has a line break. -/
def blockText (literal : Bool) (chomping : Chomping) (terminated : Bool)
    (lines : List (List Char)) : List Char :=
  let leading := lines.takeWhile List.isEmpty
  let start := List.replicate leading.length '\n'
  match lines.dropWhile List.isEmpty with
  | [] => if chomping = .keep then start else []
  | first :: rest =>
    let (tail, blank) := joinLines literal first 0 rest
    let text := start ++ first ++ tail
    let final := if terminated then ['\n'] else []
    match chomping with
    | .strip => text
    | .clip => text ++ final
    | .keep => text ++ final ++ List.replicate blank '\n'

/-- A scalar in a block, whose lines are indented by `floor` columns at least. -/
def scanBlock (literal : Bool) (floor : Nat) : Scan Node := do
  let s ← get
  let (header, after) := blockHeader (s.rest.drop 1)
  let body ← afterHeader? after
  let indent ← match header.indentation with
    | some n => some (floor - 1 + n)
    | none => detectIndent? (max floor 1) 0 (body.length + 1) body
  let (lines, rest) ← blockLines indent (body.length + 1) body
  passTo rest
  let passed := body.take (body.length - rest.length)
  -- The last line of the text need not end with a line break.
  let terminated := !rest.isEmpty || passed.getLast? == some '\n'
  return .scalar false (String.ofList (blockText literal header.chomping terminated lines))

end Yaml

end Lexicon
