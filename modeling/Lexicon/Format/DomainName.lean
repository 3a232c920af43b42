import Lexicon.Format.Punycode
import Lexicon.Text.Utf8
import Lexicon.Unicode.Bidi
import Lexicon.Unicode.HostMapping
import Lexicon.Unicode.Joining
import Lexicon.Unicode.Normalization

/-!
# Lexicon.Format.DomainName

Domain names with characters of all scripts.

A name is mapped (capitals to small letters, forms of a character to the
character itself), normalized and cut at its dots. A label that begins with
`xn--` spells another one, which must be what mapping would have made of it.
Labels must be sound in themselves, and where a name has letters that are
written from right to left, all its labels must say in which direction they go.

## Main definitions

- `mapped?` — a name as it is to be read
- `isSoundLabel` — marks and joiners stand where they can have an effect
- `isDirected` — the rule for names with letters from right to left
- `labels?` — the labels of a name that keeps all rules
-/

namespace Lexicon

namespace Format

namespace DomainName

/-! ### Characters -/

/-- ASCII characters that no name may have. -/
def isDeniedAscii (c : Char) : Bool :=
  c ≤ ' ' || c == '\x7f' || "%#/:<>?@[\\]^|".toList.contains c

/-- What a character of a name stands for; nothing for a character that is refused. -/
def image? (c : Char) : Option (List Char) :=
  if Unicode.hostIgnored.has c then some []
  else if Unicode.hostRefused.has c then none
  else some ((Unicode.hostMapping.image? c).getD [c])

/-- Whether a character stands for itself in a label. -/
def isFixed (c : Char) : Bool := image? c == some [c] && !isDeniedAscii c && c != '.'

/-- Whether all characters are ASCII. -/
def isAscii (cs : List Char) : Bool := cs.all (· ≤ '\x7f')

/-! ### Labels -/

/-- The joiner that keeps letters apart. -/
def nonJoiner : Char := '\u200c'

/-- The joiner that ties letters together. -/
def joiner : Char := '\u200d'

/-- The combining class of the signs that take a vowel away. -/
def viramaClass : Nat := 9

/-- Whether the first character that joining does not look through satisfies the predicate. -/
def joinsWith (p : Char → Bool) (cs : List Char) : Bool :=
  (cs.dropWhile Unicode.transparentJoining.has).head?.any p

/-- Whether each joiner has an effect. `before` is what comes before the rest, the last character
first: a joiner follows a sign that takes a vowel away, or keeps two letters apart that would
join. -/
def hasSoundJoiners (before : List Char) : List Char → Bool
  | [] => true
  | c :: rest =>
    let isSound :=
      if c == nonJoiner || c == joiner then
        (before.head?.any fun last => Unicode.combiningClass last == viramaClass)
          || (c == nonJoiner && joinsWith Unicode.joinsNext before
            && joinsWith Unicode.joinsPrevious rest)
      else true
    isSound && hasSoundJoiners (c :: before) rest

/-- How many characters a label with characters beyond ASCII may have. -/
def maxLabelLength : Nat := 1000

/-- Whether a label does not begin with a mark, has joiners in their places only, and is not too
long. -/
def isSoundLabel (label : List Char) : Bool :=
  !label.head?.any Unicode.markRanges.has
    && hasSoundJoiners [] label
    && (isAscii label || label.length ≤ maxLabelLength)

/-- How many characters a spelling may have. -/
def maxSpellingLength : Nat := 2000

/-- The label that `xn--` and a spelling stand for: it has a character beyond ASCII, and it is
mapped and normalized as it stands. -/
def spelled? (spelling : List Char) : Option (List Char) := do
  if !isAscii spelling || maxSpellingLength < spelling.length then none
  let label ← Punycode.decode? spelling
  if !isAscii label && label.all isFixed && Unicode.normalize label == label
      && isSoundLabel label then
    some label
  else none

/-- The label that one of a mapped name stands for. -/
def label? (label : List Char) : Option (List Char) :=
  match label with
  | 'x' :: 'n' :: '-' :: '-' :: spelling => spelled? spelling
  | _ => if isSoundLabel label then some label else none

/-! ### Directions -/

/-- Whether a character makes a name one that is written in two directions. -/
def isFromRight (c : Char) : Bool :=
  match Unicode.bidiClass c with
  | .right | .arabicLetter | .arabicNumber => true
  | _ => false

/-- Whether a label begins and ends in one direction and keeps to it. Marks at the end do not
count. -/
def isDirected (label : List Char) : Bool :=
  match label.map Unicode.bidiClass with
  | [] => true
  | first :: rest =>
    let rest := (rest.reverse.dropWhile (· == .nonspacingMark)).reverse
    let last := rest.getLastD first
    match first with
    | .left =>
      (last == .left || last == .europeanNumber)
        && rest.all fun c => c != .right && c != .arabicLetter && c != .arabicNumber
    | .right | .arabicLetter =>
      (last == .right || last == .arabicLetter || last == .europeanNumber || last == .arabicNumber)
        && rest.all (· != .left)
        && !(rest.contains .europeanNumber && rest.contains .arabicNumber)
    | _ => false

/-! ### Names -/

/-- A name mapped and normalized, if it has no character that is refused. -/
def mapped? (name : List Char) : Option (List Char) := do
  let images ← name.mapM image?
  let mapped := Unicode.normalize images.flatten
  if mapped.any isDeniedAscii then none else some mapped

/-- The labels of a name that keeps all rules, each with the characters that it stands for. -/
def labels? (name : List Char) : Option (List (List Char)) := do
  let mapped ← mapped? name
  let labels ← (mapped.splitOn '.').mapM label?
  if labels.any (·.any isFromRight) && !labels.all isDirected then none else some labels

end DomainName

end Format

end Lexicon
