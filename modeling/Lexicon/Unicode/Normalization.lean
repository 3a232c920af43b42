import Lexicon.Unicode.Composition

/-!
# Lexicon.Unicode.Normalization

Normalization form C: text whose characters are composed as far as they can be.

## Main definitions

- `decompose` — the parts of a character
- `orderMarks` — marks of different combining classes in the order of their classes
- `compose` — a character and what follows it, composed again
- `normalize` — all three, one after the other
-/

namespace Lexicon

namespace Unicode

/-- The combining class of a character: 0 for one that starts anew. -/
def combiningClass (c : Char) : Nat :=
  ((combiningClasses.find? (·.2.has c)).map (·.1)).getD 0

/-! ### Syllables of Hangul -/

/-- The first syllable. -/
def hangulBase : Nat := 0xAC00

/-- The first leading consonant. -/
def leadingBase : Nat := 0x1100

/-- The first vowel. -/
def vowelBase : Nat := 0x1161

/-- One less than the first trailing consonant. -/
def trailingBase : Nat := 0x11A7

/-- The number of leading consonants. -/
def leadingCount : Nat := 19

/-- The number of vowels. -/
def vowelCount : Nat := 21

/-- The number of trailing consonants, with none at all as one more. -/
def trailingCount : Nat := 28

/-- The place of a syllable among the syllables. -/
def hangulIndex? (c : Char) : Option Nat :=
  if hangulBase ≤ c.toNat && c.toNat < hangulBase + leadingCount * vowelCount * trailingCount then
    some (c.toNat - hangulBase)
  else none

/-- The two or three letters of a syllable. -/
def decomposeHangul (index : Nat) : List Char :=
  let leading := Char.ofNat (leadingBase + index / (vowelCount * trailingCount))
  let vowel := Char.ofNat (vowelBase + index / trailingCount % vowelCount)
  let trailing := index % trailingCount
  if trailing == 0 then [leading, vowel]
  else [leading, vowel, Char.ofNat (trailingBase + trailing)]

/-- The syllable of a consonant and a vowel, or of a syllable and a consonant at its end. -/
def composeHangul? (c d : Char) : Option Char :=
  if leadingBase ≤ c.toNat && c.toNat < leadingBase + leadingCount
      && vowelBase ≤ d.toNat && d.toNat < vowelBase + vowelCount then
    let syllable := (c.toNat - leadingBase) * vowelCount + (d.toNat - vowelBase)
    some (Char.ofNat (hangulBase + syllable * trailingCount))
  else
    match hangulIndex? c with
    | none => none
    | some index =>
      if index % trailingCount == 0
          && trailingBase < d.toNat && d.toNat < trailingBase + trailingCount then
        some (Char.ofNat (c.toNat + (d.toNat - trailingBase)))
      else none

/-! ### Taking apart -/

/-- How deep compositions are nested at most. -/
def compositionDepth : Nat := 4

/-- The parts of a character, with compositions undone to the given depth. -/
def decomposeTo : Nat → Char → List Char
  | 0, c => [c]
  | depth + 1, c =>
    match compositions.image? c with
    | none => [c]
    | some parts => parts.flatMap (decomposeTo depth)

/-- The parts of a character. -/
def decompose (c : Char) : List Char :=
  match hangulIndex? c with
  | some index => decomposeHangul index
  | none => decomposeTo compositionDepth c

/-! ### Ordering -/

/-- Puts a character before the rest, behind marks that come earlier than it. -/
def insertMark (c : Char) : List Char → List Char
  | [] => [c]
  | d :: rest =>
    if 0 < combiningClass d && combiningClass d < combiningClass c then d :: insertMark c rest
    else c :: d :: rest

/-- The text with the marks that follow one character in the order of their classes. -/
def orderMarks (cs : List Char) : List Char := cs.foldr insertMark []

/-! ### Composing -/

/-- The character that two compose to. -/
def composite? (c d : Char) : Option Char :=
  (composeHangul? c d).orElse fun _ => compositions.preimage? [c, d]

/-- Composes a character with what follows it: `passed` are the marks that it did not take up,
the last one first. A mark is out of reach behind one of its own class or of a later one. -/
def composeFrom (start : Char) (passed : List Char) : List Char → List Char
  | [] => start :: passed.reverse
  | c :: rest =>
    let inReach :=
      match passed with
      | [] => true
      | last :: _ => combiningClass last < combiningClass c
    match if inReach then composite? start c else none with
    | some whole => composeFrom whole passed rest
    | none =>
      if combiningClass c == 0 then start :: passed.reverse ++ composeFrom c [] rest
      else composeFrom start (c :: passed) rest

/-- The text with all that composes composed. -/
def compose : List Char → List Char
  | [] => []
  | c :: rest => composeFrom c [] rest

/-- Normalization form C of a text. -/
def normalize (cs : List Char) : List Char := compose (orderMarks (cs.flatMap decompose))

end Unicode

end Lexicon
