import Lexicon.Unicode.Properties

/-!
# Lexicon.Text.Trim

Blanks at the ends of text, and lines.
-/

namespace Lexicon

namespace Text

/-- The characters without those at the end that satisfy the predicate. -/
def dropEndWhile (p : Char → Bool) (cs : List Char) : List Char :=
  (cs.reverse.dropWhile p).reverse

/-- The text without white space at its start. -/
def trimStart (s : String) : String := String.ofList (s.toList.dropWhile Unicode.isWhiteSpace)

/-- The text without white space at its end. -/
def trimEnd (s : String) : String := String.ofList (dropEndWhile Unicode.isWhiteSpace s.toList)

/-- Whether the text is white space only. -/
def isBlankText (s : String) : Bool := s.toList.all Unicode.isWhiteSpace

/-- The lines of a text, each without white space at its end. -/
def trimmedLines (s : String) : List String := (splitOn '\n' s).map trimEnd

end Text

end Lexicon
