import Lexicon.Json.Basic
import Lexicon.Naming.Case
import Lexicon.Naming.Plural
import Lexicon.Text.Trim

/-!
# Lexicon.Template.Helper

The helpers that templates may call.

`doc` writes text as comment lines, `pascal` and `snake` write a name in
another case, and `plural` writes a word in the number of a count. An operand
that is missing or of another kind counts as empty text.

## Main definitions

- `Helper.docLines`: the lines of `doc`.
- `Helper.ofName?`: the helper of a name.
-/

namespace Lexicon

/-- A helper that writes text. -/
inductive Helper where
  | doc
  | pascal
  | snake
  | plural
deriving DecidableEq, Repr

namespace Helper

/-- The helper of a name. -/
def ofName? (name : String) : Option Helper :=
  if name = "doc" then some doc
  else if name = "pascal" then some pascal
  else if name = "snake" then some snake
  else if name = "plural" then some plural
  else none

/-- One comment line. -/
def docLine (indent marker line : String) : String :=
  if line.isEmpty then indent ++ marker else indent ++ marker ++ " " ++ line

/-- The comment lines of a text; none when it is blank. -/
def docLines (indent marker text : String) : List String :=
  if Text.isBlankText text then []
  else (Text.trimmedLines (Text.trimEnd text)).map (docLine indent marker)

/-- The comment lines, each with its line break. -/
def docText (indent marker text : String) : String :=
  String.join ((docLines indent marker text).map (· ++ "\n"))

/-- The word when there is one of it, and its plural otherwise. -/
def pluralText (word : String) (count : Option Json) : String :=
  if (count.bind Json.asUInt64?) = some 1 then word else Plural.pluralize word

/-- The text of an operand. -/
def textOr (default : String) (operand : Option Json) : String :=
  (operand.bind Json.asString?).getD default

/-- The text that a helper writes for operands and named options. -/
def apply (helper : Helper) (operands : List Json) (options : List (String × Json)) : String :=
  let word := textOr "" operands[0]?
  match helper with
  | doc =>
    docText (textOr "" (options.lookup "indent")) (textOr "///" (options.lookup "marker")) word
  | pascal => Case.pascal word
  | snake => Case.snake word
  | plural => pluralText word operands[1]?

end Helper

end Lexicon
