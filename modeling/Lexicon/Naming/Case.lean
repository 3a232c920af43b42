import Lexicon.Unicode.CaseMap

/-!
# Lexicon.Naming.Case

Words of a name, and the ways to write them together.

A name is cut at every character that is neither a letter nor a number, before
a capital after a lower-case letter or a number (`replyRef` is `reply`, `Ref`),
and before the last capital of a run of capitals (`HTMLParser` is `HTML`,
`Parser`).

## Main definitions

- `Case.words`: the words of a name.
- `Case.pascal`, `Case.camel`, `Case.snake`, `Case.kebab`: the four ways.
-/

namespace Lexicon

namespace Case

/-- Whether a word ends before a capital: `last` is the character before it and `next` the one
after it. -/
def cutsBefore (last : Char) (capital : Char) (next : Option Char) : Bool :=
  Unicode.isUppercase capital &&
    (Unicode.isLowercase last || Unicode.isNumeric last ||
      (Unicode.isUppercase last && next.any Unicode.isLowercase))

/-- A word that has been collected in reverse, unless it is empty. -/
def finished (word : List Char) : List (List Char) := if word.isEmpty then [] else [word.reverse]

/-- The words of the rest of a name; `word` is the word at hand, in reverse. -/
def wordsFrom (word : List Char) : List Char → List (List Char)
  | [] => finished word
  | c :: rest =>
    if !Unicode.isAlphanumeric c then finished word ++ wordsFrom [] rest
    else
      match word with
      | [] => wordsFrom [c] rest
      | last :: _ =>
        if cutsBefore last c rest.head? then finished word ++ wordsFrom [c] rest
        else wordsFrom (c :: word) rest

/-- The words of a name. -/
def words (name : String) : List String := (wordsFrom [] name.toList).map String.ofList

/-- A word with a capital first and the rest in lower case, character by character. -/
def capitalize (word : String) : String :=
  match word.toList with
  | [] => ""
  | c :: rest => String.ofList (Unicode.upperChar c ++ rest.flatMap Unicode.lowerChar)

/-- All words capitalized and joined: `StrongRef`. -/
def pascal (name : String) : String := String.join ((words name).map capitalize)

/-- All words but the first capitalized and joined: `strongRef`. -/
def camel (name : String) : String :=
  match words name with
  | [] => ""
  | word :: rest => Unicode.lowercase word ++ String.join (rest.map capitalize)

/-- All words in lower case, joined by underscores: `strong_ref`. -/
def snake (name : String) : String := String.intercalate "_" ((words name).map Unicode.lowercase)

/-- All words in lower case, joined by hyphens: `strong-ref`. -/
def kebab (name : String) : String := String.intercalate "-" ((words name).map Unicode.lowercase)

end Case

end Lexicon
