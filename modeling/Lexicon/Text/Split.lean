/-!
# Lexicon.Text.Split

Cutting text at separators.

`splitOn` keeps empty pieces, so a text has one piece more than it has
separators; `cutAt` and `cutAtLast` divide a text at its first or last
separator; `dropStart?` and `dropEnd?` take a known beginning or end off.
-/

namespace Lexicon

namespace Text

/-- The pieces of a text between the occurrences of a separator. -/
def splitOn (separator : Char) (s : String) : List String :=
  (s.toList.splitOn separator).map String.ofList

/-- The text before the first separator, and the text after it if there is one. -/
def cutAt (separator : Char) (s : String) : String × Option String :=
  let before := s.toList.takeWhile (· != separator)
  match s.toList.dropWhile (· != separator) with
  | [] => (String.ofList before, none)
  | _ :: after => (String.ofList before, some (String.ofList after))

/-- The text before and after the last separator. -/
def cutAtLast? (separator : Char) (s : String) : Option (String × String) :=
  let reversed := s.toList.reverse
  match reversed.dropWhile (· != separator) with
  | [] => none
  | _ :: before =>
    some (String.ofList before.reverse,
      String.ofList (reversed.takeWhile (· != separator)).reverse)

/-- The text behind a known beginning. -/
def dropStart? (start s : String) : Option String :=
  if start.toList.isPrefixOf s.toList then some (String.ofList (s.toList.drop start.length))
  else none

/-- The text before a known end. -/
def dropEnd? (ending s : String) : Option String :=
  if ending.toList.isSuffixOf s.toList then
    some (String.ofList (s.toList.take (s.length - ending.length)))
  else none

/-- Whether the text starts with the given beginning. -/
def hasStart (start s : String) : Bool := start.toList.isPrefixOf s.toList

/-- Whether the text ends with the given end. -/
def hasEnd (ending s : String) : Bool := ending.toList.isSuffixOf s.toList

end Text

end Lexicon
