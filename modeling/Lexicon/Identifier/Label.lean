import Lexicon.Text.Ascii

/-!
# Lexicon.Identifier.Label

The two shapes that the parts of an identifier have.

A domain label is made of 1 to 63 ASCII letters, digits and inner hyphens. A
name is an ASCII letter followed by ASCII letters and digits.
-/

namespace Lexicon

/-- Why a text is no domain label. -/
inductive LabelError where
  | empty
  | tooLong
  | outerHyphen
  | foreignCharacter
deriving DecidableEq, Repr

namespace LabelError

/-- The reason in words. -/
def message : LabelError → String
  | empty => "must not be empty"
  | tooLong => "must be at most 63 characters"
  | outerHyphen => "must not start or end with a hyphen"
  | foreignCharacter => "must contain only ASCII letters, digits, and hyphens"

end LabelError

namespace Label

/-- The greatest length of a label. -/
def maxLength : Nat := 63

/-- What keeps a text from being a domain label, if anything does. -/
def defect? (label : String) : Option LabelError :=
  if label.isEmpty then some .empty
  else if maxLength < label.utf8ByteSize then some .tooLong
  else if label.toList.head? = some '-' || label.toList.getLast? = some '-' then
    some .outerHyphen
  else if label.toList.all fun c => Text.isAsciiAlphanumeric c || c == '-' then none
  else some .foreignCharacter

/-- Whether a text is a domain label. -/
def isLabel (label : String) : Bool := (defect? label).isNone

/-- Whether a text has the shape of a name: an ASCII letter, then ASCII letters and digits. -/
def isName (name : String) : Bool :=
  match name.toList with
  | [] => false
  | first :: rest => Text.isAsciiLetter first && rest.all Text.isAsciiAlphanumeric

end Label

end Lexicon
