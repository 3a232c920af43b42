import Lexicon.Text.Ascii

/-!
# Lexicon.Validation.Options

How strictly data is held to its schema.
-/

namespace Lexicon

/-- What is checked besides the kinds of values. -/
inductive ValidationMode where
  /-- Required fields and constraints; undeclared fields are errors. -/
  | strict
  /-- Required fields and constraints; undeclared fields are ignored. -/
  | optimistic
  /-- Nothing else. -/
  | lenient
deriving DecidableEq, Repr

namespace ValidationMode

/-- The name of a mode. -/
def name : ValidationMode → String
  | strict => "strict"
  | optimistic => "optimistic"
  | lenient => "lenient"

/-- The mode of that very name. -/
def ofName? (name : String) : Option ValidationMode :=
  if name = "strict" then some strict
  else if name = "optimistic" then some optimistic
  else if name = "lenient" then some lenient
  else none

/-- Reads a mode in any ASCII case; otherwise the error in words. -/
def parse (text : String) : Except String ValidationMode :=
  let lower := Text.asciiLowercase text
  match ofName? lower with
  | some mode => .ok mode
  | none =>
    .error s!"unknown validation mode \"{lower}\" (expected strict, optimistic, or lenient)"

/-- Whether required fields and constraints are checked. -/
def checksConstraints (mode : ValidationMode) : Bool := mode ≠ lenient

/-- Whether undeclared fields are errors. -/
def refusesUndeclared (mode : ValidationMode) : Bool := mode = strict

end ValidationMode

/-- The settings of one validation. -/
structure ValidationOptions where
  mode : ValidationMode := .optimistic
  /-- Report every failing constraint of a value, and not the first one only. -/
  accumulate : Bool := false
deriving DecidableEq, Repr

end Lexicon
