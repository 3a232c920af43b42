import Lexicon.Identifier.Nsid

/-!
# Lexicon.Identifier.Reference

References: `#name` for a definition of the same document, or a full
identifier.
-/

namespace Lexicon

/-- Where a reference leads. -/
inductive Reference where
  /-- `#name`: a definition of the enclosing document. -/
  | fragment (name : String)
  /-- A full identifier. -/
  | external (id : Nsid)
deriving DecidableEq, Repr

namespace Reference

/-- Reads a reference. -/
def parse (value : String) : Except IdentifierError Reference :=
  match Text.dropStart? "#" value with
  | some name =>
    if Label.isName name then .ok (fragment name) else .error (.invalidFragment value name)
  | none => (Nsid.parse value).map external

/-- The text of a reference. -/
def text : Reference → String
  | fragment name => "#" ++ name
  | external id => id.text

/-- The identifier that a reference stands for inside the given document. -/
def absolute (target : Reference) (document : Nsid) : Except IdentifierError Nsid :=
  match target with
  | fragment name => document.base.withFragment name
  | external id => .ok id

end Reference

end Lexicon
