import Lexicon.Schema.Document

/-!
# Lexicon.Schema.Union

Which member of a union a value is.

The value says so itself, by its `$type`. References are compared in a normal
form: a local `#name` is expanded when the enclosing document is known, and
the fragment `main` is dropped. An open union never refuses a value, so it is
resolved to no member without looking at the value.

## Main definitions

- `UnionResolver.asWritten`, `UnionResolver.within`: resolvers outside and inside a document.
- `UnionResolver.normalize`: the normal form of a reference.
- `UnionResolver.resolve`: the member of a closed union that a value names.
- `UnionResolver.selects`: whether a value is a given member.
- `Union.tag`: an object tagged as a member.
-/

namespace Lexicon

/-- Why a value is no member of a closed union. -/
inductive UnionError where
  | missingDiscriminator
  | invalidDiscriminator (found : Kind)
  | unknownMember (discriminator : String)
deriving DecidableEq, Repr

namespace UnionError

/-- The error in words. -/
def message : UnionError → String
  | missingDiscriminator => "missing $type discriminator"
  | invalidDiscriminator found => s!"$type must be a string, found {found.name}"
  | unknownMember discriminator =>
    s!"\"{discriminator}\" is not a member of the closed union"

end UnionError

namespace Union

/-- The key that names the type of a value. -/
def typeKey : String := "$type"

/-- The type that a value names. -/
def discriminator (value : Json) : Except UnionError String :=
  match value.get? typeKey with
  | some (.str s) => .ok s
  | some other => .error (.invalidDiscriminator other.kind)
  | none => .error .missingDiscriminator

/-- The fields as an object of the given type. The type comes first and replaces any other. -/
def tag (reference : String) (fields : List (String × Json)) : List (String × Json) :=
  Entries.ofPairs ((typeKey, .str reference) :: fields.filter (·.1 ≠ typeKey))

end Union

/-- Compares references, within a document or without. -/
structure UnionResolver where
  base : Option Nsid

namespace UnionResolver

/-- Compares references as they are written, but for the fragment `main`. -/
def asWritten : UnionResolver := { base := none }

/-- The resolver of references inside the document of an identifier. -/
def within (document : Nsid) : UnionResolver := { base := some document.base }

/-- The resolver of references inside the scope, if there is one. -/
def ofScope (scope : Option Document) : UnionResolver := { base := scope.map (·.id.base) }

def normalize (resolver : UnionResolver) (reference : String) : String :=
  let (written, fragment) := Text.cutAt '#' reference
  let document :=
    match resolver.base with
    | some base => if written.isEmpty then base.text else written
    | none => written
  match fragment with
  | none => document
  -- The main definition is named by its document alone.
  | some fragment => if fragment = mainDefinition then document else document ++ "#" ++ fragment

/-- The first member whose normal form is that of the reference. -/
def member? (resolver : UnionResolver) (union : UnionType) (reference : String) : Option String :=
  union.refs.find? fun member => resolver.normalize member = resolver.normalize reference

/-- The member of a closed union that a value names, as the union lists it. -/
def resolve (resolver : UnionResolver) (value : Json) (union : UnionType) :
    Except UnionError (Option String) :=
  if !union.closed then .ok none
  else
    match Union.discriminator value with
    | .error e => .error e
    | .ok discriminator =>
      match resolver.member? union discriminator with
      | some member => .ok (some member)
      | none => .error (.unknownMember discriminator)

/-- Whether a value is the given member. For an open union the type of the value alone decides. -/
def selects (resolver : UnionResolver) (value : Json) (candidate : String) (union : UnionType) :
    Bool :=
  if union.closed then
    match resolver.resolve value union with
    | .ok (some member) => resolver.normalize member = resolver.normalize candidate
    | _ => false
  else
    match Union.discriminator value with
    | .ok discriminator => resolver.normalize discriminator = resolver.normalize candidate
    | .error _ => false

end UnionResolver

end Lexicon
