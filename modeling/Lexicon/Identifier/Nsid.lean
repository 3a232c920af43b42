import Lexicon.Identifier.Label
import Lexicon.Text.Split

/-!
# Lexicon.Identifier.Nsid

Namespaced identifiers such as `com.example.feed.post#replyRef`.

The part before `#` names a document: a reverse domain name of at least two
labels, and a name. The fragment after `#` names one definition of the
document. A fragment `main` is the same as no fragment, so it is dropped.

## Main definitions

- `Nsid.parse`: reads an identifier or says what is wrong with it first.
- `Nsid.text`: writes an identifier.
- `Nsid.base`, `Nsid.withFragment`: the document, and another definition of it.
-/

namespace Lexicon

/-- A namespaced identifier. -/
structure Nsid where
  /-- The domain labels, outermost first. -/
  labels : List String
  /-- The name of the document. -/
  name : String
  /-- The definition inside the document; nothing for the main one. -/
  fragment : Option String
deriving DecidableEq, Repr

/-- Why a text is no identifier. Each cause carries the rejected text. -/
inductive IdentifierError where
  | empty
  | tooFewSegments (value : String) (found : Nat)
  | tooLong (value : String) (limit : Nat)
  | invalidAuthority (value segment : String) (reason : LabelError)
  | invalidName (value segment : String)
  | invalidFragment (value fragment : String)
deriving DecidableEq, Repr

namespace IdentifierError

/-- The rule that names and fragments obey, in words. -/
def nameRule : String := "must start with a letter and contain only ASCII letters and digits"

/-- The cause in words. -/
def message : IdentifierError → String
  | empty => "identifier is empty"
  | tooFewSegments value found =>
    s!"invalid identifier \"{value}\": expected at least 3 dot-separated segments, found {found}"
  | tooLong value limit => s!"invalid identifier \"{value}\": longer than {limit} characters"
  | invalidAuthority value segment reason =>
    s!"invalid identifier \"{value}\": authority segment \"{segment}\" {reason.message}"
  | invalidName value segment =>
    s!"invalid identifier \"{value}\": name segment \"{segment}\" {nameRule}"
  | invalidFragment value fragment =>
    s!"invalid identifier \"{value}\": fragment \"{fragment}\" {nameRule}"

end IdentifierError

/-- The name of the primary definition of a document. -/
def mainDefinition : String := "main"

namespace Nsid

/-- The greatest length in bytes of an identifier without its fragment. -/
def maxLength : Nat := 317

/-- The domain labels joined by dots. -/
def authority (id : Nsid) : String := String.intercalate "." id.labels

/-- The text of the document part. -/
def baseText (id : Nsid) : String := String.intercalate "." (id.labels ++ [id.name])

/-- The text of an identifier. -/
def text (id : Nsid) : String :=
  match id.fragment with
  | none => id.baseText
  | some fragment => id.baseText ++ "#" ++ fragment

/-- The identifier of the document. -/
def base (id : Nsid) : Nsid := { id with fragment := none }

/-- Whether the identifier names the main definition. -/
def isMain (id : Nsid) : Bool := id.fragment.isNone

/-- The name of the definition that the identifier names. -/
def definitionName (id : Nsid) : String := id.fragment.getD mainDefinition

/-- The first label that is none, with the reason. -/
def badLabel? (labels : List String) : Option (String × LabelError) :=
  labels.findSome? fun label => (Label.defect? label).map fun reason => (label, reason)

/-- Reads a fragment; `value` is the text that it stands in. -/
def parseFragment (value : String) (fragment : Option String) :
    Except IdentifierError (Option String) :=
  match fragment with
  | none => .ok none
  | some fragment =>
    if fragment = mainDefinition then .ok none
    else if Label.isName fragment then .ok (some fragment)
    else .error (.invalidFragment value fragment)

/-- Reads an identifier, with or without a fragment. The first violation is reported: the length,
the number of segments, the labels from the left, the name, the fragment. -/
def parse (value : String) : Except IdentifierError Nsid :=
  if value.isEmpty then .error .empty
  else
    let (document, fragment) := Text.cutAt '#' value
    -- The limit is that of the document; a fragment may be of any length.
    if maxLength < document.utf8ByteSize then .error (.tooLong value maxLength)
    else
      let segments := Text.splitOn '.' document
      if segments.length < 3 then .error (.tooFewSegments value segments.length)
      else
        let labels := segments.dropLast
        let name := segments.getLastD ""
        match badLabel? labels with
        | some (segment, reason) => .error (.invalidAuthority value segment reason)
        | none =>
          if Label.isName name then do
            let fragment ← parseFragment value fragment
            .ok { labels, name, fragment }
          else .error (.invalidName value name)

/-- The identifier of another definition of the same document. -/
def withFragment (id : Nsid) (fragment : String) : Except IdentifierError Nsid :=
  if fragment = mainDefinition then .ok id.base
  else if Label.isName fragment then .ok { id with fragment := some fragment }
  else .error (.invalidFragment (id.baseText ++ "#" ++ fragment) fragment)

/-- The order of identifiers: by the authority, the name, then the fragment, where no fragment
comes first. -/
def compare (a b : Nsid) : Ordering :=
  (Ord.compare a.authority b.authority).then
    ((Ord.compare a.name b.name).then (Ord.compare a.fragment b.fragment))

end Nsid

end Lexicon
