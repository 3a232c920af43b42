import Lexicon.Identifier.Nsid
import Lexicon.Json.Basic

/-!
# Lexicon.Schema.Error

Why a schema document is refused.

A fault is found at a node of the document, and its location lists the keys
that lead there from the outside in. The location grows while the fault is
handed outwards, one enclosing node at a time (`ParseError.inside`).
-/

namespace Lexicon

/-- The shapes that the keys of a schema node may ask of their values. -/
inductive KeyShape where
  | text
  | boolean
  | integer
  | natural
  | texts
  | integers
  | list
  | object
deriving DecidableEq, Repr

namespace KeyShape

/-- The shape in words. -/
def name : KeyShape → String
  | text => "a string"
  | boolean => "a boolean"
  | integer => "an integer"
  | natural => "a non-negative integer"
  | texts => "a list of strings"
  | integers => "a list of integers"
  | list => "a list"
  | object => "an object"

end KeyShape

/-- What is wrong with the value of a key. -/
inductive KeyFault where
  /-- The value has another shape than the key asks for. -/
  | wrongShape (expected : KeyShape) (found : Kind)
  /-- A record holds a node that is no object node. -/
  | notObjectNode (kind : String)
  /-- Parameters carry another tag than their own. -/
  | notParams (tag : String)
  /-- The least integer is above the greatest. -/
  | emptyRange (minimum maximum : Int)
  /-- The identifier of a document carries a fragment. -/
  | fragment (id : Nsid)
  /-- A reference is malformed. -/
  | badReference (reason : IdentifierError)
deriving DecidableEq, Repr

namespace KeyFault

/-- The fault in words. -/
def message : KeyFault → String
  | wrongShape expected found => s!"must be {expected.name}, found {found.name}"
  | notObjectNode kind => s!"must be an object type, found `{kind}`"
  | notParams tag => s!"must be \"params\", found \"{tag}\""
  | emptyRange minimum maximum => s!"{minimum} exceeds maximum {maximum}"
  | fragment id => s!"must not carry a fragment, found \"{id.text}\""
  | badReference reason => reason.message

end KeyFault

/-- What is wrong with a node. -/
inductive NodeFault where
  | notAnObject (found : Kind)
  | missingKey (variant key : String)
  | invalidKey (variant key : String) (fault : KeyFault)
  | unknownTag (tag : String)
  | misplacedTag (tag : String)
deriving DecidableEq, Repr

namespace NodeFault

/-- The fault in words, behind its location. -/
def message : NodeFault → String
  | notAnObject found => s!"expected a JSON object, found {found.name}"
  | missingKey variant key => s!"`{variant}` is missing required key `{key}`"
  | invalidKey variant key fault => s!"key `{key}` of `{variant}` {fault.message}"
  | unknownTag tag => s!"unknown type tag \"{tag}\""
  | misplacedTag tag => s!"`{tag}` may only appear as a top-level definition"

end NodeFault

/-- Why a schema document or one of its nodes is refused. -/
inductive ParseError where
  /-- A node is at fault. -/
  | node (location : List String) (fault : NodeFault)
  /-- The identifier of the document is malformed. -/
  | identifier (reason : IdentifierError)
  /-- The text is not JSON. -/
  | notJson
deriving DecidableEq, Repr

namespace ParseError

/-- A fault of the node at hand. -/
def here (fault : NodeFault) : ParseError := node [] fault

/-- The same error seen from the enclosing node, where `segment` leads to the node. An empty
segment leads nowhere while the location is still empty. -/
def inside (segment : String) : ParseError → ParseError
  | node location fault =>
    if segment = "" ∧ location = [] then node [] fault else node (segment :: location) fault
  | e => e

/-- The location as one text. -/
def locationText (location : List String) : String := String.intercalate "/" location

/-- The error in words. -/
def message : ParseError → String
  | node location fault => locationText location ++ ": " ++ fault.message
  | identifier reason => "invalid document id: " ++ reason.message
  | notJson => "invalid JSON"

end ParseError

end Lexicon
