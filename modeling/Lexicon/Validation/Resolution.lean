import Lexicon.Schema.Registry
import Lexicon.Validation.Finding

/-!
# Lexicon.Validation.Resolution

Following references and unions at one value.

A reference is transparent: the same value is held to its target. So before
anything is checked, references and union members are followed until a node
is reached that is neither (`settle`). The chain is bounded by a number of
hops, which starts afresh for every value.

A reference into the enclosing document, written `#name` or with the
document's own identifier, is looked up there; any other is looked up in the
registry. Where there is nothing to look in, the reference admits every value.

## Main definitions

- `lookup`: where a reference leads.
- `settle`: the node that a value is held to in the end.
-/

namespace Lexicon

/-- The greatest number of references that are followed at one value. -/
def maxHops : Nat := 32

/-- Where a reference leads. -/
inductive Lookup where
  | found (scope : Document) (definition : Definition)
  /-- The document is known and has no such definition. -/
  | noDefinition (document : Nsid)
  /-- The document is not known. -/
  | notRegistered (document : Nsid)
  /-- There is nothing to look in. -/
  | unknown
  | malformed (reason : IdentifierError)

namespace Lookup

/-- A definition of a known document. -/
def inDocument (doc : Document) (name : String) : Lookup :=
  match doc.definition? name with
  | some definition => found doc definition
  | none => noDefinition doc.id

/-- A definition of a document that a registry may hold. -/
def inRegistry (registry : Option Registry) (id : Nsid) : Lookup :=
  match registry with
  | none => unknown
  | some registry =>
    match registry.get? id with
    | some doc => inDocument doc id.definitionName
    | none => notRegistered id.base

/-- Where a well-formed reference leads. -/
def ofReference (registry : Option Registry) (scope : Option Document) (target : Reference) :
    Lookup :=
  match target, scope with
  | .fragment name, some doc => inDocument doc name
  | .fragment _, none => unknown
  | .external id, some doc =>
    -- The enclosing document comes first, whatever the registry holds under its identifier.
    if id.base = doc.id then inDocument doc id.definitionName else inRegistry registry id
  | .external id, none => inRegistry registry id

def ofText (registry : Option Registry) (scope : Option Document) (reference : String) : Lookup :=
  match Reference.parse reference with
  | .ok target => ofReference registry scope target
  | .error reason => malformed reason

end Lookup

/-- What a node asks to be done before a value is checked. -/
inductive Move where
  /-- Nothing: the value is held to the node itself. -/
  | stay
  /-- Follow a reference. A dangling one is an error only if `strict`. -/
  | follow (reference : String) (strict : Bool)
  | accept
  | refuse (cause : Cause)

namespace Move

/-- What a union asks: to follow the member that the value names. -/
def ofUnion (scope : Option Document) (union : UnionType) (value : Json) : Move :=
  match value with
  | .obj _ =>
    match Union.discriminator value with
    | .error e => refuse (.union e)
    | .ok discriminator =>
      match (UnionResolver.ofScope scope).member? union discriminator with
      -- Only a closed union insists that its member can be found.
      | some member => follow member union.closed
      | none => if union.closed then refuse (.union (.unknownMember discriminator)) else accept
  | other => refuse (.mismatch "union" other.kind)

/-- What a node asks. -/
def ofNode (scope : Option Document) (value : Json) : TypeNode → Move
  | .ref t => follow t.target true
  | .union t => ofUnion scope t value
  | _ => stay

end Move

/-- What a value is held to in the end. -/
inductive Settled where
  /-- A node that is neither a reference nor a union, and the document it stands in. -/
  | shape (scope : Option Document) (node : TypeNode)
  /-- Every value is admitted. -/
  | accepted
  /-- No value is admitted. -/
  | refused (expected : String) (cause : Cause)

/-- What a value is held to at a definition: endpoints and tokens admit no value. -/
def Definition.target (reference : String) : Definition → Except Cause TypeNode
  | .record _ _ object => .ok (.object object)
  | .data node => .ok node
  | other => .error (.noDataType reference other.kind)

/-- Follows references from a node, at most `hops` of them. -/
def settle (registry : Option Registry) (value : Json) (hops : Nat) (scope : Option Document)
    (node : TypeNode) : Settled :=
  match Move.ofNode scope value node with
  | .stay => .shape scope node
  | .accept => .accepted
  | .refuse cause => .refused node.kind cause
  | .follow reference strict =>
    match hops with
    -- The message names the whole limit, not what was left of it.
    | 0 => .refused reference (.tooManyHops maxHops reference)
    | hops + 1 =>
      match Lookup.ofText registry scope reference with
      | .found doc definition =>
        match definition.target reference with
        -- Local references of the target lead into the document of the target.
        | .ok node => settle registry value hops (some doc) node
        | .error cause => .refused definition.kind cause
      | .noDefinition document =>
        if strict then .refused reference (.noDefinition reference document) else .accepted
      | .notRegistered document =>
        if strict then .refused reference (.notRegistered document) else .accepted
      | .unknown => .accepted
      -- A malformed reference is an error even where a dangling one is none.
      | .malformed reason => .refused reference (.unresolvable reason)

end Lexicon
