import Lexicon.Schema.Parser
import Lexicon.Schema.Printer

/-!
# Lexicon.Schema.Definition

The named entries of a schema document.

A definition is a record, an endpoint (query, procedure or subscription), a
token, or a plain field type. Like a field type it is read in two steps, its
own keys first (`Definition.parseShallow`) and its children afterwards
(`Definition.attachChildren`).

## Main definitions

- `Definition.parse`: both steps.
- `Definition.dataType?`: the type that data of a definition has.
- `Definition.toJson`: the definition as it is written in a schema document.
-/

namespace Lexicon

/-- The payload of a query or procedure. -/
structure Body where
  description : Option String
  /-- The media type of the payload. -/
  encoding : String
  schema : Option TypeNode

/-- The message of a subscription. -/
structure Message where
  description : Option String
  schema : Option TypeNode

/-- A named error that an endpoint may return. -/
structure ErrorDecl where
  name : String
  description : Option String
deriving DecidableEq, Repr

/-- A named entry of a schema document. -/
inductive Definition where
  /-- A stored record; `key` names the scheme of its record keys. -/
  | record (description key : Option String) (object : ObjectType)
  | query (description : Option String) (parameters : Option ObjectType) (output : Option Body)
      (errors : List ErrorDecl)
  | procedure (description : Option String) (parameters : Option ObjectType)
      (input output : Option Body) (errors : List ErrorDecl)
  | subscription (description : Option String) (parameters : Option ObjectType)
      (message : Option Message) (errors : List ErrorDecl)
  /-- A symbolic value without data. -/
  | token (description : Option String)
  | data (node : TypeNode)

/-- Marks an error as coming from the child that `segment` leads to. -/
def insideOf {α : Type} (segment : String) (result : Except ParseError α) : Except ParseError α :=
  result.mapError (·.inside segment)

namespace Definition

/-- The tag of a definition in a schema document. -/
def kind : Definition → String
  | record .. => "record"
  | query .. => "query"
  | procedure .. => "procedure"
  | subscription .. => "subscription"
  | token _ => "token"
  | data node => node.kind

/-- The documentation of a definition. -/
def description? : Definition → Option String
  | record description .. => description
  | query description .. => description
  | procedure description .. => description
  | subscription description .. => description
  | token description => description
  | data node => node.description?

/-- The object of a record or of an object definition. -/
def object? : Definition → Option ObjectType
  | record _ _ object => some object
  | data (.object object) => some object
  | _ => none

/-- The type that data is held to: endpoints and tokens have none. -/
def dataType? : Definition → Option TypeNode
  | record _ _ object => some (.object object)
  | data node => some node
  | _ => none

/-! ### References -/

def objectDependencies : Option ObjectType → List String
  | none => []
  | some object => TypeNode.propertyDependencies object.properties

def bodyDependencies (body : Option Body) : List String :=
  TypeNode.itemDependencies (body.bind (·.schema))

/-- The references that a definition holds, in document order and with repetitions. -/
def dependencies : Definition → List String
  | record _ _ object => TypeNode.propertyDependencies object.properties
  | query _ parameters output _ => objectDependencies parameters ++ bodyDependencies output
  | procedure _ parameters input output _ =>
    objectDependencies parameters ++ bodyDependencies input ++ bodyDependencies output
  | subscription _ parameters message _ =>
    objectDependencies parameters ++ TypeNode.itemDependencies (message.bind (·.schema))
  | token _ => []
  | data node => node.dependencies

/-! ### Reading the keys of a definition -/

/-- The object of a record without its properties. -/
def parseRecordObject (f : Fields) : Except ParseError ObjectType := do
  match f.raw? "record" with
  | none => .error (f.missing "record")
  | some raw =>
    match ← insideOf "record" (TypeNode.parseShallow raw) with
    | .object object => .ok object
    | other => .error (f.invalid "record" (.notObjectNode other.kind))

/-- The parameters of an endpoint without their properties. -/
def parseParameters (f : Fields) : Except ParseError (Option ObjectType) := do
  match f.raw? "parameters" with
  | none => .ok none
  | some raw => insideOf "parameters" do
    let params ← Fields.of "params" raw
    let tag ← params.text "type"
    -- Only the tag is of its own; the keys are those of an object, and so are their errors.
    if tag ≠ "params" then .error (params.invalid "type" (.notParams tag))
    else some <$> ObjectShape.ofFields { params with variant := "object" }

/-- A payload of an endpoint without its schema. -/
def parseBody (f : Fields) (key : String) : Except ParseError (Option Body) := do
  match f.raw? key with
  | none => .ok none
  | some raw => insideOf key do
    let body ← Fields.of f.variant raw
    return some {
      description := ← body.description
      encoding := ← body.text "encoding"
      schema := none }

/-- The message of a subscription without its schema. A faulty description is reported for the
subscription itself. -/
def parseMessage (f : Fields) : Except ParseError (Option Message) := do
  match f.raw? "message" with
  | none => .ok none
  | some raw =>
    let message ← insideOf "message" (Fields.of f.variant raw)
    return some { description := ← message.description, schema := none }

/-- One declared error. A faulty description is reported for the endpoint itself. -/
def parseErrorDecl (variant : String) (index : Nat) (raw : Json) : Except ParseError ErrorDecl := do
  let segment := "errors/" ++ toString index
  let f ← insideOf segment (Fields.of variant raw)
  return { name := ← insideOf segment (f.text "name"), description := ← f.description }

/-- The errors that an endpoint declares. -/
def parseErrors (f : Fields) : Except ParseError (List ErrorDecl) :=
  match f.raw? "errors" with
  | none => .ok []
  | some (.arr items) =>
    items.zipIdx.mapM fun (raw, index) => parseErrorDecl f.variant index raw
  | some other => .error (f.invalid "errors" (.wrongShape .list other.kind))

/-- Reads the other keys of a definition of the given tag, without its children. -/
def ofTag (value : Json) (f : Fields) (description : Option String) (tag : String) :
    Except ParseError Definition :=
  match tag with
  | "record" => do
    let object ← parseRecordObject f
    return .record description (← f.text? "key") object
  | "query" => do
    let parameters ← parseParameters f
    let output ← parseBody f "output"
    return .query description parameters output (← parseErrors f)
  | "procedure" => do
    let parameters ← parseParameters f
    let input ← parseBody f "input"
    let output ← parseBody f "output"
    return .procedure description parameters input output (← parseErrors f)
  | "subscription" => do
    let parameters ← parseParameters f
    let message ← parseMessage f
    return .subscription description parameters message (← parseErrors f)
  | "token" => return .token description
  | _ => return .data (← TypeNode.parseShallow value)

/-- Reads a definition without its children. -/
def parseShallow (value : Json) : Except ParseError Definition := do
  let f ← Fields.of "definition" value
  let tag ← f.text "type"
  let description ← f.description
  -- From here on errors name the variant that was found.
  ofTag value { f with variant := tag } description tag

/-! ### Attaching the children -/

/-- The parameters with their properties. -/
def attachParameters (value : Json) :
    Option ObjectType → Except ParseError (Option ObjectType)
  | none => .ok none
  | some object =>
    match value.get? "parameters" with
    -- The first pass has read the parameters from this key, so it is there.
    | none => .ok (some object)
    | some raw => insideOf "parameters" do
      return some (object.withProperties (← TypeNode.parseProperties "params" raw))

/-- The schema of a payload or message. -/
def parseSchema (value : Json) : Except ParseError (Option TypeNode) :=
  match value.get? "schema" with
  | none => .ok none
  | some raw => insideOf "schema" (some <$> TypeNode.parse raw)

/-- A payload with its schema. -/
def attachBody (value : Json) (key : String) : Option Body → Except ParseError (Option Body)
  | none => .ok none
  | some body =>
    match value.get? key with
    | none => .ok (some body)
    | some raw => insideOf key do return some { body with schema := ← parseSchema raw }

/-- A message with its schema. -/
def attachMessage (value : Json) : Option Message → Except ParseError (Option Message)
  | none => .ok none
  | some message =>
    match value.get? "message" with
    | none => .ok (some message)
    | some raw => insideOf "message" do return some { message with schema := ← parseSchema raw }

/-- A field type, read without its children, with them. -/
def attachNode (value : Json) : TypeNode → Except ParseError TypeNode
  | .array array =>
    match value.get? "items" with
    | none => .ok (.array array)
    | some raw => do return .array (array.withItems (← insideOf "items" (TypeNode.parse raw)))
  | .object object => do
    return .object (object.withProperties (← TypeNode.parseProperties "object" value))
  -- No other type has children.
  | node => .ok node

/-- The definition with the children that the value spells. -/
def attachChildren (value : Json) : Definition → Except ParseError Definition
  | record description key object => do
    let raw := (value.get? "record").getD .null
    let properties ← insideOf "record" (TypeNode.parseProperties "object" raw)
    return .record description key (object.withProperties properties)
  | query description parameters output errors => do
    let parameters ← attachParameters value parameters
    return .query description parameters (← attachBody value "output" output) errors
  | procedure description parameters input output errors => do
    let parameters ← attachParameters value parameters
    let input ← attachBody value "input" input
    return .procedure description parameters input (← attachBody value "output" output) errors
  | subscription description parameters message errors => do
    -- The message comes before the parameters.
    let message ← attachMessage value message
    return .subscription description (← attachParameters value parameters) message errors
  | token description => .ok (.token description)
  | data node => return .data (← attachNode value node)

/-! ### Writing -/

def parametersMember (parameters : Option ObjectType) : List (String × Json) :=
  TypeNode.member "parameters" (ObjectShape.toJson "params") parameters

def bodyJson (body : Body) : Json :=
  .obj (TypeNode.member "description" .str body.description ++
    [("encoding", .str body.encoding)] ++ TypeNode.member "schema" TypeNode.toJson body.schema)

def messageJson (message : Message) : Json :=
  .obj (TypeNode.member "description" .str message.description ++
    TypeNode.member "schema" TypeNode.toJson message.schema)

def errorJson (e : ErrorDecl) : Json :=
  .obj (("name", .str e.name) :: TypeNode.member "description" .str e.description)

def errorsMember (errors : List ErrorDecl) : List (String × Json) :=
  if errors.isEmpty then [] else [("errors", .arr (errors.map errorJson))]

/-- A definition as it is written in a schema document. -/
def toJson : Definition → Json
  | record description key object =>
    .obj (TypeNode.header "record" description ++ TypeNode.member "key" .str key ++
      [("record", object.toJson "object")])
  | query description parameters output errors =>
    .obj (TypeNode.header "query" description ++ parametersMember parameters ++
      TypeNode.member "output" bodyJson output ++ errorsMember errors)
  | procedure description parameters input output errors =>
    .obj (TypeNode.header "procedure" description ++ parametersMember parameters ++
      TypeNode.member "input" bodyJson input ++ TypeNode.member "output" bodyJson output ++
      errorsMember errors)
  | subscription description parameters message errors =>
    .obj (TypeNode.header "subscription" description ++ parametersMember parameters ++
      TypeNode.member "message" messageJson message ++ errorsMember errors)
  | token description => .obj (TypeNode.header "token" description)
  | data node => node.toJson

/-! ### Equality -/

def sameBody (a b : Body) : Bool :=
  a.description == b.description && a.encoding == b.encoding && a.schema == b.schema

def sameMessage (a b : Message) : Bool := a.description == b.description && a.schema == b.schema

/-- Whether two optional parts are both absent or the same. -/
def sameOption {α : Type} (same : α → α → Bool) : Option α → Option α → Bool
  | none, none => true
  | some a, some b => same a b
  | _, _ => false

def same : Definition → Definition → Bool
  | record d key object, record d' key' object' => d == d' && key == key' && object.same object'
  | query d ps output es, query d' ps' output' es' =>
    d == d' && sameOption ObjectShape.same ps ps' && sameOption sameBody output output' && es == es'
  | procedure d ps input output es, procedure d' ps' input' output' es' =>
    d == d' && sameOption ObjectShape.same ps ps' && sameOption sameBody input input' &&
      sameOption sameBody output output' && es == es'
  | subscription d ps message es, subscription d' ps' message' es' =>
    d == d' && sameOption ObjectShape.same ps ps' && sameOption sameMessage message message' &&
      es == es'
  | token d, token d' => d == d'
  | data node, data node' => node == node'
  | _, _ => false

instance : BEq Definition := ⟨same⟩

end Definition

end Lexicon
