import Lexicon.Proofs.Declarations
import Lexicon.Proofs.GeneratedReading

/-!
# Lexicon.Proofs.ReaderTyping

The types of the expressions that read fields.

A type and the expression that reads it are written side by side, each as a
text of its own. Here the text of a reader is taken as an expression of the
language, and the expression is given a type by the signatures of the support
library. The type is the one that is written beside it, whatever the schema
holds, and what is read is a value of that type.

## Main definitions

- `Expression`: the expressions that readers consist of.
- `Signature`: what the functions of the support library take and read.
- `HasType`: an expression has a type.
- `GeneratedType.Holds`: a value is one of a type.

## Main results

- `HasType.unique`: an expression that reads has one type.
- `TypeMapper.readersTyped`: mappings and fields have the types that they declare.
- `TypeMapper.ensures_structReader`: a struct is read into values of these types.

## Proof strategy

Lists nest their readers as their types, so the induction is on the mapping. A
box is only put around the reader of a struct, which is a path; a closure in its
place would have to be put in parentheses. The two case distinctions of a field
agree since a field is optional exactly if it is not plainly required.
-/

namespace Lexicon

/-! ### Expressions -/

/-- The functions of the support library that readers call. -/
inductive LibraryFunction where
  | plain (reader : PlainReader)
  | readArray
  | nullable
  | required
  | optional

def LibraryFunction.name : LibraryFunction → String
  | plain reader => reader.name
  | readArray => "read_array"
  | nullable => "nullable"
  | required => "required"
  | optional => "optional"

/-- An expression of the language, as far as readers need them. -/
inductive Expression where
  | var (name : String)
  /-- A text in quotes. -/
  | literal (content : String)
  /-- Several arguments. -/
  | pair (first rest : Expression)
  | library (function : LibraryFunction)
  /-- The reader of a generated struct. -/
  | fromValue (struct : String)
  /-- A function of a value `v`. -/
  | closure (body : Expression)
  | call (function arguments : Expression)
  /-- Puts what has been read on the heap. -/
  | heap (result : Expression)

namespace Expression

/-- What is called or has a method called on it stands in parentheses if it is a closure. -/
def grouped : Expression → String → String
  | closure _, text => "(" ++ text ++ ")"
  | _, text => text

/-- The expression as it is written; `runtime` is the path of the support library. -/
def text (runtime : String) : Expression → String
  | var name => name
  | literal content => Text.quoted content
  | pair first rest => first.text runtime ++ ", " ++ rest.text runtime
  | library function => runtime ++ "::" ++ function.name
  | fromValue struct => struct ++ "::from_value"
  | closure body => "|v| " ++ body.text runtime
  | call function arguments =>
    function.grouped (function.text runtime) ++ "(" ++ arguments.text runtime ++ ")"
  | heap result => result.grouped (result.text runtime) ++ ".map(Box::new)"

end Expression

/-! ### Types -/

/-- The type of an expression. Functions and their results may fail. -/
inductive ExprType where
  | value
  | members
  | text
  | pair (first rest : ExprType)
  | function (argument : ExprType) (item : GeneratedType)
  | result (item : GeneratedType)

namespace ExprType

/-- A function that reads a value. -/
def reader (item : GeneratedType) : ExprType := .function .value item

/-- The type up to what is read; the arguments of a function count. -/
def outline : ExprType → ExprType
  | pair first rest => .pair first.outline rest.outline
  | function argument _ => .function argument .unit
  | result _ => .result .unit
  | value => .value
  | members => .members
  | text => .text

end ExprType

/-- The signatures of the support library: what a function takes and what it reads. -/
inductive Signature : LibraryFunction → ExprType → GeneratedType → Prop where
  | null : Signature (.plain .null) .value .unit
  | bool : Signature (.plain .bool) .value .bool
  | integer : Signature (.plain .integer) .value .integer
  | string : Signature (.plain .string) .value .string
  | datetime : Signature (.plain .datetime) .value .datetime
  | bytes : Signature (.plain .bytes) .value .bytes
  | cidLink : Signature (.plain .cidLink) .value .string
  | blob : Signature (.plain .blob) .value .blob
  | map : Signature (.plain .map) .value .map
  | unknown : Signature (.plain .unknown) .value .value
  | readArray (item : GeneratedType) :
      Signature .readArray (.pair .value (.reader item)) (.vec item)
  | nullable (item : GeneratedType) :
      Signature .nullable (.pair .value (.reader item)) (.optional item)
  | required (item : GeneratedType) :
      Signature .required (.pair .members (.pair .text (.reader item))) item
  | optional (item : GeneratedType) :
      Signature .optional (.pair .members (.pair .text (.reader item))) (.optional item)

/-- An expression has a type, where the variables in scope have theirs. -/
inductive HasType : List (String × ExprType) → Expression → ExprType → Prop where
  | var {scope : List (String × ExprType)} {name : String} {type : ExprType}
      (found : scope.lookup name = some type) : HasType scope (.var name) type
  | literal {scope : List (String × ExprType)} {content : String} :
      HasType scope (.literal content) .text
  | pair {scope : List (String × ExprType)} {first rest : Expression}
      {firstType restType : ExprType} (head : HasType scope first firstType)
      (tail : HasType scope rest restType) :
      HasType scope (.pair first rest) (.pair firstType restType)
  | library {scope : List (String × ExprType)} {function : LibraryFunction}
      {argument : ExprType} {item : GeneratedType} (signature : Signature function argument item) :
      HasType scope (.library function) (.function argument item)
  | fromValue {scope : List (String × ExprType)} {struct : String} :
      HasType scope (.fromValue struct) (.reader (.struct struct))
  | closure {scope : List (String × ExprType)} {body : Expression} {item : GeneratedType}
      (inner : HasType (("v", .value) :: scope) body (.result item)) :
      HasType scope (.closure body) (.reader item)
  | call {scope : List (String × ExprType)} {function arguments : Expression}
      {argument : ExprType} {item : GeneratedType}
      (callee : HasType scope function (.function argument item))
      (given : HasType scope arguments argument) :
      HasType scope (.call function arguments) (.result item)
  | heap {scope : List (String × ExprType)} {result : Expression} {item : GeneratedType}
      (inner : HasType scope result (.result item)) :
      HasType scope (.heap result) (.result (.boxed item))

/-! ### One type only -/

namespace Signature

variable {function : LibraryFunction} {argument other : ExprType} {item otherItem : GeneratedType}

theorem unique (left : Signature function argument item)
    (right : Signature function argument otherItem) : item = otherItem := by
  cases left <;> cases right <;> rfl

/-- What a function takes is known up to the reader among its arguments. -/
theorem outline_argument (left : Signature function argument item)
    (right : Signature function other otherItem) : argument.outline = other.outline := by
  cases left <;> cases right <;> rfl

end Signature

namespace HasType

variable {scope : List (String × ExprType)} {expression : Expression}

theorem outline_argument {argument other : ExprType} {item otherItem : GeneratedType}
    (left : HasType scope expression (.function argument item))
    (right : HasType scope expression (.function other otherItem)) :
    argument.outline = other.outline := by
  -- What is called is a variable, a path or a closure, and only library functions are generic.
  cases left with
  | var found =>
    cases right with
    | var found' =>
      cases found.symm.trans found'
      rfl
  | library signature =>
    cases right with
    | library signature' => exact signature.outline_argument signature'
  | fromValue =>
    cases right
    rfl
  | closure =>
    cases right
    rfl

/-- Only a function of the support library has several types, and they differ in the arguments. -/
theorem unique {left right : ExprType} (typed : HasType scope expression left)
    (again : HasType scope expression right) (alike : left.outline = right.outline) :
    left = right := by
  induction typed generalizing right with
  | var found =>
    cases again with
    | var found' => exact Option.some.inj (found.symm.trans found')
  | literal =>
    cases again
    rfl
  | pair _ _ first rest =>
    cases again with
    | pair head tail =>
      obtain ⟨firstAlike, restAlike⟩ := ExprType.pair.inj alike
      rw [first head firstAlike, rest tail restAlike]
  | library signature =>
    cases again with
    | library signature' =>
      obtain ⟨rfl, _⟩ := ExprType.function.inj alike
      rw [signature.unique signature']
  | fromValue =>
    cases again
    rfl
  | closure _ body =>
    cases again with
    | closure inner => rw [ExprType.result.inj (body inner rfl)]
  | call callee _ function arguments =>
    cases again with
    | call callee' given' =>
      -- Both derivations call the function with the same arguments, so its signature is the same.
      obtain rfl := arguments given' (callee.outline_argument callee')
      rw [(ExprType.function.inj (function callee' rfl)).2]
  | heap _ result =>
    cases again with
    | heap inner => rw [ExprType.result.inj (result inner rfl)]

theorem of_call_library {function : LibraryFunction} {arguments : Expression} {item : GeneratedType}
    (typed : HasType scope (.call (.library function) arguments) (.result item)) :
    ∃ argument, Signature function argument item ∧ HasType scope arguments argument := by
  cases typed with
  | call callee given =>
    cases callee with
    | library signature => exact ⟨_, signature, given⟩

theorem of_pair {first rest : Expression} {firstType restType : ExprType}
    (typed : HasType scope (.pair first rest) (.pair firstType restType)) :
    HasType scope first firstType ∧ HasType scope rest restType := by
  cases typed with
  | pair head tail => exact ⟨head, tail⟩

theorem of_closure {body : Expression} {item : GeneratedType}
    (typed : HasType scope (.closure body) (.reader item)) :
    HasType (("v", .value) :: scope) body (.result item) := by
  cases typed with
  | closure inner => exact inner

end HasType

/-! ### Readers as expressions -/

/-- The expression that a reader writes. -/
def ReaderExpr.expression : ReaderExpr → Expression
  | plain reader => .library (.plain reader)
  | array item => .closure (.call (.library .readArray) (.pair (.var "v") item.expression))
  | struct name => .fromValue name
  | boxed inner => .closure (.heap (.call inner.expression (.var "v")))

/-- The expression that reads a field. -/
def FieldRead.expression (property : String) (read : FieldRead) : Expression :=
  let reader := read.reader.expression
  match read.presence with
  | .required =>
    .call (.library .required) (.pair (.var "map") (.pair (.literal property) reader))
  | .requiredNullable =>
    .call (.library .required) (.pair (.var "map") (.pair (.literal property)
      (.closure (.call (.library .nullable) (.pair (.var "v") reader)))))
  | .optional =>
    .call (.library .optional) (.pair (.var "map") (.pair (.literal property) reader))

/-- A reader is written as its expression is, and reads a type, in any scope. -/
structure ReaderExpr.Reads (reader : ReaderExpr) (type : GeneratedType) : Prop where
  text : ∀ runtime, reader.expression.text runtime = reader.text runtime
  typed : ∀ scope, HasType scope reader.expression (.reader type)

namespace ReaderExpr.Reads

variable {reader : ReaderExpr} {type : GeneratedType}

theorem hasType_iff (reads : reader.Reads type) (scope : List (String × ExprType))
    (item : GeneratedType) : HasType scope reader.expression (.reader item) ↔ item = type := by
  constructor
  · intro typed
    exact (ExprType.function.inj (typed.unique (reads.typed scope) rfl)).2
  · rintro rfl
    exact reads.typed scope

theorem plain {reader : PlainReader} (signature : Signature (.plain reader) .value type) :
    (ReaderExpr.plain reader).Reads type :=
  ⟨fun _ => rfl, fun _ => .library signature⟩

theorem array (reads : reader.Reads type) : (ReaderExpr.array reader).Reads (.vec type) := by
  constructor
  · intro runtime
    have written : "::read_array(v, " = "::" ++ ("read_array" ++ ("(" ++ ("v" ++ ", "))) := by
      decide
    simp only [expression, Expression.text, Expression.grouped, LibraryFunction.name, reads.text,
      ReaderExpr.text, written, String.append_assoc]
  · intro scope
    exact .closure (.call (.library (.readArray type)) (.pair (.var rfl) (reads.typed _)))

theorem struct (name : String) : (ReaderExpr.struct name).Reads (.struct name) :=
  ⟨fun _ => rfl, fun _ => .fromValue⟩

/-- A boxed struct. Boxing a list in this way would need parentheses. -/
theorem boxed (name : String) :
    (ReaderExpr.boxed (.struct name)).Reads (.boxed (.struct name)) := by
  constructor
  · intro runtime
    have written : "(v).map(Box::new)" = "(" ++ ("v" ++ (")" ++ ".map(Box::new)")) := by decide
    simp only [expression, Expression.text, Expression.grouped, ReaderExpr.text, written,
      String.append_assoc]
  · intro scope
    exact .closure (.heap (.call .fromValue (.var rfl)))

end ReaderExpr.Reads

/-! ### Fields -/

/-- The type of a field that is read with the given presence. -/
def Presence.typeOf (presence : Presence) (type : GeneratedType) : GeneratedType :=
  match presence with
  | required => type
  | requiredNullable | optional => .optional type

namespace FieldRead

variable {read : FieldRead} {type : GeneratedType}

theorem text_expression (reads : read.reader.Reads type) (runtime property : String) :
    (read.expression property).text runtime = read.text runtime property := by
  have required : "::required(map, " = "::" ++ ("required" ++ ("(" ++ ("map" ++ ", "))) := by
    decide
  have optional : "::optional(map, " = "::" ++ ("optional" ++ ("(" ++ ("map" ++ ", "))) := by
    decide
  have nullable : "::nullable(v, " = "::" ++ ("nullable" ++ ("(" ++ ("v" ++ ", "))) := by decide
  have closed : "))" = ")" ++ ")" := by decide
  have separated : ", |v| " = ", " ++ "|v| " := by decide
  unfold expression FieldRead.text
  cases read.presence <;>
    simp only [Expression.text, Expression.grouped, LibraryFunction.name, reads.text, required,
      optional, nullable, closed, separated, String.append_assoc]

theorem hasType_expression (reads : read.reader.Reads type) (property : String) :
    HasType [("map", .members)] (read.expression property)
      (.result (read.presence.typeOf type)) := by
  unfold expression
  cases read.presence with
  | required =>
    exact .call (.library (.required type))
      (.pair (.var rfl) (.pair .literal (reads.typed _)))
  | requiredNullable =>
    exact .call (.library (.required (.optional type))) (.pair (.var rfl) (.pair .literal
      (.closure (.call (.library (.nullable type)) (.pair (.var rfl) (reads.typed _))))))
  | optional =>
    exact .call (.library (.optional type)) (.pair (.var rfl) (.pair .literal (reads.typed _)))

end FieldRead

/-! ### Mappings -/

theorem PlainReader.signature (reader : PlainReader) :
    Signature (.plain reader) .value reader.type := by
  cases reader <;> constructor

/-- The reader of a mapping reads its type. -/
theorem Mapping.reads (mapping : Mapping) : mapping.reader.Reads mapping.type := by
  induction mapping with
  | plain reader => exact .plain reader.signature
  | list item ih => exact .array ih
  | struct id external => exact .struct _

namespace Declaration

/-- Boxed or not, what is stored is what is read. -/
theorem reads_stored (mapper : TypeMapper) (doc : Document) (id : Nsid) (mapping : Mapping) :
    (stored mapper doc id mapping).2.Reads (stored mapper doc id mapping).1 := by
  unfold stored
  split
  · next back =>
    -- Only a struct has a target that leads back, so nothing else is put into a box.
    cases mapping with
    | struct target external => exact .boxed _
    | _ => cases back
  · exact mapping.reads

/-- The type of a field is optional exactly if its reader makes it so. -/
theorem type_fieldOf (mapper : TypeMapper) (doc : Document) (id : Nsid) (object : ObjectType)
    (property ident : String) (node : TypeNode) :
    (fieldOf mapper doc id object property ident node).type =
      (fieldOf mapper doc id object property ident node).read.presence.typeOf
        (stored mapper doc id (mapper.map node doc)).1 := by
  unfold fieldOf ObjectShape.isOptional
  dsimp only
  -- One by one, the four combinations of flags.
  cases object.isRequired property <;> cases object.isNullable property <;> rfl

/-- A field is written as an expression of its type. -/
theorem reads_of_mem_fields {mapper : TypeMapper} {doc : Document} {id : Nsid}
    {definition : Definition} {object : ObjectType} {key : Option String} {field : StructField}
    (inside : field ∈ (ofObject mapper doc id definition object key).fields) :
    (∀ runtime, (field.read.expression field.property).text runtime =
        field.read.text runtime field.property) ∧
      HasType [("map", .members)] (field.read.expression field.property) (.result field.type) := by
  obtain ⟨node, ident, _, same⟩ := mem_fields inside
  have reads : field.read.reader.Reads (stored mapper doc id (mapper.map node doc)).1 := by
    rw [same]
    exact reads_stored mapper doc id (mapper.map node doc)
  have type : field.type =
      field.read.presence.typeOf (stored mapper doc id (mapper.map node doc)).1 := by
    rw [same]
    exact type_fieldOf mapper doc id object field.property ident node
  refine ⟨fun runtime => FieldRead.text_expression reads runtime field.property, ?_⟩
  rw [type]
  exact FieldRead.hasType_expression reads field.property

end Declaration

/-- Readers are expressions of the types that are written beside them. -/
structure TypeMapper.ReadersTyped (mapper : TypeMapper) (doc : Document) : Prop where
  /-- The reader of a node reads the type that it is mapped to, and no other. -/
  mapped : ∀ node,
    (mapper.map node doc).reader.expression.text mapper.runtime =
      (mapper.map node doc).reader.text mapper.runtime ∧
    ∀ scope type, HasType scope (mapper.map node doc).reader.expression (.reader type) ↔
      type = (mapper.map node doc).type
  /-- A field is read from the members of an object with its declared type, and no other. -/
  declared : ∀ id definition object key,
    ∀ field ∈ (Declaration.ofObject mapper doc id definition object key).fields,
      (field.read.expression field.property).text mapper.runtime =
        field.read.text mapper.runtime field.property ∧
      ∀ type, HasType [("map", .members)] (field.read.expression field.property) (.result type) ↔
        type = field.type

/-- The readers of a document have the types that their mappings and fields declare. -/
theorem TypeMapper.readersTyped (mapper : TypeMapper) (doc : Document) :
    mapper.ReadersTyped doc := by
  constructor
  case mapped =>
    intro node
    have reads := (mapper.map node doc).reads
    exact ⟨reads.text mapper.runtime, reads.hasType_iff⟩
  case declared =>
    intro id definition object key field inside
    obtain ⟨written, typed⟩ := Declaration.reads_of_mem_fields inside
    refine ⟨written mapper.runtime, fun other => ?_⟩
    constructor
    · intro again
      exact ExprType.result.inj (again.unique typed rfl)
    · rintro rfl
      exact typed

/-! ### Values -/

/-- What has been read is a value of a type. -/
inductive GeneratedType.Holds : GeneratedType → ReadValue → Prop where
  | unit : Holds .unit .unit
  | bool (value : Bool) : Holds .bool (.bool value)
  | integer (value : Int64) : Holds .integer (.integer value)
  | string (value : String) : Holds .string (.string value)
  | datetime (value : Datetime) : Holds .datetime (.datetime value)
  | bytes (value : List UInt8) : Holds .bytes (.bytes value)
  | blob (value : BlobRef) : Holds .blob (.blob value)
  | value (value : Json) : Holds .value (.json value)
  | map (members : List (String × Json)) : Holds .map (.map members)
  | struct (name : String) (fields : List (String × ReadValue)) :
      Holds (.struct name) (.struct fields)
  | vec {item : GeneratedType} {items : List ReadValue} (each : ∀ value ∈ items, Holds item value) :
      Holds (.vec item) (.list items)
  | boxed {inner : GeneratedType} {value : ReadValue} (held : Holds inner value) :
      Holds (.boxed inner) value
  | absent {inner : GeneratedType} : Holds (.optional inner) .absent
  | present {inner : GeneratedType} {value : ReadValue} (held : Holds inner value) :
      Holds (.optional inner) value

namespace Reader

variable {α : Type} {read : Reader α} {P : α → Prop} (each : ∀ value, Ensures (read value) P)
include each

theorem ensures_elements (index : Nat) (values : List Json) :
    Ensures (elements read index values) fun items => ∀ item ∈ items, P item := by
  induction values generalizing index with
  | nil => exact .ok nofun
  | cons value rest ih =>
    rw [elements]
    refine .bind fun head first => .bind fun tail later => .ok fun item inside => ?_
    rcases List.mem_cons.mp inside with rfl | inside
    · exact (each value).mapError _ first
    · exact ih (index + 1) tail later item inside

theorem ensures_list (value : Json) :
    Ensures (list read value) fun items => ∀ item ∈ items, P item := by
  unfold list
  split
  · exact ensures_elements each 0 _
  · exact .error

theorem ensures_nullable (value : Json) :
    Ensures (nullable read value) fun item => ∀ inner, item = some inner → P inner := by
  unfold nullable
  split
  · exact .ok nofun
  · refine .map fun item given inner same => ?_
    exact Option.some.inj same ▸ each _ item given

theorem ensures_required (members : List (String × Json)) (field : String) :
    Ensures (required members field read) P := by
  unfold required
  split
  · exact .error
  · exact (each _).mapError

theorem ensures_optional (members : List (String × Json)) (field : String) :
    Ensures (optional members field read) fun item => ∀ inner, item = some inner → P inner := by
  unfold optional
  split
  · exact .ok nofun
  · exact .ok nofun
  · refine Ensures.mapError (.map fun item given inner same => ?_)
    exact Option.some.inj same ▸ each _ item given

end Reader

theorem GeneratedType.Holds.getD {inner : GeneratedType} {item : Option ReadValue}
    (each : ∀ value, item = some value → inner.Holds value) :
    (optional inner).Holds (item.getD .absent) := by
  cases item with
  | none => exact .absent
  | some value => exact .present (each value rfl)

/-- Plain readers read what their signatures say. -/
theorem Signature.ensures_read {reader : PlainReader} {type : GeneratedType}
    (signature : Signature (.plain reader) .value type) (value : Json) :
    Ensures (reader.read value) type.Holds := by
  cases signature <;> exact .map fun _ _ => by constructor

section Reading

variable {structs : String → Reader ReadValue}
  (formed : ∀ name value, Ensures (structs name value) (GeneratedType.struct name).Holds)
include formed

/-- What an expression reads is a value of each type that the expression reads. -/
theorem ReaderExpr.ensures_run {reader : ReaderExpr} {scope : List (String × ExprType)}
    {type : GeneratedType} (typed : HasType scope reader.expression (.reader type)) (value : Json) :
    Ensures (reader.run structs value) type.Holds := by
  induction reader generalizing scope type value with
  | plain reader =>
    cases typed with
    | library signature => exact signature.ensures_read value
  | array item ih =>
    obtain ⟨_, signature, given⟩ := typed.of_closure.of_call_library
    cases signature with
    | readArray =>
      have elements := ih given.of_pair.2
      exact .map fun items read => .vec (Reader.ensures_list elements value items read)
  | struct name =>
    cases typed
    exact formed name value
  | boxed inner ih =>
    cases typed.of_closure with
    | heap result =>
      cases result with
      | call callee given =>
        cases given with
        | var found =>
          -- The variable is the one of the closure itself, whatever is in scope outside.
          cases found
          exact fun read given => .boxed (ih callee value read given)

/-- What is read as a field is a value of the declared type. -/
theorem FieldRead.ensures_read {read : FieldRead} {property : String} {type : GeneratedType}
    (typed : HasType [("map", .members)] (read.expression property) (.result type))
    (members : List (String × Json)) :
    Ensures (read.presence.read members property (read.reader.run structs)) type.Holds := by
  unfold expression at typed
  unfold Presence.read
  -- The signature of the function that is called gives the type of what is read.
  cases shape : read.presence with
  | required =>
    rw [shape] at typed
    obtain ⟨_, signature, given⟩ := typed.of_call_library
    cases signature with
    | required =>
      have reads := ReaderExpr.ensures_run formed given.of_pair.2.of_pair.2
      exact Reader.ensures_required reads members property
  | requiredNullable =>
    rw [shape] at typed
    obtain ⟨_, signature, given⟩ := typed.of_call_library
    cases signature with
    | required =>
      obtain ⟨_, signature, inner⟩ := given.of_pair.2.of_pair.2.of_closure.of_call_library
      cases signature with
      | nullable =>
        have reads := ReaderExpr.ensures_run formed inner.of_pair.2
        have item := Reader.ensures_required (Reader.ensures_nullable reads) members property
        exact .map fun inner read => .getD (item inner read)
  | optional =>
    rw [shape] at typed
    obtain ⟨_, signature, given⟩ := typed.of_call_library
    cases signature with
    | optional =>
      have reads := ReaderExpr.ensures_run formed given.of_pair.2.of_pair.2
      have item := Reader.ensures_optional reads members property
      exact .map fun inner read => .getD (item inner read)

end Reading

namespace TypeMapper

variable {mapper : TypeMapper} {doc : Document} {id : Nsid} {definition : Definition}
  {object : ObjectType} {key : Option String}

theorem ensures_structStep {ask : Nsid → Reader ReadValue} (name : String) (value : Json) :
    Ensures (mapper.structStep ask doc id definition value) (GeneratedType.struct name).Holds := by
  unfold structStep
  split
  · exact .error
  · exact .bind fun members _ => .bind fun fields _ => .ok (.struct name fields)

theorem ensures_fromValue (name : String) (id : Nsid) (value : Json) :
    Ensures (mapper.fromValue id value) (GeneratedType.struct name).Holds := by
  rw [fromValue_eq, step]
  split
  · exact .error
  · exact ensures_structStep name value

theorem ensures_structNamed {ask : Nsid → Reader ReadValue}
    (formed : ∀ name id value, Ensures (ask id value) (GeneratedType.struct name).Holds)
    (scope : Option Nsid) (name : String) (value : Json) :
    Ensures (structNamed ask scope name value) (GeneratedType.struct name).Holds := by
  unfold structNamed
  split
  · split
    · exact formed name _ value
    · exact .error
  · exact .error

/-- What is read into a struct are its fields, in order, each with a value of the declared type. -/
theorem ensures_structReader (parts : SourceModule.structParts? definition = some (object, key))
    (value : Json) :
    Ensures (mapper.structReader doc id definition value) fun read =>
      ∃ values, read = .struct values ∧
        List.Forall₂ (fun (field : StructField) (entry : String × ReadValue) =>
          entry.1 = field.ident ∧ field.type.Holds entry.2)
          (Declaration.ofObject mapper doc id definition object key).fields values := by
  rw [structReader, structStep, parts]
  refine .bind fun members _ => .bind fun values read => .ok ⟨values, rfl, ?_⟩
  -- Fields are read one after the other, and each of them was typed with its declaration.
  have each := mapM_eq_ok_iff.mp read
  have typed : ∀ field ∈ (Declaration.ofObject mapper doc id definition object key).fields,
      HasType [("map", .members)] (field.read.expression field.property) (.result field.type) :=
    fun field inside => (Declaration.reads_of_mem_fields inside).2
  refine ((List.forall₂_and_left _ _).mpr ⟨typed, each⟩).imp fun field entry given => ?_
  obtain ⟨typed, named⟩ := given
  obtain ⟨item, found, rfl⟩ := map_eq_ok_iff.mp named
  exact ⟨rfl, FieldRead.ensures_read (fun name => ensures_structNamed ensures_fromValue _ name)
    typed members item found⟩

end TypeMapper

end Lexicon
