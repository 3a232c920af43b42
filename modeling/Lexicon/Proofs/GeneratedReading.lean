import Lexicon.Generation.SourceModule
import Lexicon.Proofs.Results

/-!
# Lexicon.Proofs.GeneratedReading

What the readers of generated structs do.

A generated struct is read from an object, field after field, with the
expressions that its declaration spells. A struct that an expression names is
read in the same way, and a box is what is inside it. Structs may lead back to
themselves, but never at the same value, so reading is defined by recursion on
the value.

## Main definitions

- `ReaderExpr.run`: what an expression reads.
- `TypeMapper.structReader`, `TypeMapper.fromValue`: what a struct reads.

## Main result

`TypeMapper.fromValue_eq`: a struct reads its fields with the readers of the
structs that they name.
-/

namespace Lexicon

/-! ### Expressions -/

/-- What an expression reads, when the structs are read by name. -/
def ReaderExpr.run (structs : String → Reader ReadValue) : ReaderExpr → Reader ReadValue
  | .plain reader => reader.read
  | .array item => fun value => (Reader.list (item.run structs) value).map .list
  | .struct name => structs name
  | .boxed inner => inner.run structs

/-- The struct that a mapping names, inside lists or not. -/
def Mapping.core? : Mapping → Option Nsid
  | plain _ => none
  | list item => item.core?
  | struct id _ => some id

/-! ### Readers that agree -/

section Congruence

variable {α : Type} {read other : Reader α}

theorem Reader.elements_congr {values : List Json}
    (agree : ∀ value ∈ values, read value = other value) (index : Nat) :
    Reader.elements read index values = Reader.elements other index values := by
  -- The index only goes into the errors.
  induction values generalizing index with
  | nil => rfl
  | cons value rest ih =>
    rw [Reader.elements, Reader.elements, agree value List.mem_cons_self,
      ih fun later inside => agree later (List.mem_cons_of_mem _ inside)]

/-- Only the elements of a value matter for reading a list. -/
theorem Reader.list_congr {value : Json}
    (agree : ∀ element, sizeOf element < sizeOf value → read element = other element) :
    Reader.list read value = Reader.list other value := by
  cases value with
  | arr values =>
    exact Reader.elements_congr
      (fun element inside => agree element (Json.sizeOf_lt_of_mem_elements inside)) 0
  | _ => rfl

/-- Only the structs that are read at the value or inside it matter for an expression. -/
theorem ReaderExpr.run_congr {structs others : String → Reader ReadValue} {value : Json}
    (agree : ∀ name child, sizeOf child ≤ sizeOf value → structs name child = others name child)
    (expr : ReaderExpr) : expr.run structs value = expr.run others value := by
  induction expr generalizing value with
  | plain reader => rfl
  | array item ih =>
    -- The elements are smaller than the value, and what is inside them is smaller still.
    have same := Reader.list_congr fun element smaller =>
      ih fun name child inside => agree name child (Nat.le_trans inside (Nat.le_of_lt smaller))
    simp only [run, same]
  | struct name => exact agree name value (Nat.le_refl _)
  | boxed inner ih => exact ih agree

theorem Presence.read_congr {members : List (String × Json)} {field : String}
    {read other : Reader ReadValue}
    (agree : ∀ value, members.lookup field = some value → read value = other value)
    (presence : Presence) :
    presence.read members field read = presence.read members field other := by
  cases found : members.lookup field with
  | none => cases presence <;> simp only [Presence.read, Reader.required, Reader.optional, found]
  | some value =>
    have same := agree value found
    cases presence with
    | required => simp only [Presence.read, Reader.required, found, same]
    | requiredNullable =>
      simp only [Presence.read, Reader.required, found]
      cases value <;> simp only [Reader.nullable, same]
    | optional => cases value <;> simp only [Presence.read, Reader.optional, found, same]

end Congruence

/-! ### Structs -/

namespace TypeMapper

variable (mapper : TypeMapper)

/-- The struct of a name where one struct is in scope. -/
def structNamed (ask : Nsid → Reader ReadValue) (scope : Option Nsid) (name : String) :
    Reader ReadValue :=
  match scope with
  | some id => if Layout.typeName id = name then ask id else fun _ => Reader.fail .missing
  | none => fun _ => Reader.fail .missing

/-- Reads a field from the members of an object, where `ask` reads structs. -/
def readField (ask : Nsid → Reader ReadValue) (doc : Document) (object : ObjectType)
    (members : List (String × Json)) (field : StructField) : Except ReadError ReadValue :=
  let named := (object.property? field.property).bind fun node => (mapper.map node doc).core?
  field.read.presence.read members field.property (field.read.reader.run (structNamed ask named))

/-- Reads fields one after the other, up to the first error. -/
def readFields (ask : Nsid → Reader ReadValue) (doc : Document) (object : ObjectType)
    (fields : List StructField) (members : List (String × Json)) :
    Except ReadError (List (String × ReadValue)) :=
  fields.mapM fun field =>
    (mapper.readField ask doc object members field).map fun value => (field.ident, value)

/-- Reads the struct that is generated for a definition under an identifier. -/
def structStep (ask : Nsid → Reader ReadValue) (doc : Document) (id : Nsid)
    (definition : Definition) : Reader ReadValue := fun value =>
  match SourceModule.structParts? definition with
  | none => Reader.fail .missing
  | some (object, key) => do
    let members ← Reader.object value
    let fields := (Declaration.ofObject mapper doc id definition object key).fields
    return .struct (← mapper.readFields ask doc object fields members)

/-- Reads the struct of an identifier. -/
def step (ask : Nsid → Reader ReadValue) (id : Nsid) : Reader ReadValue := fun value =>
  match mapper.registry.bind (·.resolve? id) with
  | none => Reader.fail .missing
  | some (doc, definition) => mapper.structStep ask doc id definition value

/-- The reader of the struct of an identifier. -/
noncomputable def fromValue (id : Nsid) (value : Json) : Except ReadError ReadValue :=
  -- Fields hold smaller values, so the other case never comes up.
  mapper.step (fun other child =>
    if sizeOf child < sizeOf value then fromValue other child else Reader.fail .missing) id value
termination_by sizeOf value

/-- The reader of the struct that is generated for a definition under an identifier. -/
noncomputable def structReader (doc : Document) (id : Nsid) (definition : Definition) :
    Reader ReadValue :=
  mapper.structStep mapper.fromValue doc id definition

theorem structNamed_congr {ask other : Nsid → Reader ReadValue} {value : Json}
    (agree : ∀ id, ask id value = other id value) (scope : Option Nsid) (name : String) :
    structNamed ask scope name value = structNamed other scope name value := by
  unfold structNamed
  split
  · split
    · exact agree _
    · rfl
  · rfl

/-- Only the structs that are read inside a value matter for reading a struct from it. -/
theorem structStep_congr {ask other : Nsid → Reader ReadValue} {value : Json}
    (agree : ∀ id child, sizeOf child < sizeOf value → ask id child = other id child)
    (doc : Document) (id : Nsid) (definition : Definition) :
    mapper.structStep ask doc id definition value =
      mapper.structStep other doc id definition value := by
  unfold structStep
  split
  · rfl
  · cases value with
    | obj members =>
      -- A field is read from a member, and a member is smaller than the object.
      have each (object : ObjectType) (field : StructField) :
          mapper.readField ask doc object members field =
            mapper.readField other doc object members field := by
        refine Presence.read_congr (fun value found => ReaderExpr.run_congr ?_ _) _
        intro name child inside
        refine structNamed_congr (fun id => agree id child ?_) _ name
        exact Nat.lt_of_le_of_lt inside (Json.sizeOf_lt_of_lookup found)
      simp only [Reader.object, ok_bind, readFields, each]
    | _ => simp only [Reader.object, Reader.wrongKind, error_bind]

theorem step_congr {ask other : Nsid → Reader ReadValue} {value : Json}
    (agree : ∀ id child, sizeOf child < sizeOf value → ask id child = other id child) (id : Nsid) :
    mapper.step ask id value = mapper.step other id value := by
  unfold step
  cases mapper.registry.bind (·.resolve? id) with
  | none => rfl
  | some found => exact mapper.structStep_congr agree found.1 id found.2

/-- A struct reads its fields with the readers of the structs that they name. -/
theorem fromValue_eq (id : Nsid) (value : Json) :
    mapper.fromValue id value = mapper.step mapper.fromValue id value := by
  -- The recursion asks for smaller values only, so the bound on the size can be dropped.
  rw [fromValue]
  refine mapper.step_congr (fun other child smaller => ?_) id
  rw [if_pos smaller]

/-- The reader of an identifier is that of its definition. -/
theorem fromValue_of_resolve {registry : Registry} (known : mapper.registry = some registry)
    {id : Nsid} {doc : Document} {definition : Definition}
    (resolved : registry.resolve? id = some (doc, definition)) :
    mapper.fromValue id = mapper.structReader doc id definition := by
  funext value
  rw [fromValue_eq, step, known, Option.bind_some, resolved]
  rfl

end TypeMapper

end Lexicon
