import Lexicon.Proofs.References
import Lexicon.Schema.Union
import Lexicon.Validation.Leaf
import Lexicon.Validation.Options

/-!
# Lexicon.Proofs.Conformance

When a value conforms to a field type.

Conformance is a relation between values and field types. It knows no errors,
no order in which things are looked at and nothing that is given up halfway:
all constraints of a type hold of the value at once. References are followed
inside the relation, and its first index says how many more of them may be
followed at the same value; the children of a value start afresh.

## Main definitions

- `BooleanType.Admits`, `IntegerType.Admits`, `StringType.Admits`,
  `BlobType.Admits`, `Within`: the constraints of the leaves.
- `BytesType.Encodes`, `CidLinkType.Links`, `BlobType.Describes`: the forms
  that values of these types have.
- `Conforms`: the relation.
-/

namespace Lexicon

/-! ### Constraints -/

/-- A number lies within optional bounds, both included. -/
structure Within (minimum maximum : Option UInt64) (count : Nat) : Prop where
  least : ∀ bound, minimum = some bound → bound.toNat ≤ count
  greatest : ∀ bound, maximum = some bound → count ≤ bound.toNat

/-- A truth value is the constant, if there is one. -/
structure BooleanType.Admits (t : BooleanType) (b : Bool) : Prop where
  const : ∀ c, t.const = some c → b = c

/-- An integer satisfies all constraints that there are. -/
structure IntegerType.Admits (t : IntegerType) (n : Int) : Prop where
  const : ∀ c, t.const = some c → n = c.toInt
  enum : ∀ allowed, t.enum = some allowed → ∃ a ∈ allowed, n = a.toInt
  minimum : ∀ bound, t.minimum = some bound → bound.toInt ≤ n
  maximum : ∀ bound, t.maximum = some bound → n ≤ bound.toInt

/-- A text satisfies all constraints that there are. A format of another dialect is none. -/
structure StringType.Admits (t : StringType) (s : String) : Prop where
  const : ∀ c, t.const = some c → s = c
  enum : ∀ allowed, t.enum = some allowed → s ∈ allowed
  length : Within t.minLength t.maxLength s.utf8ByteSize
  graphemes : Within t.minGraphemes t.maxGraphemes (Unicode.graphemeCount s)
  format : ∀ f, t.format = some f → (∀ name, f ≠ .other name) → f.admits? s = some true

/-- The media type is accepted, and the size is not too large. -/
structure BlobType.Admits (t : BlobType) (mimeType : String) (size : Nat) : Prop where
  accept : ∀ patterns, t.accept = some patterns →
    ∃ pattern ∈ patterns, mimeTypeFits pattern mimeType
  maxSize : ∀ bound, t.maxSize = some bound → size ≤ bound.toNat

/-! ### Forms -/

/-- A value holds encoded bytes: it is their text, or an object with the text under `$bytes`. -/
inductive BytesType.Encodes : Json → String → Prop where
  | text (s : String) : Encodes (.str s) s
  | member {members : List (String × Json)} {s : String}
      (tagged : members.lookup "$bytes" = some (.str s)) : Encodes (.obj members) s

/-- A value links to content: an object with a content identifier under `$link`. -/
inductive CidLinkType.Links : Json → Prop where
  | intro {members : List (String × Json)} {cid : String}
      (tagged : members.lookup "$link" = some (.str cid)) (valid : Format.isCid cid) :
      Links (.obj members)

/-- The members of an object describe a blob of the media type and size. -/
structure BlobType.Describes (members : List (String × Json)) (mimeType : String) (size : Nat) :
    Prop where
  tag : members.lookup "$type" = some (.str "blob")
  reference : ∃ link, members.lookup "ref" = some link ∧ CidLinkType.Links link
  mimeType : members.lookup "mimeType" = some (.str mimeType)
  size : members.lookup "size" = some (.int size) ∧ size < UInt64.size

/-! ### Unions -/

namespace UnionResolver

/-- A member is the first of the references of a union that has the normal form of the
discriminator. Members that differ in writing only have one normal form. -/
def Selects (resolver : UnionResolver) (refs : List String) (discriminator member : String) :
    Prop :=
  ∃ before after, refs = before ++ member :: after ∧
    resolver.normalize member = resolver.normalize discriminator ∧
    ∀ other ∈ before, resolver.normalize other ≠ resolver.normalize discriminator

/-- A union has no member of the normal form of the discriminator. -/
def Omits (resolver : UnionResolver) (refs : List String) (discriminator : String) : Prop :=
  ∀ member ∈ refs, resolver.normalize member ≠ resolver.normalize discriminator

theorem member?_eq_some_iff {resolver : UnionResolver} {union : UnionType}
    {discriminator member : String} :
    resolver.member? union discriminator = some member ↔
      resolver.Selects union.refs discriminator member := by
  simp only [member?, List.find?_eq_some_iff_append, decide_eq_true_eq, Bool.not_eq_true',
    decide_eq_false_iff_not, Selects]
  constructor
  · rintro ⟨same, before, after, split, others⟩
    exact ⟨before, after, split, same, others⟩
  · rintro ⟨before, after, split, same, others⟩
    exact ⟨same, before, after, split, others⟩

theorem member?_eq_none_iff {resolver : UnionResolver} {union : UnionType}
    {discriminator : String} :
    resolver.member? union discriminator = none ↔
      resolver.Omits union.refs discriminator := by
  simp only [member?, List.find?_eq_none, decide_eq_true_eq, Omits, ne_eq]

end UnionResolver

/-! ### The relation -/

/-- A value conforms to a field type that stands in a scope, and at most `hops` references are
followed on the way to the type that the value itself has. -/
inductive Conforms (mode : ValidationMode) (registry : Option Registry) :
    (hops : Nat) → (scope : Option Document) → TypeNode → Json → Prop where
  | null {hops : Nat} {scope : Option Document} (t : NullType) :
      Conforms mode registry hops scope (.null t) .null
  | boolean {hops : Nat} {scope : Option Document} {t : BooleanType} {b : Bool}
      (admitted : mode ≠ .lenient → t.Admits b) :
      Conforms mode registry hops scope (.boolean t) (.bool b)
  | integer {hops : Nat} {scope : Option Document} {t : IntegerType} {n : Int}
      (admitted : mode ≠ .lenient → t.Admits n) :
      Conforms mode registry hops scope (.integer t) (.int n)
  | string {hops : Nat} {scope : Option Document} {t : StringType} {s : String}
      (admitted : mode ≠ .lenient → t.Admits s) :
      Conforms mode registry hops scope (.string t) (.str s)
  | bytes {hops : Nat} {scope : Option Document} {t : BytesType} {value : Json} {s : String}
      {decoded : List UInt8} (encodes : BytesType.Encodes value s)
      (decodes : Base64.decode s = .ok decoded)
      (admitted : mode ≠ .lenient → Within t.minLength t.maxLength decoded.length) :
      Conforms mode registry hops scope (.bytes t) value
  | cidLink {hops : Nat} {scope : Option Document} (t : CidLinkType) {value : Json}
      (links : CidLinkType.Links value) : Conforms mode registry hops scope (.cidLink t) value
  | blob {hops : Nat} {scope : Option Document} {t : BlobType} {members : List (String × Json)}
      {mimeType : String} {size : Nat} (describes : BlobType.Describes members mimeType size)
      (admitted : mode ≠ .lenient → t.Admits mimeType size) :
      Conforms mode registry hops scope (.blob t) (.obj members)
  | array {hops : Nat} {scope : Option Document} {t : ArrayType} {elements : List Json}
      (counted : mode ≠ .lenient → Within t.minLength t.maxLength elements.length)
      (each : ∀ items, t.items = some items → ∀ element ∈ elements,
        Conforms mode registry maxHops scope items element) :
      Conforms mode registry hops scope (.array t) (.arr elements)
  | object {hops : Nat} {scope : Option Document} {t : ObjectType}
      {members : List (String × Json)}
      (required : mode ≠ .lenient → ∀ field ∈ t.required,
        ∃ value, members.lookup field = some value)
      -- A `null` stands for a nullable field whatever the type of the field is.
      (declared : ∀ field node value, t.property? field = some node →
        members.lookup field = some value → ¬(value = .null ∧ field ∈ t.nullable) →
        Conforms mode registry maxHops scope node value)
      (closed : mode = .strict → ∀ field value, (field, value) ∈ members →
        field ≠ Union.typeKey → ∃ node, t.property? field = some node) :
      Conforms mode registry hops scope (.object t) (.obj members)
  | reference {hops : Nat} {scope : Option Document} {t : RefType} {doc : Document}
      {definition : Definition} {node : TypeNode} {value : Json}
      (resolves : Resolves registry scope t.target doc definition)
      (typed : definition.dataType? = some node)
      (target : Conforms mode registry hops (some doc) node value) :
      Conforms mode registry (hops + 1) scope (.ref t) value
  | unanswerable {hops : Nat} {scope : Option Document} {t : RefType} {value : Json}
      (nothing : Unanswerable registry scope t.target) :
      Conforms mode registry (hops + 1) scope (.ref t) value
  -- A malformed member resolves nowhere and dangles nowhere, so it is never conformed to.
  | member {hops : Nat} {scope : Option Document} {t : UnionType}
      {members : List (String × Json)} {discriminator member : String}
      (named : members.lookup Union.typeKey = some (.str discriminator))
      (selected : (UnionResolver.ofScope scope).Selects t.refs discriminator member)
      (target : Conforms mode registry hops scope (.ref ⟨none, member⟩) (.obj members)) :
      Conforms mode registry hops scope (.union t) (.obj members)
  | dangling {hops : Nat} {scope : Option Document} {t : UnionType}
      {members : List (String × Json)} {discriminator member : String}
      (opened : t.closed = false)
      (named : members.lookup Union.typeKey = some (.str discriminator))
      (selected : (UnionResolver.ofScope scope).Selects t.refs discriminator member)
      (dangles : Dangles registry scope member) :
      Conforms mode registry (hops + 1) scope (.union t) (.obj members)
  | unlisted {hops : Nat} {scope : Option Document} {t : UnionType}
      {members : List (String × Json)} {discriminator : String} (opened : t.closed = false)
      (named : members.lookup Union.typeKey = some (.str discriminator))
      (omitted : (UnionResolver.ofScope scope).Omits t.refs discriminator) :
      Conforms mode registry hops scope (.union t) (.obj members)
  | unknown {hops : Nat} {scope : Option Document} (t : UnknownType) (value : Json) :
      Conforms mode registry hops scope (.unknown t) value

end Lexicon
