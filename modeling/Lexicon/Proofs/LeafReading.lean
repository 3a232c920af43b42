import Lexicon.Proofs.ValidatedReading

/-!
# Lexicon.Proofs.LeafReading

What the validator admits at leaves is read by generated code.

The validator and the readers of generated code decode leaves independently of
each other. They agree but for one thing: an integer of a schema may be any
integer of JSON, up to the unsigned 64-bit words, while its generated type is a
signed word.

## Main definition

- `TypeNode.Overflows`: an integer does not fit the type that is generated for its node.

## Main result

`TypeMapper.leaf_read_iff_of_valid`: a value without violations is read exactly
if it does not overflow.
-/

namespace Lexicon

/-- An integer that does not fit the signed 64-bit word that an integer node is generated as. -/
inductive TypeNode.Overflows : TypeNode → Json → Prop where
  | intro (t : IntegerType) {n : Int}
      (outside : n < Int64.minValue.toInt ∨ Int64.maxValue.toInt < n) :
      Overflows (.integer t) (.int n)

namespace Reader

/-- An integer is read exactly if it fits a signed word. -/
theorem integer_succeeds_iff {n : Int} :
    Succeeds (integer (.int n)) ↔ Int64.minValue.toInt ≤ n ∧ n ≤ Int64.maxValue.toInt := by
  constructor
  · rintro ⟨word, read⟩
    by_contra outside
    simp only [integer, Json.asInt64?, if_neg outside] at read
    cases read
  · rintro ⟨low, high⟩
    exact integer_succeeds (.int low high)

end Reader

namespace TypeMapper

variable {mapper : TypeMapper} {doc : Document} {node : TypeNode} {value : Json}

/-- What conforms to a leaf is read by its reader, unless it is an integer that overflows. -/
theorem leaf_read_iff_of_conforms {mode : ValidationMode} {registry : Option Registry} {hops : Nat}
    {scope : Option Document} (leaf : node.IsLeaf) (checked : mode ≠ .lenient)
    (conforms : Conforms mode registry hops scope node value)
    (structs : String → Reader ReadValue) :
    Succeeds ((mapper.map node doc).reader.run structs value) ↔ ¬node.Overflows value := by
  -- Everything but an integer is read, and does not overflow.
  have reads (given : Succeeds ((mapper.map node doc).reader.run structs value))
      (noInteger : ¬node.Overflows value) :
      Succeeds ((mapper.map node doc).reader.run structs value) ↔ ¬node.Overflows value :=
    iff_of_true given noInteger
  cases conforms with
  | null t => exact reads ⟨.unit, rfl⟩ (by rintro ⟨⟩)
  | boolean admitted => exact reads ⟨.bool _, rfl⟩ (by rintro ⟨⟩)
  | @integer _ _ t n admitted =>
    constructor
    · rintro ⟨read, given⟩ ⟨_, outside⟩
      obtain ⟨word, taken, _⟩ := map_eq_ok_iff.mp given
      have fits := Reader.integer_succeeds_iff.mp ⟨word, taken⟩
      omega
    · intro fits
      have read : Succeeds (Reader.integer (.int n)) := by
        rw [Reader.integer_succeeds_iff]
        by_contra outside
        exact fits (.intro t (by omega))
      exact read.map _
  | @string _ _ t s admitted =>
    refine reads ?_ (by rintro ⟨⟩)
    simp only [map, mapWith]
    split
    · next format =>
      have timestamp := (admitted checked).format .datetime format (by rintro name ⟨⟩)
      exact (Reader.datetime_succeeds timestamp).map _
    · exact ⟨.string s, rfl⟩
  | bytes encodes decodes admitted =>
    exact reads ((Reader.bytes_succeeds encodes decodes).map _) (by rintro ⟨⟩)
  | cidLink t links => exact reads ((Reader.cidLink_succeeds links).map _) (by rintro ⟨⟩)
  | blob describes admitted => exact reads ((Reader.blob_succeeds describes).map _) (by rintro ⟨⟩)
  | unknown t value => exact reads ⟨.json _, rfl⟩ (by rintro ⟨⟩)
  | array | object | reference | unanswerable | member | dangling | unlisted => exact leaf.elim

/-- A value without violations of a leaf is read by the reader that is generated for the leaf,
unless it is an integer that overflows. -/
theorem leaf_read_iff_of_valid {v : Validator} (checked : v.options.mode ≠ .lenient)
    (leaf : node.IsLeaf) (valid : v.validate value node = [])
    (structs : String → Reader ReadValue) :
    Succeeds ((mapper.map node doc).reader.run structs value) ↔ ¬node.Overflows value := by
  rw [Validator.validate, Validator.validateAt_eq_report] at valid
  have passed : v.check none node value = [] := List.map_eq_nil_iff.mp valid
  exact leaf_read_iff_of_conforms leaf checked
    ((Validator.check_eq_nil_iff_conforms v none node value).mp passed) structs

/-- A string that has to be a timestamp. -/
def datetimeNode : TypeNode :=
  .string ⟨none, some .datetime, none, none, none, none, none, none, none, none⟩

theorem datetimeNode_read :
    ({ options := {}, registry := none } : Validator).validate (.str "2024-05-06T07:08:09Z")
        datetimeNode = [] ∧
      Succeeds ((postMapper.map datetimeNode Document.postDocument).reader.run
        (TypeMapper.structNamed postMapper.fromValue none) (.str "2024-05-06T07:08:09Z")) := by
  have valid : ({ options := {}, registry := none } : Validator).validate
      (.str "2024-05-06T07:08:09Z") datetimeNode = [] := by decide +kernel
  have leaf : datetimeNode.IsLeaf := trivial
  exact ⟨valid, (leaf_read_iff_of_valid (by decide) leaf valid _).mpr nofun⟩

/-- The validator admits an unsigned word that the reader of the same node refuses. -/
theorem integerNode_refused :
    ({ options := {}, registry := none } : Validator).validate (.int 9223372036854775808)
        (.integer ⟨none, none, none, none, none, none⟩) = [] ∧
      ∀ structs, (postMapper.map (.integer ⟨none, none, none, none, none, none⟩)
          Document.postDocument).reader.run structs (.int 9223372036854775808) =
        .error (.here (.wrongKind "integer" .integer)) :=
  ⟨by decide +kernel, fun _ => rfl⟩

end TypeMapper

end Lexicon
