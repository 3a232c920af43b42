import Lexicon.Proofs.Conformance
import Lexicon.Proofs.Walk
import Lexicon.Proofs.WrittenKeys

/-!
# Lexicon.Proofs.LeafVerdicts

The verdicts of leaves agree with conformance.

A verdict lists the constraints that fail. That none does is the same as all
constraints holding at once, and that the form is right is the same as the
value having one of the forms of the type.

## Main results

- `BooleanType.failures_eq_nil`, `IntegerType.failures_eq_nil`,
  `StringType.failures_eq_nil`, `BlobType.failures_eq_nil`: no constraint fails
  exactly if all hold.
- `Verdict.passes_ofNode_iff`: a leaf has nothing against a value exactly if the
  value conforms to it.
-/

namespace Lexicon

/-! ### Lists of causes -/

@[simp] theorem failing_eq_nil {bad : Bool} {cause : Cause} :
    failing bad cause = [] ↔ bad = false := by
  cases bad <;> simp [failing]

@[simp] theorem against_eq_nil {α : Type} {constraint : Option α} {check : α → List Cause} :
    against constraint check = [] ↔ ∀ a, constraint = some a → check a = [] := by
  cases constraint <;> simp [against]

theorem BooleanType.failures_eq_nil {t : BooleanType} {b : Bool} :
    t.failures b = [] ↔ t.Admits b := by
  simp only [failures, against_eq_nil, failing_eq_nil, bne_eq_false_iff_eq]
  exact ⟨fun const => ⟨const⟩, fun admits => admits.const⟩

theorem IntegerType.failures_eq_nil {t : IntegerType} {n : Int} :
    t.failures n = [] ↔ t.Admits n := by
  simp only [failures, List.append_eq_nil_iff, against_eq_nil, failing_eq_nil,
    bne_eq_false_iff_eq, Bool.not_eq_false', List.contains_iff_mem, List.mem_map,
    decide_eq_false_iff_not, Int.not_lt]
  constructor
  · rintro ⟨⟨⟨const, enum⟩, minimum⟩, maximum⟩
    refine ⟨const, fun allowed given => ?_, minimum, maximum⟩
    obtain ⟨a, inside, same⟩ := enum allowed given
    exact ⟨a, inside, same.symm⟩
  · rintro ⟨const, enum, minimum, maximum⟩
    refine ⟨⟨⟨const, fun allowed given => ?_⟩, minimum⟩, maximum⟩
    obtain ⟨a, inside, same⟩ := enum allowed given
    exact ⟨a, inside, same.symm⟩

/-- A known format decides about every text, and a format of another dialect about none. -/
theorem StringFormat.admits?_ne_false_iff {f : StringFormat} {s : String} :
    f.admits? s ≠ some false ↔ (∀ name, f ≠ .other name) → f.admits? s = some true := by
  cases f <;> cases start : Text.hasStart "did:" s <;> simp [admits?, start]

theorem StringType.failures_eq_nil {t : StringType} {s : String} :
    t.failures s = [] ↔ t.Admits s := by
  simp only [failures, List.append_eq_nil_iff, against_eq_nil, failing_eq_nil,
    bne_eq_false_iff_eq, Bool.not_eq_false', List.contains_iff_mem, decide_eq_false_iff_not,
    Nat.not_lt, beq_eq_false_iff_ne, StringFormat.admits?_ne_false_iff]
  constructor
  · rintro ⟨⟨⟨⟨⟨⟨const, enum⟩, shortest⟩, longest⟩, fewest⟩, most⟩, format⟩
    exact ⟨const, enum, ⟨shortest, longest⟩, ⟨fewest, most⟩, format⟩
  · rintro ⟨const, enum, ⟨shortest, longest⟩, ⟨fewest, most⟩, format⟩
    exact ⟨⟨⟨⟨⟨⟨const, enum⟩, shortest⟩, longest⟩, fewest⟩, most⟩, format⟩

theorem BytesType.failures_eq_nil {t : BytesType} {length : Nat} :
    t.failures length = [] ↔ Within t.minLength t.maxLength length := by
  simp only [failures, List.append_eq_nil_iff, against_eq_nil, failing_eq_nil,
    decide_eq_false_iff_not, Nat.not_lt]
  exact ⟨fun ⟨least, greatest⟩ => ⟨least, greatest⟩,
    fun within => ⟨within.least, within.greatest⟩⟩

theorem ArrayShape.failures_eq_nil {node : Type} {t : ArrayShape node} {count : Nat} :
    t.failures count = [] ↔ Within t.minLength t.maxLength count := by
  simp only [failures, List.append_eq_nil_iff, against_eq_nil, failing_eq_nil,
    decide_eq_false_iff_not, Nat.not_lt]
  exact ⟨fun ⟨least, greatest⟩ => ⟨least, greatest⟩,
    fun within => ⟨within.least, within.greatest⟩⟩

theorem BlobType.failures_eq_nil {t : BlobType} {mimeType : String} {size : Nat} :
    t.failures mimeType size = [] ↔ t.Admits mimeType size := by
  simp only [failures, List.append_eq_nil_iff, against_eq_nil, failing_eq_nil,
    Bool.not_eq_false', List.any_eq_true, decide_eq_false_iff_not, Nat.not_lt]
  exact ⟨fun ⟨accept, maxSize⟩ => ⟨accept, maxSize⟩,
    fun admits => ⟨admits.accept, admits.maxSize⟩⟩

/-! ### Forms -/

theorem Json.asString?_eq_some {value : Json} {s : String} :
    value.asString? = some s ↔ value = .str s := by
  cases value <;> simp [asString?]

theorem Json.bind_asString?_eq_some {found : Option Json} {s : String} :
    found.bind asString? = some s ↔ found = some (.str s) := by
  cases found <;> simp [asString?_eq_some]

theorem Json.asUInt64?_eq_some {value : Json} {n : UInt64} :
    value.asUInt64? = some n ↔ value = .int n.toNat := by
  cases value with
  | int m =>
    simp only [asUInt64?, int.injEq]
    constructor
    · intro fits
      split at fits
      · next bounds =>
        cases fits
        -- The word is the integer itself, since it is neither negative nor too large.
        rw [UInt64.toNat_ofNat_of_lt' bounds.2, Int.toNat_of_nonneg bounds.1]
      · cases fits
    · rintro rfl
      exact asUInt64?_jsonOfUInt64 n
  | _ => simp [asUInt64?]

theorem BytesType.encoded_eq_ok_iff {value : Json} {s : String} :
    encoded value = .ok s ↔ Encodes value s := by
  constructor
  · intro h
    cases value with
    | str text => cases h; exact .text s
    | obj members =>
      simp only [encoded] at h
      split at h
      · next text found => cases h; exact .member (Json.bind_asString?_eq_some.mp found)
      · cases h
    | _ => cases h
  · intro encodes
    cases encodes with
    | text s => rfl
    | member tagged => simp only [encoded, Json.bind_asString?_eq_some.mpr tagged]

theorem CidLinkType.verdict_eq_formed_iff {value : Json} {causes : List Cause} :
    verdict value = .formed causes ↔ causes = [] ∧ Links value := by
  constructor
  · intro h
    cases value with
    | obj members =>
      simp only [verdict] at h
      split at h
      · cases h
      · next link found =>
        split at h
        · next valid => cases h; exact ⟨rfl, .intro (Json.bind_asString?_eq_some.mp found) valid⟩
        · cases h
    | _ => cases h
  · rintro ⟨rfl, tagged, valid⟩
    simp only [verdict, Json.bind_asString?_eq_some.mpr tagged, if_pos valid]

theorem BlobType.isLink_iff {value : Json} : isLink value = true ↔ CidLinkType.Links value := by
  constructor
  · intro h
    cases value with
    | obj members =>
      simp only [isLink, Json.get?] at h
      split at h
      · next link found => exact .intro (Json.bind_asString?_eq_some.mp found) h
      · cases h
    | _ => simp [isLink, Json.get?] at h
  · rintro ⟨tagged, valid⟩
    simp only [isLink, Json.get?, Json.bind_asString?_eq_some.mpr tagged, valid]

theorem BlobType.parts_eq_ok_iff {value : Json} {mimeType : String} {size : Nat} :
    parts value = .ok (mimeType, size) ↔
      ∃ members, value = .obj members ∧ Describes members mimeType size := by
  constructor
  · intro h
    cases value with
    | obj members =>
      -- The parts are checked one after the other; each check that passes gives one condition.
      simp only [parts] at h
      split at h
      · cases h
      next tag =>
      split at h
      · cases h
      next reference =>
      split at h
      · cases h
      next media found =>
      split at h
      · cases h
      next number counted =>
      cases h
      simp only [ne_eq, Classical.not_not, Json.bind_asString?_eq_some] at tag
      simp only [Bool.not_eq_true', Bool.not_eq_false, Option.any_eq_true, isLink_iff]
        at reference
      simp only [Option.bind_eq_some_iff, Json.asUInt64?_eq_some] at counted
      obtain ⟨_, counted, rfl⟩ := counted
      exact ⟨members, rfl, tag, reference, Json.bind_asString?_eq_some.mp found, counted,
        number.toNat_lt_size⟩
    | _ => cases h
  · rintro ⟨members, rfl, tag, reference, media, counted, bound⟩
    obtain ⟨link, found, links⟩ := reference
    have linked : isLink link = true := isLink_iff.mpr links
    have number : (members.lookup "size").bind Json.asUInt64? = some (UInt64.ofNat size) := by
      rw [counted, Option.bind_some, Json.asUInt64?_natCast bound]
    simp only [parts, Json.bind_asString?_eq_some.mpr tag, Json.bind_asString?_eq_some.mpr media,
      found, Option.any_some, linked, number]
    simp only [ne_eq, not_true_eq_false, if_false, Bool.not_true, Bool.false_eq_true,
      UInt64.toNat_ofNat_of_lt' bound]

/-! ### Verdicts -/

/-- A field type that is held to values by its verdict alone. -/
def TypeNode.IsLeaf : TypeNode → Prop
  | .array _ | .object _ | .ref _ | .union _ => False
  | _ => True

/-- No constraint is reported if constraints are not checked or none fails. -/
theorem Validator.reported_eq_nil_iff {options : ValidationOptions} {causes : List Cause} :
    reported options causes = [] ↔ (options.mode ≠ .lenient → causes = []) := by
  by_cases lenient : options.mode = .lenient
  · simp [reported, ValidationMode.checksConstraints, lenient]
  -- Without accumulation only the first cause is kept, and there is none exactly if there is no
  -- first one.
  · cases causes <;> cases chosen : options.accumulate <;>
      simp [reported, ValidationMode.checksConstraints, lenient, chosen]

namespace Verdict

/-- Nothing in a verdict counts against a value: its form is right and, where constraints are
checked, none fails. -/
def Passes (mode : ValidationMode) (verdict : Verdict) : Prop :=
  ∃ causes, verdict = .formed causes ∧ (mode ≠ .lenient → causes = [])

@[simp] theorem passes_formed_iff {mode : ValidationMode} {causes : List Cause} :
    (formed causes).Passes mode ↔ (mode ≠ .lenient → causes = []) := by
  simp [Passes]

@[simp] theorem not_passes_malformed {mode : ValidationMode} {cause : Cause} :
    ¬(malformed cause).Passes mode := by
  simp [Passes]

theorem passes_formed_iff_of {mode : ValidationMode} {causes : List Cause} {admits : Prop}
    (agree : causes = [] ↔ admits) :
    (formed causes).Passes mode ↔ (mode ≠ .lenient → admits) := by
  rw [passes_formed_iff, agree]

theorem ofVerdict_eq_nil_iff {options : ValidationOptions} {node : TypeNode}
    {verdict : Verdict} :
    Validator.ofVerdict options node verdict = [] ↔ verdict.Passes options.mode := by
  cases verdict with
  | malformed cause => simp [Validator.ofVerdict]
  | formed causes =>
    simp only [Validator.ofVerdict, List.map_eq_nil_iff, passes_formed_iff]
    exact Validator.reported_eq_nil_iff

theorem passes_bytes_iff {mode : ValidationMode} {t : BytesType} {value : Json} :
    (t.verdict value).Passes mode ↔ ∃ s decoded, BytesType.Encodes value s ∧
      Base64.decode s = .ok decoded ∧
      (mode ≠ .lenient → Within t.minLength t.maxLength decoded.length) := by
  constructor
  · intro passes
    simp only [BytesType.verdict] at passes
    split at passes
    · exact absurd passes not_passes_malformed
    · next s encoded =>
      split at passes
      · exact absurd passes not_passes_malformed
      · next decoded decodes =>
        exact ⟨s, decoded, BytesType.encoded_eq_ok_iff.mp encoded, decodes,
          (passes_formed_iff_of BytesType.failures_eq_nil).mp passes⟩
  · rintro ⟨s, decoded, encodes, decodes, admitted⟩
    rw [BytesType.verdict, BytesType.encoded_eq_ok_iff.mpr encodes]
    simp only [decodes]
    exact (passes_formed_iff_of BytesType.failures_eq_nil).mpr admitted

theorem passes_cidLink_iff {mode : ValidationMode} {value : Json} :
    (CidLinkType.verdict value).Passes mode ↔ CidLinkType.Links value := by
  simp only [Passes, CidLinkType.verdict_eq_formed_iff]
  constructor
  · rintro ⟨_, ⟨_, links⟩, _⟩
    exact links
  · intro links
    exact ⟨[], ⟨rfl, links⟩, fun _ => rfl⟩

theorem passes_blob_iff {mode : ValidationMode} {t : BlobType} {value : Json} :
    (t.verdict value).Passes mode ↔ ∃ members mimeType size, value = .obj members ∧
      BlobType.Describes members mimeType size ∧ (mode ≠ .lenient → t.Admits mimeType size) := by
  constructor
  · intro passes
    simp only [BlobType.verdict] at passes
    split at passes
    · exact absurd passes not_passes_malformed
    · next mimeType size parts =>
      obtain ⟨members, rfl, describes⟩ := BlobType.parts_eq_ok_iff.mp parts
      exact ⟨members, mimeType, size, rfl, describes,
        (passes_formed_iff_of BlobType.failures_eq_nil).mp passes⟩
  · rintro ⟨members, mimeType, size, rfl, describes, admitted⟩
    rw [BlobType.verdict, BlobType.parts_eq_ok_iff.mpr ⟨members, rfl, describes⟩]
    exact (passes_formed_iff_of BlobType.failures_eq_nil).mpr admitted

/-- A leaf has nothing against a value exactly if the value conforms to it. -/
theorem passes_ofNode_iff {mode : ValidationMode} {registry : Option Registry} {hops : Nat}
    {scope : Option Document} {node : TypeNode} {value : Json} (leaf : node.IsLeaf) :
    (ofNode node value).Passes mode ↔ Conforms mode registry hops scope node value := by
  cases node with
  | null t =>
    constructor
    · intro passes
      cases value with
      | null => exact .null t
      | _ => exact absurd passes not_passes_malformed
    · intro conforms
      cases conforms with
      | null => exact passes_formed_iff.mpr fun _ => rfl
  | boolean t =>
    constructor
    · intro passes
      cases value with
      | bool b => exact .boolean ((passes_formed_iff_of BooleanType.failures_eq_nil).mp passes)
      | _ => exact absurd passes not_passes_malformed
    · intro conforms
      cases conforms with
      | boolean admitted => exact (passes_formed_iff_of BooleanType.failures_eq_nil).mpr admitted
  | integer t =>
    constructor
    · intro passes
      cases value with
      | int n => exact .integer ((passes_formed_iff_of IntegerType.failures_eq_nil).mp passes)
      | _ => exact absurd passes not_passes_malformed
    · intro conforms
      cases conforms with
      | integer admitted => exact (passes_formed_iff_of IntegerType.failures_eq_nil).mpr admitted
  | string t =>
    constructor
    · intro passes
      cases value with
      | str s => exact .string ((passes_formed_iff_of StringType.failures_eq_nil).mp passes)
      | _ => exact absurd passes not_passes_malformed
    · intro conforms
      cases conforms with
      | string admitted => exact (passes_formed_iff_of StringType.failures_eq_nil).mpr admitted
  | bytes t =>
    refine passes_bytes_iff.trans ⟨?_, ?_⟩
    · rintro ⟨s, decoded, encodes, decodes, admitted⟩
      exact .bytes encodes decodes admitted
    · intro conforms
      cases conforms with
      | bytes encodes decodes admitted => exact ⟨_, _, encodes, decodes, admitted⟩
  | cidLink t =>
    refine passes_cidLink_iff.trans ⟨fun links => .cidLink t links, fun conforms => ?_⟩
    cases conforms with
    | cidLink _ links => exact links
  | blob t =>
    refine passes_blob_iff.trans ⟨?_, ?_⟩
    · rintro ⟨members, mimeType, size, rfl, describes, admitted⟩
      exact .blob describes admitted
    · intro conforms
      cases conforms with
      | blob describes admitted => exact ⟨_, _, _, rfl, describes, admitted⟩
  | unknown t => exact ⟨fun _ => .unknown t value, fun _ => passes_formed_iff.mpr fun _ => rfl⟩
  | array t => exact leaf.elim
  | object t => exact leaf.elim
  | ref t => exact leaf.elim
  | union t => exact leaf.elim

end Verdict

end Lexicon
