import Lexicon.Proofs.Results
import Lexicon.Schema.Parser
import Lexicon.Schema.Printer

/-!
# Lexicon.Proofs.WrittenKeys

Reading the keys of a node from what was written for them.

A node is written as segments, one for each key, and a segment is left out when
its key has no value. So looking a key up comes down to its own segment
(`lookup_member` and its kin), and reading what was found there gives the value
that was written (`Fields.expect_map` and its kin). Both are simp lemmas, so
the keys of a node read back by `simp`.
-/

namespace Lexicon

/-! ### Looking keys up -/

namespace TypeNode

variable {α : Type} {key other tag : String}

@[simp] theorem member_none (write : α → Json) : member key write none = [] := rfl

@[simp] theorem lookup_member (write : α → Json) (value : Option α) :
    (member key write value).lookup other =
      if other = key then value.map write else none := by
  cases value with
  | none => simp [member]
  | some a =>
    -- A segment has one pair at most, and its key is the key of the segment.
    by_cases same : other = key
    · subst same
      simp [member]
    · rw [member, Entries.lookup_cons_of_ne same, if_neg same, List.lookup_nil]

@[simp] theorem lookup_header (description : Option String) :
    (header tag description).lookup other =
      if other = "type" then some (.str tag)
      else if other = "description" then description.map .str else none := by
  by_cases same : other = "type"
  · subst same
    rw [header, Entries.lookup_cons_self, if_pos rfl]
  · rw [header, Entries.lookup_cons_of_ne same, if_neg same, lookup_member]

/-! ### Segments -/

/-- A list as the value of a key that is left out when the list is empty. -/
def written? {α : Type} (values : List α) : Option (List α) :=
  if values.isEmpty then none else some values

@[simp] theorem getD_written? {α : Type} (values : List α) :
    (written? values).getD [] = values := by
  cases values <;> rfl

theorem member_written? (write : List α → Json) (values : List α) :
    member key write (written? values) =
      if values.isEmpty then [] else [(key, write values)] := by
  cases values <;> rfl

theorem textsMember_eq (texts : List String) :
    textsMember key texts = member key jsonOfTexts (written? texts) :=
  (member_written? jsonOfTexts texts).symm

theorem itemsMember_eq (items : Option TypeNode) :
    itemsMember items = member "items" toJson items := by
  cases items <;> rfl

end TypeNode

/-! ### Reading values -/

theorem Json.asInt64?_jsonOfInt64 (n : Int64) :
    (TypeNode.jsonOfInt64 n).asInt64? = some n := by
  rw [TypeNode.jsonOfInt64, asInt64?, if_pos ⟨n.minValue_le_toInt, n.toInt_le⟩, Int64.ofInt_toInt]

theorem Json.asUInt64?_natCast {n : Nat} (small : n < UInt64.size) :
    (Json.int n).asUInt64? = some (UInt64.ofNat n) := by
  rw [asUInt64?, Int.toNat_natCast, if_pos ⟨Int.natCast_nonneg n, small⟩]

theorem Json.asUInt64?_jsonOfUInt64 (n : UInt64) :
    (TypeNode.jsonOfUInt64 n).asUInt64? = some n := by
  rw [TypeNode.jsonOfUInt64, asUInt64?_natCast n.toNat_lt_size, UInt64.ofNat_toNat]

namespace Fields

variable {α : Type}

/-- What reading a key makes of the value that was found. -/
def expect (f : Fields) (key : String) (shape : KeyShape) (view : Json → Except Kind α) :
    Option Json → Except ParseError (Option α)
  | none => .ok none
  | some value =>
    match view value with
    | .ok a => .ok (some a)
    | .error found => .error (f.invalid key (.wrongShape shape found))

theorem optional_eq_expect (f : Fields) (key : String) (shape : KeyShape)
    (view : Json → Except Kind α) :
    f.optional key shape view = f.expect key shape view (f.raw? key) := by
  unfold optional expect
  cases f.raw? key <;> rfl

section Keys

variable (variant key : String) (members : List (String × Json))

@[simp] theorem raw?_mk : raw? ⟨variant, members⟩ key = members.lookup key := rfl

@[simp] theorem text?_mk : text? ⟨variant, members⟩ key =
    expect ⟨variant, members⟩ key .text viewText (members.lookup key) :=
  optional_eq_expect _ _ _ _

@[simp] theorem description_mk : description ⟨variant, members⟩ =
    expect ⟨variant, members⟩ "description" .text viewText (members.lookup "description") :=
  optional_eq_expect _ _ _ _

@[simp] theorem bool?_mk : bool? ⟨variant, members⟩ key =
    expect ⟨variant, members⟩ key .boolean viewBool (members.lookup key) :=
  optional_eq_expect _ _ _ _

@[simp] theorem int64?_mk : int64? ⟨variant, members⟩ key =
    expect ⟨variant, members⟩ key .integer viewInt64 (members.lookup key) :=
  optional_eq_expect _ _ _ _

@[simp] theorem uint64?_mk : uint64? ⟨variant, members⟩ key =
    expect ⟨variant, members⟩ key .natural viewUInt64 (members.lookup key) :=
  optional_eq_expect _ _ _ _

@[simp] theorem texts?_mk : texts? ⟨variant, members⟩ key =
    expect ⟨variant, members⟩ key .texts (viewList viewText) (members.lookup key) :=
  optional_eq_expect _ _ _ _

@[simp] theorem int64s?_mk : int64s? ⟨variant, members⟩ key =
    expect ⟨variant, members⟩ key .integers (viewList viewInt64) (members.lookup key) :=
  optional_eq_expect _ _ _ _

end Keys

variable (f : Fields) (key : String) (shape : KeyShape)

/-- A key that has to be there is read when its value can be viewed. -/
theorem required_of_view {view : Json → Except Kind α} {value : Json} {a : α}
    (found : f.raw? key = some value) (viewed : view value = .ok a) :
    f.required key shape view = .ok a := by
  rw [required, optional_eq_expect, found]
  simp only [expect, viewed, ok_bind]

/-- A text that has to be there is read exactly if it is there. -/
theorem text_eq_ok_iff {text : String} : f.text key = .ok text ↔ f.raw? key = some (.str text) := by
  rw [Fields.text, required, optional_eq_expect]
  cases f.raw? key with
  | none => simp [expect]
  | some value => cases value <;> simp [expect, viewText, bind, Except.bind]

theorem expect_map (view : Json → Except Kind α) (write : α → Json)
    (round : ∀ a, view (write a) = .ok a) (value : Option α) :
    f.expect key shape view (value.map write) = .ok value := by
  cases value with
  | none => rfl
  | some a => simp only [Option.map_some, expect, round]

theorem viewInt64_jsonOfInt64 (n : Int64) : viewInt64 (TypeNode.jsonOfInt64 n) = .ok n := by
  rw [viewInt64, Json.asInt64?_jsonOfInt64]

theorem viewUInt64_jsonOfUInt64 (n : UInt64) : viewUInt64 (TypeNode.jsonOfUInt64 n) = .ok n := by
  rw [viewUInt64, Json.asUInt64?_jsonOfUInt64]

theorem viewList_map (view : Json → Except Kind α) (write : α → Json)
    (round : ∀ a, view (write a) = .ok a) (values : List α) :
    viewList view (.arr (values.map write)) = .ok values := by
  rw [viewList]
  exact mapM_map_eq_ok_self fun a _ => round a

@[simp] theorem expect_none (view : Json → Except Kind α) :
    f.expect key shape view none = .ok none := rfl

@[simp] theorem expect_text (value : Option String) :
    f.expect key shape viewText (value.map .str) = .ok value :=
  expect_map f key shape viewText .str (fun _ => rfl) value

@[simp] theorem expect_bool (value : Option Bool) :
    f.expect key shape viewBool (value.map .bool) = .ok value :=
  expect_map f key shape viewBool .bool (fun _ => rfl) value

@[simp] theorem expect_int64 (value : Option Int64) :
    f.expect key shape viewInt64 (value.map TypeNode.jsonOfInt64) = .ok value :=
  expect_map f key shape viewInt64 TypeNode.jsonOfInt64 viewInt64_jsonOfInt64 value

@[simp] theorem expect_uint64 (value : Option UInt64) :
    f.expect key shape viewUInt64 (value.map TypeNode.jsonOfUInt64) = .ok value :=
  expect_map f key shape viewUInt64 TypeNode.jsonOfUInt64 viewUInt64_jsonOfUInt64 value

@[simp] theorem expect_texts (value : Option (List String)) :
    f.expect key shape (viewList viewText) (value.map TypeNode.jsonOfTexts) = .ok value :=
  expect_map f key shape (viewList viewText) TypeNode.jsonOfTexts
    (viewList_map viewText .str fun _ => rfl) value

@[simp] theorem expect_int64s (value : Option (List Int64)) :
    f.expect key shape (viewList viewInt64)
      (value.map fun ns => .arr (ns.map TypeNode.jsonOfInt64)) = .ok value :=
  expect_map f key shape (viewList viewInt64) (fun ns => .arr (ns.map TypeNode.jsonOfInt64))
    (viewList_map viewInt64 TypeNode.jsonOfInt64 viewInt64_jsonOfInt64) value

end Fields

end Lexicon
