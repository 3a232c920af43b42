import Mathlib.Data.List.Basic
import Lexicon.Validation.Validator

/-!
# Lexicon.Proofs.Causes

Which causes there can be where, and how messages tell them apart.

A node has something against the form or the content of a value. That a field
is missing, that nobody declares it and that a reference leads nowhere is found
elsewhere, and is said in other words.

## Main results

- `Verdict.isOfValue_of_mem_causes`, `Move.isOfValue_of_refuse`: what a node has
  against a value is about the value.
- `Cause.message_eq_undeclared_iff`, `Cause.message_eq_requiredMissing_iff`: the
  messages about undeclared and about missing fields belong to these causes
  alone.

## Proof strategy

Messages are told apart by how they begin. Only the message about a definition
without a data type may begin with anything, so its end decides.
-/

namespace Lexicon

/-- Whether a cause is about the form or the content of a value, and about no field, reference or
definition. -/
def Cause.isOfValue : Cause → Bool
  | .requiredMissing | .undeclared | .tooManyHops .. | .unresolvable _ | .noDefinition ..
  | .notRegistered _ | .noDataType .. | .missingDefinition .. => false
  | _ => true

/-! ### Causes of verdicts -/

theorem mem_failing {bad : Bool} {cause other : Cause} :
    other ∈ failing bad cause ↔ bad = true ∧ other = cause := by
  cases bad <;> simp [failing]

theorem mem_against {α : Type} {constraint : Option α} {check : α → List Cause} {cause : Cause} :
    cause ∈ against constraint check ↔ ∃ a, constraint = some a ∧ cause ∈ check a := by
  cases constraint <;> simp [against]

/-- All that a verdict has against a value. -/
def Verdict.causes : Verdict → List Cause
  | .malformed cause => [cause]
  | .formed failing => failing

variable {cause : Cause} {value : Json}

theorem BooleanType.isOfValue_of_mem_failures {t : BooleanType} {b : Bool}
    (inside : cause ∈ t.failures b) : cause.isOfValue = true := by
  simp only [failures, mem_against, mem_failing] at inside
  obtain ⟨_, _, _, rfl⟩ := inside
  rfl

theorem IntegerType.isOfValue_of_mem_failures {t : IntegerType} {n : Int}
    (inside : cause ∈ t.failures n) : cause.isOfValue = true := by
  simp only [failures, List.mem_append, mem_against, mem_failing] at inside
  obtain ((⟨_, _, _, rfl⟩ | ⟨_, _, _, rfl⟩) | ⟨_, _, _, rfl⟩) | ⟨_, _, _, rfl⟩ := inside <;> rfl

theorem StringType.isOfValue_of_mem_failures {t : StringType} {s : String}
    (inside : cause ∈ t.failures s) : cause.isOfValue = true := by
  simp only [failures, List.mem_append, mem_against, mem_failing] at inside
  obtain (((((⟨_, _, _, rfl⟩ | ⟨_, _, _, rfl⟩) | ⟨_, _, _, rfl⟩) | ⟨_, _, _, rfl⟩) |
    ⟨_, _, _, rfl⟩) | ⟨_, _, _, rfl⟩) | ⟨_, _, _, rfl⟩ := inside <;> rfl

theorem BytesType.isOfValue_of_mem_verdict {t : BytesType}
    (inside : cause ∈ (t.verdict value).causes) : cause.isOfValue = true := by
  have form : ∀ {cause}, encoded value = .error cause → cause.isOfValue = true := by
    intro cause malformed
    unfold encoded at malformed
    repeat' split at malformed
    all_goals cases malformed
    all_goals rfl
  unfold verdict at inside
  split at inside
  · next malformed => exact List.mem_singleton.mp inside ▸ form malformed
  · split at inside
    · exact List.mem_singleton.mp inside ▸ rfl
    · simp only [Verdict.causes, failures, List.mem_append, mem_against, mem_failing] at inside
      obtain ⟨_, _, _, rfl⟩ | ⟨_, _, _, rfl⟩ := inside <;> rfl

theorem CidLinkType.isOfValue_of_mem_verdict
    (inside : cause ∈ (CidLinkType.verdict value).causes) : cause.isOfValue = true := by
  unfold verdict at inside
  repeat' split at inside
  all_goals first
    | exact List.mem_singleton.mp inside ▸ rfl
    | simp [Verdict.causes] at inside

theorem BlobType.isOfValue_of_mem_verdict {t : BlobType}
    (inside : cause ∈ (t.verdict value).causes) : cause.isOfValue = true := by
  have form : ∀ {cause}, parts value = .error cause → cause.isOfValue = true := by
    intro cause malformed
    unfold parts at malformed
    repeat' split at malformed
    all_goals cases malformed
    all_goals rfl
  unfold verdict at inside
  split at inside
  · next malformed => exact List.mem_singleton.mp inside ▸ form malformed
  · simp only [Verdict.causes, failures, List.mem_append, mem_against, mem_failing] at inside
    obtain ⟨_, _, _, rfl⟩ | ⟨_, _, _, rfl⟩ := inside <;> rfl

theorem ArrayShape.isOfValue_of_mem_failures {t : ArrayType} {count : Nat}
    (inside : cause ∈ t.failures count) : cause.isOfValue = true := by
  simp only [failures, List.mem_append, mem_against, mem_failing] at inside
  obtain ⟨_, _, _, rfl⟩ | ⟨_, _, _, rfl⟩ := inside <;> rfl

theorem Verdict.isOfValue_of_mem_mismatch {expected : String}
    (inside : cause ∈ (mismatch expected value).causes) : cause.isOfValue = true :=
  List.mem_singleton.mp inside ▸ rfl

/-- All that a node has against a value is about the value. -/
theorem Verdict.isOfValue_of_mem_causes {node : TypeNode}
    (inside : cause ∈ (ofNode node value).causes) : cause.isOfValue = true := by
  cases node with
  | null t =>
    simp only [ofNode] at inside
    split at inside
    · cases inside
    · exact isOfValue_of_mem_mismatch inside
  | boolean t =>
    simp only [ofNode] at inside
    split at inside
    · exact BooleanType.isOfValue_of_mem_failures inside
    · exact isOfValue_of_mem_mismatch inside
  | integer t =>
    simp only [ofNode] at inside
    split at inside
    · exact IntegerType.isOfValue_of_mem_failures inside
    · exact isOfValue_of_mem_mismatch inside
  | string t =>
    simp only [ofNode] at inside
    split at inside
    · exact StringType.isOfValue_of_mem_failures inside
    · exact isOfValue_of_mem_mismatch inside
  | bytes t => exact BytesType.isOfValue_of_mem_verdict inside
  | cidLink t => exact CidLinkType.isOfValue_of_mem_verdict inside
  | blob t => exact BlobType.isOfValue_of_mem_verdict inside
  | array t =>
    simp only [ofNode, ArrayShape.formVerdict] at inside
    repeat' split at inside
    all_goals first
      | exact List.mem_singleton.mp inside ▸ rfl
      | cases inside
  | object t =>
    simp only [ofNode] at inside
    split at inside
    · cases inside
    · exact isOfValue_of_mem_mismatch inside
  | _ => cases inside

/-- What is reported is part of what fails. -/
theorem Validator.reported_subset (options : ValidationOptions) (causes : List Cause) :
    reported options causes ⊆ causes := by
  unfold reported
  split
  · exact List.nil_subset _
  · split
    · exact List.Subset.refl _
    · exact List.take_subset 1 causes

/-! ### Refusals on the way to a type -/

/-- A union refuses a value for its form or its type. -/
theorem Move.isOfValue_of_refuse {scope : Option Document} {node : TypeNode}
    (refused : Move.ofNode scope value node = .refuse cause) : cause.isOfValue = true := by
  cases node with
  | union t =>
    simp only [Move.ofNode, Move.ofUnion] at refused
    repeat' split at refused
    all_goals cases refused
    all_goals rfl
  | _ => cases refused

theorem Definition.target_eq_error {definition : Definition} {reference : String}
    (refused : definition.target reference = .error cause) :
    cause = .noDataType reference definition.kind := by
  cases definition <;> cases refused <;> rfl

/-! ### Messages -/

section Messages

theorem toString_eq (s : String) : toString s = s := rfl

variable {letter : Char}

theorem head?_toDigits_ne (noDigit : letter.isDigit = false) (n : Nat) (c : Char) :
    (Nat.toDigits 10 n).head?.getD c ≠ letter := by
  cases shown : Nat.toDigits 10 n with
  | nil => exact absurd shown Nat.toDigits_ne_nil
  | cons digit others =>
    have inside : digit ∈ Nat.toDigits 10 n := shown ▸ List.mem_cons_self
    have isDigit := Nat.isDigit_of_mem_toDigits (by decide) (by decide) inside
    rintro rfl
    exact absurd isDigit (by simpa using noDigit)

theorem head?_repr_ne (noDigit : letter.isDigit = false) (noMinus : '-' ≠ letter) (n : Int)
    (c : Char) : n.repr.toList.head?.getD c ≠ letter := by
  cases n with
  | ofNat m => simpa [Int.repr, Nat.repr] using head?_toDigits_ne noDigit m c
  | negSucc m => simpa [Int.repr] using noMinus

/-- The letters that messages about fields and references begin with, and no others do. -/
def Cause.initials : List Char := ['f', 'r', 'u']

theorem UnionError.head?_message_ne (reason : UnionError) :
    ∀ letter ∈ Cause.initials, reason.message.toList.head? ≠ some letter := by
  unfold message
  cases reason <;> simp [toString_eq, Cause.initials]

theorem Cause.head?_message_ne (ofValue : cause.isOfValue = true) :
    ∀ letter ∈ initials, cause.message.toList.head? ≠ some letter := by
  cases cause with
  | union reason => exact reason.head?_message_ne
  | _ => first
    | exact absurd ofValue Bool.false_ne_true
    | unfold message
      simp [toString_eq, initials, head?_toDigits_ne, head?_repr_ne]

/-- The message about a definition without a data type may begin with anything. -/
theorem Cause.getLast?_message_noDataType (reference kind : String) :
    (noDataType reference kind).message.toList.getLast? = some 'e' := by
  have shown : (noDataType reference kind).message =
      reference ++ " is a " ++ kind ++ " and carries no data type" := rfl
  rw [shown, String.toList_append, List.getLast?_append]
  simp

theorem Cause.message_eq_undeclared_iff :
    cause.message = "field is not declared by the schema" ↔ cause = .undeclared := by
  constructor
  · intro same
    -- The first and the last character tell this message from all others.
    have first : cause.message.toList.head? = some 'f' := by rw [same]; simp
    have last : cause.message.toList.getLast? = some 'a' := by rw [same]; simp
    by_cases ofValue : cause.isOfValue = true
    · exact absurd first (head?_message_ne ofValue 'f' (by decide))
    · cases cause with
      | undeclared => rfl
      | noDataType reference kind => simp [getLast?_message_noDataType] at last
      | requiredMissing | tooManyHops | unresolvable | noDefinition | notRegistered
      | missingDefinition =>
        unfold message at first
        simp [toString_eq] at first
      | _ => exact absurd rfl ofValue
  · rintro rfl
    rfl

theorem Cause.message_eq_requiredMissing_iff :
    cause.message = "required field is missing" ↔ cause = .requiredMissing := by
  constructor
  · intro same
    have first : cause.message.toList.head? = some 'r' := by rw [same]; simp
    have third : cause.message.toList[2]? = some 'q' := by rw [same]; simp
    have last : cause.message.toList.getLast? = some 'g' := by rw [same]; simp
    by_cases ofValue : cause.isOfValue = true
    · exact absurd first (head?_message_ne ofValue 'r' (by decide))
    · cases cause with
      | requiredMissing => rfl
      | noDataType reference kind => simp [getLast?_message_noDataType] at last
      -- These messages begin with the same two letters.
      | tooManyHops | noDefinition =>
        unfold message at third
        simp [toString_eq] at third
      | undeclared | unresolvable | notRegistered | missingDefinition =>
        unfold message at first
        simp [toString_eq] at first
      | _ => exact absurd rfl ofValue
  · rintro rfl
    rfl

/-- The messages about malformed references begin as no others do, but perhaps those about
definitions without a data type. -/
theorem Cause.message_ne_unresolvable (resolvable : ∀ reason, cause ≠ .unresolvable reason)
    (typed : ∀ reference kind, cause ≠ .noDataType reference kind) (rest : String) :
    cause.message ≠ "unresolvable reference: " ++ rest := by
  intro same
  have first : cause.message.toList.head? = some 'u' := by rw [same]; simp
  by_cases ofValue : cause.isOfValue = true
  · exact absurd first (head?_message_ne ofValue 'u' (by decide))
  · cases cause with
    | unresolvable reason => exact resolvable reason rfl
    | noDataType reference kind => exact typed reference kind rfl
    | undeclared | requiredMissing | tooManyHops | noDefinition | notRegistered
    | missingDefinition =>
      unfold message at first
      simp [toString_eq] at first
    | _ => exact absurd rfl ofValue

theorem Cause.message_ne_unresolvable_of_isOfValue (ofValue : cause.isOfValue = true)
    (rest : String) : cause.message ≠ "unresolvable reference: " ++ rest := by
  refine message_ne_unresolvable ?_ ?_ rest
  · rintro reason rfl
    exact absurd ofValue Bool.false_ne_true
  · rintro reference kind rfl
    exact absurd ofValue Bool.false_ne_true

end Messages

end Lexicon
