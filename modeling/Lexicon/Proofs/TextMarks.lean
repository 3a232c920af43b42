import Mathlib.Data.List.TakeWhile
import Lexicon.Proofs.TextLines

/-!
# Lexicon.Proofs.TextMarks

What tells texts apart that are joined without anything in between.

Pieces that begin with a mark and have no other mark in them are found again in
what they are joined to: the marks tell where each of them starts. Numbers are
told apart by their digits, and hold nothing else.

## Main definition

- `Text.IsMarked`: a piece with a mark at its start, and nowhere else.

## Main results

- `Text.flatten_inj_of_isMarked`: marked pieces are told apart when joined.
- `Text.toString_nat_inj`: numbers are told apart by their texts.
-/

namespace Lexicon

namespace Text

/-! ### Marked pieces -/

/-- A mark, and none behind it. -/
inductive IsMarked (mark : Char → Bool) : List Char → Prop where
  | cons {c : Char} {rest : List Char} (first : mark c = true)
      (others : ∀ d ∈ rest, mark d = false) : IsMarked mark (c :: rest)

variable {mark : Char → Bool}

/-- What comes behind a piece is nothing, or starts with a mark. -/
theorem takeWhile_flatten {pieces : List (List Char)}
    (each : ∀ piece ∈ pieces, IsMarked mark piece) :
    pieces.flatten.takeWhile (fun c => !mark c) = [] := by
  cases pieces with
  | nil => rfl
  | cons piece pieces =>
    obtain ⟨first, _⟩ := each piece List.mem_cons_self
    simp [first]

/-- A piece ends at the next mark. -/
theorem takeWhile_append_flatten {rest : List Char} {pieces : List (List Char)}
    (others : ∀ c ∈ rest, mark c = false) (each : ∀ piece ∈ pieces, IsMarked mark piece) :
    (rest ++ pieces.flatten).takeWhile (fun c => !mark c) = rest := by
  rw [List.takeWhile_append_of_pos (fun c inside => by simp [others c inside]),
    takeWhile_flatten each, List.append_nil]

theorem flatten_inj_of_isMarked {as bs : List (List Char)} (left : ∀ a ∈ as, IsMarked mark a)
    (right : ∀ b ∈ bs, IsMarked mark b) (same : as.flatten = bs.flatten) : as = bs := by
  induction as generalizing bs with
  | nil =>
    cases bs with
    | nil => rfl
    | cons b bs =>
      obtain ⟨first, _⟩ := right b List.mem_cons_self
      cases same
  | cons a as ih =>
    obtain ⟨first, others⟩ := left a List.mem_cons_self
    cases bs with
    | nil => cases same
    | cons b bs =>
      obtain ⟨_, more⟩ := right b List.mem_cons_self
      have before := fun piece inside => left piece (List.mem_cons_of_mem _ inside)
      have behind := fun piece inside => right piece (List.mem_cons_of_mem _ inside)
      rw [List.flatten_cons, List.flatten_cons, List.cons_append, List.cons_append] at same
      obtain ⟨rfl, rest⟩ := List.cons.inj same
      -- The first piece ends where the next mark stands.
      have pieces := congrArg (List.takeWhile fun c => !mark c) rest
      rw [takeWhile_append_flatten others before, takeWhile_append_flatten more behind] at pieces
      subst pieces
      rw [ih before behind (List.append_cancel_left rest)]

/-! ### Numbers -/

theorem notMem_toDigits {d : Char} (other : ∀ n : Fin 16, Nat.digitChar n ≠ d) {base n : Nat}
    (large : 1 < base) (small : base ≤ 16) : d ∉ Nat.toDigits base n := by
  induction n using Nat.strongRecOn with
  | ind n ih =>
    have digit {m : Nat} (below : m < base) : d ≠ Nat.digitChar m :=
      (other ⟨m, by omega⟩).symm
    rw [Nat.toDigits_eq_if large]
    split
    · next few => simpa using digit few
    · next more =>
      have rest := ih (n / base) (Nat.div_lt_self (by omega) large)
      have last := digit (Nat.mod_lt n (by omega))
      simp [rest, last]

theorem notMem_toString_nat {d : Char} (other : ∀ n : Fin 16, Nat.digitChar n ≠ d) (n : Nat) :
    d ∉ (toString n).toList := by
  rw [Nat.toString_eq_repr, Nat.toList_repr]
  exact notMem_toDigits other (by decide) (by decide)

theorem toString_nat_inj {m n : Nat} (same : toString m = toString n) : m = n := by
  have digits := congrArg String.toList same
  rw [Nat.toString_eq_repr, Nat.toString_eq_repr, Nat.toList_repr, Nat.toList_repr] at digits
  have back (k : Nat) : Nat.ofDigitChars 10 (Nat.toDigits 10 k) 0 = k :=
    Nat.ofDigitChars_toDigits (by decide) (by decide)
  rw [← back m, digits, back n]

end Text

end Lexicon
