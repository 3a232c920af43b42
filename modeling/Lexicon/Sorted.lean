/-!
# Lexicon.Sorted

The distinct elements of a list in order.

Elements are put one by one into a list that is in order already, and one that
is there is not put in again. So the result is the one strictly increasing
list with the same members.

## Main definitions

- `Sorted.insert`: an ordered list with one element more.
- `Sorted.ofList`, `Sorted.texts`: the distinct elements of a list in order.
-/

namespace Lexicon

namespace Sorted

variable {α : Type}

/-- Puts an element into its place in an ordered list, unless it is there. -/
def insert (order : α → α → Ordering) (a : α) : List α → List α
  | [] => [a]
  | b :: rest =>
    match order a b with
    | .lt => a :: b :: rest
    | .eq => b :: rest
    | .gt => b :: insert order a rest

/-- The distinct elements of a list in order. -/
def ofList (order : α → α → Ordering) (elements : List α) : List α :=
  elements.foldr (insert order) []

/-- The distinct texts of a list in the order of their characters. -/
def texts (elements : List String) : List String := ofList compare elements

theorem mem_insert {order : α → α → Ordering} (same : ∀ {x y}, order x y = .eq → x = y)
    {a b : α} {elements : List α} : b ∈ insert order a elements ↔ b = a ∨ b ∈ elements := by
  induction elements with
  | nil => simp [insert]
  | cons c rest ih =>
    unfold insert
    split
    next => simp
    next h => simp [same h]
    next => simp only [List.mem_cons, ih]; grind

theorem mem_ofList {order : α → α → Ordering} (same : ∀ {x y}, order x y = .eq → x = y)
    {b : α} {elements : List α} : b ∈ ofList order elements ↔ b ∈ elements := by
  induction elements with
  | nil => simp [ofList]
  | cons a rest ih =>
    simp only [ofList, List.foldr_cons] at ih ⊢
    rw [mem_insert same, ih, List.mem_cons]

theorem mem_texts {text : String} {elements : List String} :
    text ∈ texts elements ↔ text ∈ elements :=
  mem_ofList Std.LawfulEqCmp.eq_of_compare

/-! ### Order -/

variable {order : α → α → Ordering} [Std.TransCmp order]

theorem pairwise_insert {a : α} {elements : List α}
    (same : ∀ {x y}, order x y = .eq → x = y)
    (sorted : elements.Pairwise fun x y => order x y = .lt) :
    (insert order a elements).Pairwise fun x y => order x y = .lt := by
  induction elements with
  | nil => exact List.pairwise_singleton _ a
  | cons b rest ih =>
    obtain ⟨first, later⟩ := List.pairwise_cons.mp sorted
    unfold insert
    split
    next before =>
      refine List.pairwise_cons.mpr ⟨fun c inside => ?_, sorted⟩
      rcases List.mem_cons.mp inside with rfl | inside
      · exact before
      · exact Std.TransCmp.lt_trans before (first c inside)
    next => exact sorted
    next behind =>
      refine List.pairwise_cons.mpr ⟨fun c inside => ?_, ih later⟩
      rcases (mem_insert same).mp inside with rfl | inside
      · exact Std.OrientedCmp.gt_iff_lt.mp behind
      · exact first c inside

/-- The list is strictly increasing. -/
theorem pairwise_ofList (same : ∀ {x y}, order x y = .eq → x = y) (elements : List α) :
    (ofList order elements).Pairwise fun x y => order x y = .lt := by
  induction elements with
  | nil => exact .nil
  | cons a rest ih => exact pairwise_insert same ih

theorem pairwise_texts (elements : List String) :
    (texts elements).Pairwise fun a b => compare a b = .lt :=
  pairwise_ofList Std.LawfulEqCmp.eq_of_compare elements

theorem nodup_ofList (same : ∀ {x y}, order x y = .eq → x = y) (elements : List α) :
    (ofList order elements).Nodup := by
  refine (pairwise_ofList same elements).imp ?_
  rintro a b before rfl
  cases before.symm.trans Std.ReflCmp.compare_self

theorem nodup_texts (elements : List String) : (texts elements).Nodup :=
  nodup_ofList Std.LawfulEqCmp.eq_of_compare elements

end Sorted

end Lexicon
