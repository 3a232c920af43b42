import Mathlib.Data.List.Induction
import Mathlib.Data.List.Nodup

/-!
# Lexicon.Proofs.FirstOccurrences

Lists without repetitions.

`List.eraseDups` keeps the first occurrence of every element. Lists grow at
their end here, so the induction is from the end: a last element counts only if
it was not there before.

## Main results

- `eraseDups_concat`: the effect of one more element.
- `eraseDups_map`, `eraseDups_append`: first occurrences suffice to know those of
  an image and of a concatenation.
-/

namespace Lexicon

variable {α β : Type} [BEq α] [LawfulBEq α] [BEq β] [LawfulBEq β]

theorem eraseDups_concat (as : List α) (a : α) :
    (as ++ [a]).eraseDups = if a ∈ as then as.eraseDups else as.eraseDups ++ [a] := by
  rw [List.eraseDups_append]
  by_cases known : a ∈ as
  · simp [List.removeAll, known]
  · simp [List.removeAll, known, List.eraseDups_cons]

theorem nodup_eraseDups (as : List α) : as.eraseDups.Nodup := by
  induction as using List.reverseRecOn with
  | nil => exact .nil
  | append_singleton as a ih =>
    rw [eraseDups_concat]
    by_cases known : a ∈ as
    · rwa [if_pos known]
    · rw [if_neg known]
      have fresh : ∀ b ∈ as.eraseDups, b ≠ a := by
        rintro b inside rfl
        exact known (List.mem_eraseDups.mp inside)
      exact List.nodup_append.mpr ⟨ih, List.nodup_singleton a, by simpa using fresh⟩

theorem eraseDups_map (f : α → β) (as : List α) :
    (as.eraseDups.map f).eraseDups = (as.map f).eraseDups := by
  induction as using List.reverseRecOn with
  | nil => rfl
  | append_singleton as a ih =>
    have same : f a ∈ as.eraseDups.map f ↔ f a ∈ as.map f := by
      simp only [List.mem_map, List.mem_eraseDups]
    rw [eraseDups_concat, List.map_append, List.map_singleton, eraseDups_concat]
    by_cases known : a ∈ as
    · rw [if_pos known, if_pos (List.mem_map_of_mem known), ih]
    · rw [if_neg known, List.map_append, List.map_singleton, eraseDups_concat, ih]
      simp only [same]

theorem eraseDups_append (as bs : List α) :
    (as.eraseDups ++ bs.eraseDups).eraseDups = (as ++ bs).eraseDups := by
  induction bs using List.reverseRecOn with
  -- Without a second list it is the first one once more, as its image under the identity.
  | nil => simpa using eraseDups_map id as
  | append_singleton bs b ih =>
    have same : b ∈ as.eraseDups ++ bs.eraseDups ↔ b ∈ as ++ bs := by
      simp only [List.mem_append, List.mem_eraseDups]
    rw [← List.append_assoc, eraseDups_concat, eraseDups_concat]
    by_cases known : b ∈ bs
    · rw [if_pos known, if_pos (List.mem_append_right as known), ih]
    · rw [if_neg known, ← List.append_assoc, eraseDups_concat, ih]
      simp only [same]

end Lexicon
