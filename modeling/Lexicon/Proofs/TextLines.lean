import Mathlib.Data.List.Basic
import Lexicon.Text.Split

/-!
# Lexicon.Proofs.TextLines

Texts as lines, and taking beginnings and ends off.

A text that is put together from lines is cut into the same lines again, as
long as none of them holds a line break of its own.

## Main definitions

- `Text.IsLine`: a text without line breaks.
- `Text.lined`: the text of lines, each with its line break.

## Main result

`Text.splitOn_lined_of_isLine`: the lines of a text are those that it was put
together from.
-/

namespace Lexicon

namespace Text

variable {separator : Char} {s : String}

/-! ### Pieces -/

theorem splitOn_of_notMem (absent : separator ∉ s.toList) : splitOn separator s = [s] := by
  rw [splitOn, List.splitOn_eq_singleton absent, List.map_singleton, String.ofList_toList]

theorem splitOn_append (separator : Char) (before after : String) :
    splitOn separator (before ++ String.singleton separator ++ after) =
      splitOn separator before ++ splitOn separator after := by
  have cs : (before ++ String.singleton separator ++ after).toList =
      before.toList ++ separator :: after.toList := by simp
  rw [splitOn, cs, List.splitOn_eq_splitOnP, List.splitOnP_append_cons _ _ (by simp),
    List.map_append]
  rfl

/-- Pieces that are joined by a separator are found again if none of them holds it. -/
theorem splitOn_intercalate {pieces : List String} (some : pieces ≠ [])
    (each : ∀ piece ∈ pieces, separator ∉ piece.toList) :
    splitOn separator (String.intercalate (String.singleton separator) pieces) = pieces := by
  have lists : ∀ piece ∈ pieces.map String.toList, separator ∉ piece := by
    intro piece inside
    obtain ⟨text, held, rfl⟩ := List.mem_map.mp inside
    exact each text held
  rw [splitOn, String.toList_intercalate, String.toList_singleton,
    List.splitOn_intercalate separator lists (by simpa using some)]
  simp [Function.comp_def]

theorem mem_intercalate {separator : String} {pieces : List String} {c : Char}
    (inside : c ∈ (String.intercalate separator pieces).toList) :
    c ∈ separator.toList ∨ ∃ piece ∈ pieces, c ∈ piece.toList := by
  induction pieces with
  | nil => cases inside
  | cons piece rest ih =>
    cases rest with
    | nil => exact .inr ⟨piece, List.mem_cons_self, by simpa using inside⟩
    | cons next rest =>
      rw [String.intercalate_cons_cons, String.toList_append, String.toList_append] at inside
      rcases List.mem_append.mp inside with inside | inside
      · rcases List.mem_append.mp inside with here | between
        · exact .inr ⟨piece, List.mem_cons_self, here⟩
        · exact .inl between
      · rcases ih inside with between | ⟨other, listed, there⟩
        · exact .inl between
        · exact .inr ⟨other, List.mem_cons_of_mem _ listed, there⟩

/-! ### Lines -/

/-- The text holds no line break. -/
def IsLine (s : String) : Prop := '\n' ∉ s.toList

instance (s : String) : Decidable (IsLine s) := inferInstanceAs (Decidable ('\n' ∉ s.toList))

@[simp] theorem isLine_append {s t : String} : IsLine (s ++ t) ↔ IsLine s ∧ IsLine t := by
  simp [IsLine]

/-- The text of lines, each with its line break. -/
def lined (lines : List String) : String := String.join (lines.map (· ++ "\n"))

@[simp] theorem lined_nil : lined [] = "" := rfl

theorem lined_cons (line : String) (lines : List String) :
    lined (line :: lines) = line ++ "\n" ++ lined lines := by
  rw [lined, List.map_cons, String.join_cons]
  rfl

theorem lined_append (lines more : List String) :
    lined (lines ++ more) = lined lines ++ lined more := by
  induction lines with
  | nil => simp
  | cons line lines ih => simp only [List.cons_append, lined_cons, ih, String.append_assoc]

/-- A text that is put together is cut where its lines break, and nothing is behind the last. -/
theorem splitOn_lined (lines : List String) :
    splitOn '\n' (lined lines) = lines.flatMap (splitOn '\n') ++ [""] := by
  induction lines with
  | nil => rfl
  | cons line lines ih =>
    have lineBreak : "\n" = String.singleton '\n' := rfl
    rw [lined_cons, lineBreak, splitOn_append, ih, List.flatMap_cons, List.append_assoc]

theorem splitOn_lined_of_isLine {lines : List String} (each : ∀ line ∈ lines, IsLine line) :
    splitOn '\n' (lined lines) = lines ++ [""] := by
  have whole : lines.flatMap (splitOn '\n') = lines.flatMap ([·]) :=
    List.flatMap_congr fun line inside => splitOn_of_notMem (each line inside)
  rw [splitOn_lined, whole, List.flatMap_singleton']

/-! ### Beginnings and ends -/

theorem dropStart?_append (start rest : String) : dropStart? start (start ++ rest) = some rest := by
  have starts : start.toList.isPrefixOf (start ++ rest).toList = true := by simp
  have behind : (start ++ rest).toList.drop start.length = rest.toList := by
    rw [String.toList_append, ← String.length_toList, List.drop_left]
  rw [dropStart?, if_pos starts, behind, String.ofList_toList]

theorem dropStart?_eq_some_iff {start rest : String} :
    dropStart? start s = some rest ↔ s = start ++ rest := by
  constructor
  · intro behind
    unfold dropStart? at behind
    split at behind
    · next starts =>
      obtain ⟨tail, same⟩ := List.isPrefixOf_iff_prefix.mp starts
      cases behind
      apply String.toList_inj.mp
      rw [String.toList_append, String.toList_ofList, ← same, ← String.length_toList,
        List.drop_left]
    · cases behind
  · rintro rfl
    exact dropStart?_append start rest

theorem dropEnd?_append (rest ending : String) : dropEnd? ending (rest ++ ending) = some rest := by
  have ends : ending.toList.isSuffixOf (rest ++ ending).toList = true := by simp
  have before : (rest ++ ending).toList.take ((rest ++ ending).length - ending.length) =
      rest.toList := by
    have length : (rest ++ ending).length - ending.length = rest.toList.length := by
      rw [String.length_append, Nat.add_sub_cancel, String.length_toList]
    rw [length, String.toList_append, List.take_left]
  rw [dropEnd?, if_pos ends, before, String.ofList_toList]

theorem dropEnd?_eq_some_iff {ending rest : String} :
    dropEnd? ending s = some rest ↔ s = rest ++ ending := by
  constructor
  · intro before
    unfold dropEnd? at before
    split at before
    · next ends =>
      obtain ⟨front, same⟩ := List.isSuffixOf_iff_suffix.mp ends
      have whole : s = String.ofList front ++ ending := by
        apply String.toList_inj.mp
        rw [String.toList_append, String.toList_ofList, same]
      have dropped := dropEnd?_append (String.ofList front) ending
      rw [← whole, dropEnd?, if_pos ends, before] at dropped
      rw [whole, Option.some.inj dropped]
    · cases before
  · rintro rfl
    exact dropEnd?_append rest ending

theorem dropEnd?_of_notMem {ending : String} {c : Char} (inside : c ∈ ending.toList)
    (absent : c ∉ s.toList) : dropEnd? ending s = none := by
  refine if_neg fun ends => ?_
  obtain ⟨front, same⟩ := List.isSuffixOf_iff_suffix.mp ends
  exact absent (same ▸ List.mem_append_right front inside)

end Text

end Lexicon
