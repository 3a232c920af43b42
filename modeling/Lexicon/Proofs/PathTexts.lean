import Lexicon.Proofs.TextMarks
import Lexicon.Reading.Error
import Lexicon.Validation.Finding

/-!
# Lexicon.Proofs.PathTexts

One way to write the place of a failure.

A validator knows the way from the outside and joins one step after the other
onto a path. A reader learns of it from the inside: its error is handed up
through the enclosing values, and each of them puts its own step in front. Both
arrive at the same text, because a step is written alike wherever it stands but
for the dot of a field, and a path shows by its first character whether it
wants one. The text says which steps it was made of, as long as the names of
fields hold none of the characters that steps are marked with.

## Main definitions

- `ReadError.handedUp`: an error as it arrives outside.
- `Step.IsPlain`, `Step.IsUnmarked`: what the names of fields have to be like.

## Main results

- `ReadError.handedUp_here`: an error arrives with the path that the validator writes.
- `Path.extend_eq_iff`: two ways have one text exactly if they differ in empty
  names at the start.
- `Path.written_alike`: both sides write the same texts, and no two ways share one.

## Proof strategy

Behind another path each step stands with its mark, so the text there is made of
marked pieces, and these are told apart. What a reader puts in front of a path,
and what is left to tell apart at its start, is the same form of the path.
-/

namespace Lexicon

/-! ### Steps -/

namespace Step

/-- The step as it is written at the start of a path. -/
def segment : Step → String
  | .field name => name
  | .index position => s!"[{position}]"

/-- The step as it is written behind others. -/
def suffix : Step → String
  | .field name => "." ++ name
  | .index position => s!"[{position}]"

theorem toList_index (position : Nat) :
    (s!"[{position}]").toList = '[' :: ((toString position).toList ++ [']']) := by
  change ("[" ++ toString position ++ "]").toList = _
  simp

/-- A name that is there, and does not look like an index. -/
def IsPlain : Step → Prop
  | .field name => name ≠ "" ∧ name.toList.head? ≠ some '['
  | .index _ => True

/-- A name without the characters that mark steps. -/
def IsUnmarked : Step → Prop
  | .field name => '.' ∉ name.toList ∧ '[' ∉ name.toList
  | .index _ => True

theorem IsPlain.ne_empty {step : Step} (plain : step.IsPlain) : step ≠ .field "" := by
  rintro rfl
  exact plain.1 rfl

/-- Only an empty name is written as nothing. -/
theorem IsPlain.segment_ne_empty {step : Step} (plain : step.IsPlain) : step.segment ≠ "" := by
  cases step with
  | field name => exact plain.1
  | index position =>
    intro none
    have chars := congrArg String.toList none
    rw [segment, toList_index] at chars
    cases chars

theorem IsUnmarked.isPlain {step : Step} (unmarked : step.IsUnmarked) (given : step ≠ .field "") :
    step.IsPlain := by
  cases step with
  | field name =>
    refine ⟨fun none => given (congrArg field none), fun head => ?_⟩
    exact unmarked.2 (List.mem_of_head? head)
  | index position => trivial

/-- The characters that steps are marked with. -/
def isMark (c : Char) : Bool := c == '.' || c == '['

theorem isMarked_suffix {step : Step} (unmarked : step.IsUnmarked) :
    Text.IsMarked isMark step.suffix.toList := by
  cases step with
  | field name =>
    obtain ⟨noDot, noBracket⟩ := unmarked
    have chars : (suffix (.field name)).toList = '.' :: name.toList := by simp [suffix]
    rw [chars]
    apply Text.IsMarked.cons rfl
    intro c inside
    have dot : c ≠ '.' := fun same => noDot (same ▸ inside)
    have bracket : c ≠ '[' := fun same => noBracket (same ▸ inside)
    simp [isMark, dot, bracket]
  | index position =>
    rw [suffix, toList_index]
    apply Text.IsMarked.cons rfl
    intro c inside
    -- Neither the digits nor the closing bracket are marks.
    have digits {mark : Char} (other : ∀ n : Fin 16, Nat.digitChar n ≠ mark) (apart : ']' ≠ mark) :
        c ≠ mark := by
      rintro rfl
      rcases List.mem_append.mp inside with digit | closing
      · exact Text.notMem_toString_nat other position digit
      · exact apart (List.mem_singleton.mp closing).symm
    have dot : c ≠ '.' := digits (by decide) (by decide)
    have bracket : c ≠ '[' := digits (by decide) (by decide)
    simp [isMark, dot, bracket]

theorem suffix_inj {a b : Step} (same : a.suffix = b.suffix) : a = b := by
  have chars := congrArg String.toList same
  -- The first character tells a field from an index.
  cases a with
  | field name =>
    cases b with
    | field other =>
      have names : name = other := (String.append_right_inj _).mp same
      rw [names]
    | index position =>
      rw [suffix, suffix, toList_index] at chars
      simp at chars
  | index position =>
    cases b with
    | field other =>
      rw [suffix, suffix, toList_index] at chars
      simp at chars
    | index other =>
      rw [suffix, suffix, toList_index, toList_index] at chars
      have digits := List.append_cancel_right (List.cons.inj chars).2
      rw [Text.toString_nat_inj (String.toList_inj.mp digits)]

end Step

/-! ### Paths -/

namespace Path

variable {steps others : List Step}

/-- Steps as they are written behind others. -/
def suffixes (steps : List Step) : String := String.join (steps.map Step.suffix)

theorem suffixes_cons (step : Step) (rest : List Step) :
    suffixes (step :: rest) = step.suffix ++ suffixes rest := by
  rw [suffixes, List.map_cons, String.join_cons]
  rfl

/-- The marks tell steps apart. -/
theorem suffixes_inj (left : ∀ step ∈ steps, step.IsUnmarked)
    (right : ∀ step ∈ others, step.IsUnmarked) (same : suffixes steps = suffixes others) :
    steps = others := by
  have flat (ways : List Step) :
      (suffixes ways).toList = (ways.map fun step => step.suffix.toList).flatten := by
    rw [suffixes, String.toList_join, List.flatMap_map, List.flatMap_def]
  have marked {ways : List Step} (each : ∀ step ∈ ways, step.IsUnmarked) :
      ∀ piece ∈ ways.map fun step => step.suffix.toList, Text.IsMarked Step.isMark piece := by
    intro piece inside
    obtain ⟨step, listed, rfl⟩ := List.mem_map.mp inside
    exact Step.isMarked_suffix (each step listed)
  have chars := congrArg String.toList same
  rw [flat, flat] at chars
  -- There is a mark at the start of each step and nowhere else, so the text can be cut again.
  have pieces := Text.flatten_inj_of_isMarked (marked left) (marked right) chars
  have injective : Function.Injective fun step : Step => step.suffix.toList :=
    fun a b equal => Step.suffix_inj (String.toList_inj.mp equal)
  exact List.map_injective_iff.mpr injective pieces

theorem join_eq {path : String} (given : path ≠ "") (step : Step) :
    join path step = path ++ step.suffix := by
  cases step with
  | field name =>
    have some : path.isEmpty = false := by simpa using given
    simp only [join, joinField, some, Step.suffix, String.append_assoc]
    rfl
  | index position =>
    have joined : joinIndex path position = path ++ "[" ++ toString position ++ "]" := rfl
    have alone : (Step.index position).suffix = "[" ++ toString position ++ "]" := rfl
    simp only [join, joined, alone, String.append_assoc]

theorem join_empty (step : Step) : join "" step = step.segment := by
  cases step with
  | field name => rfl
  | index position =>
    have joined : joinIndex "" position = "" ++ "[" ++ toString position ++ "]" := rfl
    have alone : (Step.index position).segment = "[" ++ toString position ++ "]" := rfl
    rw [join, joined, alone, String.empty_append]

/-- From a path that is there, each step is written with its mark. -/
theorem extend_eq {start : String} (given : start ≠ "") (steps : List Step) :
    extend start steps = start ++ suffixes steps := by
  induction steps generalizing start with
  | nil => simp [extend, suffixes]
  | cons step rest ih =>
    have longer : start ++ step.suffix ≠ "" := by simp [given]
    have next := ih longer
    unfold extend at next ⊢
    rw [List.foldl_cons, join_eq given, next, suffixes_cons, String.append_assoc]

theorem extend_cons {step : Step} (given : step.segment ≠ "") (rest : List Step) :
    extend "" (step :: rest) = step.segment ++ suffixes rest := by
  have next := extend_eq given rest
  unfold extend at next ⊢
  rw [List.foldl_cons, join_empty, next]

/-- A path as it is written behind others. -/
def behind (path : String) : String :=
  if path.isEmpty then ""
  else if path.toList.head? = some '[' then path
  else "." ++ path

/-- A path whose first step is plain shows all of its steps behind another one. -/
theorem behind_extend (first : ∀ step, steps.head? = some step → step.IsPlain) :
    behind (extend "" steps) = suffixes steps := by
  cases steps with
  | nil => rfl
  | cons step rest =>
    have plain := first step rfl
    rw [extend_cons plain.segment_ne_empty, suffixes_cons]
    unfold behind
    cases step with
    | field name =>
      -- The name is there, so the path starts like it does.
      obtain ⟨given, noIndex⟩ := plain
      simp [Step.segment, Step.suffix, noIndex, given, String.append_assoc]
    | index position =>
      have head : (Step.segment (.index position) ++ suffixes rest).toList.head? = some '[' := by
        rw [String.toList_append, Step.segment, Step.toList_index]
        rfl
      have given := plain.segment_ne_empty
      simp only [head, if_true]
      simp [given]
      rfl

/-- Empty names at the start of a way leave no trace. -/
theorem extend_dropWhile (steps : List Step) :
    extend "" (steps.dropWhile (· = .field "")) = extend "" steps := by
  induction steps with
  | nil => rfl
  | cons step rest ih =>
    by_cases empty : step = .field ""
    · subst empty
      rw [List.dropWhile_cons_of_pos (by simp), ih]
      rfl
    · rw [List.dropWhile_cons_of_neg (by simpa using empty)]

/-- Ways without marks in their names have one text exactly if they are the same from the first
step on that is written at all. -/
theorem extend_eq_iff (left : ∀ step ∈ steps, step.IsUnmarked)
    (right : ∀ step ∈ others, step.IsUnmarked) :
    extend "" steps = extend "" others ↔
      steps.dropWhile (· = .field "") = others.dropWhile (· = .field "") := by
  -- Empty names in front leave no trace, and behind them every step is written.
  have written {ways : List Step} (each : ∀ step ∈ ways, step.IsUnmarked) :
      behind (extend "" ways) = suffixes (ways.dropWhile (· = .field "")) := by
    rw [← extend_dropWhile]
    apply behind_extend
    intro step head
    apply (each step ((List.dropWhile_sublist _).subset (List.mem_of_head? head))).isPlain
    rintro rfl
    have stops := List.head?_dropWhile_not (· = Step.field "") ways
    simp [head] at stops
  constructor
  · intro same
    have marked := congrArg behind same
    rw [written left, written right] at marked
    have kept {ways : List Step} (each : ∀ step ∈ ways, step.IsUnmarked) :
        ∀ step ∈ ways.dropWhile (· = .field ""), step.IsUnmarked :=
      fun step inside => each step ((List.dropWhile_sublist _).subset inside)
    exact suffixes_inj (kept left) (kept right) marked
  · intro same
    rw [← extend_dropWhile steps, same, extend_dropWhile]

end Path

/-! ### Errors of readers -/

namespace ReadError

theorem prepend_eq (segment path : String) :
    prepend segment path = segment ++ Path.behind path := by
  unfold prepend Path.behind
  split
  · rw [String.append_empty]
  · split
    · rfl
    · rw [String.append_assoc]

/-- The error after it has been handed up through the steps to its place, the innermost first. -/
def handedUp (steps : List Step) (error : ReadError) : ReadError :=
  steps.foldr (fun step inner => inner.within step.segment) error

theorem handedUp_here {steps : List Step} (plain : ∀ step ∈ steps, step.IsPlain)
    (cause : ReadCause) :
    handedUp steps (here cause) = { path := Path.extend "" steps, cause } := by
  induction steps with
  | nil => rfl
  | cons step rest ih =>
    have others := fun other inside => plain other (List.mem_cons_of_mem _ inside)
    have first : ∀ other, rest.head? = some other → other.IsPlain :=
      fun other head => others other (List.mem_of_head? head)
    have up : handedUp (step :: rest) (here cause) =
        (handedUp rest (here cause)).within step.segment := rfl
    have given := (plain step List.mem_cons_self).segment_ne_empty
    rw [up, ih others, within, prepend_eq, Path.behind_extend first, Path.extend_cons given]

end ReadError

/-- Readers and the validator write the same path for a place, and no path stands for two places. -/
theorem Path.written_alike :
    (∀ steps : List Step, (∀ step ∈ steps, step.IsPlain) → ∀ cause,
      ReadError.handedUp steps (.here cause) = { path := extend "" steps, cause }) ∧
    (∀ steps others : List Step, (∀ step ∈ steps, step.IsPlain ∧ step.IsUnmarked) →
      (∀ step ∈ others, step.IsPlain ∧ step.IsUnmarked) → steps ≠ others →
        extend "" steps ≠ extend "" others) := by
  constructor
  · intro steps plain cause
    exact ReadError.handedUp_here plain cause
  · intro steps others left right different same
    have whole {ways : List Step} (each : ∀ step ∈ ways, step.IsPlain ∧ step.IsUnmarked) :
        ways.dropWhile (· = .field "") = ways := by
      apply List.dropWhile_eq_self_iff.mpr
      intro some
      have plain := (each _ (List.getElem_mem some)).1
      simpa using plain.ne_empty
    rw [extend_eq_iff (fun step inside => (left step inside).2)
      (fun step inside => (right step inside).2), whole left, whole right] at same
    exact different same

/-- The way to the `uri` of one of the `items`. -/
def Path.uriOf (position : Nat) : List Step := [.field "items", .index position, .field "uri"]

theorem Path.written_alike_uriOf :
    (∀ step ∈ uriOf 1, step.IsPlain ∧ step.IsUnmarked) ∧
      (∀ step ∈ uriOf 11, step.IsPlain ∧ step.IsUnmarked) ∧ uriOf 1 ≠ uriOf 11 ∧
      ReadError.handedUp (uriOf 1) (.here .missing) =
        { path := "items[1].uri", cause := .missing } ∧
      extend "" (uriOf 1) ≠ extend "" (uriOf 11) := by
  have plain (position : Nat) : ∀ step ∈ uriOf position, step.IsPlain ∧ step.IsUnmarked := by
    simp [uriOf, Step.IsPlain, Step.IsUnmarked]
  have apart : uriOf 1 ≠ uriOf 11 := by decide
  refine ⟨plain 1, plain 11, apart, ?_, ?_⟩
  · exact written_alike.1 (uriOf 1) (fun step inside => (plain 1 step inside).1) .missing
  · exact written_alike.2 (uriOf 1) (uriOf 11) (plain 1) (plain 11) apart

end Lexicon
