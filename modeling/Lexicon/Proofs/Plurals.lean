import Lexicon.Proofs.Singulars

/-!
# Lexicon.Proofs.Plurals

The plural of a word, and the way back from it.

One rule makes a plural and one takes it back, and each goes by an ending of
its own. The way back is lost where the last rule has put an `s` behind a word
in `e` and made an ending of another rule that way.

## Main definitions

- `Plural.PluralOf`: the plural of a word, by one of the rules.
- `Plural.lostEndings`: the endings of words that are not found again.

## Main result

`Plural.singularize_pluralize_iff`: the words that are the singular of their
plural.

## Proof strategy

A plural by one of the first two rules has the singular it was made of. For the
last rule the question is whether the plural has its singular by the last rule
too, and that rule says by itself which words it leaves to the others.
-/

namespace Lexicon

namespace Plural

open Text (hasEnd last?)

variable {word plural : String}

/-- The plural of a word, by the first rule that there is for its end. -/
inductive PluralOf : String → String → Prop where
  | ies (stem : String) : PluralOf (stem ++ "y") (stem ++ "ies")
  | es {word : String} (sibilant : ∃ ending ∈ sibilants, hasEnd ending word = true) :
      PluralOf word (word ++ "es")
  | s {word : String} (noY : hasEnd "y" word = false)
      (hard : ∀ ending ∈ sibilants, hasEnd ending word = false) : PluralOf word (word ++ "s")

theorem pluralOf_pluralize (word : String) : PluralOf word (pluralize word) := by
  unfold pluralize
  split
  next stem ends =>
    obtain rfl := Text.dropEnd?_eq_some_iff.mp ends
    exact .ies stem
  next noY =>
    split
    next soft =>
      apply PluralOf.es
      simpa using soft
    next hard =>
      apply PluralOf.s (Text.dropEnd?_eq_none_iff.mp noY)
      simpa using hard

/-- The endings of words that are not found again: with an `s` they end like a plural by another
rule. -/
def lostEndings : List String := ["ie", "se", "xe", "che", "she"]

theorem last?_of_mem_lostEndings : ∀ ending ∈ lostEndings, last? ending = some 'e' := by
  decide

/-- Nothing is lost of a word that does not end in `e`. -/
theorem hasEnd_of_mem_lostEndings {c : Char} (last : last? word = some c) (other : c ≠ 'e') :
    ∀ ending ∈ lostEndings, hasEnd ending word = false := by
  intro ending listed
  exact Text.hasEnd_eq_false last (last?_of_mem_lostEndings ending listed) other.symm

theorem ne_empty_of_last? {c : Char} (last : last? word = some c) : word ≠ "" := by
  rintro rfl
  cases last

/-- The last rule has made the plural of a word that it gives back. -/
theorem singular_append_s_iff (noY : hasEnd "y" word = false)
    (hard : ∀ ending ∈ sibilants, hasEnd ending word = false) :
    Singular (word ++ "s") word ↔
      word ≠ "" ∧ ∀ ending ∈ lostEndings, hasEnd ending word = false := by
  have endings : lostEndings = "ie" :: sibilants.map (· ++ "e") := by decide
  rw [endings, List.forall_mem_cons, List.forall_mem_map]
  constructor
  · intro singular
    generalize same : word ++ "s" = plural at singular
    cases singular with
    | ies stem =>
      rw [Text.hasEnd_append] at noY
      cases noY
    | es sibilant =>
      have ends : "s" = "es" := (String.append_right_inj _).mp same
      exact absurd ends (by decide)
    | s given _ noIe noEs => exact ⟨given, noIe, noEs⟩
  · rintro ⟨given, noIe, noEs⟩
    exact .s given (hard "s" (by decide)) noIe noEs

/-- A word is the singular of its plural, unless it is empty or ends in a way that is lost. -/
theorem singularize_pluralize_iff (word : String) :
    singularize (pluralize word) = word ↔
      word ≠ "" ∧ ∀ ending ∈ lostEndings, hasEnd ending word = false := by
  have made := pluralOf_pluralize word
  generalize pluralize word = plural at made
  cases made with
  | ies stem =>
    have last : last? (stem ++ "y") = some 'y' := Text.last?_append (by decide) stem
    have back := singularize_of_singular (.ies stem)
    simp only [back, true_iff]
    exact ⟨ne_empty_of_last? last, hasEnd_of_mem_lostEndings last (by decide)⟩
  | es sibilant =>
    obtain ⟨c, inside, last⟩ := last?_of_sibilant sibilant
    have back := singularize_of_singular (.es sibilant)
    have other : c ≠ 'e' := by
      rintro rfl
      exact absurd inside (by decide)
    simp only [back, true_iff]
    exact ⟨ne_empty_of_last? last, hasEnd_of_mem_lostEndings last other⟩
  | s noY hard =>
    rw [← singular_append_s_iff noY hard]
    constructor
    · intro back
      -- The plural is longer than the word, so it has not stayed as it is.
      rcases singularize_cases (word ++ "s") with singular | same
      · rwa [back] at singular
      · have lengths := congrArg String.length (back.symm.trans same)
        simp at lengths
    · exact singularize_of_singular

-- A word that ends in a way that is lost, with its plural, and what that goes back to.
example : pluralize "cookie" = "cookies" ∧ singularize "cookies" = "cooky" := by
  decide

end Plural

end Lexicon
