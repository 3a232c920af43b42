import Lexicon.Naming.Plural
import Lexicon.Proofs.TextLines

/-!
# Lexicon.Proofs.Singulars

The singular of a word, and the name of an item of a list.

Three rules take a word to its singular, each by its ending. The rules lose the
ending, so two plurals may have one singular: `ies` and `ys`, or `es` and `s`
behind a sibilant. The item of a list goes by the singular of the list's name;
where there is none, by the name with an ending of its own, which may be the
singular of yet another name.

## Main definitions

- `Plural.Singular`: a word has a singular, by one of the rules.
- `Plural.itemName`: the name of an item.
- `Plural.Rivals`: two lists whose items have one name.

## Main results

- `Plural.singularize_cases`: a word goes to its singular, or stays as it is.
- `Plural.itemName_eq_iff`: items share a name exactly if the lists are rivals.

## Proof strategy

The last character of a singular tells which rule it comes from, up to the
rivals.
-/

namespace Lexicon

/-! ### Ends of texts -/

namespace Text

variable {s ending : String}

theorem hasEnd_iff : hasEnd ending s = true ↔ ∃ stem, s = stem ++ ending := by
  rw [hasEnd, List.isSuffixOf_iff_suffix]
  constructor
  · rintro ⟨stem, same⟩
    refine ⟨String.ofList stem, String.toList_inj.mp ?_⟩
    rw [String.toList_append, String.toList_ofList, same]
  · rintro ⟨stem, rfl⟩
    exact ⟨stem.toList, String.toList_append.symm⟩

theorem dropEnd?_eq_none_iff : dropEnd? ending s = none ↔ hasEnd ending s = false := by
  unfold dropEnd? hasEnd
  split
  · next ends => simp [ends]
  · next none => simpa only [true_iff, Bool.eq_false_iff] using none

theorem hasEnd_append (ending stem : String) : hasEnd ending (stem ++ ending) = true :=
  hasEnd_iff.mpr ⟨stem, rfl⟩

@[simp] theorem hasEnd_append_append (ending s rest : String) :
    hasEnd (ending ++ rest) (s ++ rest) = hasEnd ending s := by
  rw [Bool.eq_iff_iff, hasEnd_iff, hasEnd_iff]
  constructor
  · rintro ⟨stem, same⟩
    rw [← String.append_assoc] at same
    exact ⟨stem, (String.append_left_inj _).mp same⟩
  · rintro ⟨stem, rfl⟩
    exact ⟨stem, String.append_assoc⟩

/-- The last character of a text. -/
def last? (s : String) : Option Char := s.toList.getLast?

theorem last?_append {rest : String} {c : Char} (last : last? rest = some c) (s : String) :
    last? (s ++ rest) = some c := by
  unfold last? at last ⊢
  rw [String.toList_append, List.getLast?_append, last, Option.some_or]

theorem last?_of_hasEnd {c : Char} (last : last? ending = some c)
    (ends : hasEnd ending s = true) : last? s = some c := by
  obtain ⟨stem, rfl⟩ := hasEnd_iff.mp ends
  exact last?_append last stem

theorem last?_of_append_eq {front rest t : String} {c d : Char} (same : front ++ s = t ++ rest)
    (first : last? front = some d) (second : last? rest = some c) (apart : d ≠ c) :
    last? s = some c := by
  have last : last? (front ++ s) = some c := by rw [same, last?_append second]
  unfold last? at last first ⊢
  rw [String.toList_append, List.getLast?_append, first] at last
  cases own : s.toList.getLast? with
  | none =>
    rw [own] at last
    exact absurd (Option.some.inj last) apart
  | some e =>
    rw [own] at last
    exact last

theorem exists_of_last? {c : Char} (last : last? s = some c) :
    ∃ stem, s = stem ++ String.singleton c := by
  obtain ⟨stem, chars⟩ := List.getLast?_eq_some_iff.mp last
  refine ⟨String.ofList stem, String.toList_inj.mp ?_⟩
  rw [chars, String.toList_append, String.toList_ofList, String.toList_singleton]

/-- A text does not have an end with another last character. -/
theorem hasEnd_eq_false {c d : Char} (last : last? s = some c) (other : last? ending = some d)
    (apart : d ≠ c) : hasEnd ending s = false := by
  rw [Bool.eq_false_iff]
  intro ends
  have same := last.symm.trans (last?_of_hasEnd other ends)
  exact apart (Option.some.inj same).symm

end Text

/-! ### Singulars -/

namespace Plural

open Text (hasEnd last?)

/-- A word has a singular, by one of the rules. -/
inductive Singular : String → String → Prop where
  | ies (stem : String) : Singular (stem ++ "ies") (stem ++ "y")
  | es {word : String} (sibilant : ∃ ending ∈ sibilants, hasEnd ending word = true) :
      Singular (word ++ "es") word
  | s {word : String} (given : word ≠ "") (single : hasEnd "s" word = false)
      (noIe : hasEnd "ie" word = false)
      (noEs : ∀ ending ∈ sibilants, hasEnd (ending ++ "e") word = false) :
      Singular (word ++ "s") word

variable {word plural other : String}

theorem last?_of_sibilant (sibilant : ∃ ending ∈ sibilants, hasEnd ending word = true) :
    ∃ c ∈ ['s', 'x', 'h'], last? word = some c := by
  obtain ⟨ending, listed, ends⟩ := sibilant
  have each : ∀ ending ∈ sibilants, (last? ending).any (['s', 'x', 'h'].contains ·) = true := by
    decide
  obtain ⟨c, last, inside⟩ := (Option.any_eq_true _ _).mp (each ending listed)
  exact ⟨c, List.contains_iff_mem.mp inside, Text.last?_of_hasEnd last ends⟩

/-- A plural by the last rule, where no other one applies. -/
theorem Singular.of_last {c : Char} (last : last? word = some c) (plain : c ∉ ['s', 'e']) :
    Singular (word ++ "s") word := by
  have noE : ∀ ending ∈ sibilants, last? (ending ++ "e") = some 'e' := by decide
  simp only [List.mem_cons, List.not_mem_nil, or_false, not_or] at plain
  refine .s ?_ (Text.hasEnd_eq_false last (d := 's') (by decide) (Ne.symm plain.1))
    (Text.hasEnd_eq_false last (d := 'e') (by decide) (Ne.symm plain.2)) fun ending listed =>
      Text.hasEnd_eq_false last (noE ending listed) (Ne.symm plain.2)
  rintro rfl
  cases last

theorem hasEnd_ies_append_s (word : String) : hasEnd "ies" (word ++ "s") = hasEnd "ie" word := by
  have ies : "ies" = "ie" ++ "s" := by decide
  rw [ies, Text.hasEnd_append_append]

theorem hasEnd_es_append_s (ending word : String) :
    hasEnd (ending ++ "es") (word ++ "s") = hasEnd (ending ++ "e") word := by
  have es : ending ++ "es" = ending ++ "e" ++ "s" := by
    rw [String.append_assoc]
    rfl
  rw [es, Text.hasEnd_append_append]

theorem hasEnd_ies_of_sibilant (sibilant : ∃ ending ∈ sibilants, hasEnd ending word = true) :
    hasEnd "ies" (word ++ "es") = false := by
  obtain ⟨c, inside, last⟩ := last?_of_sibilant sibilant
  have apart : 'i' ≠ c := by
    rintro rfl
    exact absurd inside (by decide)
  have ies : "ies" = "i" ++ "es" := by decide
  rw [ies, Text.hasEnd_append_append]
  exact Text.hasEnd_eq_false last (d := 'i') (by decide) apart

theorem singularize_of_singular (singular : Singular plural word) : singularize plural = word := by
  unfold singularize
  cases singular with
  | ies stem => rw [Text.dropEnd?_append]
  | es sibilant =>
    have noIes : Text.dropEnd? "ies" (word ++ "es") = none :=
      Text.dropEnd?_eq_none_iff.mpr (hasEnd_ies_of_sibilant sibilant)
    have ends : sibilants.any (fun ending => hasEnd (ending ++ "es") (word ++ "es")) = true := by
      simpa only [Text.hasEnd_append_append, List.any_eq_true] using sibilant
    rw [noIes]
    simp only [ends, if_true, Text.dropEnd?_append, Option.getD_some]
  | s given single noIe noEs =>
    have noIes : Text.dropEnd? "ies" (word ++ "s") = none := by
      rwa [Text.dropEnd?_eq_none_iff, hasEnd_ies_append_s]
    have noEnds : sibilants.any (fun ending => hasEnd (ending ++ "es") (word ++ "s")) = false := by
      rw [List.any_eq_false]
      intro ending listed
      rw [hasEnd_es_append_s, noEs ending listed]
      decide
    rw [noIes]
    simp [noEnds, Text.dropEnd?_append, given, single]

/-- A word goes to its singular, or stays as it is. -/
theorem singularize_cases (word : String) :
    Singular word (singularize word) ∨ singularize word = word := by
  -- The rules are tried in order, and a later one takes what the earlier ones leave.
  unfold singularize
  split
  · next stem ends =>
    obtain rfl := Text.dropEnd?_eq_some_iff.mp ends
    exact .inl (.ies stem)
  · next noIes =>
    have noIes := Text.dropEnd?_eq_none_iff.mp noIes
    split
    · next ends =>
      obtain ⟨ending, listed, ends⟩ := List.any_eq_true.mp ends
      obtain ⟨stem, rfl⟩ := Text.hasEnd_iff.mp ends
      rw [← String.append_assoc, Text.dropEnd?_append, Option.getD_some]
      exact .inl (.es ⟨ending, listed, Text.hasEnd_append ending stem⟩)
    · next noEnds =>
      split
      · next stem ends =>
        obtain rfl := Text.dropEnd?_eq_some_iff.mp ends
        split
        · exact .inr rfl
        · next plain =>
          simp only [Bool.or_eq_true, not_or, String.isEmpty_iff, Bool.not_eq_true] at plain
          refine .inl (.s plain.1 plain.2 ?_ fun ending listed => ?_)
          · rwa [hasEnd_ies_append_s] at noIes
          · have none := List.any_eq_false.mp (by simpa using noEnds) ending listed
            rwa [hasEnd_es_append_s, Bool.not_eq_true] at none
      · exact .inr rfl

theorem Singular.ne (singular : Singular plural word) : word ≠ plural := by
  intro same
  have lengths := congrArg String.length same
  cases singular with
  | ies stem =>
    have y : "y".length = 1 := rfl
    have ies : "ies".length = 3 := rfl
    rw [String.length_append, String.length_append] at lengths
    omega
  | es => simp at lengths
  | s => simp at lengths

/-- The word ends in an `s` that is neither double nor all of it. -/
def IsPlural (word : String) : Prop :=
  ∃ stem, word = stem ++ "s" ∧ stem ≠ "" ∧ hasEnd "s" stem = false

theorem exists_singular_iff : (∃ singular, Singular word singular) ↔ IsPlural word := by
  have noS (stem : String) : hasEnd "s" (stem ++ "e") = false :=
    Text.hasEnd_eq_false (Text.last?_append (c := 'e') (by decide) stem) (d := 's')
      (by decide) (by decide)
  constructor
  · rintro ⟨singular, given⟩
    cases given with
    | ies stem =>
      refine ⟨stem ++ "i" ++ "e", ?_, by simp, noS _⟩
      rw [String.append_assoc, String.append_assoc]
      rfl
    | es sibilant =>
      refine ⟨singular ++ "e", ?_, by simp, noS _⟩
      rw [String.append_assoc]
      rfl
    | s given single _ _ => exact ⟨singular, rfl, given, single⟩
  · rintro ⟨stem, rfl, given, single⟩
    -- The end of the stem decides which rule applies.
    by_cases ie : hasEnd "ie" stem = true
    · obtain ⟨front, rfl⟩ := Text.hasEnd_iff.mp ie
      have ies : front ++ "ie" ++ "s" = front ++ "ies" := String.append_assoc
      exact ⟨front ++ "y", ies ▸ .ies front⟩
    · by_cases es : ∃ ending ∈ sibilants, hasEnd (ending ++ "e") stem = true
      · obtain ⟨ending, listed, ends⟩ := es
        obtain ⟨front, rfl⟩ := Text.hasEnd_iff.mp ends
        have es : front ++ (ending ++ "e") ++ "s" = front ++ ending ++ "es" := by
          simp only [String.append_assoc]
          rfl
        exact ⟨front ++ ending, es ▸ .es ⟨ending, listed, Text.hasEnd_append ending front⟩⟩
      · push Not at es
        exact ⟨stem, .s given single (by simpa using ie) (by simpa using es)⟩

theorem singularize_eq_self_iff : singularize word = word ↔ ¬IsPlural word := by
  rw [← exists_singular_iff]
  constructor
  · rintro same ⟨singular, given⟩
    exact given.ne ((singularize_of_singular given).symm.trans same)
  · intro none
    exact (singularize_cases word).resolve_left fun given => none ⟨_, given⟩

/-! ### Items -/

/-- The name of an item of a list. -/
def itemName (plural : String) : String :=
  if singularize plural = plural then plural ++ "_item" else singularize plural

theorem itemName_of_singular (singular : Singular plural word) : itemName plural = word := by
  rw [itemName, singularize_of_singular singular, if_neg singular.ne]

theorem itemName_of_not_isPlural (alone : ¬IsPlural word) : itemName word = word ++ "_item" :=
  if_pos (singularize_eq_self_iff.mpr alone)

theorem itemName_cases (plural : String) :
    Singular plural (itemName plural) ∨
      (¬IsPlural plural ∧ itemName plural = plural ++ "_item") := by
  unfold itemName
  split
  · next same => exact .inr ⟨singularize_eq_self_iff.mp same, rfl⟩
  · next other => exact .inl ((singularize_cases plural).resolve_right other)

theorem Singular.mem_plural (singular : Singular plural word) {c : Char}
    (inside : c ∈ word.toList) :
    c ∈ plural.toList ∨ c = 'y' := by
  cases singular with
  | ies stem =>
    rw [String.toList_append] at inside
    rcases List.mem_append.mp inside with own | ending
    · exact .inl (by rw [String.toList_append]; exact List.mem_append_left _ own)
    · exact .inr (List.mem_singleton.mp ending)
  | es => exact .inl (by rw [String.toList_append]; exact List.mem_append_left _ inside)
  | s => exact .inl (by rw [String.toList_append]; exact List.mem_append_left _ inside)

theorem mem_itemName {c : Char} (inside : c ∈ (itemName plural).toList) :
    c ∈ plural.toList ∨ c ∈ "_itemy".toList := by
  rcases itemName_cases plural with singular | ⟨_, name⟩
  · refine (singular.mem_plural inside).imp_right ?_
    rintro rfl
    decide
  · rw [name, String.toList_append] at inside
    refine (List.mem_append.mp inside).imp_right fun ending => ?_
    exact List.mem_append_left ['y'] ending

/-- Two lists whose items have one name. -/
inductive Rivals : String → String → Prop where
  | ies (stem : String) : Rivals (stem ++ "ies") (stem ++ "ys")
  | es {word : String} (sibilant : ∃ ending ∈ ["x", "ch", "sh"], hasEnd ending word = true) :
      Rivals (word ++ "es") (word ++ "s")
  /-- The name that an item is given instead of a singular is the singular of another list. -/
  | item {word : String} (alone : ¬IsPlural word) : Rivals word (word ++ "_items")

theorem sibilant_of_mem (sibilant : ∃ ending ∈ ["x", "ch", "sh"], hasEnd ending word = true) :
    ∃ ending ∈ sibilants, hasEnd ending word = true := by
  have each : ∀ ending ∈ ["x", "ch", "sh"], ending ∈ sibilants := by decide
  obtain ⟨ending, listed, ends⟩ := sibilant
  exact ⟨ending, each ending listed, ends⟩

theorem Rivals.ne (rivals : Rivals plural other) : plural ≠ other := by
  intro same
  have lengths := congrArg String.length same
  cases rivals with
  | ies stem =>
    have ies : "ies".length = 3 := rfl
    have ys : "ys".length = 2 := rfl
    rw [String.length_append, String.length_append] at lengths
    omega
  | @es word _ =>
    have es : "es".length = 2 := rfl
    have s : "s".length = 1 := rfl
    rw [String.length_append, String.length_append] at lengths
    omega
  | item => simp at lengths

theorem Rivals.itemName_eq (rivals : Rivals plural other) : itemName plural = itemName other := by
  cases rivals with
  | ies stem =>
    have ys : stem ++ "ys" = stem ++ "y" ++ "s" := by
      rw [String.append_assoc]
      rfl
    have last : last? (stem ++ "y") = some 'y' := Text.last?_append (by decide) stem
    rw [itemName_of_singular (.ies stem), ys,
      itemName_of_singular (.of_last last (by decide))]
  | @es word sibilant =>
    have each : ∀ ending ∈ ["x", "ch", "sh"],
        (last? ending).any (fun c => c != 's' && c != 'e') = true := by
      decide
    obtain ⟨ending, listed, ends⟩ := sibilant
    obtain ⟨c, last, other⟩ := (Option.any_eq_true _ _).mp (each ending listed)
    have plain : c ∉ ['s', 'e'] := by simpa using other
    rw [itemName_of_singular (.es (sibilant_of_mem ⟨ending, listed, ends⟩)),
      itemName_of_singular (.of_last (Text.last?_of_hasEnd last ends) plain)]
  | item alone =>
    have items : plural ++ "_items" = plural ++ "_item" ++ "s" := by
      rw [String.append_assoc]
      rfl
    have last : last? (plural ++ "_item") = some 'm' := Text.last?_append (by decide) plural
    rw [itemName_of_not_isPlural alone, items,
      itemName_of_singular (.of_last last (by decide))]

/-- A singular whose last character is no sibilant comes from the last rule, or ends in `y`. -/
theorem Singular.eq_of_last {c : Char} (singular : Singular plural word)
    (last : last? word = some c) (plain : c ∉ ['y', 's', 'x', 'h']) : plural = word ++ "s" := by
  cases singular with
  | ies stem =>
    have y : last? (stem ++ "y") = some 'y' := Text.last?_append (by decide) stem
    obtain rfl := Option.some.inj (y.symm.trans last)
    exact absurd List.mem_cons_self plain
  | es sibilant =>
    obtain ⟨d, inside, same⟩ := last?_of_sibilant sibilant
    obtain rfl := Option.some.inj (same.symm.trans last)
    exact absurd (List.mem_cons_of_mem _ inside) plain
  | s => rfl

/-- Two plurals of one singular are rivals. -/
theorem Singular.rivals (left : Singular plural word) (right : Singular other word) :
    plural = other ∨ Rivals plural other ∨ Rivals other plural := by
  have ys (stem : String) : stem ++ "y" ++ "s" = stem ++ "ys" := String.append_assoc
  -- A word in `y` is no sibilant.
  have apart {stem word : String} (same : stem ++ "y" = word)
      (sibilant : ∃ ending ∈ sibilants, hasEnd ending word = true) : False := by
    obtain ⟨c, inside, last⟩ := last?_of_sibilant sibilant
    rw [← same, Text.last?_append (c := 'y') (by decide) stem] at last
    obtain rfl := Option.some.inj last
    exact absurd inside (by decide)
  -- A sibilant that the last rule takes is another one than `s`.
  have soft {word : String} (sibilant : ∃ ending ∈ sibilants, hasEnd ending word = true)
      (single : hasEnd "s" word = false) :
      ∃ ending ∈ ["x", "ch", "sh"], hasEnd ending word = true := by
    obtain ⟨ending, listed, ends⟩ := sibilant
    rcases List.mem_cons.mp listed with rfl | other
    · rw [single] at ends
      cases ends
    · exact ⟨ending, other, ends⟩
  cases left with
  | ies stem =>
    generalize same : stem ++ "y" = word at right
    cases right with
    | ies other =>
      obtain rfl := (String.append_left_inj _).mp same
      exact .inl rfl
    | es sibilant => exact (apart same sibilant).elim
    | s =>
      rw [← same, ys]
      exact .inr (.inl (.ies stem))
  | es sibilant =>
    cases right with
    | ies stem => exact (apart rfl sibilant).elim
    | es => exact .inl rfl
    | s given single => exact .inr (.inl (.es (soft sibilant single)))
  | s given single =>
    cases right with
    | ies stem =>
      rw [ys]
      exact .inr (.inr (.ies stem))
    | es sibilant => exact .inr (.inr (.es (soft sibilant single)))
    | s => exact .inl rfl

/-- Items share a name exactly if the lists do, or are rivals. -/
theorem itemName_eq_iff :
    itemName plural = itemName other ↔
      plural = other ∨ Rivals plural other ∨ Rivals other plural := by
  have item {word plural : String} (singular : Singular plural (word ++ "_item"))
      (alone : ¬IsPlural word) : Rivals word plural := by
    have last : last? (word ++ "_item") = some 'm' := Text.last?_append (by decide) word
    have items : word ++ "_item" ++ "s" = word ++ "_items" := String.append_assoc
    rw [singular.eq_of_last last (by decide), items]
    exact .item alone
  constructor
  · intro same
    rcases itemName_cases plural with left | ⟨alone, name⟩
    · rcases itemName_cases other with right | ⟨alone, name⟩
      · exact left.rivals (same ▸ right)
      · rw [same, name] at left
        exact .inr (.inr (item left alone))
    · rcases itemName_cases other with right | ⟨_, otherName⟩
      · rw [← same, name] at right
        exact .inr (.inl (item right alone))
      · rw [name, otherName] at same
        exact .inl ((String.append_left_inj _).mp same)
  · rintro (rfl | rivals | rivals)
    · rfl
    · exact rivals.itemName_eq
    · exact rivals.itemName_eq.symm

-- All three kinds of rivals.
example : itemName "replies" = itemName "replys" ∧ itemName "boxes" = itemName "boxs" ∧
    itemName "tag" = itemName "tag_items" := by
  decide

end Plural

end Lexicon
