import Lexicon.Proofs.NsidText

/-!
# Lexicon.Proofs.NsidCharacters

The characters of identifiers.

Labels and names are made of ASCII letters and digits, and labels of hyphens as
well.

## Main results

- `Nsid.chars_of_label`, `Nsid.chars_of_isName`: the characters of the parts.
- `Nsid.blank_notMem_text`, `Reference.blank_notMem_of_parse`: identifiers of
  documents and references hold no blank.
-/

namespace Lexicon

namespace Nsid

variable {id : Nsid}

theorem chars_of_label {label : String} (sound : Label.defect? label = none) :
    (∀ c ∈ label.toList, Text.isAsciiAlphanumeric c = true ∨ c = '-') ∧
      ∃ c ∈ label.toList, Text.isAsciiAlphanumeric c = true := by
  unfold Label.defect? at sound
  split at sound
  · cases sound
  next given =>
  split at sound
  · cases sound
  split at sound
  · cases sound
  next hyphens =>
  split at sound
  next all =>
    have chars : ∀ c ∈ label.toList, Text.isAsciiAlphanumeric c = true ∨ c = '-' := by
      intro c inside
      simpa using List.all_eq_true.mp all c inside
    refine ⟨chars, ?_⟩
    -- The first character is no hyphen.
    cases first : label.toList with
    | nil => exact absurd (String.toList_eq_nil_iff.mp first) (by simpa using given)
    | cons c rest =>
      have notHyphen : c ≠ '-' := by
        rintro rfl
        exact hyphens (by simp [first])
      have inside : c ∈ label.toList := first ▸ List.mem_cons_self
      exact ⟨c, List.mem_cons_self, (chars c inside).resolve_right notHyphen⟩
  · cases sound

theorem chars_of_isName {name : String} (sound : Label.isName name = true) :
    (∀ c ∈ name.toList, Text.isAsciiAlphanumeric c = true) ∧ name.toList ≠ [] := by
  unfold Label.isName at sound
  split at sound
  · cases sound
  next c rest chars =>
    obtain ⟨letter, others⟩ := Bool.and_eq_true_iff.mp sound
    rw [chars]
    refine ⟨fun d inside => ?_, nofun⟩
    rcases List.mem_cons.mp inside with rfl | inside
    · rw [Text.isAsciiAlphanumeric, letter, Bool.true_or]
    · exact List.all_eq_true.mp others d inside

theorem label_of_parse {text : String} (parsed : parse text = .ok id) {label : String}
    (inside : label ∈ id.labels) : Label.defect? label = none := by
  obtain ⟨_, document, fragment, parts⟩ := parse_eq_ok_iff.mp parsed
  have none := List.findSome?_eq_none_iff.mp parts.labelled label inside
  exact Option.map_eq_none_iff.mp none

theorem name_of_parse {text : String} (parsed : parse text = .ok id) :
    Label.isName id.name = true := by
  obtain ⟨_, document, fragment, parts⟩ := parse_eq_ok_iff.mp parsed
  exact parts.named

theorem blank_notMem_of_isName {name : String} (sound : Label.isName name = true) :
    ' ' ∉ name.toList := fun blank =>
  absurd ((chars_of_isName sound).1 ' ' blank) (by decide)

theorem blank_notMem_baseText {text : String} (parsed : parse text = .ok id) :
    ' ' ∉ id.baseText.toList := by
  intro blank
  rw [baseText] at blank
  rcases Text.mem_intercalate blank with dot | ⟨piece, listed, inside⟩
  · exact absurd dot (by decide)
  · rcases List.mem_append.mp listed with label | name
    · rcases (chars_of_label (label_of_parse parsed label)).1 ' ' inside with letter | hyphen
      · exact absurd letter (by decide)
      · exact absurd hyphen (by decide)
    · obtain rfl := List.mem_singleton.mp name
      exact blank_notMem_of_isName (name_of_parse parsed) inside

theorem blank_notMem_text {text : String} (parsed : parse text = .ok id)
    (main : id.fragment = none) : ' ' ∉ id.text.toList := by
  rw [Nsid.text, main]
  exact blank_notMem_baseText parsed

/-- A text that reads as an identifier holds no blank. -/
theorem blank_notMem_of_parse {text : String} (parsed : parse text = .ok id) :
    ' ' ∉ text.toList := by
  intro blank
  obtain ⟨_, document, fragment, parts⟩ := parse_eq_ok_iff.mp parsed
  rcases Text.mem_of_cutAt parts.cut blank with before | mark | ⟨rest, rfl, behind⟩
  · exact blank_notMem_baseText parsed (parts.baseText_eq ▸ before)
  · exact absurd mark (by decide)
  · by_cases main : rest = mainDefinition
    · rw [main] at behind
      exact absurd behind (by decide)
    · have kept := (parseFragment_eq_ok_iff.mp parts.fragment).1
      rw [dropMain_of_ne main] at kept
      exact blank_notMem_of_isName (isName_of_fragment parsed kept).1 behind

end Nsid

/-- A reference that can be read holds no blank. -/
theorem Reference.blank_notMem_of_parse {text : String} {target : Reference}
    (parsed : parse text = .ok target) : ' ' ∉ text.toList := by
  cases target with
  | external id => exact Nsid.blank_notMem_of_parse (parse_eq_external_iff.mp parsed)
  | fragment name =>
    obtain ⟨rfl, named⟩ := parse_eq_fragment_iff.mp parsed
    have absent := Nsid.blank_notMem_of_isName named
    simpa using absent

end Lexicon
