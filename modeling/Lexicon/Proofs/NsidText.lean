import Mathlib.Data.List.TakeWhile
import Lexicon.Identifier.Reference
import Lexicon.Proofs.TextLines

/-!
# Lexicon.Proofs.NsidText

Writing an identifier and reading it back.

Only reading makes identifiers, so each one has been read from some text. What
is written for it differs from that text by a dropped `#main` at most, and
reads as the same identifier.

## Main results

- `Text.joinAt_cutAt`, `Text.cutAt_joinAt`: cutting a text and joining the parts.
- `Nsid.parse_eq_ok_iff`: the parts that an identifier is read from.
- `Nsid.parseFragment_eq_ok_iff`, `Nsid.withFragment_eq_ok_iff`: the name of the
  main definition is no fragment.
- `Nsid.parse_text`: an identifier reads back from what is written for it.
- `Reference.parse_eq_fragment_iff`, `Reference.parse_eq_external_iff`: the two
  forms of references.
-/

namespace Lexicon

/-! ### Cutting and splitting -/

namespace Text

variable {separator : Char} {s before : String} {after : Option String}

theorem notMem_of_cutAt (cut : cutAt separator s = (before, after)) :
    separator ∉ before.toList := by
  have taken : before = String.ofList (s.toList.takeWhile (· != separator)) := by
    unfold cutAt at cut
    split at cut <;> exact (congrArg Prod.fst cut).symm
  intro inside
  rw [taken, String.toList_ofList] at inside
  simpa using List.mem_takeWhile_imp inside

theorem cutAt_of_notMem (absent : separator ∉ before.toList) :
    cutAt separator before = (before, none) := by
  have all : ∀ c ∈ before.toList, (c != separator) = true := by
    intro c inside
    exact bne_iff_ne.mpr fun same => absent (same ▸ inside)
  unfold cutAt
  rw [List.takeWhile_eq_self_iff.mpr all, List.dropWhile_eq_nil_iff.mpr all]
  dsimp only
  rw [String.ofList_toList]

theorem cutAt_append (absent : separator ∉ before.toList) (rest : String) :
    cutAt separator (before ++ String.singleton separator ++ rest) = (before, some rest) := by
  have all : ∀ c ∈ before.toList, (c != separator) = true := by
    intro c inside
    exact bne_iff_ne.mpr fun same => absent (same ▸ inside)
  have cs : (before ++ String.singleton separator ++ rest).toList =
      before.toList ++ separator :: rest.toList := by simp
  unfold cutAt
  rw [cs, List.takeWhile_append_of_pos all, List.dropWhile_append_of_pos all]
  simp

/-- The text that is cut into the given parts. -/
def joinAt (separator : Char) (parts : String × Option String) : String :=
  match parts.2 with
  | none => parts.1
  | some after => parts.1 ++ String.singleton separator ++ after

theorem cutAt_joinAt {parts : String × Option String} (absent : separator ∉ parts.1.toList) :
    cutAt separator (joinAt separator parts) = parts := by
  obtain ⟨before, after⟩ := parts
  cases after with
  | none => exact cutAt_of_notMem absent
  | some after => exact cutAt_append absent after

theorem joinAt_cutAt (separator : Char) (s : String) :
    joinAt separator (cutAt separator s) = s := by
  have whole : s.toList.takeWhile (· != separator) ++ s.toList.dropWhile (· != separator) =
      s.toList := List.takeWhile_append_dropWhile
  apply String.toList_inj.mp
  unfold cutAt
  split
  · next none =>
    rw [none, List.append_nil] at whole
    simpa [joinAt] using whole
  · next first after rest =>
    have mark : first = separator := by
      have stops := List.head_dropWhile_not (· != separator) (l := s.toList) (by simp [rest])
      simpa [rest] using stops
    rw [rest, mark] at whole
    simpa [joinAt] using whole

/-- A character of a text stands before the cut, at it or behind it. -/
theorem mem_of_cutAt (cut : cutAt separator s = (before, after)) {c : Char}
    (inside : c ∈ s.toList) :
    c ∈ before.toList ∨ c = separator ∨ ∃ rest, after = some rest ∧ c ∈ rest.toList := by
  rw [← joinAt_cutAt separator s, cut] at inside
  cases after with
  | none => exact .inl inside
  | some rest => simpa [joinAt] using inside

/-- The pieces of a text joined by the separator are the text. -/
theorem intercalate_splitOn (separator : Char) (s : String) :
    String.intercalate (String.singleton separator) (splitOn separator s) = s := by
  apply String.toList_inj.mp
  rw [String.toList_intercalate]
  simp [splitOn, Function.comp_def, List.intercalate_splitOn]

end Text

/-! ### Identifiers -/

namespace Nsid

/-- The parts of a text that is an identifier. -/
structure ReadFrom (id : Nsid) (text document : String) (fragment : Option String) : Prop where
  cut : Text.cutAt '#' text = (document, fragment)
  short : document.utf8ByteSize ≤ maxLength
  many : 3 ≤ (Text.splitOn '.' document).length
  labels : id.labels = (Text.splitOn '.' document).dropLast
  labelled : badLabel? id.labels = none
  name : id.name = (Text.splitOn '.' document).getLastD ""
  named : Label.isName id.name = true
  fragment : parseFragment text fragment = .ok id.fragment

/-- Each check that passes gives one of the parts. -/
theorem readFrom_of_parse {text : String} {id : Nsid} (parsed : parse text = .ok id) :
    text ≠ "" ∧ ∃ document fragment, id.ReadFrom text document fragment := by
  unfold parse at parsed
  split at parsed
  · cases parsed
  next given =>
  rcases cut : Text.cutAt '#' text with ⟨document, fragment⟩
  rw [cut] at parsed
  dsimp only at parsed
  split at parsed
  · cases parsed
  next short =>
  split at parsed
  · cases parsed
  next many =>
  split at parsed
  · cases parsed
  next labelled =>
  split at parsed
  next named =>
    cases read : parseFragment text fragment with
    | error reason => simp [read, bind, Except.bind] at parsed
    | ok rest =>
      simp only [read, bind, Except.bind, Except.ok.injEq] at parsed
      subst parsed
      exact ⟨by simpa using given, document, fragment, cut, by omega, by omega, rfl, labelled,
        rfl, named, read⟩
  · cases parsed

theorem parse_of_readFrom {text document : String} {fragment : Option String} {id : Nsid}
    (parts : id.ReadFrom text document fragment) (given : text ≠ "") : parse text = .ok id := by
  unfold parse
  rw [if_neg (by simpa using given), parts.cut]
  dsimp only
  rw [if_neg (Nat.not_lt.mpr parts.short), if_neg (Nat.not_lt.mpr parts.many), ← parts.labels,
    parts.labelled, ← parts.name]
  dsimp only
  rw [if_pos parts.named, parts.fragment]
  rfl

theorem parse_eq_ok_iff {text : String} {id : Nsid} :
    parse text = .ok id ↔ text ≠ "" ∧ ∃ document fragment, id.ReadFrom text document fragment := by
  constructor
  · exact readFrom_of_parse
  · rintro ⟨given, document, fragment, parts⟩
    exact parse_of_readFrom parts given

/-- What is left of a fragment when the main definition goes without one. -/
def dropMain (fragment : Option String) : Option String := fragment.filter (· ≠ mainDefinition)

@[simp] theorem dropMain_main : dropMain (some mainDefinition) = none :=
  Option.filter_some_neg (by simp)

theorem dropMain_of_ne {name : String} (different : name ≠ mainDefinition) :
    dropMain (some name) = some name :=
  Option.filter_some_pos (by simpa using different)

theorem dropMain_eq_some_iff {fragment : Option String} {name : String} :
    dropMain fragment = some name ↔ fragment = some name ∧ name ≠ mainDefinition := by
  simp [dropMain, Option.filter_eq_some_iff]

theorem dropMain_dropMain (fragment : Option String) :
    dropMain (dropMain fragment) = dropMain fragment := by
  simp [dropMain]

/-- Reading a fragment drops the name of the main definition, and all that is left is a name. -/
theorem parseFragment_eq_ok_iff {value : String} {fragment rest : Option String} :
    parseFragment value fragment = .ok rest ↔
      rest = dropMain fragment ∧ ∀ name, rest = some name → Label.isName name = true := by
  have known : ∀ found : Option String, (∀ name, found = some name → Label.isName name = true) →
      ((.ok found : Except IdentifierError (Option String)) = .ok rest ↔
        rest = found ∧ ∀ name, rest = some name → Label.isName name = true) := by
    intro found sound
    rw [Except.ok.injEq]
    constructor
    · rintro rfl
      exact ⟨rfl, sound⟩
    · exact fun given => given.1.symm
  unfold parseFragment
  split
  · exact known none nofun
  · next name =>
    by_cases main : name = mainDefinition
    · rw [if_pos main, main, dropMain_main]
      exact known none nofun
    · rw [if_neg main, dropMain_of_ne main]
      by_cases named : Label.isName name = true
      · rw [if_pos named]
        exact known (some name) fun other same => Option.some.inj same ▸ named
      · rw [if_neg named]
        exact ⟨nofun, fun given => absurd (given.2 name given.1) named⟩

/-- A name is made the fragment of an identifier if it has the shape of a name. -/
theorem withFragment_eq_ok_iff {id other : Nsid} {name : String} :
    id.withFragment name = .ok other ↔
      Label.isName name = true ∧ other = { id with fragment := dropMain (some name) } := by
  unfold withFragment
  by_cases main : name = mainDefinition
  · have named : Label.isName mainDefinition = true := by decide
    rw [if_pos main, Except.ok.injEq, main, dropMain_main, eq_comm]
    exact (and_iff_right named).symm
  · rw [if_neg main, dropMain_of_ne main]
    by_cases named : Label.isName name = true
    · rw [if_pos named, Except.ok.injEq, eq_comm]
      exact (and_iff_right named).symm
    · rw [if_neg named]
      exact ⟨nofun, fun given => absurd given.1 named⟩

theorem text_eq_joinAt (id : Nsid) : id.text = Text.joinAt '#' (id.baseText, id.fragment) := by
  cases h : id.fragment <;> simp only [Nsid.text, h] <;> rfl

variable {id : Nsid} {text document : String} {fragment : Option String}

/-- The document part is written as it was read. -/
theorem ReadFrom.baseText_eq (parts : id.ReadFrom text document fragment) :
    id.baseText = document := by
  have some : Text.splitOn '.' document ≠ [] := by
    intro none
    have many := parts.many
    simp [none] at many
  have segments : id.labels ++ [id.name] = Text.splitOn '.' document := by
    rw [parts.labels, parts.name, List.getLastD_eq_getLast?, List.getLast?_eq_some_getLast some]
    exact List.dropLast_concat_getLast some
  rw [baseText, segments]
  exact Text.intercalate_splitOn '.' document

theorem ReadFrom.cut_text (parts : id.ReadFrom text document fragment) :
    Text.cutAt '#' id.text = (document, id.fragment) := by
  rw [text_eq_joinAt, parts.baseText_eq]
  exact Text.cutAt_joinAt (Text.notMem_of_cutAt parts.cut)

theorem ReadFrom.document_ne_empty (parts : id.ReadFrom text document fragment) :
    document ≠ "" := by
  rintro rfl
  exact absurd parts.many (by decide)

/-- An identifier reads back from what is written for it. -/
theorem parse_text (parsed : parse text = .ok id) : parse id.text = .ok id := by
  obtain ⟨_, document, fragment, parts⟩ := parse_eq_ok_iff.mp parsed
  refine parse_eq_ok_iff.mpr ⟨?_, document, id.fragment,
    { parts with cut := parts.cut_text, fragment := ?_ }⟩
  · intro empty
    -- The empty text has an empty document part, which has too few segments.
    have cut := parts.cut_text
    rw [empty] at cut
    exact parts.document_ne_empty (congrArg Prod.fst cut).symm
  · obtain ⟨kept, named⟩ := parseFragment_eq_ok_iff.mp parts.fragment
    rw [parseFragment_eq_ok_iff]
    exact ⟨by rw [kept, dropMain_dropMain], named⟩

/-- The fragment of an identifier is the name of another definition than the main one. -/
theorem isName_of_fragment {name : String} (parsed : parse text = .ok id)
    (named : id.fragment = some name) : Label.isName name = true ∧ name ≠ mainDefinition := by
  obtain ⟨_, document, fragment, parts⟩ := parse_eq_ok_iff.mp parsed
  obtain ⟨kept, sound⟩ := parseFragment_eq_ok_iff.mp parts.fragment
  exact ⟨sound name named, (dropMain_eq_some_iff.mp (kept.symm.trans named)).2⟩

/-- A definition of a document reads back from its name behind the document. -/
theorem parse_baseText_append {name : String} {other : Nsid} (parsed : parse text = .ok id)
    (given : id.withFragment name = .ok other) :
    parse (id.baseText ++ "#" ++ name) = .ok other := by
  obtain ⟨_, document, fragment, parts⟩ := parse_eq_ok_iff.mp parsed
  rw [parts.baseText_eq]
  have cut : Text.cutAt '#' (document ++ "#" ++ name) = (document, some name) :=
    Text.cutAt_append (Text.notMem_of_cutAt parts.cut) name
  obtain ⟨named, rfl⟩ := withFragment_eq_ok_iff.mp given
  refine parse_eq_ok_iff.mpr ⟨by simp, document, some name, { parts with cut, fragment := ?_ }⟩
  refine parseFragment_eq_ok_iff.mpr ⟨rfl, fun kept (same : dropMain (some name) = some kept) => ?_⟩
  obtain ⟨⟨⟩, _⟩ := dropMain_eq_some_iff.mp same
  exact named

/-- The document of an identifier that has been read reads as well, and so do its definitions. -/
theorem parse_base (parsed : ∃ text, parse text = .ok id) : ∃ text, parse text = .ok id.base := by
  obtain ⟨text, parsed⟩ := parsed
  obtain ⟨_, start, fragment, parts⟩ := parse_eq_ok_iff.mp parsed
  have cut := Text.cutAt_of_notMem (Text.notMem_of_cutAt parts.cut)
  exact ⟨start, parse_eq_ok_iff.mpr ⟨parts.document_ne_empty, start, none,
    { parts with cut, fragment := rfl }⟩⟩

theorem parse_withFragment {document : Nsid} {name : String}
    (parsed : ∃ text, parse text = .ok document)
    (given : document.withFragment name = .ok id) : ∃ text, parse text = .ok id := by
  obtain ⟨text, parsed⟩ := parsed
  exact ⟨_, parse_baseText_append parsed given⟩

end Nsid

/-! ### References -/

namespace Reference

variable {text name : String} {id : Nsid}

/-- A reference inside a document is a name behind the mark. -/
theorem parse_eq_fragment_iff : parse text = .ok (.fragment name) ↔
    text = "#" ++ name ∧ Label.isName name = true := by
  constructor
  · intro parsed
    unfold parse at parsed
    split at parsed
    · next rest behind =>
      split at parsed
      · next named =>
        cases parsed
        exact ⟨Text.dropStart?_eq_some_iff.mp behind, named⟩
      · cases parsed
    · cases read : Nsid.parse text <;> simp [read, Except.map] at parsed
  · rintro ⟨rfl, named⟩
    rw [parse, Text.dropStart?_append]
    exact if_pos named

/-- Any other reference is an identifier. -/
theorem parse_eq_external_iff : parse text = .ok (.external id) ↔ Nsid.parse text = .ok id := by
  constructor
  · intro parsed
    unfold parse at parsed
    split at parsed
    · split at parsed <;> cases parsed
    · cases read : Nsid.parse text with
      | error reason => simp [read, Except.map] at parsed
      | ok other => simpa [read, Except.map] using parsed
  · intro parsed
    have marked : Text.dropStart? "#" text = none := by
      obtain ⟨_, document, fragment, parts⟩ := Nsid.parse_eq_ok_iff.mp parsed
      -- Nothing would be left for the document in front of the mark.
      by_contra marked
      obtain ⟨rest, behind⟩ := Option.ne_none_iff_exists'.mp marked
      have cut : Text.cutAt '#' ("" ++ "#" ++ rest) = ("", some rest) :=
        Text.cutAt_append (by simp) rest
      obtain rfl : text = "" ++ "#" ++ rest := by
        rw [Text.dropStart?_eq_some_iff.mp behind, String.empty_append]
      exact parts.document_ne_empty (congrArg Prod.fst (parts.cut.symm.trans cut))
    simp only [parse, marked, parsed, Except.map]

end Reference

end Lexicon
