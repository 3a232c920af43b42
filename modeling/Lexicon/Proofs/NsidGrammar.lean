import Lexicon.Proofs.NormalReferences

/-!
# Lexicon.Proofs.NsidGrammar

The grammar of identifiers.

A text is an identifier if it is spelled from labels, a name and perhaps a
fragment. The grammar says nothing of how a text is cut, or of which rule is
checked first.

## Main definitions

- `Label.IsDomainLabel`, `Label.IsNameShape`: the two shapes of parts.
- `Nsid.Spells`: a text is spelled from parts.
- `Nsid.Reachable`: an identifier that can be made from identifiers that were
  read.

## Main result

`Nsid.grammar_and_identity`: the texts that can be read are those of the grammar, and an
identifier, however it was made, is known by its text.

## Proof strategy

No part holds a separator, so cutting and joining are inverse to each other and
the parts of the grammar are the parts that reading finds. All ways to make an
identifier end in one that could have been read.
-/

namespace Lexicon

/-! ### Parts -/

namespace Text

theorem utf8Size_of_isAsciiAlphanumeric {c : Char} (ascii : isAsciiAlphanumeric c = true) :
    c.utf8Size = 1 := by
  simp only [isAsciiAlphanumeric, isAsciiLetter, isAsciiLower, isAsciiUpper, isAsciiDigit,
    Bool.or_eq_true, Bool.and_eq_true, decide_eq_true_eq] at ascii
  have below : c ≤ 'z' := by
    rcases ascii with (⟨_, lower⟩ | ⟨_, upper⟩) | ⟨_, digit⟩
    · exact lower
    · exact Char.le_trans upper (by decide)
    · exact Char.le_trans digit (by decide)
  exact Char.utf8Size_eq_one_iff.mpr (UInt32.le_trans below (by decide))

/-- A text of characters of one byte has as many bytes as characters. -/
theorem utf8ByteSize_eq_length {s : String} (single : ∀ c ∈ s.toList, c.utf8Size = 1) :
    s.utf8ByteSize = s.length := by
  have general : ∀ cs : List Char, (∀ c ∈ cs, c.utf8Size = 1) →
      (String.ofList cs).utf8ByteSize = cs.length := by
    intro cs single
    induction cs with
    | nil => rfl
    | cons c cs ih =>
      obtain ⟨first, rest⟩ := List.forall_mem_cons.mp single
      rw [String.ofList_cons, String.utf8ByteSize_append, String.utf8ByteSize_singleton, first,
        ih rest, List.length_cons, Nat.add_comm]
  have counted := general s.toList single
  rwa [String.ofList_toList, String.length_toList] at counted

end Text

namespace Label

/-- A domain label: ASCII letters, digits and inner hyphens, 1 to 63 of them. -/
structure IsDomainLabel (label : String) : Prop where
  given : 1 ≤ label.length
  short : label.length ≤ 63
  characters : ∀ c ∈ label.toList, Text.isAsciiAlphanumeric c = true ∨ c = '-'
  starts : label.toList.head? ≠ some '-'
  ends : label.toList.getLast? ≠ some '-'

/-- The shape of names and fragments: an ASCII letter, then ASCII letters and digits. -/
def IsNameShape (name : String) : Prop :=
  ∃ first rest, name.toList = first :: rest ∧ Text.isAsciiLetter first = true ∧
    ∀ c ∈ rest, Text.isAsciiAlphanumeric c = true

theorem defect?_eq_none_iff {label : String} : defect? label = none ↔ IsDomainLabel label := by
  -- Labels are measured in bytes, of which an ASCII character has one.
  have bytes : (∀ c ∈ label.toList, Text.isAsciiAlphanumeric c = true ∨ c = '-') →
      label.utf8ByteSize = label.length := fun characters =>
    Text.utf8ByteSize_eq_length fun c inside =>
      (characters c inside).elim Text.utf8Size_of_isAsciiAlphanumeric (fun hyphen => hyphen ▸ rfl)
  have given : label.isEmpty = false ↔ 1 ≤ label.length := by
    rw [Nat.one_le_iff_ne_zero, ← String.length_toList, ne_eq, List.length_eq_zero_iff,
      String.toList_eq_nil_iff, ← String.isEmpty_iff, Bool.not_eq_true]
  have all : (label.toList.all fun c => Text.isAsciiAlphanumeric c || c == '-') = true ↔
      ∀ c ∈ label.toList, Text.isAsciiAlphanumeric c = true ∨ c = '-' := by
    simp only [List.all_eq_true, Bool.or_eq_true, beq_iff_eq]
  constructor
  · intro sound
    have characters := (Nsid.chars_of_label sound).1
    unfold defect? at sound
    split at sound
    · cases sound
    next some =>
    split at sound
    · cases sound
    next short =>
    split at sound
    · cases sound
    next outer =>
    obtain ⟨starts, ends⟩ : label.toList.head? ≠ Option.some '-' ∧
        label.toList.getLast? ≠ Option.some '-' := by simpa using outer
    rw [bytes characters] at short
    exact ⟨given.mp (Bool.eq_false_iff.mpr some), Nat.not_lt.mp short, characters, starts, ends⟩
  · intro sound
    have short : ¬maxLength < label.utf8ByteSize :=
      bytes sound.characters ▸ Nat.not_lt.mpr sound.short
    unfold defect?
    rw [if_neg (Bool.eq_false_iff.mp (given.mpr sound.given)), if_neg short,
      if_neg (by simp [sound.starts, sound.ends]), if_pos (all.mpr sound.characters)]

theorem isName_iff {name : String} : isName name = true ↔ IsNameShape name := by
  unfold isName IsNameShape
  cases name.toList with
  | nil => simp
  | cons first rest => simp

end Label

/-! ### Texts -/

namespace Nsid

open Label (IsDomainLabel IsNameShape)

/-- The document part that labels and a name are joined to. -/
def joined (labels : List String) (name : String) : String :=
  String.intercalate "." (labels ++ [name])

/-- A text is spelled from labels, a name and perhaps a fragment. -/
structure Spells (text : String) (labels : List String) (name : String)
    (fragment : Option String) : Prop where
  many : 2 ≤ labels.length
  labelled : ∀ label ∈ labels, IsDomainLabel label
  named : IsNameShape name
  short : (joined labels name).utf8ByteSize ≤ 317
  behind : ∀ other, fragment = some other → IsNameShape other
  written : text = Text.joinAt '#' (joined labels name, fragment)

variable {text name document : String} {labels : List String} {fragment : Option String}
  {id other : Nsid}

/-- The characters that separate parts stand in no part. -/
theorem separator_notMem {separator : Char} (mark : separator = '.' ∨ separator = '#')
    (each : ∀ label ∈ labels, IsDomainLabel label) (named : IsNameShape name) :
    ∀ piece ∈ labels ++ [name], separator ∉ piece.toList := by
  intro piece listed inside
  have foreign : Text.isAsciiAlphanumeric separator = false ∧ separator ≠ '-' := by
    rcases mark with rfl | rfl <;> decide
  rcases List.mem_append.mp listed with label | last
  · rcases (each piece label).characters separator inside with letter | hyphen
    · exact absurd letter (by simp [foreign.1])
    · exact foreign.2 hyphen
  · obtain rfl := List.mem_singleton.mp last
    have letter := (chars_of_isName (Label.isName_iff.mpr named)).1 separator inside
    exact absurd letter (by simp [foreign.1])

theorem mark_notMem_of_isNameShape (named : IsNameShape name) : '#' ∉ name.toList :=
  separator_notMem (.inr rfl) (List.forall_mem_nil _) named name (List.mem_singleton_self name)

namespace Spells

theorem mark_notMem (spells : Spells text labels name fragment) :
    '#' ∉ (joined labels name).toList := by
  intro mark
  rcases Text.mem_intercalate mark with dot | ⟨piece, listed, inside⟩
  · exact absurd dot (by decide)
  · exact separator_notMem (.inr rfl) spells.labelled spells.named piece listed inside

/-- Reading finds the parts that a text is spelled from. -/
theorem readFrom (spells : Spells text labels name fragment) :
    ReadFrom ⟨labels, name, dropMain fragment⟩ text (joined labels name)
      fragment := by
  have pieces : Text.splitOn '.' (joined labels name) = labels ++ [name] :=
    Text.splitOn_intercalate (by simp) (separator_notMem (.inl rfl) spells.labelled spells.named)
  have cut : Text.cutAt '#' text = (joined labels name, fragment) :=
    spells.written ▸ Text.cutAt_joinAt spells.mark_notMem
  refine ⟨cut, spells.short, ?_, ?_, ?_, ?_, Label.isName_iff.mpr spells.named, ?_⟩
  · have many := spells.many
    rw [pieces, List.length_append, List.length_singleton]
    omega
  · rw [pieces, List.dropLast_concat]
  · refine List.findSome?_eq_none_iff.mpr fun label listed => ?_
    rw [Label.defect?_eq_none_iff.mpr (spells.labelled label listed), Option.map_none]
  · rw [pieces, List.getLastD_concat]
  · refine parseFragment_eq_ok_iff.mpr ⟨rfl, fun behind kept => Label.isName_iff.mpr ?_⟩
    exact spells.behind behind (dropMain_eq_some_iff.mp kept).1

end Spells

theorem ReadFrom.spells (parts : id.ReadFrom text document fragment) :
    Spells text id.labels id.name fragment := by
  have base : joined id.labels id.name = document := parts.baseText_eq
  refine ⟨?_, ?_, Label.isName_iff.mp parts.named, base ▸ parts.short, ?_, ?_⟩
  · have many := parts.many
    rw [parts.labels, List.length_dropLast]
    omega
  · intro label listed
    have sound := List.findSome?_eq_none_iff.mp parts.labelled label listed
    exact Label.defect?_eq_none_iff.mp (Option.map_eq_none_iff.mp sound)
  · rintro behind rfl
    -- The name of the main definition is a name, though it is dropped.
    by_cases main : behind = mainDefinition
    · exact Label.isName_iff.mp (main ▸ by decide)
    · obtain ⟨kept, named⟩ := parseFragment_eq_ok_iff.mp parts.fragment
      rw [dropMain_of_ne main] at kept
      exact Label.isName_iff.mp (named behind kept)
  · rw [base, ← parts.cut, Text.joinAt_cutAt]

/-- An identifier is read from the texts that are spelled from its parts, where the main definition
may be named or not. -/
theorem parse_eq_ok_iff_spells : parse text = .ok id ↔
    ∃ fragment, Spells text id.labels id.name fragment ∧ id.fragment = dropMain fragment := by
  constructor
  · intro parsed
    obtain ⟨_, document, fragment, parts⟩ := parse_eq_ok_iff.mp parsed
    exact ⟨fragment, parts.spells, (parseFragment_eq_ok_iff.mp parts.fragment).1⟩
  · rintro ⟨fragment, spells, kept⟩
    have parts := spells.readFrom
    rw [← kept] at parts
    refine parse_eq_ok_iff.mpr ⟨?_, _, fragment, parts⟩
    rintro rfl
    exact parts.document_ne_empty (congrArg Prod.fst parts.cut).symm

/-- Only the name of the main definition ends in itself behind the mark. -/
theorem Spells.dropEnd?_of_ne {behind : String} (spells : Spells text labels name (some behind))
    (other : behind ≠ mainDefinition) : Text.dropEnd? "#main" text = none := by
  by_contra ends
  obtain ⟨rest, dropped⟩ := Option.ne_none_iff_exists'.mp ends
  have whole : (joined labels name).toList ++ '#' :: behind.toList =
      rest.toList ++ '#' :: mainDefinition.toList := by
    have same := congrArg String.toList
      (spells.written.symm.trans (Text.dropEnd?_eq_some_iff.mp dropped))
    simpa [Text.joinAt, mainDefinition] using same
  -- There is one mark in the text, so what stands behind it is the same.
  have behindMark := mark_notMem_of_isNameShape (spells.behind behind rfl)
  obtain ⟨_, _, same⟩ := (List.append_cons_inj_of_notMem spells.mark_notMem behindMark).mp whole
  exact other (String.toList_inj.mp same)

/-- An identifier is written as it was read, but for the name of the main definition. -/
theorem text_of_parse (parsed : parse text = .ok id) :
    id.text = (Text.dropEnd? "#main" text).getD text := by
  obtain ⟨fragment, spells, kept⟩ := parse_eq_ok_iff_spells.mp parsed
  have written := spells.written
  -- Reading drops a fragment exactly if it names the main definition.
  cases fragment with
  | none =>
    have whole : Text.dropEnd? "#main" text = none :=
      Text.dropEnd?_of_notMem (c := '#') (by decide) (written ▸ spells.mark_notMem)
    rw [whole, Option.getD_none, written, Nsid.text, kept]
    rfl
  | some behind =>
    by_cases main : behind = mainDefinition
    · have whole : text = id.baseText ++ "#main" := by
        rw [written, main]
        exact String.append_assoc
      rw [whole, Text.dropEnd?_append, Option.getD_some, Nsid.text, kept, main, dropMain_main]
    · rw [spells.dropEnd?_of_ne main, Option.getD_none, written, Nsid.text, kept,
        dropMain_of_ne main]
      rfl

/-! ### Identifiers -/

/-- An identifier that was read, or was made from such ones. -/
inductive Reachable : Nsid → Prop where
  | parsed {text : String} {id : Nsid} (parsed : parse text = .ok id) : Reachable id
  | base {id : Nsid} (origin : Reachable id) : Reachable id.base
  | withFragment {id other : Nsid} {name : String} (origin : Reachable id)
      (given : id.withFragment name = .ok other) : Reachable other
  -- The target may have been read as well, or may hold an identifier that is reachable itself.
  | absolute {document other : Nsid} {target : Reference} (origin : Reachable document)
      (external : ∀ id, target = .external id → Reachable id)
      (given : target.absolute document = .ok other) : Reachable other

/-- Every identifier could have been read. -/
theorem Reachable.parse (reachable : Reachable id) : ∃ text, Nsid.parse text = .ok id := by
  induction reachable with
  | parsed parsed => exact ⟨_, parsed⟩
  | base _ ih => exact parse_base ih
  | withFragment _ given ih => exact parse_withFragment ih given
  | @absolute document other target _ external given ih ihExternal =>
    cases target with
    | fragment name => exact parse_withFragment (parse_base ih) given
    | external id =>
      obtain rfl : id = other := Except.ok.inj given
      exact ihExternal id rfl

/-- The texts that can be read are those of the grammar, and they are written as they were read
but for the name of the main definition. An identifier, however it was made, reads back from its
text, and so it is told apart by its text. -/
theorem grammar_and_identity :
    (∀ text, (∃ id, parse text = .ok id) ↔
      ∃ labels name fragment, Spells text labels name fragment) ∧
    (∀ text id, parse text = .ok id → id.text = (Text.dropEnd? "#main" text).getD text) ∧
    (∀ id, Reachable id → parse id.text = .ok id) ∧
    ∀ id other, Reachable id → Reachable other → (id = other ↔ id.text = other.text) := by
  refine ⟨fun text => ⟨?_, ?_⟩, fun text id => text_of_parse, ?_, ?_⟩
  · rintro ⟨id, parsed⟩
    obtain ⟨fragment, spells, _⟩ := parse_eq_ok_iff_spells.mp parsed
    exact ⟨_, _, _, spells⟩
  · rintro ⟨labels, name, fragment, spells⟩
    exact ⟨⟨labels, name, dropMain fragment⟩, parse_eq_ok_iff_spells.mpr ⟨fragment, spells, rfl⟩⟩
  · intro id reachable
    obtain ⟨text, parsed⟩ := reachable.parse
    exact parse_text parsed
  · intro id other reachable otherReachable
    obtain ⟨_, parsed⟩ := reachable.parse
    obtain ⟨_, otherParsed⟩ := otherReachable.parse
    exact ⟨congrArg Nsid.text, text_inj parsed otherParsed⟩

/-- The main definition of a document is not named, and another one is reached from it. -/
theorem grammar_and_identity_replyRef :
    let post : Nsid := ⟨["com", "example", "feed"], "post", none⟩
    let reply : Nsid := ⟨["com", "example", "feed"], "post", some "replyRef"⟩
    (∃ labels name fragment, Spells "com.example.feed.post#main" labels name fragment) ∧
      parse "com.example.feed.post#main" = .ok post ∧ post.text = "com.example.feed.post" ∧
      (Reference.fragment "replyRef").absolute post = .ok reply ∧ Reachable reply ∧
      parse reply.text = .ok reply ∧ (post = reply ↔ post.text = reply.text) := by
  intro post reply
  obtain ⟨texts, written, read, identity⟩ := grammar_and_identity
  have parsed : parse "com.example.feed.post#main" = .ok post := by decide
  have named : (Reference.fragment "replyRef").absolute post = .ok reply := by decide
  have own : ∀ id, Reference.fragment "replyRef" = .external id → Reachable id := nofun
  have reached : Reachable reply := .absolute (.parsed parsed) own named
  refine ⟨(texts _).mp ⟨post, parsed⟩, parsed, ?_, named, reached, read reply reached,
    identity post reply (.parsed parsed) reached⟩
  rw [written _ _ parsed]
  decide

end Nsid

end Lexicon
