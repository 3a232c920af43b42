import Lexicon.Proofs.NameScope
import Lexicon.Proofs.Singulars

/-!
# Lexicon.Proofs.LineTexts

Texts of generated source that hold no line break.

Nearly all that goes into generated source is on one line by the way it is
made: identifiers have their shape, quoting escapes line breaks, the words of a
name are letters and numbers, and comments are cut at line breaks. What is left
is the text that is taken as it is, and that is the name of a property in the
comment of an accessor.

## Main results

- `Case.notMem_snake`: whatever a name holds, signs do not get into its snake case.
- `Declaration.notMem_of_mem_identsFrom`: signs do not get into identifiers.
- `Accessor.isLine_of_mem_codeLines`: only the comment of an accessor may break.

## Proof strategy

A letter or number is no line break, and the table of lower-case forms leads to
no sign at all. The table is checked where its text is read, one line at a time.
-/

namespace Lexicon

/-! ### Texts -/

namespace Text

theorem isLine_ofList {cs : List Char} : IsLine (String.ofList cs) ↔ '\n' ∉ cs := by
  rw [IsLine, String.toList_ofList]

theorem isLine_intercalate {separator : String} {pieces : List String} (between : IsLine separator)
    (each : ∀ piece ∈ pieces, IsLine piece) : IsLine (String.intercalate separator pieces) := by
  intro inside
  rcases mem_intercalate inside with here | ⟨piece, listed, there⟩
  · exact between here
  · exact each piece listed there

theorem notMem_of_mem_splitOn {separator : Char} {cs piece : List Char}
    (inside : piece ∈ cs.splitOn separator) : separator ∉ piece := by
  induction cs generalizing piece with
  | nil =>
    obtain rfl : piece = [] := by simpa using inside
    exact List.not_mem_nil
  | cons c rest ih =>
    rw [List.splitOn_cons_eq_if_modifyHead] at inside
    split at inside
    · rcases List.mem_cons.mp inside with rfl | inside
      · exact List.not_mem_nil
      · exact ih inside
    · next other =>
      have apart : separator ≠ c := fun same => other (beq_iff_eq.mpr same.symm)
      -- The first piece of the rest takes the character in front.
      cases pieces : rest.splitOn separator with
      | nil => exact absurd pieces (List.splitOn_ne_nil _ _)
      | cons head tail =>
        rw [pieces, List.modifyHead_cons] at inside
        rcases List.mem_cons.mp inside with rfl | inside
        · have first := ih (pieces ▸ List.mem_cons_self)
          exact fun there => (List.mem_cons.mp there).elim apart first
        · exact ih (pieces ▸ List.mem_cons_of_mem _ inside)

theorem isLine_of_mem_splitOn {s piece : String} (inside : piece ∈ splitOn '\n' s) :
    IsLine piece := by
  obtain ⟨cs, listed, rfl⟩ := List.mem_map.mp inside
  rw [isLine_ofList]
  exact notMem_of_mem_splitOn listed

theorem isLine_trimEnd {s : String} (line : IsLine s) : IsLine (trimEnd s) := by
  refine isLine_ofList.mpr fun inside => line ?_
  exact List.mem_reverse.mp ((List.dropWhile_sublist _).subset (List.mem_reverse.mp inside))

theorem isLine_toString_nat (n : Nat) : IsLine (toString n) := notMem_toString_nat (by decide) n

theorem isLine_toString_int (n : Int) : IsLine (toString n) := by
  rw [Int.toString_eq_repr, Int.repr_eq_if]
  split
  · exact isLine_toString_nat _
  · exact isLine_append.mpr ⟨by decide, isLine_toString_nat _⟩

theorem isLine_quoted (s : String) : IsLine (quoted s) := by
  have chars (c : Char) : '\n' ∉ quotedChar c := by
    have digits : '\n' ∉ hexDigits c.toNat := notMem_toDigits (by decide) (by decide) (by decide)
    by_cases lineBreak : c = '\n'
    · subst lineBreak
      decide
    · have own : '\n' ∉ [c] := by simpa using Ne.symm lineBreak
      unfold quotedChar
      -- A character is written as two others, by its number, or as it is.
      iterate 5
        split
        · decide
      split
      · exact own
      · split
        · simpa using digits
        · exact own
  have inner : IsLine (String.ofList (s.toList.flatMap quotedChar)) := by
    refine isLine_ofList.mpr fun inside => ?_
    obtain ⟨c, _, here⟩ := List.mem_flatMap.mp inside
    exact chars c here
  exact isLine_append.mpr ⟨isLine_append.mpr ⟨by decide, inner⟩, by decide⟩

end Text

/-! ### Names -/

namespace Unicode

namespace CaseMap

/-- The images that the text of a run lists. -/
def imagesOf (run : List Char) : List Nat :=
  (((run.dropWhile (· != ':')).drop 1).splitOn '+').map fun digits =>
    digits.foldl (fun n c => n * 16 + Text.hexDigitValue c) 0

theorem images_runOfText (run : List Char) :
    (runOfText (String.ofList run)).image :: (runOfText (String.ofList run)).more =
      imagesOf run := by
  have behind : (Text.cutAt ':' (String.ofList run)).2.getD "" =
      String.ofList ((run.dropWhile (· != ':')).drop 1) := by
    rw [Text.cutAt, String.toList_ofList]
    cases run.dropWhile (· != ':') <;> rfl
  have images : (Text.splitOn '+' ((Text.cutAt ':' (String.ofList run)).2.getD "")).map
      RangeSet.hexOfText = imagesOf run := by
    rw [behind, Text.splitOn, String.toList_ofList, List.map_map, imagesOf]
    refine List.map_congr_left fun digits _ => ?_
    simp [RangeSet.hexOfText]
  -- The record keeps the first image apart from the others, so there has to be one.
  have some : imagesOf run ≠ [] := by
    rw [imagesOf, ne_eq, List.map_eq_nil_iff]
    exact List.splitOn_ne_nil _ _
  unfold runOfText
  dsimp only
  rw [images]
  cases given : imagesOf run with
  | nil => exact absurd given some
  | cons first rest => rfl

/-- In a line of runs all images are behind the capitals of ASCII. -/
def KeepsSigns (line : String) : Prop :=
  ∃ cs, line = String.ofList cs ∧
    ((cs.splitOn ' ').all fun run => (imagesOf run).all fun image => 0x60 < image) = true

theorem keepsSigns_lowercaseMap :
    ∃ lines, lowercaseMap = ofLines lines ∧ ∀ line ∈ lines, KeepsSigns line := by
  refine ⟨_, rfl, ?_⟩
  simp only [List.forall_mem_cons]
  and_intros
  -- The characters of a line are given one by one, since taking them from the text is slow.
  all_goals first
    | exact ⟨_, rfl, by decide +kernel⟩
    | exact fun _ nothing => absurd nothing List.not_mem_nil

theorem lt_of_mem_runs {run : CaseRun} (inside : run ∈ lowercaseMap.runs) :
    ∀ image ∈ run.image :: run.more, 0x60 < image := by
  obtain ⟨lines, same, each⟩ := keepsSigns_lowercaseMap
  rw [same, ofLines] at inside
  obtain ⟨line, listed, inside⟩ := List.mem_flatMap.mp inside
  obtain ⟨cs, rfl, keeps⟩ := each line listed
  rw [Text.splitOn, String.toList_ofList, List.map_map] at inside
  obtain ⟨text, held, rfl⟩ := List.mem_map.mp inside
  intro image given
  rw [Function.comp_apply, images_runOfText] at given
  simpa using List.all_eq_true.mp (List.all_eq_true.mp keeps text held) image given

end CaseMap

/-- A character of ASCII in front of the small letters. -/
def IsSign (d : Char) : Prop := 0 < d.toNat ∧ d.toNat ≤ 0x60

instance (d : Char) : Decidable (IsSign d) :=
  inferInstanceAs (Decidable (0 < d.toNat ∧ d.toNat ≤ 0x60))

section Signs

variable {c d : Char} (sign : IsSign d)
include sign

theorem IsSign.ne_ofNat {n : Nat} (behind : 0x60 < n) : d ≠ Char.ofNat n := by
  rintro rfl
  obtain ⟨some, low⟩ := sign
  by_cases valid : n.isValidChar
  · have number : (Char.ofNat n).toNat = n := by
      rw [Char.ofNat, dif_pos valid]
      rfl
    omega
  · rw [Char.ofNat, dif_neg valid] at some
    exact absurd some (by decide)

theorem CaseMap.notMem_apply (other : c ≠ d) : d ∉ lowercaseMap.apply c := by
  unfold apply
  dsimp only
  split
  · next run found =>
    have images := lt_of_mem_runs (List.mem_of_find?_eq_some found)
    intro inside
    rcases List.mem_cons.mp inside with same | inside
    · have first := images _ List.mem_cons_self
      exact sign.ne_ofNat (n := run.image + (c.toNat - run.first)) (by omega) same
    · obtain ⟨image, listed, same⟩ := List.mem_map.mp inside
      exact sign.ne_ofNat (images image (List.mem_cons_of_mem _ listed)) same.symm
  · simpa using other.symm

/-- No lower-case form is a sign. -/
theorem notMem_lowerChar (other : c ≠ d) : d ∉ lowerChar c := by
  unfold lowerChar
  split
  · rw [Text.asciiLower, List.mem_singleton]
    split
    · next upper =>
      have capital : 'A' ≤ c := by simpa using (Bool.and_eq_true_iff.mp upper).1
      have number : 0x41 ≤ c.toNat := capital
      exact sign.ne_ofNat (by omega)
    · exact other.symm
  · exact CaseMap.notMem_apply sign other

theorem notMem_lowercaseAfter {before cs : List Char} (absent : d ∉ cs) :
    d ∉ lowercaseAfter before cs := by
  induction cs generalizing before with
  | nil => exact absent
  | cons c rest ih =>
    have other : c ≠ d := fun same => absent (same ▸ List.mem_cons_self)
    have later : d ∉ lowercaseAfter (c :: before) rest :=
      ih fun inside => absent (List.mem_cons_of_mem _ inside)
    rw [lowercaseAfter]
    refine fun inside => (List.mem_append.mp inside).elim ?_ later
    split_ifs
    -- The capital sigma goes to one of its two small forms.
    · exact fun final => sign.ne_ofNat (by decide) (List.mem_singleton.mp final)
    · exact fun inner => sign.ne_ofNat (by decide) (List.mem_singleton.mp inner)
    · exact notMem_lowerChar sign other

theorem notMem_lowercase {s : String} (absent : d ∉ s.toList) : d ∉ (lowercase s).toList := by
  rw [lowercase, String.toList_ofList]
  exact notMem_lowercaseAfter sign absent

end Signs

end Unicode

namespace Case

variable {d : Char} (sign : Unicode.IsSign d) (other : Text.isAsciiAlphanumeric d = false)
include sign other

/-- Words are cut at everything that is neither a letter nor a number. -/
theorem notMem_of_mem_words {name word : String} (inside : word ∈ words name) :
    d ∉ word.toList := by
  obtain ⟨cs, listed, rfl⟩ := List.mem_map.mp inside
  rw [String.toList_ofList]
  intro there
  rcases (mem_wordsFrom listed).2 _ there with nothing | ⟨_, counts⟩
  · cases nothing
  · have ascii : d.toNat < 0x80 := Nat.lt_of_le_of_lt sign.2 (by decide)
    rw [Unicode.isAlphanumeric_of_ascii ascii, other] at counts
    cases counts

theorem notMem_snake {name : String} (inner : d ≠ '_') : d ∉ (snake name).toList := by
  intro inside
  rcases Text.mem_intercalate inside with between | ⟨piece, listed, there⟩
  · exact inner (by simpa using between)
  · obtain ⟨word, held, rfl⟩ := List.mem_map.mp listed
    exact Unicode.notMem_lowercase sign (notMem_of_mem_words sign other held) there

end Case

theorem Case.isLine_snake (name : String) : Text.IsLine (snake name) :=
  notMem_snake (by decide) (by decide) (by decide)

/-! ### Identifiers of fields -/

namespace Keyword

theorem mem_of_mem_bare {ident : String} {c : Char} (inside : c ∈ (bare ident).toList) :
    c ∈ ident.toList := by
  unfold bare at inside
  cases behind : Text.dropStart? rawMark ident with
  | none => rwa [behind] at inside
  | some rest =>
    rw [behind] at inside
    rw [Text.dropStart?_eq_some_iff.mp behind, String.toList_append]
    exact List.mem_append_right _ inside

theorem isLine_bare {ident : String} (line : Text.IsLine ident) : Text.IsLine (bare ident) :=
  fun inside => line (mem_of_mem_bare inside)

/-- A sign that stands in no identifier. -/
structure IsForeign (d : Char) : Prop where
  sign : Unicode.IsSign d
  other : Text.isAsciiAlphanumeric d = false
  apart : d ∉ ['_', 'r', '#']

theorem IsForeign.lineBreak : IsForeign '\n' := ⟨by decide, by decide, by decide⟩

end Keyword

theorem Text.digitChar_ne {d : Char} (other : isAsciiAlphanumeric d = false) (n : Fin 16) :
    Nat.digitChar n ≠ d := by
  have each : ∀ n : Fin 16, isAsciiAlphanumeric (Nat.digitChar n) = true := by decide
  rintro rfl
  rw [each n] at other
  cases other

namespace Declaration

variable {d : Char} (foreign : Keyword.IsForeign d)
include foreign

theorem notMem_baseIdent (property : String) : d ∉ (baseIdent property).toList := by
  have inner : d ≠ '_' := fun same => foreign.apart (same ▸ List.mem_cons_self)
  unfold baseIdent
  dsimp only
  split
  · intro inside
    have letters : "field".toList.all Text.isAsciiAlphanumeric = true := by decide
    have letter := List.all_eq_true.mp letters d inside
    rw [foreign.other] at letter
    cases letter
  · intro inside
    rcases Keyword.mem_escape inside with own | added
    · exact Case.notMem_snake foreign.sign foreign.other inner own
    · exact foreign.apart added

theorem notMem_numbered {stem : String} (absent : d ∉ stem.toList) (taken : List String)
    (fuel n : Nat) : d ∉ (numbered stem taken fuel n).toList := by
  have inner : d ≠ '_' := fun same => foreign.apart (same ▸ List.mem_cons_self)
  have candidate (n : Nat) : d ∉ (stem ++ "_" ++ toString n).toList := by
    have digits := Text.notMem_toString_nat (Text.digitChar_ne foreign.other) n
    simp only [String.toList_append, List.mem_append, not_or]
    exact ⟨⟨absent, by simpa using inner⟩, digits⟩
  induction fuel generalizing n with
  | zero => exact candidate n
  | succ fuel ih =>
    unfold numbered
    dsimp only
    split
    · exact ih (n + 1)
    · exact candidate n

theorem notMem_uniqueIdent (property : String) (taken : List String) :
    d ∉ (uniqueIdent property taken).toList := by
  have base := notMem_baseIdent foreign property
  unfold uniqueIdent
  dsimp only
  split
  · exact notMem_numbered foreign (fun inside => base (Keyword.mem_of_mem_bare inside)) _ _ _
  · exact base

theorem notMem_of_mem_identsFrom {taken properties : List String} {ident : String}
    (inside : ident ∈ identsFrom taken properties) : d ∉ ident.toList := by
  induction properties generalizing taken with
  | nil => cases inside
  | cons property rest ih =>
    rcases List.mem_cons.mp inside with rfl | inside
    · exact notMem_uniqueIdent foreign property taken
    · exact ih inside

end Declaration

/-! ### Identifiers and types -/

theorem Text.isLine_of_alphanumeric {s : String}
    (chars : ∀ c ∈ s.toList, isAsciiAlphanumeric c = true) : IsLine s :=
  fun inside => absurd (chars _ inside) (by decide)

namespace Nsid

variable {id : Nsid}

theorem isLine_text {text : String} (parsed : parse text = .ok id) : Text.IsLine id.text := by
  have named := isNamed_of_parse parsed
  have base : Text.IsLine id.baseText := by
    refine Text.isLine_intercalate (by decide) fun piece listed inside => ?_
    rcases List.mem_append.mp listed with label | name
    · rcases (chars_of_label (label_of_parse parsed label)).1 _ inside with letter | hyphen
      · exact absurd letter (by decide)
      · exact absurd hyphen (by decide)
    · obtain rfl := List.mem_singleton.mp name
      exact Text.isLine_of_alphanumeric (chars_of_isName named.name).1 inside
  unfold Nsid.text
  split
  · exact base
  · next fragment given =>
    have chars := (chars_of_isName (named.fragment fragment given)).1
    exact Text.isLine_append.mpr ⟨Text.isLine_append.mpr ⟨base, by decide⟩,
      Text.isLine_of_alphanumeric chars⟩

end Nsid

theorem Layout.isLine_typeName {id : Nsid} (named : id.IsNamed) : Text.IsLine (typeName id) :=
  Text.isLine_of_alphanumeric fun _ inside => isAsciiAlphanumeric_of_mem_typeName named inside

theorem Layout.isLine_foldl_segments {segments : List String} {start : String}
    (line : Text.IsLine start) (each : ∀ segment ∈ segments, Text.IsLine segment) :
    Text.IsLine (segments.foldl (fun path segment =>
      (if path.isEmpty then "" else path ++ "::") ++ Keyword.escape segment) start) := by
  induction segments generalizing start with
  | nil => exact line
  | cons segment rest ih =>
    refine ih (Text.isLine_append.mpr ⟨?_, ?_⟩) fun other inside =>
      each other (List.mem_cons_of_mem _ inside)
    · split
      · decide
      · exact Text.isLine_append.mpr ⟨line, by decide⟩
    · exact Keyword.isLine_escape (each segment List.mem_cons_self)

theorem Layout.isLine_qualifiedTypeName {layout : Layout} {id : Nsid} (named : id.IsNamed)
    (root : Text.IsLine layout.root) : Text.IsLine (layout.qualifiedTypeName id) := by
  have segments : ∀ segment ∈ layout.moduleSegments id, Text.IsLine segment := by
    intro segment inside
    rcases List.mem_append.mp inside with label | name
    · obtain ⟨piece, _, rfl⟩ := List.mem_map.mp (mem_arrange.mp label)
      exact Case.isLine_snake piece
    · obtain rfl := List.mem_singleton.mp name
      exact Case.isLine_snake id.name
  exact Text.isLine_append.mpr ⟨Text.isLine_append.mpr
    ⟨isLine_foldl_segments root segments, by decide⟩, isLine_typeName named⟩

theorem GeneratedType.isLine_text {type : GeneratedType}
    (struct : ∀ name, type.struct? = some name → Text.IsLine name) : Text.IsLine type.text := by
  induction type with
  | struct name => exact struct name rfl
  | vec item ih | boxed item ih | optional item ih =>
    exact Text.isLine_append.mpr ⟨Text.isLine_append.mpr ⟨by decide, ih struct⟩, by decide⟩
  | _ => decide

theorem ReaderExpr.isLine_text {reader : ReaderExpr} {runtime : String}
    (library : Text.IsLine runtime)
    (struct : ∀ name, reader.struct? = some name → Text.IsLine name) :
    Text.IsLine (reader.text runtime) := by
  induction reader with
  | plain reader =>
    have name : Text.IsLine reader.name := by cases reader <;> decide
    simp only [text, Text.isLine_append]
    exact ⟨⟨library, by decide⟩, name⟩
  | array item ih =>
    simp only [text, Text.isLine_append]
    exact ⟨⟨⟨⟨by decide, library⟩, by decide⟩, ih struct⟩, by decide⟩
  | struct name => exact Text.isLine_append.mpr ⟨struct name rfl, by decide⟩
  | boxed inner ih =>
    simp only [text, Text.isLine_append]
    exact ⟨⟨by decide, ih struct⟩, by decide⟩

/-! ### Comments and methods -/

theorem Helper.isLine_of_mem_docLines {indent marker text line : String}
    (margin : Text.IsLine indent) (mark : Text.IsLine marker)
    (listed : line ∈ docLines indent marker text) : Text.IsLine line := by
  unfold docLines at listed
  split at listed
  · cases listed
  · obtain ⟨trimmed, inside, rfl⟩ := List.mem_map.mp listed
    obtain ⟨piece, held, rfl⟩ := List.mem_map.mp inside
    have own := Text.isLine_trimEnd (Text.isLine_of_mem_splitOn held)
    unfold docLine
    split <;> simp only [Text.isLine_append]
    · exact ⟨margin, mark⟩
    · exact ⟨⟨⟨margin, mark⟩, by decide⟩, own⟩

theorem FieldRead.isLine_text {read : FieldRead} {runtime : String} (library : Text.IsLine runtime)
    (struct : ∀ name, read.reader.struct? = some name → Text.IsLine name) (property : String) :
    Text.IsLine (read.text runtime property) := by
  have reader := ReaderExpr.isLine_text library struct
  have quoted := Text.isLine_quoted property
  unfold text
  cases read.presence with
  | required =>
    simp only [Text.isLine_append]
    exact ⟨⟨⟨⟨⟨library, by decide⟩, quoted⟩, by decide⟩, reader⟩, by decide⟩
  | requiredNullable =>
    simp only [Text.isLine_append]
    exact ⟨⟨⟨⟨⟨⟨⟨library, by decide⟩, quoted⟩, by decide⟩, library⟩, by decide⟩, reader⟩, by decide⟩
  | optional =>
    simp only [Text.isLine_append]
    exact ⟨⟨⟨⟨⟨library, by decide⟩, quoted⟩, by decide⟩, reader⟩, by decide⟩

namespace Accessor

/-- The property that an accessor goes with. -/
def property : Accessor → String
  | orDefault property _ _ _ | push property _ _ _ => property

/-- The field that an accessor goes with. -/
def ident : Accessor → String
  | orDefault _ ident _ _ | push _ ident _ _ => ident

/-- The comment of an accessor holds the name of its property as it is. -/
theorem isLine_docLine_iff (accessor : Accessor) :
    Text.IsLine accessor.docLine ↔ Text.IsLine accessor.property := by
  unfold docLine
  cases accessor <;> dsimp only <;> rw [Text.isLine_append, Text.isLine_append]
  all_goals exact ⟨fun line => line.1.2, fun line => ⟨⟨by decide, line⟩, by decide⟩⟩

theorem method_push (property ident : String) (item : GeneratedType) (optional : Bool) :
    (push property ident item optional).method =
      "push_" ++ Plural.itemName (Keyword.bare ident) := by
  unfold method Plural.itemName
  dsimp only
  split
  · rw [String.append_assoc]
  · rfl

/-- What the name of a method adds to the identifier are letters and underscores. -/
theorem mem_method {accessor : Accessor} {c : Char} (inside : c ∈ accessor.method.toList) :
    c ∈ accessor.ident.toList ∨ Text.isAsciiLetter c = true ∨ c = '_' := by
  have added (text : String) (letters : text.toList.all (fun c =>
      Text.isAsciiLetter c || c == '_') = true) (inside : c ∈ text.toList) :
      Text.isAsciiLetter c = true ∨ c = '_' := by
    simpa using List.all_eq_true.mp letters c inside
  cases accessor with
  | orDefault property ident result body =>
    rw [method, String.toList_append] at inside
    rcases List.mem_append.mp inside with own | ending
    · exact .inl (Keyword.mem_of_mem_bare own)
    · exact .inr (added _ (by decide) ending)
  | push property ident item optional =>
    rw [method_push, String.toList_append] at inside
    rcases List.mem_append.mp inside with start | name
    · exact .inr (added _ (by decide) start)
    · rcases Plural.mem_itemName name with own | ending
      · exact .inl (Keyword.mem_of_mem_bare own)
      · exact .inr (added _ (by decide) ending)

theorem isLine_method {accessor : Accessor} (line : Text.IsLine accessor.ident) :
    Text.IsLine accessor.method := by
  intro lineBreak
  rcases mem_method lineBreak with own | letter | same
  · exact line own
  · exact absurd letter (by decide)
  · exact absurd same (by decide)

/-- Around the literal of a default stand a type and a call that are the same for all properties. -/
theorem exists_parts_of_literal {α : Type} {make : String → Option Accessor}
    {ident type call : String} {literal : α → String} (default : Option α)
    (same : ∀ property, make property = default.map fun value =>
      .orDefault property ident type ("self." ++ ident ++ call ++ literal value ++ ")"))
    (typeLine : Text.IsLine type) (callLine : Text.IsLine call)
    (written : ∀ value, Text.IsLine (literal value)) :
    ∃ parts : Option (String × String),
      (∀ property, make property =
        parts.map fun (result, body) => .orDefault property ident result body) ∧
      (Text.IsLine ident → ∀ result body, parts = some (result, body) →
        Text.IsLine result ∧ Text.IsLine body) := by
  refine ⟨default.map fun value => (type, "self." ++ ident ++ call ++ literal value ++ ")"), ?_, ?_⟩
  · intro property
    rw [same property, Option.map_map]
    rfl
  · intro line result body given
    obtain ⟨value, _, pair⟩ := Option.map_eq_some_iff.mp given
    cases pair
    simp only [Text.isLine_append]
    exact ⟨typeLine, ⟨⟨⟨by decide, line⟩, callLine⟩, written value⟩, by decide⟩

/-- What the accessor of a default returns and does follows without the name of the property;
schema defaults are written as literals. -/
theorem exists_ofDefault?_eq (ident : String) (node : TypeNode) (optional : Bool) :
    ∃ parts : Option (String × String),
      (∀ property, ofDefault? property ident node optional =
        parts.map fun (result, body) => .orDefault property ident result body) ∧
      (Text.IsLine ident → ∀ result body, parts = some (result, body) →
        Text.IsLine result ∧ Text.IsLine body) := by
  cases optional with
  | false => exact ⟨none, fun _ => rfl, fun _ _ _ => nofun⟩
  | true =>
    cases node with
    | boolean t =>
      have literal (value : Bool) : Text.IsLine (toString value) := by cases value <;> decide
      exact exists_parts_of_literal t.default (fun _ => rfl) (by decide) (by decide) literal
    | integer t =>
      exact exists_parts_of_literal t.default (fun _ => rfl) (by decide) (by decide) fun _ =>
        Text.isLine_toString_int _
    | string t =>
      by_cases timestamp : t.format = some .datetime
      · exact ⟨none, fun property => by simp [ofDefault?, timestamp], fun _ _ _ => nofun⟩
      · have same (property : String) : ofDefault? property ident (.string t) true =
            t.default.map fun value => .orDefault property ident "&str"
              ("self." ++ ident ++ ".as_deref().unwrap_or(" ++ Text.quoted value ++ ")") := by
          simp [ofDefault?, timestamp]
        exact exists_parts_of_literal t.default same (by decide) (by decide) Text.isLine_quoted
    | _ => exact ⟨none, fun _ => rfl, fun _ _ _ => nofun⟩

theorem of_mem_ofDefault? {accessor : Accessor} {property ident : String} {node : TypeNode}
    {optional : Bool} (line : Text.IsLine ident)
    (listed : ofDefault? property ident node optional = some accessor) :
    ∃ result body, accessor = .orDefault property ident result body ∧ Text.IsLine result ∧
      Text.IsLine body := by
  obtain ⟨parts, same, lines⟩ := exists_ofDefault?_eq ident node optional
  obtain ⟨⟨result, body⟩, given, rfl⟩ := Option.map_eq_some_iff.mp (same property ▸ listed)
  exact ⟨result, body, rfl, lines line result body given⟩

theorem isLine_of_mem_codeLines {mapper : TypeMapper} {doc : Document} {object : ObjectType}
    {property ident : String} {node : TypeNode} {accessor : Accessor} (line : Text.IsLine ident)
    (struct : ∀ name, (mapper.map node doc).core?.map Layout.typeName = some name →
      Text.IsLine name)
    (listed : accessor ∈ Declaration.accessorsOf mapper doc object property ident node) :
    ∀ code ∈ accessor.codeLines, Text.IsLine code := by
  rcases List.mem_append.mp listed with default | appends
  · obtain ⟨result, body, rfl, first, second⟩ :=
      of_mem_ofDefault? line (Option.mem_toList.mp default)
    have method : Text.IsLine (orDefault property ident result body).method := isLine_method line
    simp only [codeLines, List.forall_mem_cons, Text.isLine_append]
    exact ⟨⟨⟨⟨⟨by decide, method⟩, by decide⟩, first⟩, by decide⟩, ⟨by decide, second⟩, by decide,
      by simp⟩
  · cases node with
    | array t =>
      cases List.mem_singleton.mp appends
      have method : Text.IsLine (push property ident (Declaration.itemMapping mapper doc t).type
          (object.isOptional property)).method := isLine_method line
      have item : Text.IsLine (Declaration.itemMapping mapper doc t).type.text := by
        refine GeneratedType.isLine_text fun name named => struct name ?_
        rwa [Mapping.struct?_type, Declaration.core?_itemMapping] at named
      simp only [codeLines, List.forall_mem_cons, Text.isLine_append]
      refine ⟨⟨⟨⟨⟨by decide, method⟩, by decide⟩, item⟩, by decide⟩, ⟨⟨by decide, ?_⟩, by decide⟩,
        by decide, by simp⟩
      split <;> simp only [Text.isLine_append]
      · exact ⟨⟨by decide, line⟩, by decide⟩
      · exact ⟨by decide, line⟩
    | _ => cases appends

end Accessor

end Lexicon
