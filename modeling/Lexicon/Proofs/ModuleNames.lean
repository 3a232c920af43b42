import Lexicon.Naming.Layout
import Lexicon.Proofs.NsidCharacters
import Lexicon.Proofs.OutputFiles
import Lexicon.Proofs.TextLines

/-!
# Lexicon.Proofs.ModuleNames

The names of generated modules, and the files that they go to.

The labels and the name of an identifier are written in snake case, so module
names consist of small letters, digits and inner underscores. What a name needs
to become a file stands outside of that, as an underscore at one end, so files
tell module names apart.

## Main definitions

- `Case.IsSnake`: the shape of a module name.
- `Nsid.SameModule`: two identifiers have the same module names.

## Main results

- `Layout.isSnake_of_mem_segments`: all module names of an identifier have the shape.
- `Keyword.fileStem_inj`: different module names go to different files.
- `Layout.parts_filePath_eq_iff`: two identifiers share a path exactly if they have the same
  module names.
-/

namespace Lexicon

/-! ### Characters -/

namespace Text

variable {c : Char}

/-- What holds of the first characters one by one holds of each of them. -/
theorem of_ascii {P : Char → Prop} (each : ∀ n : Fin 0x80, P (Char.ofNat n))
    (ascii : c.toNat < 0x80) :
    P c := by
  have holds := each ⟨c.toNat, ascii⟩
  rwa [Char.ofNat_toNat] at holds

theorem toNat_lt_of_isAsciiAlphanumeric (alphanumeric : isAsciiAlphanumeric c = true) :
    c.toNat < 0x80 := by
  simp only [isAsciiAlphanumeric, isAsciiLetter, isAsciiLower, isAsciiUpper, isAsciiDigit,
    Bool.or_eq_true, Bool.and_eq_true, decide_eq_true_eq, Char.le_def,
    UInt32.le_iff_toNat_le] at alphanumeric
  have z : 'z'.val.toNat = 122 := rfl
  have capital : 'Z'.val.toNat = 90 := rfl
  have nine : '9'.val.toNat = 57 := rfl
  change c.val.toNat < 0x80
  omega

/-- The characters of module names, underscores apart. -/
def isSmall (c : Char) : Bool := isAsciiLower c || isAsciiDigit c

theorem isSmall_asciiLower (alphanumeric : isAsciiAlphanumeric c = true) :
    isSmall (asciiLower c) = true := by
  have each : ∀ n : Fin 0x80, isAsciiAlphanumeric (Char.ofNat n) = true →
      isSmall (asciiLower (Char.ofNat n)) = true := by
    decide +kernel
  exact of_ascii (P := fun d => isAsciiAlphanumeric d = true → isSmall (asciiLower d) = true) each
    (toNat_lt_of_isAsciiAlphanumeric alphanumeric) alphanumeric

theorem ne_of_isSmall {d : Char} (small : isSmall c = true) (other : isSmall d = false) :
    c ≠ d := by
  rintro rfl
  rw [small] at other
  cases other

end Text

/-! ### Snake case -/

namespace Unicode

theorem isAlphanumeric_of_ascii {c : Char} (ascii : c.toNat < 0x80) :
    isAlphanumeric c = Text.isAsciiAlphanumeric c := by
  simp only [isAlphanumeric, isAlphabetic, isNumeric, if_pos ascii, Text.isAsciiAlphanumeric]

theorem lowercaseAfter_of_ascii {before cs : List Char} (ascii : ∀ c ∈ cs, c.toNat < 0x80) :
    lowercaseAfter before cs = cs.map Text.asciiLower := by
  induction cs generalizing before with
  | nil => rfl
  | cons c rest ih =>
    have first := ascii c List.mem_cons_self
    have noSigma : c.toNat ≠ 0x3a3 := by omega
    rw [lowercaseAfter, ih fun d inside => ascii d (List.mem_cons_of_mem _ inside)]
    simp only [if_neg noSigma, lowerChar, if_pos first, List.map_cons, List.singleton_append]

theorem lowercase_ofList {cs : List Char} (ascii : ∀ c ∈ cs, c.toNat < 0x80) :
    lowercase (String.ofList cs) = String.ofList (cs.map Text.asciiLower) := by
  rw [lowercase, String.toList_ofList, lowercaseAfter_of_ascii ascii]

end Unicode

namespace Case

/-- Small letters, digits and inner underscores. -/
structure IsSnake (text : String) : Prop where
  chars : ∀ c ∈ text.toList, Text.isSmall c = true ∨ c = '_'
  first : ∃ c, text.toList.head? = some c ∧ c ≠ '_'
  last : ∃ c, text.toList.getLast? = some c ∧ c ≠ '_'

theorem IsSnake.of_word {word : List Char} (given : word ≠ [])
    (small : ∀ c ∈ word, Text.isSmall c = true) : IsSnake (String.ofList word) := by
  have inner {c : Char} (inside : c ∈ word) : c ≠ '_' :=
    Text.ne_of_isSmall (small c inside) (by decide)
  obtain ⟨c, rest, rfl⟩ := List.exists_cons_of_ne_nil given
  constructor
  · intro d inside
    exact .inl (small d (by simpa using inside))
  · exact ⟨c, by simp, inner List.mem_cons_self⟩
  · refine ⟨(c :: rest).getLast given, ?_, inner (List.getLast_mem given)⟩
    rw [String.toList_ofList, List.getLast?_eq_some_getLast]

theorem IsSnake.join {left right : String} (first : IsSnake left) (second : IsSnake right) :
    IsSnake (left ++ "_" ++ right) := by
  have underscore : "_".toList = ['_'] := rfl
  obtain ⟨c, head, start⟩ := first.first
  obtain ⟨d, last, stop⟩ := second.last
  constructor
  · intro c inside
    simp only [String.toList_append, underscore, List.mem_append, List.mem_singleton] at inside
    rcases inside with (inside | same) | inside
    · exact first.chars c inside
    · exact .inr same
    · exact second.chars c inside
  · exact ⟨c, by simp [head], start⟩
  · refine ⟨d, ?_, stop⟩
    rw [String.toList_append, List.getLast?_append, last]
    rfl

theorem IsSnake.intercalate {words : List String} (some : words ≠ [])
    (each : ∀ word ∈ words, IsSnake word) : IsSnake (String.intercalate "_" words) := by
  induction words with
  | nil => exact absurd rfl some
  | cons word rest ih =>
    have first := each word List.mem_cons_self
    cases rest with
    | nil => simpa using first
    | cons next rest =>
      rw [String.intercalate_cons_cons]
      exact first.join (ih nofun fun other inside => each other (List.mem_cons_of_mem _ inside))

theorem mem_finished {word w : List Char} (inside : w ∈ finished word) :
    w ≠ [] ∧ ∀ c ∈ w, c ∈ word := by
  unfold finished at inside
  split at inside
  · cases inside
  · next given =>
    obtain rfl := List.mem_singleton.mp inside
    exact ⟨by simpa using given, fun c held => List.mem_reverse.mp held⟩

/-- Words are not empty, and consist of letters and numbers of the text. -/
theorem mem_wordsFrom {word cs : List Char} {w : List Char} (inside : w ∈ wordsFrom word cs) :
    w ≠ [] ∧ ∀ c ∈ w, c ∈ word ∨ (c ∈ cs ∧ Unicode.isAlphanumeric c = true) := by
  induction cs generalizing word with
  | nil =>
    obtain ⟨given, held⟩ := mem_finished inside
    exact ⟨given, fun c here => .inl (held c here)⟩
  | cons d rest ih =>
    have ended (here : w ∈ finished word) :
        w ≠ [] ∧ ∀ c ∈ w, c ∈ word ∨ (c ∈ d :: rest ∧ Unicode.isAlphanumeric c = true) := by
      obtain ⟨given, held⟩ := mem_finished here
      exact ⟨given, fun c own => .inl (held c own)⟩
    -- A later word consists of what was at hand, the next character and what is behind it.
    have later {start : List Char} (begins : ∀ c ∈ start, c ∈ word ∨ c = d)
        (counts : start ≠ [] → Unicode.isAlphanumeric d = true) (here : w ∈ wordsFrom start rest) :
        w ≠ [] ∧ ∀ c ∈ w, c ∈ word ∨ (c ∈ d :: rest ∧ Unicode.isAlphanumeric c = true) := by
      obtain ⟨given, held⟩ := ih here
      refine ⟨given, fun c own => ?_⟩
      rcases held c own with started | ⟨behind, alphanumeric⟩
      · rcases begins c started with old | rfl
        · exact .inl old
        · exact .inr ⟨List.mem_cons_self, counts (List.ne_nil_of_mem started)⟩
      · exact .inr ⟨List.mem_cons_of_mem _ behind, alphanumeric⟩
    rw [wordsFrom.eq_def] at inside
    dsimp only at inside
    split at inside
    · rcases List.mem_append.mp inside with here | here
      · exact ended here
      · exact later (by simp) (absurd rfl) here
    · next counts =>
      have alphanumeric : Unicode.isAlphanumeric d = true := by simpa using counts
      split at inside
      · exact later (by simp) (fun _ => alphanumeric) inside
      · split at inside
        · rcases List.mem_append.mp inside with here | here
          · exact ended here
          · exact later (by simp) (fun _ => alphanumeric) here
        · refine later (fun c own => ?_) (fun _ => alphanumeric) inside
          rcases List.mem_cons.mp own with rfl | own
          · exact .inr rfl
          · exact .inl own

/-- A text with a letter or a number in it has a word. -/
theorem wordsFrom_ne_nil {word cs : List Char}
    (given : word ≠ [] ∨ ∃ c ∈ cs, Unicode.isAlphanumeric c = true) : wordsFrom word cs ≠ [] := by
  -- The word that is being read is free in the induction, since it may be the only one.
  induction cs generalizing word with
  | nil =>
    rcases given with given | ⟨c, inside, _⟩
    · simp [wordsFrom, finished, given]
    · cases inside
  | cons d rest ih =>
    rw [wordsFrom.eq_def]
    dsimp only
    split
    · next counts =>
      rcases given with given | ⟨c, inside, alphanumeric⟩
      · simp [finished, given]
      · rcases List.mem_cons.mp inside with rfl | inside
        · rw [alphanumeric] at counts
          cases counts
        · have more : wordsFrom [] rest ≠ [] := ih (.inr ⟨c, inside, alphanumeric⟩)
          simp [more]
    · split
      · exact ih (.inl nofun)
      · split
        · have more : wordsFrom [d] rest ≠ [] := ih (.inl nofun)
          simp [more]
        · exact ih (.inl nofun)

theorem words_ne_nil {name : String} (some : ∃ c ∈ name.toList, Unicode.isAlphanumeric c = true) :
    words name ≠ [] := by
  simpa [words] using wordsFrom_ne_nil (.inr some)

/-- What the words of an ASCII text consist of. -/
theorem isAsciiAlphanumeric_of_mem_wordsFrom {name : String}
    (ascii : ∀ c ∈ name.toList, c.toNat < 0x80) {word : List Char}
    (inside : word ∈ wordsFrom [] name.toList) : ∀ c ∈ word, Text.isAsciiAlphanumeric c = true := by
  intro c held
  rcases (mem_wordsFrom inside).2 c held with nothing | ⟨there, counts⟩
  · cases nothing
  · rwa [Unicode.isAlphanumeric_of_ascii (ascii c there)] at counts

/-- An ASCII text that has a word is written in snake case as a module name. -/
theorem isSnake_snake {name : String} (ascii : ∀ c ∈ name.toList, c.toNat < 0x80)
    (some : words name ≠ []) : IsSnake (snake name) := by
  refine IsSnake.intercalate (by simpa using some) ?_
  intro text inside
  obtain ⟨word, listed, rfl⟩ := List.mem_map.mp inside
  obtain ⟨w, cut, rfl⟩ := List.mem_map.mp listed
  obtain ⟨given, _⟩ := mem_wordsFrom cut
  have alphanumeric := isAsciiAlphanumeric_of_mem_wordsFrom ascii cut
  rw [Unicode.lowercase_ofList fun c own =>
    Text.toNat_lt_of_isAsciiAlphanumeric (alphanumeric c own)]
  refine IsSnake.of_word (by simpa using given) fun c own => ?_
  obtain ⟨d, here, rfl⟩ := List.mem_map.mp own
  exact Text.isSmall_asciiLower (alphanumeric d here)

/-- A label or a name is written in snake case as a module name. -/
theorem isSnake_of_chars {name : String}
    (chars : ∀ c ∈ name.toList, Text.isAsciiAlphanumeric c = true ∨ c = '-')
    (some : ∃ c ∈ name.toList, Text.isAsciiAlphanumeric c = true) : IsSnake (snake name) := by
  have ascii : ∀ c ∈ name.toList, c.toNat < 0x80 := by
    intro c inside
    rcases chars c inside with alphanumeric | rfl
    · exact Text.toNat_lt_of_isAsciiAlphanumeric alphanumeric
    · decide
  obtain ⟨c, inside, alphanumeric⟩ := some
  refine isSnake_snake ascii (words_ne_nil ⟨c, inside, ?_⟩)
  rw [Unicode.isAlphanumeric_of_ascii (ascii c inside), alphanumeric]

end Case

/-! ### Identifiers -/

namespace Nsid

variable {id : Nsid}

theorem isSnake_of_mem_labels {text : String} (parsed : parse text = .ok id) {label : String}
    (inside : label ∈ id.labels) : Case.IsSnake (Case.snake label) := by
  obtain ⟨chars, some⟩ := chars_of_label (label_of_parse parsed inside)
  exact Case.isSnake_of_chars chars some

theorem isSnake_name {text : String} (parsed : parse text = .ok id) :
    Case.IsSnake (Case.snake id.name) := by
  obtain ⟨chars, some⟩ := chars_of_isName (name_of_parse parsed)
  obtain ⟨c, inside⟩ := List.exists_mem_of_ne_nil _ some
  exact Case.isSnake_of_chars (fun d here => .inl (chars d here)) ⟨c, inside, chars c inside⟩

end Nsid

/-! ### Files -/

namespace Case.IsSnake

variable {text : String} (snake : IsSnake text)
include snake

theorem ne_of_mem {c d : Char} (inside : c ∈ text.toList) (other : Text.isSmall d = false)
    (apart : d ≠ '_') : c ≠ d := by
  rcases snake.chars c inside with small | rfl
  · exact Text.ne_of_isSmall small other
  · exact apart.symm

theorem notMem {d : Char} (other : Text.isSmall d = false) (apart : d ≠ '_') : d ∉ text.toList :=
  fun inside => snake.ne_of_mem inside other apart rfl

theorem ne_nil : text.toList ≠ [] := by
  obtain ⟨c, head, _⟩ := snake.first
  rintro empty
  rw [empty] at head
  cases head

end Case.IsSnake

namespace Keyword

variable {text : String}

theorem bare_of_notMem (absent : '#' ∉ text.toList) : bare text = text := by
  have different : rawMark.toList.isPrefixOf text.toList = false := by
    rw [Bool.eq_false_iff]
    intro starts
    obtain ⟨rest, same⟩ := List.isPrefixOf_iff_prefix.mp starts
    exact absent (same ▸ List.mem_append_left _ (by decide))
  simp [bare, Text.dropStart?, different]

theorem bare_rawMark_append (text : String) : bare (rawMark ++ text) = text := by
  rw [bare, Text.dropStart?_append, Option.getD_some]

/-- A module name goes to its file as it is, or with an underscore at one end. -/
theorem fileStem_cases (snake : Case.IsSnake text) :
    fileStem text = text ∨ fileStem text = text ++ "_" ∨ fileStem text = "_" ++ text := by
  have absent : '#' ∉ text.toList := snake.notMem (by decide) (by decide)
  unfold fileStem escape
  split
  · refine .inr (.inl (bare_of_notMem ?_))
    simpa using absent
  · split
    · exact .inl (bare_rawMark_append text)
    · split
      · refine .inr (.inr (bare_of_notMem ?_))
        simpa using absent
      · exact .inl (bare_of_notMem absent)

/-- A text without underscores at its ends. -/
def trimmed (text : String) : String :=
  String.ofList (((text.toList.dropWhile (· == '_')).reverse.dropWhile (· == '_')).reverse)

theorem dropWhile_of_head {cs : List Char} (start : ∃ c, cs.head? = some c ∧ c ≠ '_') :
    cs.dropWhile (· == '_') = cs := by
  obtain ⟨c, head, other⟩ := start
  cases cs with
  | nil => rfl
  | cons d rest =>
    cases head
    exact List.dropWhile_cons_of_neg (by simpa using other)

theorem trimmed_fileStem (snake : Case.IsSnake text) : trimmed (fileStem text) = text := by
  have front := dropWhile_of_head snake.first
  have back : text.toList.reverse.dropWhile (· == '_') = text.toList.reverse :=
    dropWhile_of_head (by simpa using snake.last)
  obtain ⟨c, head, start⟩ := snake.first
  have underscore : "_".toList = ['_'] := rfl
  rcases fileStem_cases snake with same | same | same
  · simp [trimmed, same, front, back]
  · have whole : (text.toList ++ ['_']).dropWhile (· == '_') = text.toList ++ ['_'] :=
      dropWhile_of_head ⟨c, by simp [head], start⟩
    simp [trimmed, same, underscore, whole, back]
  · simp [trimmed, same, underscore, front, back]

theorem map_trimmed_fileStem {segments : List String}
    (snake : ∀ segment ∈ segments, Case.IsSnake segment) :
    (segments.map fileStem).map trimmed = segments := by
  rw [List.map_map]
  conv_rhs => rw [← List.map_id segments]
  exact List.map_congr_left fun segment inside => trimmed_fileStem (snake segment inside)

/-- Different modules have different files. -/
theorem fileStem_inj {other : String} (snake : Case.IsSnake text) (second : Case.IsSnake other)
    (same : fileStem text = fileStem other) : text = other := by
  rw [← trimmed_fileStem snake, same, trimmed_fileStem second]

theorem mem_fileStem (snake : Case.IsSnake text) {c : Char} (inside : c ∈ (fileStem text).toList) :
    Text.isSmall c = true ∨ c = '_' := by
  have underscore : "_".toList = ['_'] := rfl
  rcases fileStem_cases snake with same | same | same
  · rw [same] at inside
    exact snake.chars c inside
  · rw [same, String.toList_append, underscore] at inside
    rcases List.mem_append.mp inside with inside | inside
    · exact snake.chars c inside
    · exact .inr (List.mem_singleton.mp inside)
  · rw [same, String.toList_append, underscore] at inside
    rcases List.mem_append.mp inside with inside | inside
    · exact .inr (List.mem_singleton.mp inside)
    · exact snake.chars c inside

theorem exists_mem_fileStem (snake : Case.IsSnake text) :
    ∃ c ∈ (fileStem text).toList, c ≠ '.' := by
  obtain ⟨c, inside⟩ := List.exists_mem_of_ne_nil _ snake.ne_nil
  have notDot : c ≠ '.' := snake.ne_of_mem inside (by decide) (by decide)
  refine ⟨c, ?_, notDot⟩
  rcases fileStem_cases snake with same | same | same <;> simp [same, inside]

/-- The only file that goes by the name of an index is that of the module `mod`. -/
theorem fileStem_eq_mod_iff (snake : Case.IsSnake text) :
    fileStem text ++ ".rs" = "mod.rs" ↔ text = "mod" := by
  have small : ['m', 'o', 'd'].all Text.isSmall = true := by decide
  have shape : Case.IsSnake "mod" := Case.IsSnake.of_word nofun (List.all_eq_true.mp small)
  constructor
  · intro same
    have whole : "mod.rs" = fileStem "mod" ++ ".rs" := by decide
    rw [whole] at same
    exact fileStem_inj snake shape ((String.append_left_inj _).mp same)
  · rintro rfl
    decide

end Keyword

theorem OutputPath.isName_of_mem {text : String} (noSlash : '/' ∉ text.toList) {c : Char}
    (inside : c ∈ text.toList) (other : c ≠ '.') : IsName text := by
  refine ⟨noSlash, ?_, ?_, ?_⟩
  · rintro rfl
    cases inside
  · rintro rfl
    exact other (List.mem_singleton.mp inside)
  · rintro rfl
    simp [other] at inside

/-- Two identifiers have the same labels and the same name, as module names are written. -/
structure Nsid.SameModule (a b : Nsid) : Prop where
  labels : a.labels.map Case.snake = b.labels.map Case.snake
  name : Case.snake a.name = Case.snake b.name

-- Names that differ in case alone may be written alike.
example :
    Nsid.SameModule ⟨["com", "example"], "fooBar", none⟩ ⟨["com", "example"], "FooBar", none⟩ :=
  ⟨rfl, by decide⟩

namespace Layout

open OutputPath (parts IsName)

variable {layout : Layout} {id other : Nsid} {text second : String}

theorem arrange_inj {α : Type} {order : NamespaceOrder} {as bs : List α}
    (same : order.arrange as = order.arrange bs) : as = bs := by
  cases order with
  | reversed => exact List.reverse_injective same
  | forward => exact same

theorem mem_arrange {α : Type} {order : NamespaceOrder} {a : α} {as : List α} :
    a ∈ order.arrange as ↔ a ∈ as := by
  cases order with
  | reversed => exact List.mem_reverse
  | forward => exact Iff.rfl

theorem isSnake_of_mem_segments (parsed : Nsid.parse text = .ok id) {segment : String}
    (inside : segment ∈ layout.namespaceSegments id) : Case.IsSnake segment := by
  obtain ⟨label, held, rfl⟩ := List.mem_map.mp (mem_arrange.mp inside)
  exact Nsid.isSnake_of_mem_labels parsed held

theorem isName_of_mem_components (parsed : Nsid.parse text = .ok id) {component : String}
    (inside : component ∈ layout.fileComponents id) : IsName component := by
  have noSlash {segment : String} (snake : Case.IsSnake segment) :
      '/' ∉ (Keyword.fileStem segment).toList := by
    intro slash
    rcases Keyword.mem_fileStem snake slash with small | same
    · exact absurd small (by decide)
    · exact absurd same (by decide)
  rcases List.mem_append.mp inside with directory | file
  · obtain ⟨segment, held, rfl⟩ := List.mem_map.mp directory
    have snake := isSnake_of_mem_segments parsed held
    obtain ⟨c, here, other⟩ := Keyword.exists_mem_fileStem snake
    exact OutputPath.isName_of_mem (noSlash snake) here other
  · obtain rfl := List.mem_singleton.mp file
    refine OutputPath.isName_of_mem (c := 'r') ?_ (by simp) (by decide)
    rw [String.toList_append, List.mem_append, not_or]
    exact ⟨noSlash (Nsid.isSnake_name parsed), by decide⟩

/-- The parts of the path of a file are its directories and the file. -/
theorem parts_filePath (parsed : Nsid.parse text = .ok id) :
    parts (layout.filePath id) = (layout.fileComponents id).map .named :=
  OutputPath.parts_intercalate (by simp [fileComponents]) fun _ => isName_of_mem_components parsed

/-- Two identifiers share a file exactly if they have the same module names. -/
theorem parts_filePath_eq_iff (parsed : Nsid.parse text = .ok id)
    (again : Nsid.parse second = .ok other) :
    parts (layout.filePath id) = parts (layout.filePath other) ↔ id.SameModule other := by
  rw [parts_filePath parsed, parts_filePath again]
  constructor
  · intro same
    have components : layout.fileComponents id = layout.fileComponents other :=
      List.map_injective_iff.mpr (fun _ _ => OutputPath.Part.named.inj) same
    rw [fileComponents, fileComponents] at components
    obtain ⟨directories, files⟩ := List.append_inj' components (by simp)
    constructor
    · -- Each directory gives its module name back.
      have segments := congrArg (List.map Keyword.trimmed) directories
      rw [Keyword.map_trimmed_fileStem fun _ => isSnake_of_mem_segments parsed,
        Keyword.map_trimmed_fileStem fun _ => isSnake_of_mem_segments again] at segments
      exact arrange_inj segments
    · have stems := (String.append_left_inj _).mp (List.singleton_inj.mp files)
      exact Keyword.fileStem_inj (Nsid.isSnake_name parsed) (Nsid.isSnake_name again) stems
  · rintro ⟨labels, name⟩
    simp only [fileComponents, namespaceSegments, labels, name]

end Layout

end Lexicon
