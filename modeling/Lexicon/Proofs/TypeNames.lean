import Lexicon.Proofs.ModuleNames
import Lexicon.Proofs.TextMarks

/-!
# Lexicon.Proofs.TypeNames

Which identifiers give their types the same name.

The name of a type joins the words of the document's name and of the fragment,
each with a capital. A name starts with a letter, so each word does, and the
capitals of a type name tell where its words start. So types are told apart by
their words, and by nothing else: neither by case nor by what is a word of the
document and what one of the fragment.

## Main definitions

- `Nsid.typeWords`: the words of a type name, in lower case.
- `Nsid.IsNamed`: the name and the fragment have the shape of names.

## Main result

`Layout.typeName_eq_iff`: two types have the same name exactly if they have the
same words.
-/

namespace Lexicon

/-! ### Letters -/

namespace Text

variable {c : Char}

theorem toNat_lt_of_isAsciiLetter (letter : isAsciiLetter c = true) : c.toNat < 0x80 :=
  toNat_lt_of_isAsciiAlphanumeric (by simp [isAsciiAlphanumeric, letter])

theorem isAsciiUpper_asciiUpper (letter : isAsciiLetter c = true) :
    isAsciiUpper (asciiUpper c) = true := by
  have each : ∀ n : Fin 0x80, isAsciiLetter (Char.ofNat n) = true →
      isAsciiUpper (asciiUpper (Char.ofNat n)) = true := by
    decide +kernel
  exact of_ascii (P := fun d => isAsciiLetter d = true → isAsciiUpper (asciiUpper d) = true) each
    (toNat_lt_of_isAsciiLetter letter) letter

theorem isAsciiUpper_asciiLower (ascii : c.toNat < 0x80) : isAsciiUpper (asciiLower c) = false := by
  have each : ∀ n : Fin 0x80, isAsciiUpper (asciiLower (Char.ofNat n)) = false := by
    decide +kernel
  exact of_ascii (P := fun d => isAsciiUpper (asciiLower d) = false) each ascii

theorem asciiUpper_asciiLower (ascii : c.toNat < 0x80) :
    asciiUpper (asciiLower c) = asciiUpper c := by
  have each : ∀ n : Fin 0x80,
      asciiUpper (asciiLower (Char.ofNat n)) = asciiUpper (Char.ofNat n) := by
    decide +kernel
  exact of_ascii (P := fun d => asciiUpper (asciiLower d) = asciiUpper d) each ascii

theorem asciiLower_asciiUpper (ascii : c.toNat < 0x80) :
    asciiLower (asciiUpper c) = asciiLower c := by
  have each : ∀ n : Fin 0x80,
      asciiLower (asciiUpper (Char.ofNat n)) = asciiLower (Char.ofNat n) := by
    decide +kernel
  exact of_ascii (P := fun d => asciiLower (asciiUpper d) = asciiLower d) each ascii

theorem isAsciiAlphanumeric_cases (alphanumeric : isAsciiAlphanumeric c = true) :
    isAsciiAlphanumeric (asciiUpper c) = true ∧ isAsciiAlphanumeric (asciiLower c) = true := by
  have each : ∀ n : Fin 0x80, isAsciiAlphanumeric (Char.ofNat n) = true →
      isAsciiAlphanumeric (asciiUpper (Char.ofNat n)) = true ∧
        isAsciiAlphanumeric (asciiLower (Char.ofNat n)) = true := by
    decide +kernel
  exact of_ascii (P := fun d => isAsciiAlphanumeric d = true →
    isAsciiAlphanumeric (asciiUpper d) = true ∧ isAsciiAlphanumeric (asciiLower d) = true) each
    (toNat_lt_of_isAsciiAlphanumeric alphanumeric) alphanumeric

theorem asciiLower_asciiLower (ascii : c.toNat < 0x80) :
    asciiLower (asciiLower c) = asciiLower c := by
  have each : ∀ n : Fin 0x80,
      asciiLower (asciiLower (Char.ofNat n)) = asciiLower (Char.ofNat n) := by
    decide +kernel
  exact of_ascii (P := fun d => asciiLower (asciiLower d) = asciiLower d) each ascii

end Text

/-! ### Words with capitals -/

namespace Case

/-- A capital, and none behind it. -/
inductive IsCapitalized : List Char → Prop
  | cons {c : Char} {rest : List Char} (capital : Text.isAsciiUpper c = true)
      (small : ∀ d ∈ rest, Text.isAsciiUpper d = false) : IsCapitalized (c :: rest)

theorem IsCapitalized.ne_nil {word : List Char} (given : IsCapitalized word) : word ≠ [] := by
  cases given
  exact List.cons_ne_nil _ _

theorem IsCapitalized.isMarked {word : List Char} (given : IsCapitalized word) :
    Text.IsMarked Text.isAsciiUpper word := by
  cases given with
  | cons capital small => exact .cons capital small

/-- Capitals tell joined words apart. -/
theorem flatten_inj {as bs : List (List Char)} (left : ∀ a ∈ as, IsCapitalized a)
    (right : ∀ b ∈ bs, IsCapitalized b) (same : as.flatten = bs.flatten) : as = bs :=
  Text.flatten_inj_of_isMarked (fun a inside => (left a inside).isMarked)
    (fun b inside => (right b inside).isMarked) same

/-- A word with its first letter as a capital. -/
def capitalized : List Char → List Char
  | [] => []
  | c :: rest => Text.asciiUpper c :: rest.map Text.asciiLower

section Ascii

variable {word : List Char} (ascii : ∀ c ∈ word, c.toNat < 0x80)
include ascii

theorem map_asciiLower_map_asciiLower :
    (word.map Text.asciiLower).map Text.asciiLower = word.map Text.asciiLower := by
  rw [List.map_map]
  exact List.map_congr_left fun c inside => Text.asciiLower_asciiLower (ascii c inside)

theorem capitalize_ofList : capitalize (String.ofList word) = String.ofList (capitalized word) := by
  unfold capitalize
  rw [String.toList_ofList]
  cases word with
  | nil => rfl
  | cons c rest =>
    have tail : rest.flatMap Unicode.lowerChar = rest.map Text.asciiLower := by
      rw [← List.flatMap_singleton' (rest.map Text.asciiLower), List.flatMap_map]
      refine List.flatMap_congr fun d inside => ?_
      rw [Unicode.lowerChar, if_pos (ascii d (List.mem_cons_of_mem _ inside))]
    dsimp only
    rw [Unicode.upperChar, if_pos (ascii c List.mem_cons_self), tail]
    rfl

theorem map_asciiLower_capitalized :
    (capitalized word).map Text.asciiLower = word.map Text.asciiLower := by
  cases word with
  | nil => rfl
  | cons c rest =>
    obtain ⟨first, others⟩ := List.forall_mem_cons.mp ascii
    rw [capitalized, List.map_cons, List.map_cons, map_asciiLower_map_asciiLower others,
      Text.asciiLower_asciiUpper first]

theorem capitalized_map_asciiLower :
    capitalized (word.map Text.asciiLower) = capitalized word := by
  cases word with
  | nil => rfl
  | cons c rest =>
    obtain ⟨first, others⟩ := List.forall_mem_cons.mp ascii
    rw [List.map_cons, capitalized, capitalized, map_asciiLower_map_asciiLower others,
      Text.asciiUpper_asciiLower first]

end Ascii

/-- A word of ASCII letters and digits that starts with a letter. -/
structure IsWord (word : List Char) : Prop where
  chars : ∀ c ∈ word, Text.isAsciiAlphanumeric c = true
  first : ∃ c, word.head? = some c ∧ Text.isAsciiLetter c = true

namespace IsWord

variable {word other : List Char} (given : IsWord word)
include given

theorem toNat_lt {c : Char} (inside : c ∈ word) : c.toNat < 0x80 :=
  Text.toNat_lt_of_isAsciiAlphanumeric (given.chars c inside)

theorem isCapitalized : IsCapitalized (capitalized word) := by
  obtain ⟨c, head, letter⟩ := given.first
  cases word with
  | nil => cases head
  | cons d rest =>
    cases head
    refine .cons (Text.isAsciiUpper_asciiUpper letter) fun e inside => ?_
    obtain ⟨f, held, rfl⟩ := List.mem_map.mp inside
    exact Text.isAsciiUpper_asciiLower (given.toNat_lt (List.mem_cons_of_mem _ held))

end IsWord

/-- Words are the same in lower case exactly if they are with capitals. -/
theorem map_capitalized_eq_iff {as bs : List (List Char)} (left : ∀ a ∈ as, IsWord a)
    (right : ∀ b ∈ bs, IsWord b) :
    as.map capitalized = bs.map capitalized ↔
      as.map (List.map Text.asciiLower) = bs.map (List.map Text.asciiLower) := by
  -- Either form of the words is made from the other one.
  have lower {words : List (List Char)} (each : ∀ word ∈ words, IsWord word) :
      (words.map capitalized).map (List.map Text.asciiLower) =
        words.map (List.map Text.asciiLower) := by
    rw [List.map_map]
    exact List.map_congr_left fun word inside =>
      map_asciiLower_capitalized fun c => (each word inside).toNat_lt
  have upper {words : List (List Char)} (each : ∀ word ∈ words, IsWord word) :
      (words.map (List.map Text.asciiLower)).map capitalized = words.map capitalized := by
    rw [List.map_map]
    exact List.map_congr_left fun word inside =>
      capitalized_map_asciiLower fun c => (each word inside).toNat_lt
  constructor
  · intro same
    rw [← lower left, same, lower right]
  · intro same
    rw [← upper left, same, upper right]

/-! ### Words of a name -/

theorem letter_of_mem_finished {word w : List Char}
    (begun : ∀ c, word.getLast? = some c → Text.isAsciiLetter c = true)
    (inside : w ∈ finished word) : ∃ c, w.head? = some c ∧ Text.isAsciiLetter c = true := by
  unfold finished at inside
  split at inside
  · cases inside
  · next given =>
    obtain rfl := List.mem_singleton.mp inside
    have some : word ≠ [] := by simpa using given
    have last := List.getLast?_eq_some_getLast some
    exact ⟨word.getLast some, by rw [List.head?_reverse, last], begun _ last⟩

/-- In a name that starts with a letter, every word starts with one. -/
theorem letter_of_mem_wordsFrom {word cs w : List Char}
    (chars : ∀ c ∈ cs, Text.isAsciiAlphanumeric c = true)
    (begun : ∀ c, word.getLast? = some c → Text.isAsciiLetter c = true)
    (first : word = [] → ∀ c, cs.head? = some c → Text.isAsciiLetter c = true)
    (inside : w ∈ wordsFrom word cs) : ∃ c, w.head? = some c ∧ Text.isAsciiLetter c = true := by
  induction cs generalizing word with
  | nil => exact letter_of_mem_finished begun inside
  | cons d rest ih =>
    have alphanumeric := chars d List.mem_cons_self
    have others := fun c held => chars c (List.mem_cons_of_mem _ held)
    have ascii := Text.toNat_lt_of_isAsciiAlphanumeric alphanumeric
    have counts : Unicode.isAlphanumeric d = true := by
      rw [Unicode.isAlphanumeric_of_ascii ascii, alphanumeric]
    -- A word that starts here starts with a letter if this is one.
    have start (letter : Text.isAsciiLetter d = true) (here : w ∈ wordsFrom [d] rest) :
        ∃ c, w.head? = some c ∧ Text.isAsciiLetter c = true := by
      refine ih others ?_ (fun none => absurd none (List.cons_ne_nil _ _)) here
      rintro c ⟨⟩
      exact letter
    rw [wordsFrom.eq_def] at inside
    dsimp only at inside
    rw [if_neg (by simp [counts])] at inside
    split at inside
    · exact start (first rfl d rfl) inside
    · next last more =>
      split at inside
      · next cuts =>
        rcases List.mem_append.mp inside with here | here
        · exact letter_of_mem_finished begun here
        · -- Words are cut before capitals only.
          have capital : Text.isAsciiUpper d = true := by
            have upper := (Bool.and_eq_true_iff.mp cuts).1
            rwa [Unicode.isUppercase, if_pos ascii] at upper
          exact start (by simp [Text.isAsciiLetter, capital]) here
      · refine ih others ?_ (fun none => absurd none (List.cons_ne_nil _ _)) inside
        simpa using begun

theorem isWord_of_mem_words {name : String} (named : Label.isName name = true) {word : List Char}
    (inside : word ∈ wordsFrom [] name.toList) : IsWord word := by
  obtain ⟨chars, _⟩ := Nsid.chars_of_isName named
  constructor
  · intro c held
    rcases (mem_wordsFrom inside).2 c held with nothing | ⟨there, _⟩
    · cases nothing
    · exact chars c there
  · refine letter_of_mem_wordsFrom chars (by simp) (fun _ c head => ?_) inside
    unfold Label.isName at named
    split at named
    · cases named
    · next first rest shape =>
      rw [shape] at head
      cases head
      exact (Bool.and_eq_true_iff.mp named).1

theorem map_capitalize_words {name : String} (ascii : ∀ c ∈ name.toList, c.toNat < 0x80) :
    (words name).map capitalize =
      ((wordsFrom [] name.toList).map capitalized).map String.ofList := by
  rw [words, List.map_map, List.map_map]
  refine List.map_congr_left fun word inside => capitalize_ofList fun c held => ?_
  exact Text.toNat_lt_of_isAsciiAlphanumeric
    (isAsciiAlphanumeric_of_mem_wordsFrom ascii inside c held)

theorem toList_pascal {name : String} (ascii : ∀ c ∈ name.toList, c.toNat < 0x80) :
    (pascal name).toList = ((wordsFrom [] name.toList).map capitalized).flatten := by
  rw [pascal, map_capitalize_words ascii, String.toList_join]
  simp [List.flatMap_def, Function.comp_def]

end Case

/-! ### Types -/

namespace Nsid

/-- The words of the name of a type, in lower case. -/
def typeWords (id : Nsid) : List String :=
  (Case.words id.name ++ (id.fragment.map Case.words).getD []).map Unicode.lowercase

/-- The name and the fragment have the shape of names. -/
structure IsNamed (id : Nsid) : Prop where
  name : Label.isName id.name = true
  fragment : ∀ fragment, id.fragment = some fragment → Label.isName fragment = true

theorem isNamed_of_parse {id : Nsid} {text : String} (parsed : parse text = .ok id) :
    id.IsNamed := by
  obtain ⟨_, start, fragment, parts⟩ := parse_eq_ok_iff.mp parsed
  exact ⟨parts.named, fun name given => (isName_of_fragment parsed given).1⟩

/-- The words of the name and of the fragment as they are written. -/
def plainWords (id : Nsid) : List (List Char) :=
  Case.wordsFrom [] id.name.toList ++
    (id.fragment.map fun fragment => Case.wordsFrom [] fragment.toList).getD []

theorem ascii_of_isName {name : String} (named : Label.isName name = true) :
    ∀ c ∈ name.toList, c.toNat < 0x80 := fun c inside =>
  Text.toNat_lt_of_isAsciiAlphanumeric ((chars_of_isName named).1 c inside)

namespace IsNamed

variable {id : Nsid} (named : id.IsNamed)
include named

theorem isWord_of_mem {word : List Char} (inside : word ∈ id.plainWords) : Case.IsWord word := by
  rcases List.mem_append.mp inside with own | more
  · exact Case.isWord_of_mem_words named.name own
  · cases fragment : id.fragment with
    | none =>
      rw [fragment] at more
      cases more
    | some name =>
      rw [fragment] at more
      exact Case.isWord_of_mem_words (named.fragment name fragment) more

theorem toList_typeName :
    (Layout.typeName id).toList = (id.plainWords.map Case.capitalized).flatten := by
  unfold Layout.typeName plainWords
  rw [String.toList_append, Case.toList_pascal (ascii_of_isName named.name), List.map_append,
    List.flatten_append]
  cases fragment : id.fragment with
  | none => rfl
  | some name =>
    exact congrArg _ (Case.toList_pascal (ascii_of_isName (named.fragment name fragment)))

theorem typeWords_eq :
    id.typeWords = (id.plainWords.map (List.map Text.asciiLower)).map String.ofList := by
  have plain : Case.words id.name ++ (id.fragment.map Case.words).getD [] =
      id.plainWords.map String.ofList := by
    unfold plainWords
    rw [List.map_append]
    cases id.fragment <;> rfl
  rw [typeWords, plain, List.map_map, List.map_map]
  exact List.map_congr_left fun word inside =>
    Unicode.lowercase_ofList fun c => (named.isWord_of_mem inside).toNat_lt

end IsNamed

end Nsid

namespace Layout

variable {a b : Nsid}

/-- Types are told apart by their words. -/
theorem typeName_eq_iff (left : a.IsNamed) (right : b.IsNamed) :
    typeName a = typeName b ↔ a.typeWords = b.typeWords := by
  -- A capital starts each word and stands nowhere else, so a name can be cut into its words.
  have capitals {id : Nsid} (named : id.IsNamed) :
      ∀ word ∈ id.plainWords.map Case.capitalized, Case.IsCapitalized word := by
    intro word inside
    obtain ⟨plain, held, rfl⟩ := List.mem_map.mp inside
    exact (named.isWord_of_mem held).isCapitalized
  have lists : typeName a = typeName b ↔
      a.plainWords.map Case.capitalized = b.plainWords.map Case.capitalized := by
    rw [← String.toList_inj, left.toList_typeName, right.toList_typeName]
    exact ⟨Case.flatten_inj (capitals left) (capitals right), congrArg List.flatten⟩
  have texts : a.typeWords = b.typeWords ↔
      a.plainWords.map (List.map Text.asciiLower) =
        b.plainWords.map (List.map Text.asciiLower) := by
    rw [left.typeWords_eq, right.typeWords_eq]
    exact (List.map_injective_iff.mpr fun _ _ => String.ofList_inj.mp).eq_iff
  rw [lists, texts]
  exact Case.map_capitalized_eq_iff (fun _ => left.isWord_of_mem) fun _ => right.isWord_of_mem

/-- A name that is written with capitals already is that of a type with its words. -/
theorem typeName_eq_name_iff {name : String} (named : a.IsNamed) (shape : Label.isName name = true)
    (fixed : Case.pascal name = name) :
    typeName a = name ↔ a.typeWords = (Case.words name).map Unicode.lowercase := by
  have other : Nsid.IsNamed ⟨[], name, none⟩ := ⟨shape, nofun⟩
  have type : typeName ⟨[], name, none⟩ = name := by
    rw [typeName, Option.map_none, Option.getD_none, String.append_empty, fixed]
  have words : Nsid.typeWords ⟨[], name, none⟩ = (Case.words name).map Unicode.lowercase := by
    rw [Nsid.typeWords, Option.map_none, Option.getD_none, List.append_nil]
  have same := typeName_eq_iff named other
  rwa [type, words] at same

-- A word of the fragment may as well be one of the name.
example : typeName ⟨["com", "example"], "fooBar", none⟩ =
    typeName ⟨["com", "example"], "foo", some "bar"⟩ := by
  decide

theorem typeName_ne_empty (named : a.IsNamed) : typeName a ≠ "" := by
  have some : Case.wordsFrom [] a.name.toList ≠ [] := by
    obtain ⟨chars, given⟩ := Nsid.chars_of_isName named.name
    obtain ⟨c, inside⟩ := List.exists_mem_of_ne_nil _ given
    have alphanumeric := chars c inside
    refine Case.wordsFrom_ne_nil (.inr ⟨c, inside, ?_⟩)
    rw [Unicode.isAlphanumeric_of_ascii (Text.toNat_lt_of_isAsciiAlphanumeric alphanumeric),
      alphanumeric]
  obtain ⟨word, inside⟩ := List.exists_mem_of_ne_nil _ some
  have plain : word ∈ a.plainWords := List.mem_append_left _ inside
  intro empty
  have chars := named.toList_typeName
  rw [empty, String.toList_empty] at chars
  have nothing := List.flatten_eq_nil_iff.mp chars.symm _ (List.mem_map_of_mem plain)
  exact (named.isWord_of_mem plain).isCapitalized.ne_nil nothing

theorem isAsciiAlphanumeric_of_mem_typeName (named : a.IsNamed) {c : Char}
    (inside : c ∈ (typeName a).toList) : Text.isAsciiAlphanumeric c = true := by
  rw [named.toList_typeName] at inside
  obtain ⟨_, listed, inside⟩ := List.mem_flatten.mp inside
  obtain ⟨word, held, rfl⟩ := List.mem_map.mp listed
  have chars := (named.isWord_of_mem held).chars
  cases word with
  | nil => cases inside
  | cons d rest =>
    rcases List.mem_cons.mp inside with rfl | inside
    · exact (Text.isAsciiAlphanumeric_cases (chars d List.mem_cons_self)).1
    · obtain ⟨e, there, rfl⟩ := List.mem_map.mp inside
      exact (Text.isAsciiAlphanumeric_cases (chars e (List.mem_cons_of_mem _ there))).2

end Layout

end Lexicon
