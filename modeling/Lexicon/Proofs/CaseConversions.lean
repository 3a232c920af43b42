import Lexicon.Proofs.TypeNames

/-!
# Lexicon.Proofs.CaseConversions

Case conversions one after the other.

Each conversion writes the words of a name together so that they can be found
again: separators tell words in lower case apart, and capitals tell capitalized
words apart, as long as something small stands between two of them. So a name
that has been converted has the words of the name it was made of but for their
case, and the case of a word is settled by the last conversion.

## Main definitions

- `Case.IsHump`: a capitalized word that is found again.
- `Case.IsFull`: a word that becomes one.

## Main results

- `Case.words_joined`, `Case.words_pascal`, `Case.words_camel`: the words of
  converted names.
- `Case.conversions_compose`: which conversions leave what others have made.

## Proof strategy

The words of a text are collected in reverse, so all lemmas about them leave
open which word is at hand. Small characters only make that word longer; a
separator ends it, and so does a capital behind a small character.
-/

namespace Lexicon

/-! ### Small characters and capitals -/

namespace Text

variable {c : Char}

theorem isAsciiAlphanumeric_of_isSmall (small : isSmall c = true) :
    isAsciiAlphanumeric c = true := by
  rcases Bool.or_eq_true_iff.mp small with letter | digit
  · simp [isAsciiAlphanumeric, isAsciiLetter, letter]
  · simp [isAsciiAlphanumeric, digit]

theorem isAsciiUpper_of_isSmall (small : isSmall c = true) : isAsciiUpper c = false := by
  have each : ∀ n : Fin 0x80, isSmall (Char.ofNat n) = true →
      isAsciiUpper (Char.ofNat n) = false := by
    decide +kernel
  exact of_ascii (P := fun d => isSmall d = true → isAsciiUpper d = false) each
    (toNat_lt_of_isAsciiAlphanumeric (isAsciiAlphanumeric_of_isSmall small)) small

theorem isAsciiAlphanumeric_of_isAsciiUpper (capital : isAsciiUpper c = true) :
    isAsciiAlphanumeric c = true := by
  simp [isAsciiAlphanumeric, isAsciiLetter, capital]

end Text

/-! ### Collecting words -/

namespace Case

section Collecting

variable {word cs : List Char} {c : Char}

/-- Small characters go on with the word at hand. -/
theorem wordsFrom_append (small : ∀ c ∈ cs, Text.isSmall c = true) (word rest : List Char) :
    wordsFrom word (cs ++ rest) = wordsFrom (cs.reverse ++ word) rest := by
  induction cs generalizing word with
  | nil => rfl
  | cons c cs ih =>
    obtain ⟨first, others⟩ := List.forall_mem_cons.mp small
    have alphanumeric := Text.isAsciiAlphanumeric_of_isSmall first
    have ascii := Text.toNat_lt_of_isAsciiAlphanumeric alphanumeric
    have noCapital : Unicode.isUppercase c = false := by
      rw [Unicode.isUppercase, if_pos ascii, Text.isAsciiUpper_of_isSmall first]
    rw [← Unicode.isAlphanumeric_of_ascii ascii] at alphanumeric
    have next : wordsFrom word (c :: (cs ++ rest)) = wordsFrom (c :: word) (cs ++ rest) := by
      cases word <;> simp [wordsFrom, alphanumeric, cutsBefore, noCapital]
    rw [List.cons_append, next, ih others, List.reverse_cons, List.append_assoc,
      List.singleton_append]

/-- A separator ends the word at hand. -/
theorem wordsFrom_separator (separates : Unicode.isAlphanumeric c = false) (word rest : List Char) :
    wordsFrom word (c :: rest) = finished word ++ wordsFrom [] rest := by
  cases word <;> simp [wordsFrom, separates]

/-- A capital starts a word, unless another capital is at hand. -/
theorem wordsFrom_capital (capital : Text.isAsciiUpper c = true)
    (stops : ∀ last, word.head? = some last → Text.isSmall last = true) (rest : List Char) :
    wordsFrom word (c :: rest) = finished word ++ wordsFrom [c] rest := by
  have alphanumeric := Text.isAsciiAlphanumeric_of_isAsciiUpper capital
  have ascii := Text.toNat_lt_of_isAsciiAlphanumeric alphanumeric
  rw [← Unicode.isAlphanumeric_of_ascii ascii] at alphanumeric
  cases word with
  | nil => simp [wordsFrom, alphanumeric, finished]
  | cons last before =>
    -- A word is cut between a small character and a capital.
    have small := stops last rfl
    have lastAscii := Text.toNat_lt_of_isAsciiAlphanumeric
      (Text.isAsciiAlphanumeric_of_isSmall small)
    have cuts : cutsBefore last c rest.head? = true := by
      rw [Text.isSmall, Bool.or_eq_true] at small
      simp [cutsBefore, Unicode.isUppercase, Unicode.isLowercase, Unicode.isNumeric, ascii,
        lastAscii, capital, small]
    simp [wordsFrom, alphanumeric, cuts]

theorem finished_reverse (given : word ≠ []) : finished word.reverse = [word] := by
  simp [finished, given]

/-- Words of small characters are found again between separators. -/
theorem wordsFrom_intercalate (separates : Unicode.isAlphanumeric c = false)
    {words : List (List Char)} (given : ∀ word ∈ words, word ≠ [])
    (small : ∀ word ∈ words, ∀ d ∈ word, Text.isSmall d = true) :
    wordsFrom [] ([c].intercalate words) = words := by
  induction words with
  | nil => rfl
  | cons word rest ih =>
    obtain ⟨first, others⟩ := List.forall_mem_cons.mp given
    obtain ⟨firstSmall, othersSmall⟩ := List.forall_mem_cons.mp small
    cases rest with
    | nil =>
      have alone := wordsFrom_append firstSmall [] []
      simp only [List.append_nil] at alone
      rw [List.intercalate_singleton, alone, wordsFrom, finished_reverse first]
    | cons next rest =>
      rw [List.intercalate_cons_cons, List.append_assoc, wordsFrom_append firstSmall,
        List.append_nil, List.singleton_append, wordsFrom_separator separates,
        finished_reverse first, ih others othersSmall, List.singleton_append]

/-- A capital, and small characters behind it. -/
inductive IsHump : List Char → Prop
  | cons {c : Char} {rest : List Char} (capital : Text.isAsciiUpper c = true) (given : rest ≠ [])
      (small : ∀ d ∈ rest, Text.isSmall d = true) : IsHump (c :: rest)

/-- The last of the small characters, which comes first in the word at hand. -/
theorem isSmall_of_head?_reverse_append (given : cs ≠ []) (small : ∀ c ∈ cs, Text.isSmall c = true)
    (word : List Char) :
    ∀ last, (cs.reverse ++ word).head? = some last → Text.isSmall last = true := by
  intro last head
  rw [List.head?_append_of_ne_nil _ (by simpa using given)] at head
  exact small last (List.mem_reverse.mp (List.mem_of_head? head))

/-- Capitals tell words apart that go on with small characters. -/
theorem wordsFrom_flatten {humps : List (List Char)} (each : ∀ hump ∈ humps, IsHump hump)
    (stops : ∀ last, word.head? = some last → Text.isSmall last = true) :
    wordsFrom word humps.flatten = finished word ++ humps := by
  induction humps generalizing word with
  | nil => simp [wordsFrom]
  | cons hump humps ih =>
    obtain ⟨first, others⟩ := List.forall_mem_cons.mp each
    cases first with
    | @cons c rest capital given small =>
      -- The capital ends the word at hand, and is the word at hand for the rest of its own.
      have whole : finished (rest.reverse ++ [c]) = [c :: rest] := by
        rw [← List.reverse_cons, finished_reverse (List.cons_ne_nil c rest)]
      rw [List.flatten_cons, List.cons_append, wordsFrom_capital capital stops,
        wordsFrom_append small, ih others (isSmall_of_head?_reverse_append given small [c]), whole]
      rfl

end Collecting

/-! ### Words of a name -/

variable {name : String}

theorem isSmall_of_mem_map_asciiLower {word : List Char}
    (chars : ∀ c ∈ word, Text.isAsciiAlphanumeric c = true) :
    ∀ c ∈ word.map Text.asciiLower, Text.isSmall c = true := by
  intro c inside
  obtain ⟨d, held, rfl⟩ := List.mem_map.mp inside
  exact Text.isSmall_asciiLower (chars d held)

/-- A word that is found again once it is capitalized, whatever stands next to it. -/
structure IsFull (word : String) : Prop where
  long : 2 ≤ word.length
  letter : word.toList.head?.any Text.isAsciiLetter = true

theorem IsFull.isHump {word : List Char} (full : IsFull (String.ofList word))
    (chars : ∀ c ∈ word, Text.isAsciiAlphanumeric c = true) : IsHump (capitalized word) := by
  obtain ⟨long, letter⟩ := full
  rw [String.toList_ofList] at letter
  rw [String.length_ofList] at long
  cases word with
  | nil => cases letter
  | cons c rest =>
    have others := (List.forall_mem_cons.mp chars).2
    apply IsHump.cons (Text.isAsciiUpper_asciiUpper (by simpa using letter))
    · rintro none
      rw [List.map_eq_nil_iff.mp none] at long
      simp at long
    · exact isSmall_of_mem_map_asciiLower others

section Converted

variable (ascii : ∀ c ∈ name.toList, c.toNat < 0x80)
include ascii

theorem map_lowercase_words :
    (words name).map Unicode.lowercase =
      ((wordsFrom [] name.toList).map (List.map Text.asciiLower)).map String.ofList := by
  rw [words, List.map_map, List.map_map]
  refine List.map_congr_left fun word inside => Unicode.lowercase_ofList fun c held => ?_
  exact Text.toNat_lt_of_isAsciiAlphanumeric
    (isAsciiAlphanumeric_of_mem_wordsFrom ascii inside c held)

/-- Separators keep the words. -/
theorem words_joined (separator : Char) (separates : Unicode.isAlphanumeric separator = false) :
    words (String.intercalate (String.singleton separator) ((words name).map Unicode.lowercase)) =
      (words name).map Unicode.lowercase := by
  have texts : (((wordsFrom [] name.toList).map (List.map Text.asciiLower)).map
      String.ofList).map String.toList =
        (wordsFrom [] name.toList).map (List.map Text.asciiLower) := by
    rw [List.map_map]
    simp [Function.comp_def]
  rw [map_lowercase_words ascii, words, String.toList_intercalate, String.toList_singleton, texts,
    wordsFrom_intercalate separates]
  · intro word inside
    obtain ⟨plain, held, rfl⟩ := List.mem_map.mp inside
    simpa using (mem_wordsFrom held).1
  · intro word inside
    obtain ⟨plain, held, rfl⟩ := List.mem_map.mp inside
    exact isSmall_of_mem_map_asciiLower (isAsciiAlphanumeric_of_mem_wordsFrom ascii held)

variable (full : ∀ word ∈ words name, IsFull word)
include full

/-- Full words are capitalized so that they are found again. -/
theorem isHump_of_mem {hump : List Char}
    (inside : hump ∈ (wordsFrom [] name.toList).map capitalized) : IsHump hump := by
  obtain ⟨word, held, rfl⟩ := List.mem_map.mp inside
  exact (full _ (List.mem_map_of_mem held)).isHump (isAsciiAlphanumeric_of_mem_wordsFrom ascii held)

theorem words_pascal : words (pascal name) = (words name).map capitalize := by
  have noWord : ∀ last, ([] : List Char).head? = some last → Text.isSmall last = true := by simp
  rw [map_capitalize_words ascii, words, toList_pascal ascii,
    wordsFrom_flatten (fun hump => isHump_of_mem ascii full) noWord]
  rfl

/-- Only the first word is in lower case, and it ends where the next capital stands. -/
theorem words_camel {word : String} {rest : List String} (shape : words name = word :: rest) :
    words (camel name) = Unicode.lowercase word :: rest.map capitalize := by
  have lower := map_lowercase_words ascii
  have upper := map_capitalize_words ascii
  have humps := fun hump (inside : hump ∈ (wordsFrom [] name.toList).map capitalized) =>
    isHump_of_mem ascii full inside
  have chars := fun w (inside : w ∈ wordsFrom [] name.toList) =>
    isAsciiAlphanumeric_of_mem_wordsFrom ascii inside
  have given := fun w (inside : w ∈ wordsFrom [] name.toList) => (mem_wordsFrom inside).1
  rw [shape] at lower upper
  cases plain : wordsFrom [] name.toList with
  | nil => simp [words, plain] at shape
  | cons first others =>
    rw [plain] at lower upper humps chars given
    simp only [List.map_cons] at lower upper humps
    obtain ⟨lowerFirst, _⟩ := List.cons.inj lower
    obtain ⟨_, upperOthers⟩ := List.cons.inj upper
    have small := isSmall_of_mem_map_asciiLower (chars first List.mem_cons_self)
    have some : first.map Text.asciiLower ≠ [] := by simpa using given first List.mem_cons_self
    -- The first word is in lower case, and each other one starts with a capital.
    have text : (camel name).toList =
        first.map Text.asciiLower ++ (others.map capitalized).flatten := by
      simp [camel, shape, lowerFirst, upperOthers, List.flatMap_def, Function.comp_def]
    rw [lowerFirst, upperOthers, words, text, wordsFrom_append small,
      wordsFrom_flatten (List.forall_mem_cons.mp humps).2
        (isSmall_of_head?_reverse_append some small []), List.append_nil, finished_reverse some]
    rfl

end Converted

/-! ### The case of a word -/

/-- A word of ASCII letters and digits. -/
def IsAsciiWord (word : String) : Prop := ∀ c ∈ word.toList, Text.isAsciiAlphanumeric c = true

namespace IsAsciiWord

variable {word : String} (chars : IsAsciiWord word)
include chars

theorem toNat_lt {c : Char} (inside : c ∈ word.toList) : c.toNat < 0x80 :=
  Text.toNat_lt_of_isAsciiAlphanumeric (chars c inside)

theorem lowercase_eq :
    Unicode.lowercase word = String.ofList (word.toList.map Text.asciiLower) := by
  have lower := Unicode.lowercase_ofList (fun c => chars.toNat_lt (c := c))
  rwa [String.ofList_toList] at lower

theorem capitalize_eq : capitalize word = String.ofList (capitalized word.toList) := by
  have upper := capitalize_ofList (fun c => chars.toNat_lt (c := c))
  rwa [String.ofList_toList] at upper

protected theorem lowercase : IsAsciiWord (Unicode.lowercase word) := by
  intro c inside
  rw [chars.lowercase_eq, String.toList_ofList] at inside
  exact Text.isAsciiAlphanumeric_of_isSmall (isSmall_of_mem_map_asciiLower chars c inside)

protected theorem capitalize : IsAsciiWord (capitalize word) := by
  intro c inside
  rw [chars.capitalize_eq, String.toList_ofList] at inside
  unfold IsAsciiWord at chars
  cases plain : word.toList with
  | nil =>
    rw [plain] at inside
    cases inside
  | cons first rest =>
    rw [plain] at inside chars
    obtain ⟨head, tail⟩ := List.forall_mem_cons.mp chars
    rcases List.mem_cons.mp inside with rfl | later
    · exact (Text.isAsciiAlphanumeric_cases head).1
    · exact Text.isAsciiAlphanumeric_of_isSmall (isSmall_of_mem_map_asciiLower tail c later)

theorem lowercase_lowercase :
    Unicode.lowercase (Unicode.lowercase word) = Unicode.lowercase word := by
  rw [chars.lowercase.lowercase_eq, chars.lowercase_eq, String.toList_ofList,
    map_asciiLower_map_asciiLower fun c => chars.toNat_lt (c := c)]

theorem capitalize_lowercase : capitalize (Unicode.lowercase word) = capitalize word := by
  rw [chars.lowercase.capitalize_eq, chars.lowercase_eq, String.toList_ofList,
    capitalized_map_asciiLower fun c => chars.toNat_lt (c := c), chars.capitalize_eq]

theorem lowercase_capitalize : Unicode.lowercase (capitalize word) = Unicode.lowercase word := by
  rw [chars.capitalize.lowercase_eq, chars.capitalize_eq, String.toList_ofList,
    map_asciiLower_capitalized fun c => chars.toNat_lt (c := c), chars.lowercase_eq]

theorem capitalize_capitalize : capitalize (capitalize word) = capitalize word := by
  rw [← chars.capitalize.capitalize_lowercase, chars.lowercase_capitalize,
    chars.capitalize_lowercase]

end IsAsciiWord

theorem isAsciiWord_of_mem_words (ascii : ∀ c ∈ name.toList, c.toNat < 0x80) {word : String}
    (inside : word ∈ words name) : IsAsciiWord word := by
  obtain ⟨plain, held, rfl⟩ := List.mem_map.mp inside
  intro c own
  rw [String.toList_ofList] at own
  exact isAsciiAlphanumeric_of_mem_wordsFrom ascii held c own

/-- Of two conversions of each word the second one counts. -/
theorem map_map_words (ascii : ∀ c ∈ name.toList, c.toNat < 0x80)
    {first second whole : String → String}
    (each : ∀ word, IsAsciiWord word → second (first word) = whole word) :
    ((words name).map first).map second = (words name).map whole := by
  rw [List.map_map]
  exact List.map_congr_left fun word inside => each word (isAsciiWord_of_mem_words ascii inside)

/-! ### Conversions -/

/-- A separated form of an ASCII name has the words of the name, and so do the forms of full words
that are joined without separators: what is converted again is what the last conversion makes. -/
theorem conversions_compose (name : String) (ascii : ∀ c ∈ name.toList, c.toNat < 0x80) :
    snake (snake name) = snake name ∧ kebab (kebab name) = kebab name ∧
      snake (kebab name) = snake name ∧ pascal (snake name) = pascal name ∧
      ((∀ word ∈ words name, IsFull word) →
        words (pascal name) = (words name).map capitalize ∧
          snake (pascal name) = snake name ∧ kebab (pascal name) = kebab name ∧
          pascal (pascal name) = pascal name ∧ camel (camel name) = camel name) := by
  have snaked : words (snake name) = (words name).map Unicode.lowercase :=
    words_joined ascii '_' (by decide)
  have kebabed : words (kebab name) = (words name).map Unicode.lowercase :=
    words_joined ascii '-' (by decide)
  -- Converting the case of a word a second time does not change it.
  have lowered := map_map_words ascii fun _ chars => chars.lowercase_lowercase
  have raised := map_map_words ascii fun _ chars => chars.capitalize_lowercase
  refine ⟨?_, ?_, ?_, ?_, fun full => ?_⟩
  · rw [snake, snaked, lowered, snake]
  · rw [kebab, kebabed, lowered, kebab]
  · rw [snake, kebabed, lowered, snake]
  · rw [pascal, snaked, raised, pascal]
  · have pascaled := words_pascal ascii full
    have recovered := map_map_words ascii fun _ chars => chars.lowercase_capitalize
    have kept := map_map_words ascii fun _ chars => chars.capitalize_capitalize
    refine ⟨pascaled, ?_, ?_, ?_, ?_⟩
    · rw [snake, pascaled, recovered, snake]
    · rw [kebab, pascaled, recovered, kebab]
    · rw [pascal, pascaled, kept, pascal]
    -- Without words there is nothing to convert.
    · cases shape : words name with
      | nil =>
        have nothing : camel name = "" := by rw [camel, shape]
        rw [nothing]
        decide
      | cons word rest =>
        rw [shape] at kept
        simp only [List.map_cons] at kept
        have others := (List.cons.inj kept).2
        have first := isAsciiWord_of_mem_words ascii (shape ▸ List.mem_cons_self)
        conv_lhs => rw [camel, words_camel ascii full shape]
        simp only [others, first.lowercase_lowercase, camel, shape]

/-- Capitals in a row, a digit, and all kinds of separations. -/
def timelineName : String := "HTMLParser v2-getTimeline"

theorem conversions_compose_timelineName :
    (∀ c ∈ timelineName.toList, c.toNat < 0x80) ∧ (∀ word ∈ words timelineName, IsFull word) ∧
      snake (kebab timelineName) = snake timelineName ∧
      words (pascal timelineName) = (words timelineName).map capitalize ∧
      snake (pascal timelineName) = "html_parser_v2_get_timeline" ∧
      camel (camel timelineName) = camel timelineName := by
  have ascii : ∀ c ∈ timelineName.toList, c.toNat < 0x80 := by
    simp [timelineName]
  have split : words timelineName = ["HTML", "Parser", "v2", "get", "Timeline"] := by
    decide +kernel
  have full : ∀ word ∈ words timelineName, IsFull word := by
    rw [split]
    simp only [List.forall_mem_cons]
    exact ⟨⟨by decide, by decide⟩, ⟨by decide, by decide⟩, ⟨by decide, by decide⟩,
      ⟨by decide, by decide⟩, ⟨by decide, by decide⟩, by simp⟩
  have shown : snake timelineName = "html_parser_v2_get_timeline" := by decide +kernel
  obtain ⟨_, _, separated, _, joined⟩ := conversions_compose timelineName ascii
  obtain ⟨pascaled, recovered, _, _, camels⟩ := joined full
  exact ⟨ascii, full, separated, pascaled, recovered.trans shown, camels⟩

end Case

end Lexicon
