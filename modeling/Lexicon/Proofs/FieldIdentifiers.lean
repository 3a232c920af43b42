import Lexicon.Proofs.Declarations
import Lexicon.Proofs.LineTexts

/-!
# Lexicon.Proofs.FieldIdentifiers

The identifiers of the fields of a struct.

An identifier is searched for each property, one after the other: first the
name in snake case, then the same name with a number behind it, until one is
free. There are only as many taken identifiers as properties before, so each
search ends, and no two fields share an identifier, whatever the properties are
called. An ASCII name leads to an identifier that the language accepts.

## Main definitions

- `Declaration.Settles`: one search ends with an identifier.
- `Declaration.Found`: all searches of a struct, one after the other.
- `Keyword.IsLegal`: the language accepts an identifier.

## Main result

`Declaration.fieldsNamed`: the identifiers of a struct are found, differ, and
are legal.

## Proof strategy

A search tries candidates with different numbers, so among one more of them
than there are taken identifiers one is free. What a search ends with is the
first candidate or a numbered one, and for each of the two it is enough to look
at the characters.
-/

namespace Lexicon

/-! ### The search for an identifier -/

namespace Declaration

/-- A search ends with an identifier, when the candidate at hand and the number of the next one are
given. -/
inductive Settles (stem : String) (taken : List String) : String → Nat → String → Prop where
  | free {candidate : String} {n : Nat} (free : candidate ∉ taken) :
      Settles stem taken candidate n candidate
  | next {candidate ident : String} {n : Nat} (held : candidate ∈ taken)
      (rest : Settles stem taken (stem ++ "_" ++ toString n) (n + 1) ident) :
      Settles stem taken candidate n ident

namespace Settles

variable {stem candidate ident : String} {taken : List String} {n : Nat}
  (settles : Settles stem taken candidate n ident)
include settles

theorem notMem : ident ∉ taken := by
  induction settles with
  | free free => exact free
  | next _ _ ih => exact ih

theorem eq_or_numbered : ident = candidate ∨ ∃ m : Nat, ident = stem ++ "_" ++ toString m := by
  induction settles with
  | free => exact .inl rfl
  | @next _ _ n _ _ ih =>
    refine .inr ?_
    rcases ih with same | numbered
    · exact ⟨n, same⟩
    · exact numbered

theorem unique {other : String} (again : Settles stem taken candidate n other) :
    ident = other := by
  induction settles with
  | free free =>
    cases again with
    | free => rfl
    | next held _ => exact absurd held free
  | next held _ ih =>
    cases again with
    | free free => exact absurd held free
    | next _ rest => exact ih rest

end Settles

theorem numbered_inj {stem : String} {m n : Nat}
    (same : stem ++ "_" ++ toString m = stem ++ "_" ++ toString n) : m = n :=
  Text.toString_nat_inj ((String.append_right_inj _).mp same)

/-- Among one more numbers than there are taken identifiers, one is free. -/
theorem exists_free (stem : String) (taken : List String) (n : Nat) :
    ∃ m, n ≤ m ∧ m ≤ n + taken.length ∧ stem ++ "_" ++ toString m ∉ taken := by
  by_contra none
  push Not at none
  let candidates := (List.range (taken.length + 1)).map fun i => stem ++ "_" ++ toString (n + i)
  have different : candidates.Nodup := by
    refine List.nodup_range.map fun i j same => ?_
    exact Nat.add_left_cancel (numbered_inj same)
  have held : candidates ⊆ taken := by
    intro ident inside
    obtain ⟨i, below, rfl⟩ := List.mem_map.mp inside
    have bound := List.mem_range.mp below
    exact none (n + i) (by omega) (by omega)
  have more : taken.length + 1 ≤ taken.length := by
    simpa [candidates] using different.length_le_of_subset held
  omega

theorem settles_numbered {stem : String} {taken : List String} {fuel n : Nat}
    (free : ∃ m, n ≤ m ∧ m ≤ n + fuel ∧ stem ++ "_" ++ toString m ∉ taken) :
    Settles stem taken (stem ++ "_" ++ toString n) (n + 1) (numbered stem taken fuel n) := by
  obtain ⟨m, start, stop, free⟩ := free
  induction fuel generalizing n with
  | zero =>
    obtain rfl : m = n := by omega
    exact .free free
  | succ fuel ih =>
    unfold numbered
    dsimp only
    split
    · next held =>
      have held : stem ++ "_" ++ toString n ∈ taken := List.contains_iff_mem.mp held
      -- The free candidate is another one, so it is still to come.
      have other : m ≠ n := by
        rintro rfl
        exact free held
      exact .next held (ih (by omega) (by omega))
    · next notHeld =>
      exact .free fun held => notHeld (List.contains_iff_mem.mpr held)

/-- The search for the identifier of a property ends, whatever is taken. -/
theorem settles_uniqueIdent (property : String) (taken : List String) :
    Settles (Keyword.bare (baseIdent property)) taken (baseIdent property) 2
      (uniqueIdent property taken) := by
  unfold uniqueIdent
  dsimp only
  split
  · next held =>
    exact .next (List.contains_iff_mem.mp held) (settles_numbered (exists_free _ _ _))
  · next notHeld => exact .free fun held => notHeld (List.contains_iff_mem.mpr held)

/-- The identifiers of properties are found one after the other, each by a search that ends and
leaves out those that are taken. -/
inductive Found : List String → List (String × String) → Prop where
  | nil {taken : List String} : Found taken []
  | cons {taken : List String} {property ident : String} {rest : List (String × String)}
      (settles : Settles (Keyword.bare (baseIdent property)) taken (baseIdent property) 2 ident)
      (found : Found (ident :: taken) rest) : Found taken ((property, ident) :: rest)

theorem found_identsFrom (taken properties : List String) :
    Found taken (properties.zip (identsFrom taken properties)) := by
  induction properties generalizing taken with
  | nil => exact .nil
  | cons property rest ih => exact .cons (settles_uniqueIdent property taken) (ih _)

namespace Found

variable {taken : List String} {names : List (String × String)} (found : Found taken names)
include found

theorem notMem : ∀ name ∈ names, name.2 ∉ taken := by
  induction found with
  | nil => nofun
  | cons settles _ ih =>
    intro name inside
    rcases List.mem_cons.mp inside with rfl | later
    · exact settles.notMem
    · exact fun held => ih name later (List.mem_cons_of_mem _ held)

theorem nodup : (names.map Prod.snd).Nodup := by
  induction found with
  | nil => exact List.nodup_nil
  | cons _ found ih =>
    refine List.nodup_cons.mpr ⟨fun again => ?_, ih⟩
    -- An identifier that has been found is taken for all later ones.
    obtain ⟨name, inside, same⟩ := List.mem_map.mp again
    exact found.notMem name inside (same ▸ List.mem_cons_self)

theorem settles_of_mem {name : String × String} (inside : name ∈ names) :
    ∃ taken, Settles (Keyword.bare (baseIdent name.1)) taken (baseIdent name.1) 2 name.2 := by
  induction found with
  | nil => cases inside
  | cons settles _ ih =>
    rcases List.mem_cons.mp inside with rfl | later
    · exact ⟨_, settles⟩
    · exact ih later

end Found

-- A keyword, a name that collides with it, and a name without letters.
example : identsFrom [] ["type", "Type", "$"] = ["r#type", "type_2", "field"] := by
  decide +kernel

end Declaration

/-! ### Legal identifiers -/

namespace Keyword

/-- The words that the language uses, and those that it keeps for later. -/
def keywords : List String :=
  ["as", "async", "await", "break", "const", "continue", "crate", "dyn", "else", "enum", "extern",
   "false", "fn", "for", "if", "impl", "in", "let", "loop", "match", "mod", "move", "mut", "pub",
   "ref", "return", "self", "Self", "static", "struct", "super", "trait", "true", "type", "unsafe",
   "use", "where", "while"] ++
  ["abstract", "become", "box", "do", "final", "macro", "override", "priv", "try", "typeof",
   "unsized", "virtual", "yield"]

/-- The language accepts an identifier, which may be a raw one. -/
structure IsLegal (ident : String) : Prop where
  chars : ∀ c ∈ (bare ident).toList, Text.isAsciiAlphanumeric c = true ∨ c = '_'
  first : ∃ c, (bare ident).toList.head? = some c ∧ Text.isAsciiDigit c = false
  /-- A lone underscore names nothing. -/
  named : bare ident ≠ "_"
  plain : ident ∉ keywords
  raw : ∀ word, ident = rawMark ++ word → word ∉ ["crate", "self", "super", "Self"]

theorem mem_of_mem_keywords {word : String} (inside : word ∈ keywords) :
    word ∈ pathWords ∨ word ∈ reserved := by
  have each : ∀ word ∈ keywords, word ∈ pathWords ∨ word ∈ reserved := by decide
  exact each word inside

theorem hash_notMem_of_chars {text : String}
    (chars : ∀ c ∈ text.toList, Text.isAsciiAlphanumeric c = true ∨ c = '_') :
    '#' ∉ text.toList := fun inside => absurd (chars '#' inside) (by decide)

theorem hash_mem_rawMark (word : String) : '#' ∈ (rawMark ++ word).toList := by
  rw [String.toList_append]
  exact List.mem_append_left _ (by decide)

/-- Without the mark of a raw identifier it is enough to be no keyword. -/
theorem IsLegal.of_chars {text : String}
    (chars : ∀ c ∈ text.toList, Text.isAsciiAlphanumeric c = true ∨ c = '_')
    (first : ∃ c, text.toList.head? = some c ∧ Text.isAsciiDigit c = false)
    (named : text ≠ "_") (plain : text ∉ keywords) : IsLegal text := by
  have absent := hash_notMem_of_chars chars
  have same := bare_of_notMem absent
  constructor
  case chars => rwa [same]
  case first => rwa [same]
  case named => rwa [same]
  case plain => exact plain
  case raw =>
    rintro word rfl
    exact absurd (hash_mem_rawMark word) absent

theorem chars_of_isSnake {text : String} (snake : Case.IsSnake text) :
    ∀ c ∈ text.toList, Text.isAsciiAlphanumeric c = true ∨ c = '_' := by
  intro c inside
  refine (snake.chars c inside).imp_left fun small => ?_
  rcases Bool.or_eq_true_iff.mp small with lower | digit
  · simp [Text.isAsciiAlphanumeric, Text.isAsciiLetter, lower]
  · simp [Text.isAsciiAlphanumeric, digit]

theorem ne_underscore_of_isSnake {text : String} (snake : Case.IsSnake text) : text ≠ "_" := by
  rintro rfl
  obtain ⟨c, head, other⟩ := snake.first
  exact other (Option.some.inj head).symm

/-- The words of a path cannot be raw, and are no keywords with an underscore behind them. -/
theorem isLegal_pathWord {word : String} (snake : Case.IsSnake word) (path : word ∈ pathWords) :
    IsLegal (word ++ "_") := by
  have each : ∀ word ∈ pathWords,
      word ++ "_" ≠ "_" ∧ word ++ "_" ∉ keywords ∧
        (word ++ "_").toList.head?.any (fun c => !Text.isAsciiDigit c) = true := by
    decide
  obtain ⟨named, plain, first⟩ := each word path
  have chars := chars_of_isSnake snake
  refine .of_chars ?_ (by simpa [Option.any_eq_true] using first) named plain
  simpa [or_imp, forall_and] using chars

theorem isLegal_rawMark_append {word : String} (snake : Case.IsSnake word)
    (held : word ∈ reserved) (notPath : word ∉ pathWords) : IsLegal (rawMark ++ word) := by
  have each : ∀ word ∈ reserved,
      word.toList.head?.any (fun c => !Text.isAsciiDigit c) = true := by
    decide
  constructor
  case chars =>
    rw [bare_rawMark_append]
    exact chars_of_isSnake snake
  case first =>
    rw [bare_rawMark_append]
    simpa [Option.any_eq_true] using each word held
  case named =>
    rw [bare_rawMark_append]
    exact ne_underscore_of_isSnake snake
  case plain =>
    have none : ∀ word ∈ keywords, '#' ∉ word.toList := by decide
    exact fun inside => none _ inside (hash_mem_rawMark word)
  case raw =>
    intro other same
    exact (String.append_right_inj _).mp same ▸ notPath

/-- A name in snake case becomes a legal identifier, whichever way it is escaped. -/
theorem isLegal_escape {text : String} (snake : Case.IsSnake text) : IsLegal (escape text) := by
  have chars := chars_of_isSnake snake
  obtain ⟨c, head, _⟩ := snake.first
  unfold escape
  split
  · next path => exact isLegal_pathWord snake (List.contains_iff_mem.mp path)
  · next notPath =>
    have notPath : text ∉ pathWords := fun inside => notPath (List.contains_iff_mem.mpr inside)
    split
    · next held => exact isLegal_rawMark_append snake (List.contains_iff_mem.mp held) notPath
    · next notHeld =>
      have notHeld : text ∉ reserved := fun inside => notHeld (List.contains_iff_mem.mpr inside)
      split
      -- An underscore in front of a digit starts no keyword.
      · have other : ∀ word ∈ keywords, word.toList.head? ≠ some '_' := by decide
        have start : ("_" ++ text).toList.head? = some '_' := by simp
        refine .of_chars ?_ ⟨'_', start, by decide⟩ ?_ fun inside => other _ inside start
        · simpa [or_imp, forall_and] using chars
        · intro same
          exact snake.ne_nil (by simpa using same)
      · next noDigit =>
        refine .of_chars chars ⟨c, head, ?_⟩ (ne_underscore_of_isSnake snake) ?_
        · simpa [head] using noDigit
        · exact fun inside => (mem_of_mem_keywords inside).elim notPath notHeld

/-- A number behind a legal identifier keeps it legal. -/
theorem IsLegal.numbered {ident : String} (legal : IsLegal ident) (n : Nat) :
    IsLegal (bare ident ++ "_" ++ toString n) := by
  have digits : ∀ c ∈ (toString n).toList, Text.isAsciiDigit c = true := by
    intro c inside
    rw [Nat.toString_eq_repr, Nat.toList_repr] at inside
    exact Nat.isDigit_of_mem_toDigits (by decide) (by decide) inside
  obtain ⟨d, last⟩ : ∃ d, d ∈ (toString n).toList := by
    refine List.exists_mem_of_ne_nil _ ?_
    rw [Nat.toString_eq_repr, Nat.toList_repr]
    exact Nat.toDigits_ne_nil
  have inside : d ∈ (bare ident ++ "_" ++ toString n).toList := by
    rw [String.toList_append]
    exact List.mem_append_right _ last
  obtain ⟨c, head, first⟩ := legal.first
  refine .of_chars ?_ ⟨c, ?_, first⟩ ?_ ?_
  · intro e there
    simp only [String.toList_append, List.mem_append] at there
    rcases there with (own | between) | number
    · exact legal.chars e own
    · exact .inr (by simpa using between)
    · exact .inl (by simp [Text.isAsciiAlphanumeric, digits e number])
  · simp [head]
  · intro same
    rw [same] at inside
    exact absurd (digits d last) (by rw [List.mem_singleton.mp inside]; decide)
  · -- No keyword holds a digit.
    have none : ∀ word ∈ keywords, word.toList.any Text.isAsciiDigit = false := by decide
    intro keyword
    exact List.any_eq_false.mp (none _ keyword) d inside (digits d last)

end Keyword

/-! ### The fields of a struct -/

namespace Declaration

theorem isLegal_baseIdent {property : String} (ascii : ∀ c ∈ property.toList, c.toNat < 0x80) :
    Keyword.IsLegal (baseIdent property) := by
  have letters : "field".toList.all Text.isAsciiAlphanumeric = true := by decide
  have spare : Keyword.IsLegal "field" :=
    .of_chars (fun c inside => .inl (List.all_eq_true.mp letters c inside))
      ⟨'f', by decide, by decide⟩ (by decide) (by decide)
  unfold baseIdent
  dsimp only
  split
  · exact spare
  · next some =>
    refine Keyword.isLegal_escape (Case.isSnake_snake ascii fun none => some ?_)
    -- Without words there is no name, and nothing to escape.
    have nothing : Case.snake property = "" := by rw [Case.snake, none]; rfl
    rw [Keyword.field, nothing]
    decide

/-- What the fields of the struct of an object are called. -/
structure FieldsNamed (object : ObjectType) (declaration : Declaration) : Prop where
  /-- There is one field for each property. -/
  properties : declaration.fields.map (·.property) = Entries.keys object.properties
  found : Found [] (declaration.fields.map fun field => (field.property, field.ident))
  distinct : (declaration.fields.map (·.ident)).Nodup
  legal : ∀ field ∈ declaration.fields, (∀ c ∈ field.property.toList, c.toNat < 0x80) →
    Keyword.IsLegal field.ident

/-- Whatever the properties of an object are called, the fields of its struct have identifiers that
differ, and an ASCII name leads to a legal one. -/
theorem fieldsNamed (mapper : TypeMapper) (doc : Document) (id : Nsid) (definition : Definition)
    (object : ObjectType) (key : Option String) :
    (ofObject mapper doc id definition object key).FieldsNamed object := by
  have found : Found [] ((ofObject mapper doc id definition object key).fields.map fun field =>
      (field.property, field.ident)) := by
    rw [map_names_fields]
    exact found_identsFrom [] _
  constructor
  case properties => exact map_property_fields
  case found => exact found
  case distinct => simpa [Function.comp_def] using found.nodup
  case legal =>
    intro field inside ascii
    obtain ⟨taken, settles⟩ := found.settles_of_mem (List.mem_map_of_mem inside)
    have base := isLegal_baseIdent ascii
    have ident := settles.eq_or_numbered
    dsimp only at ident
    rcases ident with same | ⟨m, same⟩
    · exact same ▸ base
    · exact same ▸ base.numbered m

end Declaration

end Lexicon
