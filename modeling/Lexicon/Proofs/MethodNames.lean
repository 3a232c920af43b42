import Mathlib.Data.List.Flatten
import Lexicon.Proofs.FieldIdentifiers
import Lexicon.Proofs.NamedStructs
import Lexicon.Proofs.Singulars
import Lexicon.Proofs.SourceLines

/-!
# Lexicon.Proofs.MethodNames

The names of the methods of a struct.

The implementation of a struct opens its constructor, its reader, and one
method for each accessor. An accessor is named after the identifier of its
field, and identifiers differ even without the mark of a raw one. Still two
accessors may share a name, since a list goes by its singular, and no number is
put behind the names of methods.

## Main definitions

- `Declaration.methods`: the methods of a struct.
- `Declaration.methodName?`: the method that a line opens.
- `Accessor.Clash`: two accessors of different fields have one name.

## Main result

`Declaration.methodsNamed`: the methods are those that the implementation
opens, and they differ exactly if no two accessors clash.

## Proof strategy

Each field has at most one accessor, so accessors differ in their identifiers.
When two of them have one name nevertheless, the name tells which of the
endings the identifiers have. Lines that open no method start differently, and
no name holds the parenthesis that ends it.
-/

namespace Lexicon

/-! ### Bare identifiers -/

namespace Keyword

/-- The shape of every escaped name: only a reserved word has the mark of a raw identifier. -/
inductive IsEscaped : String → Prop where
  | raw {word : String} (held : word ∈ reserved) : IsEscaped (rawMark ++ word)
  | plain {ident : String} (absent : '#' ∉ ident.toList) (other : ident ∉ reserved) :
      IsEscaped ident

theorem isEscaped_escape {name : String} (absent : '#' ∉ name.toList) :
    IsEscaped (escape name) := by
  unfold escape
  split
  · next path =>
    -- A word of a path has an underscore behind it, which makes it no keyword.
    have each : ∀ word ∈ pathWords, '#' ∉ (word ++ "_").toList ∧ word ++ "_" ∉ reserved := by
      decide
    obtain ⟨absent, other⟩ := each name (List.contains_iff_mem.mp path)
    exact .plain absent other
  · split
    · next held => exact .raw (List.contains_iff_mem.mp held)
    · next notHeld =>
      split
      · have start : ("_" ++ name).toList.head? = some '_' := by simp
        have other : ∀ word ∈ reserved, word.toList.head? ≠ some '_' := by decide
        refine .plain ?_ fun held => other _ held start
        simpa using absent
      · exact .plain absent fun held => notHeld (List.contains_iff_mem.mpr held)

namespace IsEscaped

variable {ident other : String}

theorem hash_notMem_bare (escaped : IsEscaped ident) : '#' ∉ (bare ident).toList := by
  cases escaped with
  | @raw word held =>
    have each : ∀ word ∈ reserved, '#' ∉ word.toList := by decide
    rw [bare_rawMark_append]
    exact each word held
  | plain absent _ => rwa [bare_of_notMem absent]

/-- Escaped names differ in more than the mark. -/
theorem eq_of_bare (left : IsEscaped ident) (right : IsEscaped other)
    (same : bare ident = bare other) : ident = other := by
  -- What is raw is a keyword without its mark, and what is plain never is one.
  cases left with
  | raw held =>
    rw [bare_rawMark_append] at same
    cases right with
    | raw _ => rw [same, bare_rawMark_append]
    | plain absent notHeld =>
      rw [bare_of_notMem absent] at same
      exact absurd (same ▸ held) notHeld
  | plain absent notHeld =>
    rw [bare_of_notMem absent] at same
    cases right with
    | raw held =>
      rw [bare_rawMark_append] at same
      exact absurd (same ▸ held) notHeld
    | plain absent' _ => rw [same, bare_of_notMem absent']

theorem numbered (escaped : IsEscaped ident) (n : Nat) :
    IsEscaped (bare ident ++ "_" ++ toString n) := by
  have digits : '#' ∉ (toString n).toList := Text.notMem_toString_nat (by decide) n
  refine .plain ?_ ?_
  · have absent := escaped.hash_notMem_bare
    simp only [String.toList_append, List.mem_append, not_or]
    exact ⟨⟨absent, by decide⟩, digits⟩
  · have none : ∀ word ∈ reserved, '_' ∉ word.toList := by decide
    refine fun held => none _ held ?_
    simp

end IsEscaped

end Keyword

namespace Declaration

theorem isEscaped_baseIdent (property : String) : Keyword.IsEscaped (baseIdent property) := by
  unfold baseIdent
  dsimp only
  split
  · exact .plain (by decide) (by decide)
  · exact Keyword.isEscaped_escape (Case.notMem_snake (by decide) (by decide) (by decide))

theorem Found.isEscaped {taken : List String} {names : List (String × String)}
    (found : Found taken names) : ∀ name ∈ names, Keyword.IsEscaped name.2 := by
  intro name inside
  obtain ⟨_, settles⟩ := found.settles_of_mem inside
  have base := isEscaped_baseIdent name.1
  rcases settles.eq_or_numbered with same | ⟨m, same⟩
  · exact same ▸ base
  · exact same ▸ base.numbered m

/-- Even without the marks of raw ones, the identifiers of properties differ. -/
theorem nodup_map_bare (properties : List String) :
    ((identsFrom [] properties).map Keyword.bare).Nodup := by
  have found := found_identsFrom [] properties
  have idents : (properties.zip (identsFrom [] properties)).map Prod.snd =
      identsFrom [] properties := List.map_snd_zip (length_identsFrom _ _).le
  refine (idents ▸ found.nodup).map_on fun left inside right there same => ?_
  -- The mark tells no two identifiers apart, since only reserved words have it.
  have escaped {ident : String} (inside : ident ∈ identsFrom [] properties) :
      Keyword.IsEscaped ident := by
    rw [← idents] at inside
    obtain ⟨name, listed, rfl⟩ := List.mem_map.mp inside
    exact found.isEscaped name listed
  exact (escaped inside).eq_of_bare (escaped there) same

end Declaration

/-! ### The names of accessors -/

namespace Accessor

/-- The identifier of the field of an accessor, without the mark of a raw one. -/
def bareIdent (accessor : Accessor) : String := Keyword.bare accessor.ident

/-- Two accessors of different fields have one name. -/
inductive Clash : Accessor → Accessor → Prop where
  | items {property ident other otherIdent : String} {item otherItem : GeneratedType}
      {optional otherOptional : Bool}
      (rivals : Plural.Rivals (Keyword.bare ident) (Keyword.bare otherIdent)) :
      Clash (push property ident item optional) (push other otherIdent otherItem otherOptional)
  /-- A list of defaults. -/
  | default {property ident result body other otherIdent : String} {item : GeneratedType}
      {optional : Bool}
      (same : "push_" ++ Keyword.bare otherIdent = Keyword.bare ident ++ "_or_defaults") :
      Clash (orDefault property ident result body) (push other otherIdent item optional)

/-- An item goes by the name of a default exactly if the list goes by that name as a plural. -/
theorem push_itemName_eq_iff {plural stem : String} :
    "push_" ++ Plural.itemName plural = stem ++ "_or_default" ↔
      "push_" ++ plural = stem ++ "_or_defaults" := by
  have defaults : stem ++ "_or_defaults" = stem ++ "_or_default" ++ "s" := by
    rw [String.append_assoc]
    rfl
  constructor
  · intro same
    have last : Text.last? (Plural.itemName plural) = some 't' :=
      Text.last?_of_append_eq same (d := '_') (by decide) (by decide) (by decide)
    -- The other item names end in an m, so this one is a singular.
    rcases Plural.itemName_cases plural with singular | ⟨_, name⟩
    · rw [singular.eq_of_last last (by decide), ← String.append_assoc, same, defaults]
    · rw [name, Text.last?_append (c := 'm') (by decide) plural] at last
      cases last
  · intro same
    have last : Text.last? plural = some 's' :=
      Text.last?_of_append_eq same (d := '_') (by decide) (by decide) (by decide)
    obtain ⟨word, rfl⟩ := Text.exists_of_last? last
    rw [defaults, ← String.append_assoc] at same
    have same : "push_" ++ word = stem ++ "_or_default" := (String.append_left_inj _).mp same
    have last : Text.last? word = some 't' :=
      Text.last?_of_append_eq same (d := '_') (by decide) (by decide) (by decide)
    have singular : Plural.Singular (word ++ String.singleton 's') word :=
      .of_last last (by decide)
    rw [Plural.itemName_of_singular singular, same]

theorem Clash.method_eq {a b : Accessor} (clash : Clash a b) : a.method = b.method := by
  cases clash with
  | items rivals => rw [method_push, method_push, rivals.itemName_eq]
  | default same => rw [method_push, push_itemName_eq_iff.mpr same, method]

theorem Clash.ne {a b : Accessor} (clash : Clash a b) : a ≠ b := by
  cases clash with
  | items rivals =>
    intro same
    cases same
    exact rivals.ne rfl
  | default => nofun

/-- Accessors of different fields share a name exactly if they clash. -/
theorem clash_of_method_eq {a b : Accessor} (same : a.method = b.method)
    (apart : a.bareIdent ≠ b.bareIdent) : Clash a b ∨ Clash b a := by
  cases a with
  | orDefault property ident result body =>
    cases b with
    | orDefault => exact absurd ((String.append_left_inj _).mp same) apart
    | push =>
      rw [method_push] at same
      exact .inl (.default (push_itemName_eq_iff.mp same.symm))
  | push property ident item optional =>
    rw [method_push] at same
    cases b with
    | orDefault => exact .inr (.default (push_itemName_eq_iff.mp same))
    | push =>
      rw [method_push] at same
      rcases Plural.itemName_eq_iff.mp ((String.append_right_inj _).mp same) with
        equal | rivals | rivals
      · exact absurd equal apart
      · exact .inl (.items rivals)
      · exact .inr (.items rivals)

theorem method_ne {name : String} (noEnd : Text.hasEnd "_or_default" name = false)
    (noStart : Text.dropStart? "push_" name = none) (accessor : Accessor) :
    accessor.method ≠ name := by
  rintro rfl
  cases accessor with
  | orDefault property ident result body =>
    rw [method, Text.hasEnd_append] at noEnd
    cases noEnd
  | push property ident item optional =>
    rw [method_push, Text.dropStart?_append] at noStart
    cases noStart

end Accessor

/-! ### Lines that open a method -/

/-- A text that starts differently lacks a start, whatever is behind. -/
theorem Text.dropStart?_append_eq_none {start front : String}
    (apart : (start.toList.zip front.toList).any (fun (c, d) => c != d) = true) (rest : String) :
    dropStart? start (front ++ rest) = none := by
  cases behind : dropStart? start (front ++ rest) with
  | none => rfl
  | some other =>
    have chars := congrArg String.toList (dropStart?_eq_some_iff.mp behind)
    rw [String.toList_append, String.toList_append] at chars
    obtain ⟨⟨c, d⟩, inside, different⟩ := List.any_eq_true.mp apart
    obtain ⟨i, bound, same⟩ := List.getElem_of_mem inside
    have bounds : i < start.toList.length ∧ i < front.toList.length := by
      simpa [Nat.lt_min] using bound
    rw [List.getElem_zip] at same
    cases same
    -- Both are the character at the same place of the whole text.
    have place : (front.toList ++ rest.toList)[i]? = (start.toList ++ other.toList)[i]? := by
      rw [chars]
    rw [List.getElem?_append_left bounds.2, List.getElem?_append_left bounds.1,
      List.getElem?_eq_getElem bounds.2, List.getElem?_eq_getElem bounds.1] at place
    exact absurd (Option.some.inj place).symm (by simpa using different)

namespace Declaration

variable (runtime : String) (declaration : Declaration)

/-- The name of the method that a line opens. -/
def methodName? (line : String) : Option String :=
  (Text.dropStart? "    pub fn " line).map fun rest =>
    String.ofList (rest.toList.takeWhile (· != '('))

theorem methodName?_open {name rest : String} (absent : '(' ∉ name.toList)
    (opens : rest.toList.head? = some '(') :
    methodName? ("    pub fn " ++ (name ++ rest)) = some name := by
  obtain ⟨chars, start⟩ := List.head?_eq_some_iff.mp opens
  have each : ∀ c ∈ name.toList, (c != '(') = true := by
    intro c inside
    exact bne_iff_ne.mpr fun same => absent (same ▸ inside)
  have behind : (name ++ rest).toList.takeWhile (· != '(') = name.toList := by
    rw [String.toList_append, start, List.takeWhile_append_of_pos each,
      List.takeWhile_cons_of_neg (by simp), List.append_nil]
  rw [methodName?, Text.dropStart?_append, Option.map_some, behind, String.ofList_toList]

theorem methodName?_eq_none {front : String}
    (apart : ("    pub fn ".toList.zip front.toList).any (fun (c, d) => c != d) = true)
    (rest : String) : methodName? (front ++ rest) = none := by
  rw [methodName?, Text.dropStart?_append_eq_none apart, Option.map_none]

/-- The lines of the implementation of a struct. -/
def implLines : List String :=
  declaration.constantLines ++ declaration.constructorLines ++ declaration.readerLines runtime ++
    declaration.accessorLines

/-- The methods of a struct: the constructor, the reader, and the accessors. -/
def methods : List String :=
  "new" :: "from_value" :: declaration.accessors.map Accessor.method

theorem filterMap_constantLines : declaration.constantLines.filterMap methodName? = [] := by
  refine List.filterMap_eq_nil_iff.mpr fun line listed => ?_
  unfold constantLines requiredLine at listed
  simp only [List.mem_append, List.mem_cons, List.not_mem_nil, or_false, List.mem_map,
    String.append_assoc] at listed
  obtain (rfl | ⟨key, _, rfl⟩) | rfl | rfl := listed
  · exact methodName?_eq_none (by decide) _
  · exact methodName?_eq_none (by decide) _
  · exact methodName?_eq_none (by decide) _
  · decide

theorem filterMap_constructorLines :
    declaration.constructorLines.filterMap methodName? = ["new"] := by
  have remark : (if maxPlainParameters < declaration.fields.length then
      ["    #[allow(clippy::too_many_arguments)]"] else []).filterMap methodName? = [] := by
    split <;> decide
  have opened : methodName? declaration.constructorLine = some "new" := by
    -- The name of a method ends at the first parenthesis.
    have start : "    pub fn new(" = "    pub fn " ++ ("new" ++ "(") := by decide
    unfold constructorLine
    simp only [start, String.append_assoc]
    exact methodName?_open (by decide) (by simp)
  have body (idents : String) : methodName? ("        Self \x7b " ++ (idents ++ " \x7d")) = none :=
    methodName?_eq_none (by decide) _
  have closed : methodName? "    \x7d" = none := by decide
  have blank : methodName? "" = none := by decide
  rw [constructorLines, List.filterMap_append, remark]
  simp only [List.filterMap_cons, List.filterMap_nil, opened, String.append_assoc, body, closed,
    blank, List.nil_append]

theorem filterMap_readerLines :
    (declaration.readerLines runtime).filterMap methodName? = ["from_value"] := by
  have remark : methodName? "    /// Read from a generic value. Constraints are not checked." =
      none := by decide
  have opened : methodName? ("    pub fn from_value(value: &serde_json::Value) -> Result<Self, " ++
      (runtime ++ "::FromValueError> \x7b")) = some "from_value" := by
    have start : "    pub fn from_value(value: &serde_json::Value) -> Result<Self, " =
        "    pub fn " ++ ("from_value" ++ "(value: &serde_json::Value) -> Result<Self, ") := by
      decide
    simp only [start, String.append_assoc]
    exact methodName?_open (by decide) (by simp)
  have read (rest : String) : methodName? ("        let " ++ rest) = none :=
    methodName?_eq_none (by decide) _
  have built : methodName? "        Ok(Self \x7b" = none := by decide
  have fields : (declaration.fields.map (StructField.readerLine runtime)).filterMap methodName? =
      [] := by
    refine List.filterMap_eq_nil_iff.mpr fun line listed => ?_
    obtain ⟨field, _, rfl⟩ := List.mem_map.mp listed
    unfold StructField.readerLine
    simp only [String.append_assoc]
    exact methodName?_eq_none (by decide) _
  have behind : methodName? "        \x7d)" = none := by decide
  have closed : methodName? "    \x7d" = none := by decide
  rw [readerLines, List.filterMap_append, List.filterMap_append, fields]
  simp only [List.filterMap_cons, List.filterMap_nil, remark, opened, String.append_assoc, read,
    built, behind, closed, List.append_nil]

end Declaration

/-- An accessor opens one method, behind its comment. -/
theorem Accessor.filterMap_lines {accessor : Accessor} (absent : '(' ∉ accessor.method.toList) :
    accessor.lines.filterMap Declaration.methodName? = [accessor.method] := by
  have comment : Declaration.methodName? accessor.docLine = none := by
    unfold docLine
    cases accessor <;> dsimp only <;> simp only [String.append_assoc] <;>
      exact Declaration.methodName?_eq_none (by decide) _
  have closed : Declaration.methodName? "    \x7d" = none := by decide
  have body (rest : String) : Declaration.methodName? ("        " ++ rest) = none :=
    Declaration.methodName?_eq_none (by decide) _
  rw [lines, List.filterMap_cons, comment]
  unfold codeLines
  cases accessor with
  | orDefault property ident result body' =>
    have opened (rest : String) := Declaration.methodName?_open absent
      (show ("(&self) -> " ++ rest).toList.head? = some '(' by simp)
    simp only [String.append_assoc, List.filterMap_cons, List.filterMap_nil, opened, body, closed]
  | push property ident item optional =>
    have opened (rest : String) := Declaration.methodName?_open absent
      (show ("(&mut self, item: " ++ rest).toList.head? = some '(' by simp)
    simp only [String.append_assoc, List.filterMap_cons, List.filterMap_nil, opened, body, closed]

namespace Declaration

theorem filterMap_accessorLines {declaration : Declaration}
    (absent : ∀ accessor ∈ declaration.accessors, '(' ∉ accessor.method.toList) :
    declaration.accessorLines.filterMap methodName? =
      declaration.accessors.map Accessor.method := by
  have blank : methodName? "" = none := by decide
  have closed : methodName? "\x7d" = none := by decide
  have each : ∀ accessor ∈ declaration.accessors,
      ("" :: accessor.lines).filterMap methodName? = [accessor.method] := by
    intro accessor inside
    rw [List.filterMap_cons, blank]
    exact Accessor.filterMap_lines (absent accessor inside)
  rw [accessorLines, List.filterMap_append, List.filterMap_flatMap, List.flatMap_congr each,
    ← List.map_eq_flatMap, List.filterMap_cons, closed, List.filterMap_nil, List.append_nil]

/-! ### The methods of a struct -/

variable {mapper : TypeMapper} {doc : Document} {id : Nsid} {definition : Definition}
  {object : ObjectType} {key : Option String}

/-- A field has one accessor at most: a list has no default. -/
theorem sublist_accessorsOf (mapper : TypeMapper) (doc : Document) (object : ObjectType)
    (property ident : String) (node : TypeNode) :
    ((accessorsOf mapper doc object property ident node).map Accessor.ident).Sublist [ident] := by
  obtain ⟨parts, same, _⟩ :=
    Accessor.exists_ofDefault?_eq ident node (object.isOptional property)
  have default : ((Accessor.ofDefault? property ident node (object.isOptional property)).toList.map
      Accessor.ident).Sublist [ident] := by
    rw [same property]
    cases parts with
    | none => exact List.nil_sublist _
    | some part => exact List.Sublist.refl _
  unfold accessorsOf
  dsimp only
  cases node with
  | array t =>
    have none : Accessor.ofDefault? property ident (.array t) (object.isOptional property) =
        none := by
      unfold Accessor.ofDefault?
      split <;> rfl
    rw [none]
    exact List.Sublist.refl _
  | _ => simpa using default

theorem sublist_accessors :
    ((ofObject mapper doc id definition object key).accessors.map Accessor.ident).Sublist
      ((ofObject mapper doc id definition object key).fields.map (·.ident)) := by
  unfold ofObject
  dsimp only
  rw [List.map_flatMap, List.map_map, List.map_eq_flatMap]
  exact List.Sublist.flatMap_right _ fun _ _ => sublist_accessorsOf ..

/-- Accessors differ in the identifiers of their fields, even without the marks of raw ones. -/
theorem nodup_map_bareIdent :
    ((ofObject mapper doc id definition object key).accessors.map Accessor.bareIdent).Nodup := by
  have fields : (((ofObject mapper doc id definition object key).fields.map
      (·.ident)).map Keyword.bare).Nodup := by
    rw [map_ident_fields]
    exact nodup_map_bare _
  have idents : (((ofObject mapper doc id definition object key).accessors.map
      Accessor.ident).map Keyword.bare).Nodup := fields.sublist (sublist_accessors.map _)
  rwa [List.map_map] at idents

/-- The implementation of a struct opens its methods. -/
theorem filterMap_implLines (mapper : TypeMapper) (doc : Document) (id : Nsid)
    (definition : Definition) (object : ObjectType) (key : Option String) (runtime : String) :
    ((ofObject mapper doc id definition object key).implLines runtime).filterMap methodName? =
      (ofObject mapper doc id definition object key).methods := by
  have parenthesis : Keyword.IsForeign '(' := ⟨by decide, by decide, by decide⟩
  -- An identifier holds no parenthesis, so the method of an accessor is named in full.
  have absent : ∀ accessor ∈ (ofObject mapper doc id definition object key).accessors,
      '(' ∉ accessor.method.toList := by
    intro accessor inside own
    have ident : accessor.ident ∈ identsFrom [] (Entries.keys object.properties) :=
      map_ident_fields ▸ sublist_accessors.subset (List.mem_map_of_mem inside)
    rcases Accessor.mem_method own with stem | letter | same
    · exact notMem_of_mem_identsFrom parenthesis ident stem
    · exact absurd letter (by decide)
    · exact absurd same (by decide)
  rw [implLines, List.filterMap_append, List.filterMap_append, List.filterMap_append,
    filterMap_constantLines, filterMap_constructorLines, filterMap_readerLines,
    filterMap_accessorLines absent]
  rfl

/-- What the methods of a struct are called. -/
structure MethodsNamed (declaration : Declaration) : Prop where
  /-- The methods are those that the implementation opens, as it is laid out. -/
  opened : ∀ runtime, declaration.render .builtIn runtime =
      .ok (Text.lined (declaration.structLines ++ declaration.implLines runtime)) ∧
    (declaration.implLines runtime).filterMap methodName? = declaration.methods
  distinct_iff : declaration.methods.Nodup ↔
    ∀ a ∈ declaration.accessors, ∀ b ∈ declaration.accessors, ¬Accessor.Clash a b

theorem nodup_methods_iff {declaration : Declaration} :
    declaration.methods.Nodup ↔ (declaration.accessors.map Accessor.method).Nodup := by
  have new : "new" ∉ "from_value" :: declaration.accessors.map Accessor.method := by
    intro inside
    rcases List.mem_cons.mp inside with same | inside
    · exact absurd same (by decide)
    · obtain ⟨accessor, _, same⟩ := List.mem_map.mp inside
      exact accessor.method_ne (by decide) (by decide) same
  have fromValue : "from_value" ∉ declaration.accessors.map Accessor.method := by
    intro inside
    obtain ⟨accessor, _, same⟩ := List.mem_map.mp inside
    exact accessor.method_ne (by decide) (by decide) same
  rw [methods, List.nodup_cons, List.nodup_cons]
  exact ⟨fun distinct => distinct.2.2, fun distinct => ⟨new, fromValue, distinct⟩⟩

/-- The methods of a struct are the constructor, the reader, and one for each accessor, and they
differ exactly if no two accessors clash. -/
theorem methodsNamed (mapper : TypeMapper) (doc : Document) (id : Nsid) (definition : Definition)
    (object : ObjectType) (key : Option String) :
    (ofObject mapper doc id definition object key).MethodsNamed := by
  constructor
  case opened =>
    intro runtime
    refine ⟨?_, filterMap_implLines mapper doc id definition object key runtime⟩
    rw [render_builtIn, lines, implLines]
    simp only [List.append_assoc]
  case distinct_iff =>
    have bare : ((ofObject mapper doc id definition object key).accessors.map
        Accessor.bareIdent).Nodup := nodup_map_bareIdent
    rw [nodup_methods_iff]
    constructor
    · intro distinct a inside b there clash
      exact clash.ne (List.inj_on_of_nodup_map distinct inside there clash.method_eq)
    · intro apart
      -- Two accessors of one name are one accessor, or their fields differ and they clash.
      refine (List.Nodup.of_map _ bare).map_on fun a inside b there same => ?_
      by_contra different
      have idents : a.bareIdent ≠ b.bareIdent := fun same =>
        different (List.inj_on_of_nodup_map bare inside there same)
      rcases Accessor.clash_of_method_eq same idents with clash | clash
      · exact apart a inside b there clash
      · exact apart b there a inside clash

/-- Two lists, of which one is called as the items of the other are. -/
def tagDocument : Document :=
  objectDocument ⟨["com", "example"], "post", none⟩
    [("tag", .array ⟨none, some (.boolean ⟨none, none, none⟩), none, none⟩),
     ("tagItems", .array ⟨none, some (.boolean ⟨none, none, none⟩), none, none⟩)]

theorem wellFormed_tagDocument : tagDocument.WellFormed := by
  exact wellFormed_objectDocument ⟨"com.example.post", by decide⟩ rfl (by decide)
    (by simpa using TypeNode.wellFormed_flags)

/-- The implementation of a struct opens a method twice. -/
theorem not_nodup_methods_tagDocument :
    (∃ value, Document.parse value = .ok tagDocument) ∧
      ∃ module file, Generator.graphGenerator.Produces tagDocument module file ∧
        ∃ declaration ∈ module.declarations,
          (declaration.implLines Generator.graphGenerator.mapper.runtime).filterMap methodName? =
            ["new", "from_value", "push_tag_item", "push_tag_item"] ∧
          ¬declaration.methods.Nodup := by
  have accepted := Document.parse_toJson wellFormed_tagDocument
  have struct : tagDocument.Generatable := ⟨_, _, rfl, rfl⟩
  have builtIn : Generator.graphGenerator.stubs = .builtIn := rfl
  obtain ⟨module, file, produces⟩ := Generator.exists_produces builtIn struct
  refine ⟨⟨_, accepted⟩, module, file, produces, ?_⟩
  have generated := produces.generated
  cases generated
  refine ⟨_, List.mem_cons_self, ?_, ?_⟩
  · rw [filterMap_implLines]
    decide +kernel
  · decide +kernel

end Declaration

end Lexicon
