import Lexicon.Proofs.LineTexts

/-!
# Lexicon.Proofs.GeneratedSource

What generated source declares.

With the built-in templates a document is generated exactly if its main
definition is a record or an object. The source then holds one struct for each
definition with an object, the main one first. This can be read off its lines,
as long as the lines are those that were written: the comment of an accessor
holds the name of its property as it is, and a line break in there starts a
line of its own, which may well open another struct.

## Main definitions

- `Document.structs`: the structs of a schema.
- `Declaration.Shows`: a declaration is that of a struct of the schema.
- `SourceModule.structNames`: the structs that a source text opens.

## Main result

`Generator.structsDeclared`: what is generated for an accepted document, and
that its source declares the structs of the schema.

## Proof strategy

Each line but those that open a struct starts with a character that no opening
line starts with, so it is enough to go through the lines once.
-/

namespace Lexicon

/-! ### The structs of a schema -/

/-- The main object and the other objects that have an identifier, in the order of the document. -/
def Document.structs (doc : Document) : List (Nsid × ObjectType) :=
  ((doc.main?.bind Definition.object?).map fun object => (doc.id, object)).toList ++
    doc.definitions.filterMap fun (name, definition) =>
      match definition with
      | .data (.object object) =>
        if name ≠ mainDefinition ∧ Label.isName name = true then
          some ({ doc.id with fragment := some name }, object)
        else none
      | _ => none

/-- A declaration shows a struct of a schema: it requires what the schema requires, and has a field
for each property. -/
structure Declaration.Shows (declaration : Declaration) (struct : Nsid × ObjectType) : Prop where
  id : declaration.id = struct.1
  name : declaration.name = Layout.typeName struct.1
  required : declaration.required = struct.2.required
  properties : declaration.fields.map (·.property) = Entries.keys struct.2.properties

theorem Declaration.shows_ofObject (mapper : TypeMapper) (doc : Document) (id : Nsid)
    (definition : Definition) (object : ObjectType) (key : Option String) :
    (ofObject mapper doc id definition object key).Shows (id, object) where
  id := rfl
  name := rfl
  required := rfl
  properties := map_property_fields

namespace SourceModule

variable {mapper : TypeMapper} {doc : Document} {module : SourceModule}

theorem map_others (doc : Document) :
    (others doc).map (fun (id, _, object) => (id, object)) =
      doc.definitions.filterMap fun (name, definition) =>
        match definition with
        | .data (.object object) =>
          if name ≠ mainDefinition ∧ Label.isName name = true then
            some ({ doc.id with fragment := some name }, object)
          else none
        | _ => none := by
  rw [others, List.map_filterMap]
  refine List.filterMap_congr fun ⟨name, definition⟩ _ => ?_
  cases definition with
  | data node =>
    cases node with
    | object object =>
      -- The main definition and names that are no fragments are passed over on both sides.
      by_cases own : name = mainDefinition
      · simp [own]
      · by_cases named : Label.isName name = true <;>
          simp [own, named, Document.idOf?, Nsid.withFragment, Except.toOption]
    | _ => rfl
  | _ => rfl

/-- A module declares the structs of the schema, and no others. -/
theorem forall₂_shows (generated : ofDocument mapper doc = .ok module) :
    List.Forall₂ Declaration.Shows module.declarations doc.structs := by
  obtain ⟨⟨definition, object, key⟩, first, generated⟩ := bind_eq_ok_iff.mp generated
  cases generated
  obtain ⟨found, parts⟩ := main_eq_ok first
  have struct : doc.main?.bind Definition.object? = some object := by
    rw [found]
    exact Definition.object?_of_structParts? parts
  rw [Document.structs, struct, ← map_others, Option.map_some, Option.toList_some,
    List.singleton_append]
  refine .cons (Declaration.shows_ofObject ..) ?_
  rw [List.forall₂_map_left_iff, List.forall₂_map_right_iff, List.forall₂_same]
  intro other _
  exact Declaration.shows_ofObject ..

end SourceModule

/-! ### Lines that open a struct -/

namespace SourceModule

/-- The name of the struct that a line opens. -/
def structName? (line : String) : Option String :=
  (Text.dropStart? "pub struct " line).map fun rest =>
    String.ofList (rest.toList.takeWhile Text.isAsciiAlphanumeric)

/-- The names of the structs that the lines of a source text open. -/
def structNames (source : String) : List String := (Text.splitOn '\n' source).filterMap structName?

end SourceModule

/-- The text is a line that starts as no line that opens a struct does. -/
structure Text.IsInner (text : String) : Prop where
  line : IsLine text
  start : text.toList.head?.any (· != 'p') = true

theorem Text.start_append {start : String} (given : start.toList.head?.any (· != 'p') = true)
    (rest : String) : (start ++ rest).toList.head?.any (· != 'p') = true := by
  rw [String.toList_append]
  cases chars : start.toList with
  | nil =>
    rw [chars] at given
    cases given
  | cons c cs =>
    rw [chars] at given
    exact given

namespace Text.IsInner

variable {text : String}

theorem append {start rest : String} (given : IsInner start) (line : IsLine rest) :
    IsInner (start ++ rest) :=
  ⟨isLine_append.mpr ⟨given.line, line⟩, start_append given.start rest⟩

theorem structName?_eq_none (given : IsInner text) : SourceModule.structName? text = none := by
  have first := given.start
  have other : ¬"pub struct ".toList.isPrefixOf text.toList = true := by
    intro opens
    obtain ⟨rest, same⟩ := List.isPrefixOf_iff_prefix.mp opens
    rw [← same] at first
    exact absurd first (by simp)
  rw [SourceModule.structName?, Text.dropStart?, if_neg other, Option.map_none]

theorem isLine_or (given : text = "" ∨ IsInner text) : IsLine text := by
  rcases given with rfl | inner
  · decide
  · exact inner.line

/-- Lines that are inside of structs open none. -/
theorem flatMap_structNames {lines : List String}
    (each : ∀ line ∈ lines, line = "" ∨ IsInner line) :
    lines.flatMap SourceModule.structNames = [] := by
  refine List.flatMap_eq_nil_iff.mpr fun line listed => ?_
  rcases each line listed with rfl | inner
  · decide
  · rw [SourceModule.structNames, splitOn_of_notMem inner.line, List.filterMap_cons,
      inner.structName?_eq_none]
    rfl

theorem of_mem_docLines {indent marker line : String} (margin : IsLine indent)
    (mark : IsLine marker) (start : IsInner (indent ++ marker))
    (listed : line ∈ Helper.docLines indent marker text) : IsInner line := by
  have whole := Helper.isLine_of_mem_docLines margin mark listed
  unfold Helper.docLines at listed
  split at listed
  · cases listed
  · obtain ⟨trimmed, _, rfl⟩ := List.mem_map.mp listed
    unfold Helper.docLine at whole ⊢
    by_cases blank : trimmed.isEmpty = true
    · rw [if_pos blank]
      exact start
    · rw [if_neg blank] at whole ⊢
      exact (start.append (by decide)).append (isLine_append.mp whole).2

end Text.IsInner

/-! ### The lines of a struct -/

namespace Declaration

/-- What a declaration writes into lines, the comments of its accessors apart, is on one line. -/
structure OnLines (runtime : String) (declaration : Declaration) : Prop where
  name : ∀ c ∈ declaration.name.toList, Text.isAsciiAlphanumeric c = true
  fields : ∀ field ∈ declaration.fields, Text.IsLine field.ident ∧ Text.IsLine field.type.text ∧
    Text.IsLine (field.read.text runtime field.property)
  accessors : ∀ accessor ∈ declaration.accessors, ∀ code ∈ accessor.codeLines, Text.IsLine code

variable {runtime : String} {declaration : Declaration}

theorem structNames_structLine
    (name : ∀ c ∈ declaration.name.toList, Text.isAsciiAlphanumeric c = true) :
    SourceModule.structNames declaration.structLine = [declaration.name] := by
  have line : Text.IsLine declaration.structLine := Text.isLine_append.mpr
    ⟨Text.isLine_append.mpr ⟨by decide, Text.isLine_of_alphanumeric name⟩, by decide⟩
  have stops : Text.isAsciiAlphanumeric ' ' = false := by decide
  -- The name ends at the blank in front of the brace, the first character that is none of a name.
  have behind : (declaration.name ++ " \x7b").toList.takeWhile Text.isAsciiAlphanumeric =
      declaration.name.toList := by
    have rest : " \x7b".toList = [' ', '\x7b'] := by decide
    rw [String.toList_append, List.takeWhile_append_of_pos name, rest,
      List.takeWhile_cons_of_neg (by simp [stops]), List.append_nil]
  have opens : SourceModule.structName? declaration.structLine = some declaration.name := by
    rw [SourceModule.structName?, structLine, String.append_assoc, Text.dropStart?_append,
      Option.map_some, behind, String.ofList_toList]
  rw [SourceModule.structNames, Text.splitOn_of_notMem line, List.filterMap_cons, opens]
  rfl

end Declaration

theorem StructField.isInner_of_mem_lines {field : StructField} (ident : Text.IsLine field.ident)
    (type : Text.IsLine field.type.text) : ∀ line ∈ field.lines, Text.IsInner line := by
  intro line listed
  rcases List.mem_append.mp listed with doc | own
  · exact .of_mem_docLines (by decide) (by decide) ⟨by decide, by decide⟩ doc
  · obtain rfl := List.mem_singleton.mp own
    have start : Text.IsInner "    pub " := ⟨by decide, by decide⟩
    exact (((start.append ident).append (by decide)).append type).append (by decide)

theorem StructField.isInner_readerLine {field : StructField} {runtime : String}
    (ident : Text.IsLine field.ident)
    (read : Text.IsLine (field.read.text runtime field.property)) :
    Text.IsInner (field.readerLine runtime) := by
  have start : Text.IsInner "            " := ⟨by decide, by decide⟩
  exact (((start.append ident).append (by decide)).append read).append (by decide)

theorem Accessor.structNames_docLine {accessor : Accessor}
    (plain : Text.IsLine accessor.property) : SourceModule.structNames accessor.docLine = [] := by
  have inner : Text.IsInner accessor.docLine := by
    refine ⟨accessor.isLine_docLine_iff.mpr plain, ?_⟩
    unfold docLine
    cases accessor <;> exact Text.start_append (Text.start_append (by decide) _) _
  rw [SourceModule.structNames, Text.splitOn_of_notMem inner.line, List.filterMap_cons,
    inner.structName?_eq_none]
  rfl

theorem Accessor.isInner_of_mem_codeLines {accessor : Accessor}
    (codes : ∀ code ∈ accessor.codeLines, Text.IsLine code) :
    ∀ code ∈ accessor.codeLines, Text.IsInner code := by
  intro line code
  refine ⟨codes line code, ?_⟩
  unfold codeLines at code
  -- The lines of code are indented, whatever the accessor.
  cases accessor <;> simp only [List.mem_cons, List.not_mem_nil, or_false] at code <;>
    obtain rfl | rfl | rfl := code
  · exact Text.start_append (Text.start_append (Text.start_append (Text.start_append
      (by decide) _) _) _) _
  · exact Text.start_append (by decide) _
  · decide
  · exact Text.start_append (Text.start_append (Text.start_append (Text.start_append
      (by decide) _) _) _) _
  · exact Text.start_append (Text.start_append (by decide) _) _
  · decide

theorem Declaration.isInner_of_mem_constantLines (declaration : Declaration) :
    ∀ line ∈ declaration.constantLines, line = "" ∨ Text.IsInner line := by
  have nsid : Text.IsInner "    pub const NSID: &str = " := ⟨by decide, by decide⟩
  have own : Text.IsInner "    pub const KEY: &str = " := ⟨by decide, by decide⟩
  have required : Text.IsInner "    pub const REQUIRED: &[&str] = &[" := ⟨by decide, by decide⟩
  have texts : Text.IsLine (String.intercalate ", " (declaration.required.map Text.quoted)) := by
    refine Text.isLine_intercalate (by decide) fun piece listed => ?_
    obtain ⟨text, _, rfl⟩ := List.mem_map.mp listed
    exact Text.isLine_quoted text
  intro line listed
  unfold constantLines requiredLine at listed
  simp only [List.mem_append, List.mem_cons, List.not_mem_nil, or_false, List.mem_map] at listed
  obtain (rfl | ⟨key, _, rfl⟩) | rfl | rfl := listed
  · exact .inr ((nsid.append (Text.isLine_quoted _)).append (by decide))
  · exact .inr ((own.append (Text.isLine_quoted key)).append (by decide))
  · exact .inr ((required.append texts).append (by decide))
  · exact .inl rfl

namespace Declaration.OnLines

variable {runtime : String} {declaration : Declaration} (given : declaration.OnLines runtime)
include given

theorem isInner_of_mem_constructorLines :
    ∀ line ∈ declaration.constructorLines, line = "" ∨ Text.IsInner line := by
  have head : Text.IsInner "    pub fn new(" := ⟨by decide, by decide⟩
  have body : Text.IsInner "        Self \x7b " := ⟨by decide, by decide⟩
  have parameters : Text.IsLine
      (String.intercalate ", " (declaration.fields.map StructField.parameter)) := by
    refine Text.isLine_intercalate (by decide) fun piece listed => ?_
    obtain ⟨field, inside, rfl⟩ := List.mem_map.mp listed
    obtain ⟨ident, type, _⟩ := given.fields field inside
    exact Text.isLine_append.mpr ⟨Text.isLine_append.mpr ⟨ident, by decide⟩, type⟩
  have idents : Text.IsLine (String.intercalate ", " (declaration.fields.map (·.ident))) := by
    refine Text.isLine_intercalate (by decide) fun piece listed => ?_
    obtain ⟨field, inside, rfl⟩ := List.mem_map.mp listed
    exact (given.fields field inside).1
  intro line listed
  unfold constructorLines constructorLine at listed
  rcases List.mem_append.mp listed with remark | listed
  · split at remark
    · obtain rfl := List.mem_singleton.mp remark
      exact .inr ⟨by decide, by decide⟩
    · cases remark
  · simp only [List.mem_cons, List.not_mem_nil, or_false] at listed
    obtain rfl | rfl | rfl | rfl := listed
    · exact .inr ((head.append parameters).append (by decide))
    · exact .inr ((body.append idents).append (by decide))
    · exact .inr ⟨by decide, by decide⟩
    · exact .inl rfl

theorem isInner_of_mem_readerLines (library : Text.IsLine runtime) :
    ∀ line ∈ declaration.readerLines runtime, Text.IsInner line := by
  have head : Text.IsInner "    pub fn from_value(value: &serde_json::Value) -> Result<Self, " :=
    ⟨by decide, by decide⟩
  have body : Text.IsInner "        let " := ⟨by decide, by decide⟩
  intro line listed
  unfold readerLines at listed
  simp only [List.mem_append, List.mem_cons, List.not_mem_nil, or_false, List.mem_map] at listed
  obtain ((rfl | rfl | rfl | rfl) | ⟨field, inside, rfl⟩) | rfl | rfl := listed
  · exact ⟨by decide, by decide⟩
  · exact (head.append library).append (by decide)
  · refine (((body.append ?_).append (by decide)).append library).append (by decide)
    split <;> decide
  · exact ⟨by decide, by decide⟩
  · obtain ⟨ident, _, read⟩ := given.fields field inside
    exact StructField.isInner_readerLine ident read
  · exact ⟨by decide, by decide⟩
  · exact ⟨by decide, by decide⟩

/-- Apart from the accessors, one line opens the struct and the others are inside or in front. -/
theorem exists_lines_eq (library : Text.IsLine runtime) :
    ∃ before after, declaration.lines runtime =
        before ++ declaration.structLine :: after ++ declaration.accessorLines ∧
      ∀ line ∈ before ++ after, line = "" ∨ Text.IsInner line := by
  have comment {line : String} (doc : line ∈ Helper.docLines "" "///" declaration.summary) :
      Text.IsInner line :=
    .of_mem_docLines (by decide) (by decide) ⟨by decide, by decide⟩ doc
  have implementation : Text.IsInner "impl " := ⟨by decide, by decide⟩
  have name := Text.isLine_of_alphanumeric given.name
  -- In front stands the documentation; behind the struct line follows all but the accessors.
  refine ⟨Helper.docLines "" "///" declaration.summary ++ ["#[derive(Debug, Clone, PartialEq)]"],
    declaration.fields.flatMap StructField.lines ++
      ["\x7d", "", "impl " ++ declaration.name ++ " \x7b"] ++ declaration.constantLines ++
      declaration.constructorLines ++ declaration.readerLines runtime, ?_, ?_⟩
  · unfold lines structLines
    simp only [List.append_assoc, List.cons_append, List.nil_append]
  · intro line listed
    simp only [List.mem_append, List.mem_cons, List.not_mem_nil, or_false] at listed
    obtain (doc | rfl) | (((field | rfl | rfl | rfl) | constant) | constructor) | reader := listed
    · exact .inr (comment doc)
    · exact .inr ⟨by decide, by decide⟩
    · obtain ⟨own, inside, field⟩ := List.mem_flatMap.mp field
      obtain ⟨ident, type, _⟩ := given.fields own inside
      exact .inr (StructField.isInner_of_mem_lines ident type line field)
    · exact .inr ⟨by decide, by decide⟩
    · exact .inl rfl
    · exact .inr ((implementation.append name).append (by decide))
    · exact declaration.isInner_of_mem_constantLines line constant
    · exact given.isInner_of_mem_constructorLines line constructor
    · exact .inr (given.isInner_of_mem_readerLines library line reader)

theorem isLine_of_mem_lines (library : Text.IsLine runtime)
    (plain : ∀ accessor ∈ declaration.accessors, Text.IsLine accessor.property) :
    ∀ line ∈ declaration.lines runtime, Text.IsLine line := by
  obtain ⟨before, after, shape, inner⟩ := given.exists_lines_eq library
  have name := Text.isLine_of_alphanumeric given.name
  have each : ∀ line ∈ before ++ after, Text.IsLine line :=
    fun line listed => Text.IsInner.isLine_or (inner line listed)
  rw [shape]
  simp only [accessorLines, List.mem_append, List.mem_cons, List.not_mem_nil, or_false,
    List.mem_flatMap, Accessor.lines]
  rintro line ((ahead | rfl | behind) | ⟨accessor, listed, rfl | rfl | code⟩ | rfl)
  · exact each line (List.mem_append_left _ ahead)
  · exact Text.isLine_append.mpr ⟨Text.isLine_append.mpr ⟨by decide, name⟩, by decide⟩
  · exact each line (List.mem_append_right _ behind)
  · decide
  · exact accessor.isLine_docLine_iff.mpr (plain accessor listed)
  · exact given.accessors accessor listed line code
  · decide

/-- A declaration opens its struct, and the comments of its accessors may open others. -/
theorem flatMap_structNames_lines (library : Text.IsLine runtime) :
    (declaration.lines runtime).flatMap SourceModule.structNames =
      declaration.name :: declaration.accessors.flatMap fun accessor =>
        SourceModule.structNames accessor.docLine := by
  obtain ⟨before, after, shape, inner⟩ := given.exists_lines_eq library
  have opens := structNames_structLine given.name
  have ahead := Text.IsInner.flatMap_structNames fun line listed =>
    inner line (List.mem_append_left _ listed)
  have behind := Text.IsInner.flatMap_structNames fun line listed =>
    inner line (List.mem_append_right _ listed)
  have blank : SourceModule.structNames "" = [] := by decide
  have closed : SourceModule.structNames "\x7d" = [] := by decide
  -- The code of an accessor is indented, so only its comment can open a struct.
  have accessors : (declaration.accessors.flatMap fun accessor => "" :: accessor.lines).flatMap
      SourceModule.structNames = declaration.accessors.flatMap fun accessor =>
        SourceModule.structNames accessor.docLine := by
    rw [List.flatMap_assoc]
    refine List.flatMap_congr fun accessor listed => ?_
    have codes := Text.IsInner.flatMap_structNames fun line code =>
      .inr (Accessor.isInner_of_mem_codeLines (given.accessors accessor listed) line code)
    rw [List.flatMap_cons, blank, List.nil_append, Accessor.lines, List.flatMap_cons, codes,
      List.append_nil]
  rw [shape, accessorLines]
  simp only [List.flatMap_append, List.flatMap_cons, List.flatMap_nil, ahead, opens, behind,
    accessors, closed, List.nil_append, List.append_nil, List.cons_append]

end Declaration.OnLines

/-! ### The lines of a module -/

namespace SourceModule

variable {mapper : TypeMapper} {doc : Document} {module : SourceModule} {runtime : String}

theorem structNames_lined (lines : List String) :
    structNames (Text.lined lines) = lines.flatMap structNames := by
  have last : [""].filterMap structName? = [] := by decide
  rw [structNames, Text.splitOn_lined, List.filterMap_append, last, List.append_nil,
    List.filterMap_flatMap]
  rfl

section

variable (parsed : ∃ text, Nsid.parse text = .ok doc.id)
  (generated : ofDocument mapper doc = .ok module)
include parsed generated

theorem isNamed_of_mem {declaration : Declaration} (inside : declaration ∈ module.declarations) :
    declaration.id.IsNamed := by
  obtain ⟨text, read⟩ := parse_of_mem parsed generated inside
  exact Nsid.isNamed_of_parse read

/-- What declarations write is on one line, whatever the schema holds. -/
theorem onLines_of_mem (library : Text.IsLine runtime) {declaration : Declaration}
    (inside : declaration ∈ module.declarations) : declaration.OnLines runtime := by
  have named := isNamed_of_mem parsed generated inside
  have name := name_of_mem generated inside
  -- A type is written as a path that ends in a type name, wherever its struct is declared.
  have structs (node : TypeNode) (name : String)
      (core : (mapper.map node doc).core?.map Layout.typeName = some name) : Text.IsLine name := by
    obtain ⟨id, found, rfl⟩ := Option.map_eq_some_iff.mp core
    obtain ⟨place, names⟩ := TypeMapper.core?_map_iff.mp found
    obtain ⟨text, read⟩ := names.parse parsed
    exact Layout.isLine_typeName (Nsid.isNamed_of_parse read)
  obtain ⟨object, _, id, definition, key, rfl⟩ := exists_object_of_mem generated inside
  constructor
  case name =>
    intro c there
    rw [name] at there
    exact Layout.isAsciiAlphanumeric_of_mem_typeName named there
  case fields =>
    intro field listed
    obtain ⟨⟨⟨property, node⟩, ident⟩, zipped, rfl⟩ := List.mem_map.mp listed
    have line : Text.IsLine ident :=
      Declaration.notMem_of_mem_identsFrom .lineBreak (List.of_mem_zip zipped).2
    obtain ⟨type, reader⟩ := Declaration.struct?_fieldOf mapper doc id object property ident node
    refine ⟨line, ?_, ?_⟩
    · exact GeneratedType.isLine_text fun name held => structs node name (type ▸ held)
    · exact FieldRead.isLine_text library (fun name held => structs node name (reader ▸ held)) _
  case accessors =>
    intro accessor listed
    obtain ⟨⟨⟨property, node⟩, ident⟩, zipped, own⟩ := List.mem_flatMap.mp listed
    have line : Text.IsLine ident :=
      Declaration.notMem_of_mem_identsFrom .lineBreak (List.of_mem_zip zipped).2
    exact Accessor.isLine_of_mem_codeLines line (structs node) own

theorem isInner_of_mem_headerLines : ∀ line ∈ module.headerLines, Text.IsInner line := by
  have first : Text.IsInner "// @generated by lexgen from " := ⟨by decide, by decide⟩
  have second : Text.IsInner "// Declares " := ⟨by decide, by decide⟩
  have id : Text.IsLine module.id.text := by
    obtain ⟨text, read⟩ := parsed
    rw [id_of_ofDocument generated]
    exact Nsid.isLine_text read
  have names : Text.IsLine (String.intercalate ", " (module.declarations.map (·.name))) := by
    refine Text.isLine_intercalate (by decide) fun piece listed => ?_
    obtain ⟨declaration, inside, rfl⟩ := List.mem_map.mp listed
    rw [name_of_mem generated inside]
    exact Layout.isLine_typeName (isNamed_of_mem parsed generated inside)
  intro line listed
  unfold headerLines at listed
  simp only [List.mem_cons, List.not_mem_nil, or_false] at listed
  obtain rfl | rfl := listed
  · exact (first.append id).append (by decide)
  · have count := Text.isLine_toString_nat (module.declarations.map (·.name)).length
    refine (((((second.append count).append (by decide)).append ?_).append (by decide)).append
      names).append (by decide)
    split <;> decide

theorem isInner_of_mem_importLines (root : Text.IsLine mapper.layout.root)
    (library : Text.IsLine mapper.runtime) :
    ∀ line ∈ module.importLines, line = "" ∨ Text.IsInner line := by
  have start : Text.IsInner "use " := ⟨by decide, by decide⟩
  intro line listed
  unfold importLines at listed
  split at listed
  · cases listed
  · rcases List.mem_cons.mp listed with rfl | listed
    · exact .inl rfl
    · obtain ⟨path, imported, rfl⟩ := List.mem_map.mp listed
      refine .inr ((start.append ?_).append (by decide))
      -- What is imported is one of the library paths or the struct of another document.
      rcases TypeMapper.cases_of_mem_imports generated imported with known | ⟨id, imports, rfl⟩
      · simp only [TypeMapper.libraryPaths, List.mem_cons, List.not_mem_nil, or_false] at known
        obtain rfl | rfl | rfl := known
        · decide
        · decide
        · exact Text.isLine_append.mpr ⟨library, by decide⟩
      · obtain ⟨text, read⟩ := imports.parse parsed
        exact Layout.isLine_qualifiedTypeName (Nsid.isNamed_of_parse read) root

end

theorem isInner_of_mem_descriptionLines :
    ∀ line ∈ module.descriptionLines, line = "" ∨ Text.IsInner line := by
  intro line listed
  unfold descriptionLines at listed
  split at listed
  · cases listed
  · split at listed
    · cases listed
    · rcases List.mem_cons.mp listed with rfl | doc
      · exact .inl rfl
      · exact .inr (.of_mem_docLines (by decide) (by decide) ⟨by decide, by decide⟩ doc)

section

variable (parsed : ∃ text, Nsid.parse text = .ok doc.id)
  (generated : ofDocument mapper doc = .ok module) (root : Text.IsLine mapper.layout.root)
  (library : Text.IsLine mapper.runtime)
include parsed generated root library

theorem isInner_of_mem_front :
    ∀ line ∈ module.headerLines ++ module.descriptionLines ++ module.importLines,
      line = "" ∨ Text.IsInner line := by
  simp only [List.mem_append]
  rintro line ((header | description) | imported)
  · exact .inr (isInner_of_mem_headerLines parsed generated line header)
  · exact isInner_of_mem_descriptionLines line description
  · exact isInner_of_mem_importLines parsed generated root library line imported

theorem isLine_of_mem_lines
    (plain : ∀ declaration ∈ module.declarations, ∀ accessor ∈ declaration.accessors,
      Text.IsLine accessor.property) :
    ∀ line ∈ module.lines mapper.runtime, Text.IsLine line := by
  intro line listed
  rcases List.mem_append.mp listed with front | there
  · exact Text.IsInner.isLine_or (isInner_of_mem_front parsed generated root library line front)
  · obtain ⟨declaration, inside, there⟩ := List.mem_flatMap.mp there
    have onLines := onLines_of_mem parsed generated library inside
    simp only [List.mem_append, List.mem_cons, List.not_mem_nil, or_false] at there
    obtain (rfl | own) | rfl := there
    · decide
    · exact onLines.isLine_of_mem_lines library (plain declaration inside) line own
    · decide

/-- A module opens the structs that it declares, each in front of those that the comments of its
accessors open. -/
theorem flatMap_structNames_lines :
    (module.lines mapper.runtime).flatMap structNames =
      module.declarations.flatMap fun declaration => declaration.name ::
        declaration.accessors.flatMap fun accessor => structNames accessor.docLine := by
  have front := Text.IsInner.flatMap_structNames
    (isInner_of_mem_front parsed generated root library)
  have blank : structNames "" = [] := by decide
  rw [lines, List.flatMap_append, front, List.nil_append, List.flatMap_assoc]
  refine List.flatMap_congr fun declaration inside => ?_
  have onLines := onLines_of_mem parsed generated library inside
  simp only [List.flatMap_append, List.flatMap_cons, List.flatMap_nil, blank, List.nil_append,
    List.append_nil, onLines.flatMap_structNames_lines library, List.cons_append]

end

end SourceModule

/-! ### Generation -/

namespace Generator

variable {generator : Generator} {doc : Document}

/-- What is generated for a document, and what the lines of the source say about it. -/
structure StructsDeclared (generator : Generator) (doc : Document) : Prop where
  ok_iff : (∃ file, generator.generate doc = .ok file) ↔ doc.Generatable
  missing : doc.main? = none → generator.generate doc = .error (.missingMain doc.id)
  unsupported : ∀ definition, doc.main? = some definition → definition.object? = none →
    generator.generate doc = .error (.unsupportedMain doc.id definition.kind)
  source : ∀ module file, generator.Produces doc module file →
    List.Forall₂ Declaration.Shows module.declarations doc.structs ∧
      file.source = Text.lined (module.lines generator.mapper.runtime)
  /-- The lines are those that were written, unless a line break in the name of a property gets
  into the comment of an accessor. -/
  lines_iff : Text.IsLine generator.mapper.layout.root → Text.IsLine generator.mapper.runtime →
    ∀ module file, generator.Produces doc module file →
      (Text.splitOn '\n' file.source = module.lines generator.mapper.runtime ++ [""] ↔
        ∀ declaration ∈ module.declarations, ∀ accessor ∈ declaration.accessors,
          Text.IsLine accessor.property)
  /-- The source opens the structs that are declared, and those that such comments open. -/
  structNames : Text.IsLine generator.mapper.layout.root → Text.IsLine generator.mapper.runtime →
    ∀ module file, generator.Produces doc module file →
      SourceModule.structNames file.source =
        module.declarations.flatMap fun declaration => declaration.name ::
          declaration.accessors.flatMap fun accessor => SourceModule.structNames accessor.docLine
  /-- Without line breaks in the names of properties these are the structs of the schema. -/
  structs : Text.IsLine generator.mapper.layout.root → Text.IsLine generator.mapper.runtime →
    ∀ module file, generator.Produces doc module file →
      (∀ declaration ∈ module.declarations, ∀ accessor ∈ declaration.accessors,
        Text.IsLine accessor.property) →
      SourceModule.structNames file.source = doc.structs.map fun (id, _) => Layout.typeName id

theorem Produces.source_eq {module : SourceModule} {file : GeneratedFile}
    (builtIn : generator.stubs = .builtIn) (produces : generator.Produces doc module file) :
    file.source = Text.lined (module.lines generator.mapper.runtime) := by
  have laidOut := produces.laidOut
  rw [builtIn, SourceModule.render_builtIn] at laidOut
  exact (Except.ok.inj laidOut).symm

/-- With the built-in templates, accepted documents are generated exactly if their main definition
has an object, and the source declares one struct for each object of the schema. -/
theorem structsDeclared (accepted : ∃ value, Document.parse value = .ok doc)
    (builtIn : generator.stubs = .builtIn) : generator.StructsDeclared doc := by
  obtain ⟨value, read⟩ := accepted
  have parsed := (Document.wellFormed_of_parse value doc read).identifier
  obtain ⟨missing, unsupported⟩ := generator.generate_of_main doc
  constructor
  case ok_iff => exact exists_generate_iff builtIn
  case missing => exact missing
  case unsupported => exact unsupported
  case source =>
    intro module file produces
    exact ⟨SourceModule.forall₂_shows produces.generated, produces.source_eq builtIn⟩
  case lines_iff =>
    intro root library module file produces
    rw [produces.source_eq builtIn]
    constructor
    · intro same declaration inside accessor listed
      -- What is cut at line breaks consists of lines, so the comment of the accessor is one.
      have comment : accessor.docLine ∈ module.lines generator.mapper.runtime := by
        refine List.mem_append_right _ (List.mem_flatMap.mpr ⟨declaration, inside, ?_⟩)
        refine List.mem_append_left _ (List.mem_cons_of_mem _ (List.mem_append_right _ ?_))
        refine List.mem_append_left _ (List.mem_flatMap.mpr ⟨accessor, listed, ?_⟩)
        exact List.mem_cons_of_mem _ List.mem_cons_self
      exact accessor.isLine_docLine_iff.mp
        (Text.isLine_of_mem_splitOn (same ▸ List.mem_append_left _ comment))
    · intro plain
      exact Text.splitOn_lined_of_isLine
        (SourceModule.isLine_of_mem_lines parsed produces.generated root library plain)
  case structNames =>
    intro root library module file produces
    rw [produces.source_eq builtIn, SourceModule.structNames_lined]
    exact SourceModule.flatMap_structNames_lines parsed produces.generated root library
  case structs =>
    intro root library module file produces plain
    have shown := SourceModule.forall₂_shows produces.generated
    have names : module.declarations.map (·.name) =
        doc.structs.map fun (id, _) => Layout.typeName id := by
      rw [← List.forall₂_eq_eq_eq, List.forall₂_map_left_iff, List.forall₂_map_right_iff]
      exact shown.imp fun _ _ shows => shows.name
    rw [produces.source_eq builtIn, SourceModule.structNames_lined,
      SourceModule.flatMap_structNames_lines parsed produces.generated root library, ← names,
      ← List.flatMap_singleton' (module.declarations.map (·.name)), List.flatMap_map]
    refine List.flatMap_congr fun declaration inside => ?_
    -- A comment on one line opens nothing.
    have comments : (declaration.accessors.flatMap fun accessor =>
        SourceModule.structNames accessor.docLine) = [] := by
      refine List.flatMap_eq_nil_iff.mpr fun accessor listed => ?_
      exact accessor.structNames_docLine (plain declaration inside accessor listed)
    rw [comments]

theorem structsDeclared_nodeDocument :
    (∃ value, Document.parse value = .ok nodeDocument) ∧ graphGenerator.stubs = .builtIn ∧
      graphGenerator.StructsDeclared nodeDocument := by
  have accepted := Document.accepted_of_wellFormed wellFormed_graphDocuments nodeDocument
    List.mem_cons_self
  exact ⟨accepted, rfl, structsDeclared accepted rfl⟩

/-! ### A comment that opens a struct -/

/-- The name of this property ends the comment of its accessor and the implementation. -/
def openingProperty : String :=
  "x`.\n    fn y() \x7b\x7d\n\x7d\n\npub struct PostItem;\n\nimpl Post \x7b\n    //"

def openingDocument : Document :=
  dataDocument ⟨["com", "example"], "post", none⟩
    [("main", .object ⟨none, [], [],
      [(openingProperty, .array ⟨none, some (.boolean ⟨none, none, none⟩), none, none⟩)]⟩),
     ("item", .object ⟨none, [], [], []⟩)]

theorem wellFormed_openingDocument : openingDocument.WellFormed := by
  have main : (TypeNode.object ⟨none, [], [], [(openingProperty,
      .array ⟨none, some (.boolean ⟨none, none, none⟩), none, none⟩)]⟩).WellFormed :=
    .object (List.nodup_singleton _) (by simpa using TypeNode.wellFormed_flags)
  have item : (TypeNode.object ⟨none, [], [], []⟩).WellFormed := .object List.nodup_nil (by simp)
  exact wellFormed_dataDocument ⟨"com.example.post", by decide⟩ rfl (by decide)
    (by simpa using ⟨main, item⟩)

/-- The source opens the struct of a definition twice. -/
theorem structNames_openingDocument :
    (∃ value, Document.parse value = .ok openingDocument) ∧ graphGenerator.stubs = .builtIn ∧
      openingDocument.structs.map (fun (id, _) => Layout.typeName id) = ["Post", "PostItem"] ∧
      ∃ file, graphGenerator.generate openingDocument = .ok file ∧
        SourceModule.structNames file.source = ["Post", "PostItem", "PostItem"] := by
  have parsed := wellFormed_openingDocument.identifier
  have struct : openingDocument.Generatable := ⟨_, _, rfl, rfl⟩
  have builtIn : graphGenerator.stubs = .builtIn := rfl
  obtain ⟨file, given⟩ := (exists_generate_iff builtIn).mpr struct
  obtain ⟨module, produces⟩ := generate_eq_ok_iff.mp given
  -- The general theorem leaves the comments of the accessors, which are short enough to compute.
  have opened : (module.declarations.flatMap fun declaration => declaration.name ::
      declaration.accessors.flatMap fun accessor => SourceModule.structNames accessor.docLine) =
      ["Post", "PostItem", "PostItem"] := by
    have generated := produces.generated
    cases generated
    decide +kernel
  refine ⟨⟨_, Document.parse_toJson wellFormed_openingDocument⟩, builtIn, by decide, file, given,
    ?_⟩
  rw [produces.source_eq builtIn, SourceModule.structNames_lined, ← opened]
  exact SourceModule.flatMap_structNames_lines parsed produces.generated (by decide) (by decide)

end Generator

end Lexicon
