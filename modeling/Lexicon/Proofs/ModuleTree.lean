import Lexicon.Proofs.GenerationRuns
import Lexicon.Proofs.KeptModules
import Lexicon.Proofs.ModuleNames
import Lexicon.Proofs.TextLines

/-!
# Lexicon.Proofs.ModuleTree

The indexes of generated modules are the tree of modules.

A module name is escaped in three places: in paths of the generated code, in
the name of its file, and in the index that declares it, where it is escaped
again from the name of the file. All three agree, so whoever reads the indexes
from the root down to a file reads the path of its module.

## Main definitions

- `Index.declared`: the identifiers that the text of an index declares.
- `Layout.pathSegments`: the segments of a path in generated code.
- `Index.Descends`: the indexes on the way to a file, and what they declare.
- `Index.MirrorsTree`: what the indexes of generated files say.

## Main result

`Index.mirrorsTree`: the indexes declare each generated module under its path,
and nothing else.

## Proof strategy

The text of an index reads back as the list that it was written from. So what
is declared for the next part of a path is determined by that part, and the
induction is on the parts that are still to come.
-/

namespace Lexicon

/-! ### Escaped names -/

namespace Keyword

variable {text : String}

theorem mem_escape {c : Char} (inside : c ∈ (escape text).toList) :
    c ∈ text.toList ∨ c ∈ ['_', 'r', '#'] := by
  have underscore : "_".toList = ['_'] := rfl
  have mark : rawMark.toList = ['r', '#'] := rfl
  unfold escape at inside
  split at inside
  · rw [String.toList_append, underscore] at inside
    exact (List.mem_append.mp inside).imp_right (by simp +contextual)
  · split at inside
    · rw [String.toList_append, mark] at inside
      exact (List.mem_append.mp inside).symm.imp_right (by simp +contextual)
    · split at inside
      · rw [String.toList_append, underscore] at inside
        exact (List.mem_append.mp inside).symm.imp_right (by simp +contextual)
      · exact .inl inside

theorem isLine_escape (line : Text.IsLine text) : Text.IsLine (escape text) := by
  intro lineBreak
  rcases mem_escape lineBreak with own | added
  · exact line own
  · exact absurd added (by decide)

theorem escape_ne_empty (given : text ≠ "") : escape text ≠ "" := by
  unfold escape
  split
  · simp [given]
  · split
    · simp [given]
    · split
      · simp [given]
      · exact given

/-- An underscore in front makes every name an identifier. -/
theorem escape_underscore_append (text : String) : escape ("_" ++ text) = "_" ++ text := by
  have front : ("_" ++ text).toList.head? = some '_' := by simp
  have absent : ∀ word ∈ pathWords ++ reserved, word.toList.head? ≠ some '_' := by decide
  have other : "_" ++ text ∉ pathWords ++ reserved := fun inside => absent _ inside front
  rw [List.mem_append, not_or] at other
  have noDigit : ("_" ++ text).toList.head?.any Text.isAsciiDigit = false := by
    rw [front]
    decide
  simp only [escape, List.contains_iff_mem, if_neg other.1, if_neg other.2, noDigit]
  rfl

/-- The name of a file is escaped to the identifier of the module that it holds. -/
theorem escape_fileStem (snake : Case.IsSnake text) : escape (fileStem text) = escape text := by
  have absent : '#' ∉ text.toList := snake.notMem (by decide) (by decide)
  -- The stem of a file has lost its mark, if it had one, and is escaped in the same way again.
  by_cases path : text ∈ pathWords
  · have each : ∀ word ∈ pathWords, escape (fileStem word) = escape word := by decide
    exact each text path
  · by_cases word : text ∈ reserved
    · have escaped : escape text = rawMark ++ text := by
        simp only [escape, List.contains_iff_mem, if_neg path, if_pos word]
      rw [fileStem, escaped, bare_rawMark_append, escaped]
    · by_cases digit : text.toList.head?.any Text.isAsciiDigit = true
      · have escaped : escape text = "_" ++ text := by
          simp only [escape, List.contains_iff_mem, if_neg path, if_neg word, if_pos digit]
        have stem : fileStem text = "_" ++ text := by
          rw [fileStem, escaped]
          exact bare_of_notMem (by simpa using absent)
        rw [stem, escaped, escape_underscore_append]
      · have escaped : escape text = text := by
          simp only [escape, List.contains_iff_mem, if_neg path, if_neg word, if_neg digit]
        rw [fileStem, escaped, bare_of_notMem absent, escaped]

/-- The name of a file or directory of a module. -/
def IsStem (name : String) : Prop := ∃ segment, Case.IsSnake segment ∧ fileStem segment = name

namespace IsStem

variable {name : String} (stem : IsStem name)
include stem

theorem isLine : Text.IsLine name := by
  obtain ⟨segment, snake, rfl⟩ := stem
  intro lineBreak
  rcases mem_fileStem snake lineBreak with small | same
  · exact absurd small (by decide)
  · exact absurd same (by decide)

/-- What a file is declared as is its name again, without the mark of a raw identifier. -/
theorem bare_escape : bare (escape name) = name := by
  obtain ⟨segment, snake, rfl⟩ := stem
  rw [escape_fileStem snake, fileStem]

end IsStem

end Keyword

/-! ### Paths of modules -/

namespace Layout

variable {layout : Layout} {id : Nsid} {text : String}

/-- The segments of a path in generated code, between its colons. -/
def pathSegments (path : String) : List String := (Text.splitOn ':' path).filter fun s => !s.isEmpty

-- Segments are counted from the root, whatever it is called.
example : pathSegments "crate::lexicons::feed" = ["crate", "lexicons", "feed"] := by decide

theorem pathSegments_append (before after : String) :
    pathSegments (before ++ String.singleton ':' ++ after) =
      pathSegments before ++ pathSegments after := by
  rw [pathSegments, Text.splitOn_append, List.filter_append]
  rfl

theorem pathSegments_of_notMem (given : text ≠ "") (absent : ':' ∉ text.toList) :
    pathSegments text = [text] := by
  rw [pathSegments, Text.splitOn_of_notMem absent]
  simp [given]

theorem pathSegments_foldl (names : List String)
    (each : ∀ name ∈ names, name ≠ "" ∧ ':' ∉ name.toList)
    (path : String) :
    pathSegments (names.foldl (fun path name =>
      (if path.isEmpty then "" else path ++ "::") ++ name) path) = pathSegments path ++ names := by
  induction names generalizing path with
  | nil => simp
  | cons name rest ih =>
    obtain ⟨given, absent⟩ := each name List.mem_cons_self
    rw [List.foldl_cons, ih fun other inside => each other (List.mem_cons_of_mem _ inside)]
    -- A separator stands in front of every name but the first one of a path.
    have first : pathSegments ((if path.isEmpty then "" else path ++ "::") ++ name) =
        pathSegments path ++ [name] := by
      split
      · next empty =>
        obtain rfl := String.isEmpty_iff.mp empty
        rw [String.empty_append, pathSegments_of_notMem given absent]
        rfl
      · have colons : path ++ "::" ++ name =
            path ++ String.singleton ':' ++ ("" ++ String.singleton ':' ++ name) := by
          rw [String.append_assoc, String.append_assoc]
          rfl
        rw [colons, pathSegments_append, pathSegments_append, pathSegments_of_notMem given absent]
        rfl
    rw [first, List.append_assoc, List.singleton_append]

theorem isSnake_of_mem_moduleSegments (parsed : Nsid.parse text = .ok id) {segment : String}
    (inside : segment ∈ layout.moduleSegments id) : Case.IsSnake segment := by
  rcases List.mem_append.mp inside with label | name
  · exact isSnake_of_mem_segments parsed label
  · obtain rfl := List.mem_singleton.mp name
    exact Nsid.isSnake_name parsed

/-- Behind the root, the path of a module consists of its escaped module names. -/
theorem pathSegments_modulePath (parsed : Nsid.parse text = .ok id) :
    pathSegments (layout.modulePath id) =
      pathSegments layout.root ++ (layout.moduleSegments id).map Keyword.escape := by
  have each : ∀ name ∈ (layout.moduleSegments id).map Keyword.escape,
      name ≠ "" ∧ ':' ∉ name.toList := by
    intro name inside
    obtain ⟨segment, held, rfl⟩ := List.mem_map.mp inside
    have snake := isSnake_of_mem_moduleSegments parsed held
    refine ⟨Keyword.escape_ne_empty fun empty => snake.ne_nil (by simp [empty]), fun colon => ?_⟩
    rcases Keyword.mem_escape colon with own | added
    · exact snake.notMem (by decide) (by decide) own
    · exact absurd added (by decide)
  rw [← pathSegments_foldl _ each, List.foldl_map]
  rfl

/-! ### Modules of files -/

/-- A directory holds the module of its name. -/
theorem moduleOf_fileStem {segment : String} (snake : Case.IsSnake segment) :
    Index.moduleOf (.named (Keyword.fileStem segment)) = Keyword.fileStem segment := by
  have noDot : '.' ∉ (Keyword.fileStem segment).toList := by
    intro dot
    rcases Keyword.mem_fileStem snake dot with small | same
    · exact absurd small (by decide)
    · exact absurd same (by decide)
  have ending : '.' ∈ ".rs".toList := by decide
  simp only [Index.moduleOf, OutputPath.Part.text,
    Text.dropEnd?_of_notMem ending noDot, Option.getD_none]

theorem moduleOf_file (stem : String) : Index.moduleOf (.named (stem ++ ".rs")) = stem := by
  simp only [Index.moduleOf, OutputPath.Part.text, Text.dropEnd?_append, Option.getD_some]

/-- Without their ending, the parts of the path of a file are the names of its module's files. -/
theorem map_moduleOf_parts (layout : Layout) (parsed : Nsid.parse text = .ok id) :
    (OutputPath.parts (layout.filePath id)).map Index.moduleOf =
      (layout.moduleSegments id).map Keyword.fileStem := by
  have directories : (layout.namespaceSegments id).map
      (fun segment => Index.moduleOf (.named (Keyword.fileStem segment))) =
      (layout.namespaceSegments id).map Keyword.fileStem :=
    List.map_congr_left fun segment held => moduleOf_fileStem (isSnake_of_mem_segments parsed held)
  simp only [parts_filePath parsed, fileComponents, moduleSegments, List.map_append, List.map_map,
    List.map_cons, List.map_nil, Function.comp_def, moduleOf_file, directories]

theorem isStem_of_mem_parts (parsed : Nsid.parse text = .ok id) {part : OutputPath.Part}
    (inside : part ∈ OutputPath.parts (layout.filePath id)) :
    Keyword.IsStem (Index.moduleOf part) := by
  have listed : Index.moduleOf part ∈ (layout.moduleSegments id).map Keyword.fileStem := by
    rw [← map_moduleOf_parts layout parsed]
    exact List.mem_map_of_mem inside
  obtain ⟨segment, held, same⟩ := List.mem_map.mp listed
  exact ⟨segment, isSnake_of_mem_moduleSegments parsed held, same⟩

/-- What the parts of the path of a file are declared as leads to the module that it holds. -/
theorem map_escape_moduleOf_parts (parsed : Nsid.parse text = .ok id) :
    (OutputPath.parts (layout.filePath id)).map (fun part => Keyword.escape (Index.moduleOf part)) =
      (layout.moduleSegments id).map Keyword.escape := by
  have again : (layout.moduleSegments id).map (fun segment =>
      Keyword.escape (Keyword.fileStem segment)) = (layout.moduleSegments id).map Keyword.escape :=
    List.map_congr_left fun segment held =>
      Keyword.escape_fileStem (isSnake_of_mem_moduleSegments parsed held)
  have names := congrArg (List.map Keyword.escape) (map_moduleOf_parts layout parsed)
  rw [List.map_map, List.map_map] at names
  exact names.trans again

end Layout

/-! ### Texts of indexes -/

namespace Index

open OutputPath (Part parts spell)

/-- The identifier that a line declares a module under. -/
def moduleLine? (line : String) : Option String :=
  (Text.dropStart? "pub mod " line).bind (Text.dropEnd? ";")

/-- The identifiers that the text of an index declares modules under, from its first line to its
last one. -/
def declared (source : String) : List String :=
  (Text.splitOn '\n' source).filterMap moduleLine?

-- Only lines that declare modules count.
example : declared (text ["feed", "type"]) = ["feed", "r#type"] := by decide

def moduleLine (name : String) : String := "pub mod " ++ Keyword.escape name ++ ";"

theorem moduleLine?_moduleLine (name : String) :
    moduleLine? (moduleLine name) = some (Keyword.escape name) := by
  rw [moduleLine?, moduleLine, String.append_assoc, Text.dropStart?_append, Option.bind_some,
    Text.dropEnd?_append]

theorem text_eq_lined (modules : List String) :
    text modules =
      Text.lined (["// @generated by lexgen. Do not edit.", ""] ++ modules.map moduleLine) := by
  have header : "// @generated by lexgen. Do not edit.\n\n" =
      Text.lined ["// @generated by lexgen. Do not edit.", ""] := by decide
  have ending : ";\n" = ";" ++ "\n" := by decide
  have each : modules.map (fun name => "pub mod " ++ Keyword.escape name ++ ";\n") =
      (modules.map moduleLine).map (· ++ "\n") := by
    simp only [List.map_map, Function.comp_def, moduleLine, ending, String.append_assoc]
  unfold text
  rw [Text.lined_append, header, each]
  rfl

/-- The text of an index declares the modules that it was written for. -/
theorem declared_text {modules : List String} (each : ∀ name ∈ modules, Text.IsLine name) :
    declared (text modules) = modules.map Keyword.escape := by
  have lines : ∀ line ∈ ["// @generated by lexgen. Do not edit.", ""] ++ modules.map moduleLine,
      Text.IsLine line := by
    rw [List.forall_mem_append, List.forall_mem_map]
    refine ⟨by decide, fun name inside => ?_⟩
    have own := Keyword.isLine_escape (each name inside)
    rw [moduleLine, Text.isLine_append, Text.isLine_append]
    exact ⟨⟨by decide, own⟩, by decide⟩
  have header : ["// @generated by lexgen. Do not edit.", ""].filterMap moduleLine? = [] := by
    decide
  have rest : [""].filterMap moduleLine? = [] := by decide
  have own : (modules.map moduleLine).filterMap moduleLine? = modules.map Keyword.escape := by
    rw [List.filterMap_map, ← List.filterMap_eq_map]
    exact List.filterMap_congr fun name _ => moduleLine?_moduleLine name
  rw [declared, text_eq_lined, Text.splitOn_lined_of_isLine lines, List.filterMap_append,
    List.filterMap_append, header, rest, own, List.nil_append, List.append_nil]

/-! ### The tree -/

theorem mem_ofPaths {paths : List String} {index : String × String} :
    index ∈ ofPaths paths ↔ ∃ directory ∈ directories (paths.flatMap declarations),
      index =
        (spell (partsOf directory), text (modulesOf (paths.flatMap declarations) directory)) := by
  simp only [ofPaths, List.mem_map, eq_comm]

theorem mem_modulesOf {paths : List String} {directory : List Part} {name : String} :
    name ∈ modulesOf (paths.flatMap declarations) directory ↔
      ∃ path ∈ paths, ∃ part rest,
        parts path = directory ++ part :: rest ∧ moduleOf part = name := by
  rw [modulesOf, Sorted.mem_texts, List.mem_filterMap, ← mem_declarations]
  constructor
  · rintro ⟨⟨other, module⟩, inside, kept⟩
    obtain ⟨rfl, rfl⟩ : other = directory ∧ module = name := by simpa using kept
    exact inside
  · intro inside
    exact ⟨(directory, name), inside, by simp⟩

/-- The indexes on the way to a file, and what each of them declares for the next part of its
path. -/
inductive Descends (indexes : List (String × String)) : List Part → List Part → List String → Prop
  | nil (directory : List Part) : Descends indexes directory [] []
  | cons {directory rest : List Part} {part : Part} {source ident : String} {idents : List String}
      (index : (spell (partsOf directory), source) ∈ indexes)
      (declares : ident ∈ declared source) (names : Keyword.bare ident = moduleOf part)
      (below : Descends indexes (directory ++ [part]) rest idents) :
      Descends indexes directory (part :: rest) (ident :: idents)

instance : Std.TransCmp fun a b => OutputPath.compareParts (partsOf a) (partsOf b) where
  eq_swap := Std.OrientedCmp.eq_swap
  isLE_trans := Std.TransCmp.isLE_trans

section Stems

variable {paths : List String} (named : ∀ path ∈ paths, OutputPath.IsNamed path)
  (stems : ∀ path ∈ paths, ∀ part ∈ parts path, Keyword.IsStem (moduleOf part))

section

include named

theorem spell_partsOf_inj {directory other : List Part}
    (inside : directory ∈ directories (paths.flatMap declarations))
    (second : other ∈ directories (paths.flatMap declarations))
    (same : spell (partsOf directory) = spell (partsOf other)) : directory = other := by
  have equal := congrArg parts same
  rw [parts_spell_partsOf named inside, parts_spell_partsOf named second] at equal
  exact List.append_cancel_right equal

/-- Each directory has one index. -/
theorem nodup_ofPaths : ((ofPaths paths).map Prod.fst).Nodup := by
  have distinct : (directories (paths.flatMap declarations)).Nodup :=
    Sorted.nodup_ofList eq_of_compareParts_partsOf _
  rw [ofPaths, List.map_map]
  exact distinct.map_on fun a inside b second same => spell_partsOf_inj named inside second same

end

include stems

theorem isStem_of_mem_modulesOf {directory : List Part} {name : String}
    (inside : name ∈ modulesOf (paths.flatMap declarations) directory) : Keyword.IsStem name := by
  obtain ⟨path, given, part, rest, shape, rfl⟩ := mem_modulesOf.mp inside
  exact stems path given part (by simp [shape])

theorem declared_modulesOf (directory : List Part) :
    declared (text (modulesOf (paths.flatMap declarations) directory)) =
      (modulesOf (paths.flatMap declarations) directory).map Keyword.escape :=
  declared_text fun _ inside => (isStem_of_mem_modulesOf stems inside).isLine

/-- Without the marks of raw identifiers, an index declares the modules of its directory. -/
theorem map_bare_declared (directory : List Part) :
    (declared (text (modulesOf (paths.flatMap declarations) directory))).map Keyword.bare =
      modulesOf (paths.flatMap declarations) directory := by
  rw [declared_modulesOf stems, List.map_map]
  conv_rhs => rw [← List.map_id (modulesOf _ directory)]
  exact List.map_congr_left fun _ inside => (isStem_of_mem_modulesOf stems inside).bare_escape

theorem mem_declared_iff {directory : List Part} {ident : String} :
    ident ∈ declared (text (modulesOf (paths.flatMap declarations) directory)) ↔
      ∃ path ∈ paths, ∃ part rest, parts path = directory ++ part :: rest ∧
        ident = Keyword.escape (moduleOf part) := by
  rw [declared_modulesOf stems, List.mem_map]
  constructor
  · rintro ⟨name, inside, rfl⟩
    obtain ⟨path, given, part, rest, shape, rfl⟩ := mem_modulesOf.mp inside
    exact ⟨path, given, part, rest, shape, rfl⟩
  · rintro ⟨path, given, part, rest, shape, rfl⟩
    exact ⟨moduleOf part, mem_modulesOf.mpr ⟨path, given, part, rest, shape, rfl⟩, rfl⟩

include named

/-- On the way to a file, each index declares the next part of its path under one identifier. -/
theorem descends_iff {path : String} (given : path ∈ paths) {before rest : List Part}
    (shape : parts path = before ++ rest) {idents : List String} :
    Descends (ofPaths paths) before rest idents ↔
      idents = rest.map fun part => Keyword.escape (moduleOf part) := by
  -- By induction on what is left of the path; the parts before it are the directory reached.
  induction rest generalizing before idents with
  | nil =>
    constructor
    · rintro ⟨⟩
      rfl
    · rintro rfl
      exact .nil before
  | cons part rest ih =>
    have deeper : parts path = (before ++ [part]) ++ rest := by
      rw [shape, List.append_assoc, List.singleton_append]
    have here : before ∈ directories (paths.flatMap declarations) :=
      mem_directories_iff.mpr ⟨path, given, part, rest, shape⟩
    constructor
    · rintro (_ | ⟨index, declares, names, below⟩)
      obtain ⟨directory, inside, same⟩ := mem_ofPaths.mp index
      obtain ⟨location, rfl⟩ := Prod.mk.inj same
      obtain rfl := spell_partsOf_inj named here inside location
      -- The identifier belongs to some part, and its name tells which module that is.
      obtain ⟨other, listed, sibling, tail, held, rfl⟩ := (mem_declared_iff stems).mp declares
      have stem : Keyword.IsStem (moduleOf sibling) := stems other listed sibling (by simp [held])
      rw [stem.bare_escape] at names
      rw [names, (ih deeper).mp below, List.map_cons]
    · rintro rfl
      have stem : Keyword.IsStem (moduleOf part) := stems path given part (by simp [shape])
      refine .cons (mem_ofPaths.mpr ⟨before, here, rfl⟩) ?_ stem.bare_escape ((ih deeper).mpr rfl)
      exact (mem_declared_iff stems).mpr ⟨path, given, part, rest, shape, rfl⟩

end Stems

end Index

/-- A file stands where a layout puts the module of its identifier. -/
structure GeneratedFile.InPlace (layout : Layout) (file : GeneratedFile) : Prop where
  parsed : ∃ text, Nsid.parse text = .ok file.id
  path : file.path = layout.filePath file.id
  modulePath : file.modulePath = layout.modulePath file.id

namespace GeneratedFile

open OutputPath (parts)

variable {layout : Layout} {files : List GeneratedFile} {file : GeneratedFile}

theorem InPlace.of_generate {generator : Generator} {doc : Document}
    (parsed : ∃ text, Nsid.parse text = .ok doc.id) (given : generator.generate doc = .ok file) :
    file.InPlace generator.mapper.layout := by
  obtain ⟨module, produces⟩ := Generator.generate_eq_ok_iff.mp given
  constructor
  · exact produces.id ▸ parsed
  · exact produces.id ▸ produces.path
  · exact produces.id ▸ produces.modulePath

theorem InPlace.parts_path (placed : file.InPlace layout) :
    parts file.path = (layout.fileComponents file.id).map .named := by
  obtain ⟨text, parsed⟩ := placed.parsed
  rw [placed.path, Layout.parts_filePath parsed]

theorem isNamed_of_inPlace (placed : ∀ file ∈ files, file.InPlace layout) :
    ∀ path ∈ files.map (·.path), OutputPath.IsNamed path := by
  intro path inside
  obtain ⟨file, listed, rfl⟩ := List.mem_map.mp inside
  obtain ⟨text, parsed⟩ := (placed file listed).parsed
  exact ⟨_, fun _ => Layout.isName_of_mem_components parsed, (placed file listed).parts_path⟩

theorem isStem_of_inPlace (placed : ∀ file ∈ files, file.InPlace layout) :
    ∀ path ∈ files.map (·.path), ∀ part ∈ parts path, Keyword.IsStem (Index.moduleOf part) := by
  intro path inside part held
  obtain ⟨file, listed, rfl⟩ := List.mem_map.mp inside
  obtain ⟨text, parsed⟩ := (placed file listed).parsed
  rw [(placed file listed).path] at held
  exact Layout.isStem_of_mem_parts parsed held

end GeneratedFile

namespace Index

open OutputPath (Part parts spell)

/-- The indexes of generated files are the tree of their modules. -/
structure MirrorsTree (layout : Layout) (files : List GeneratedFile) : Prop where
  /-- No directory has two indexes. -/
  single : ((ofPaths (files.map (·.path))).map Prod.fst).Nodup
  /-- From the root down to a file, the indexes declare the path of its module, and nothing else
  for the parts of its path. -/
  descends : ∀ file ∈ files, ∃ idents,
    Layout.pathSegments file.modulePath = Layout.pathSegments layout.root ++ idents ∧
      ∀ others, Descends (ofPaths (files.map (·.path))) [] (parts file.path) others ↔
        others = idents
  /-- What an index declares is part of the path of a file. -/
  founded : ∀ index ∈ ofPaths (files.map (·.path)), ∀ ident ∈ declared index.2,
    ∃ file ∈ files, ∃ before part after, parts file.path = before ++ part :: after ∧
      index.1 = spell (partsOf before) ∧ Keyword.bare ident = moduleOf part
  /-- An index declares its modules in the order of their names, and each of them once. -/
  sorted : ∀ index ∈ ofPaths (files.map (·.path)),
    (declared index.2).Nodup ∧ ((declared index.2).map Keyword.bare).Pairwise (· < ·)

/-- The indexes of files that were generated under one layout are the tree of their modules. -/
theorem mirrorsTree {layout : Layout} {files : List GeneratedFile}
    (generated : ∀ file ∈ files, ∃ (generator : Generator) (doc : Document) (text : String),
      generator.mapper.layout = layout ∧ Nsid.parse text = .ok doc.id ∧
        generator.generate doc = .ok file) : MirrorsTree layout files := by
  have placed : ∀ file ∈ files, file.InPlace layout := by
    intro file inside
    obtain ⟨generator, doc, text, rfl, parsed, given⟩ := generated file inside
    exact .of_generate ⟨text, parsed⟩ given
  have named := GeneratedFile.isNamed_of_inPlace placed
  have stems := GeneratedFile.isStem_of_inPlace placed
  constructor
  case single => exact nodup_ofPaths named
  case descends =>
    intro file inside
    obtain ⟨text, parsed⟩ := (placed file inside).parsed
    refine ⟨(layout.moduleSegments file.id).map Keyword.escape, ?_, fun others => ?_⟩
    · rw [(placed file inside).modulePath, Layout.pathSegments_modulePath parsed]
    · rw [descends_iff named stems (List.mem_map_of_mem inside) (List.nil_append _).symm,
        (placed file inside).path, Layout.map_escape_moduleOf_parts parsed]
  case founded =>
    intro index inside ident declares
    obtain ⟨directory, _, rfl⟩ := mem_ofPaths.mp inside
    obtain ⟨path, given, part, rest, shape, rfl⟩ := (mem_declared_iff stems).mp declares
    have stem : Keyword.IsStem (moduleOf part) := stems path given part (by simp [shape])
    obtain ⟨file, listed, rfl⟩ := List.mem_map.mp given
    exact ⟨file, listed, directory, part, rest, shape, rfl, stem.bare_escape⟩
  case sorted =>
    intro index inside
    obtain ⟨directory, _, rfl⟩ := mem_ofPaths.mp inside
    have increasing : (modulesOf ((files.map (·.path)).flatMap declarations) directory).Pairwise
        (· < ·) :=
      (Sorted.pairwise_texts _).imp fun before => compareOfLessAndEq_eq_lt.mp before
    have distinct : (modulesOf ((files.map (·.path)).flatMap declarations) directory).Nodup :=
      Sorted.nodup_texts _
    -- Different names are declared under different identifiers.
    rw [← map_bare_declared stems directory] at increasing distinct
    exact ⟨distinct.of_map _, increasing⟩

/-! ### Names that are no identifiers -/

def keywordDocuments : List Document :=
  [objectDocument ⟨["com", "3d-models", "type"], "self", none⟩ [],
   objectDocument ⟨["com", "3d-models"], "use", none⟩ []]

def keywordGenerator : Generator :=
  { mapper := { layout := {}, runtime := "lex_runtime", registry := none }, stubs := .builtIn }

/-- Keywords and names with a digit at the start have their place in the tree. -/
theorem mirrorsTree_keywordDocuments :
    ∃ files : List GeneratedFile,
      (∀ file ∈ files, ∃ (generator : Generator) (doc : Document) (text : String),
        generator.mapper.layout = {} ∧ Nsid.parse text = .ok doc.id ∧
          generator.generate doc = .ok file) ∧
        files.map (fun file => (file.path, file.modulePath)) =
          [("type/_3d_models/com/self_.rs", "crate::lexicons::r#type::_3d_models::com::self_"),
           ("_3d_models/com/use.rs", "crate::lexicons::_3d_models::com::r#use")] ∧
        MirrorsTree {} files := by
  have evaluated : (keywordDocuments.mapM keywordGenerator.generate).toOption.map
      (fun files => files.map fun file => (file.path, file.modulePath)) =
        some [("type/_3d_models/com/self_.rs", "crate::lexicons::r#type::_3d_models::com::self_"),
          ("_3d_models/com/use.rs", "crate::lexicons::_3d_models::com::r#use")] := by
    decide +kernel
  have parsed : ∀ doc ∈ keywordDocuments, Nsid.parse doc.id.text = .ok doc.id := by decide
  cases ran : keywordDocuments.mapM keywordGenerator.generate with
  | error error =>
    rw [ran] at evaluated
    cases evaluated
  | ok files =>
    rw [ran] at evaluated
    have generated : ∀ file ∈ files, ∃ (generator : Generator) (doc : Document) (text : String),
        generator.mapper.layout = {} ∧ Nsid.parse text = .ok doc.id ∧
          generator.generate doc = .ok file := by
      intro file inside
      obtain ⟨doc, listed, given⟩ := mem_of_mapM_eq_ok ran file inside
      exact ⟨keywordGenerator, doc, doc.id.text, rfl, parsed doc listed, given⟩
    exact ⟨files, generated, Option.some.inj evaluated, mirrorsTree generated⟩

end Index

end Lexicon
