import Mathlib.Data.List.Basic
import Lexicon.Generation.Index
import Lexicon.Proofs.TextLines

/-!
# Lexicon.Proofs.OutputFiles

What a set of files holds after several have been written.

Files are told apart by the parts of their paths. A file that has been written
is read back until another one is written under a path of the same parts,
whatever the order of the set. The indexes of directories are written last, so
they matter for every file that has the path of one.

## Main definitions

- `FileSet.lastText`: the text that was written last under a path.
- `OutputPath.IsName`: a text that is a single part of a path.

## Main results

- `FileSet.get?_of_write`: what the set holds is what was written last.
- `OutputPath.parts_intercalate`: names joined by slashes are the parts.
- `Index.exists_ofPaths_iff`: which files have the path of an index.
-/

namespace Lexicon

/-! ### Parts of paths -/

namespace OutputPath

theorem Part.compare_eq_iff {a b : Part} : a.compare b = .eq ↔ a = b := by
  constructor
  · intro same
    obtain ⟨ranks, texts⟩ := Ordering.then_eq_eq.mp same
    have rank := Std.LawfulEqOrd.eq_of_compare ranks
    have text := Std.LawfulEqOrd.eq_of_compare texts
    cases a <;> cases b <;> simp_all [Part.rank, Part.text]
  · rintro rfl
    exact Ordering.then_eq_eq.mpr ⟨Std.ReflCmp.compare_self, Std.ReflCmp.compare_self⟩

theorem compareParts_eq_iff {as bs : List Part} : compareParts as bs = .eq ↔ as = bs := by
  induction as generalizing bs with
  | nil => cases bs <;> simp [compareParts]
  | cons a as ih =>
    cases bs with
    | nil => simp [compareParts]
    | cons b bs =>
      rw [compareParts, Ordering.then_eq_eq, Part.compare_eq_iff, ih, List.cons.injEq]

instance : Std.TransCmp Part.compare :=
  inferInstanceAs (Std.TransCmp (compareLex (compareOn Part.rank) (compareOn Part.text)))

theorem compareParts_eq_compareLex (as bs : List Part) :
    compareParts as bs = List.compareLex Part.compare as bs := by
  induction as generalizing bs with
  | nil => cases bs <;> simp [compareParts, List.compareLex]
  | cons a as ih =>
    cases bs with
    | nil => rfl
    | cons b bs => rw [compareParts, List.compareLex_cons_cons, ih]

instance : Std.TransCmp compareParts := by
  have same : compareParts = List.compareLex Part.compare :=
    funext fun as => funext fun bs => compareParts_eq_compareLex as bs
  rw [same]
  infer_instance

/-- A text is a single part of a path: a file or a directory. -/
structure IsName (text : String) : Prop where
  noSlash : '/' ∉ text.toList
  given : text ≠ ""
  notCurrent : text ≠ "."
  notParent : text ≠ ".."

/-- All parts of a path are names. -/
def IsNamed (path : String) : Prop :=
  ∃ names : List String, (∀ name ∈ names, IsName name) ∧ parts path = names.map .named

theorem Part.ofPiece?_of_isName {text : String} (name : IsName text) :
    ofPiece? text = some (.named text) := by
  unfold ofPiece?
  rw [if_neg (by simp [name.given, name.notCurrent]), if_neg name.notParent]

/-- Names joined by slashes are the parts of the path. -/
theorem parts_intercalate {names : List String} (some : names ≠ [])
    (each : ∀ name ∈ names, IsName name) :
    parts (String.intercalate "/" names) = names.map .named := by
  have pieces : Text.splitOn '/' (String.intercalate "/" names) = names :=
    Text.splitOn_intercalate some fun name inside => (each name inside).noSlash
  have named : names.filterMap Part.ofPiece? = names.map .named :=
    List.filterMap_eq_map_iff_forall_eq_some.mpr fun name inside =>
      Part.ofPiece?_of_isName (each name inside)
  -- The first name is neither empty nor a dot, so nothing leads the path.
  have noLead : lead names = [] := by
    obtain ⟨name, rest, rfl⟩ := List.exists_cons_of_ne_nil some
    have first := each name List.mem_cons_self
    unfold lead
    split
    · next same => exact absurd (List.cons.inj same).1 first.given
    · next same => exact absurd (List.cons.inj same).1 first.notCurrent
    · rfl
  simp only [parts, pieces, named, noLead, List.nil_append]

/-- A path of named parts is spelled as its names joined by slashes. -/
theorem spell_map_named (names : List String) :
    spell (names.map .named) = String.intercalate "/" names := by
  cases names with
  | nil => rfl
  | cons name rest => simp [spell, Part.text, Function.comp_def]

end OutputPath

/-! ### Files -/

namespace FileSet

open OutputPath (parts)

variable {path other text : String}

/-- Where a file is placed, it is found, and every other file is found as before. -/
theorem find?_place (files : List (String × String)) :
    ((place path text files).find? fun file => parts file.1 = parts other).map Prod.snd =
      if parts path = parts other then some text
      else (files.find? fun file => parts file.1 = parts other).map Prod.snd := by
  induction files with
  | nil => by_cases same : parts path = parts other <;> simp [place, same]
  | cons file rest ih =>
    obtain ⟨name, old⟩ := file
    unfold place
    split
    · by_cases same : parts path = parts other <;> simp [same]
    · next equal =>
      -- The file is rewritten under its old spelling.
      rw [OutputPath.compareParts_eq_iff] at equal
      by_cases same : parts name = parts other <;> simp [same, equal]
    · next greater =>
      have apart : parts path ≠ parts name := by
        intro equal
        rw [OutputPath.compareParts_eq_iff.mpr equal] at greater
        cases greater
      by_cases here : parts name = parts other
      · have elsewhere : parts path ≠ parts other := here ▸ apart
        simp [here, elsewhere]
      · simp only [List.find?_cons, here, decide_false]
        exact ih

theorem write_of_isContained (contained : OutputPath.isContained path = true) (set : FileSet)
    (text : String) : write set path text = .ok { files := place path text set.files } := by
  rw [write, check, if_pos contained]
  rfl

theorem write_of_not_isContained (outside : OutputPath.isContained path = false) (set : FileSet)
    (text : String) : write set path text = .error (.refused path) := by
  rw [write, check, outside]
  rfl

theorem get?_write {set next : FileSet} (written : write set path text = .ok next) :
    next.get? other = if parts path = parts other then some text else set.get? other := by
  unfold write check at written
  split at written
  · cases written
    exact find?_place set.files
  · cases written

/-- The text that was written last under a path. -/
def lastText (path : String) : List (String × String) → Option String
  | [] => none
  | (other, text) :: rest =>
    (lastText path rest).or (if parts other = parts path then some text else none)

theorem get?_of_write {files : List (String × String)} {set final : FileSet}
    (written : Index.write write set files = (final, .ok ())) :
    final.get? path = (lastText path files).or (set.get? path) := by
  induction files generalizing set with
  | nil =>
    cases written
    rfl
  | cons file rest ih =>
    obtain ⟨other, text⟩ := file
    unfold Index.write at written
    split at written
    · next next stored =>
      rw [ih written, get?_write stored, lastText, Option.or_assoc]
      by_cases same : parts other = parts path <;> simp [same]
    · cases written

theorem lastText_append (path : String) (files more : List (String × String)) :
    lastText path (files ++ more) = (lastText path more).or (lastText path files) := by
  induction files with
  | nil => simp [lastText]
  | cons file rest ih => rw [List.cons_append, lastText, ih, lastText, Option.or_assoc]

/-- What is written is the last text until something else goes to the same path. -/
theorem lastText_split (before after : List (String × String)) :
    lastText path (before ++ (path, text) :: after) = (lastText path after).or (some text) := by
  rw [lastText_append, lastText, if_pos rfl, Option.or_assoc, Option.some_or]

/-- Nothing was written under a path if no path has its parts. -/
theorem lastText_eq_none_iff {files : List (String × String)} :
    lastText path files = none ↔ ∀ file ∈ files, parts file.1 ≠ parts path := by
  induction files with
  | nil => simp [lastText]
  | cons file rest ih =>
    rw [lastText, Option.or_eq_none_iff, ih, List.forall_mem_cons, and_comm]
    simp

theorem exists_of_lastText {files : List (String × String)}
    (last : lastText path files = some text) :
    ∃ file ∈ files, parts file.1 = parts path ∧ file.2 = text := by
  induction files with
  | nil => cases last
  | cons file rest ih =>
    rw [lastText, Option.or_eq_some_iff] at last
    rcases last with later | ⟨_, here⟩
    · obtain ⟨file, inside, found⟩ := ih later
      exact ⟨file, List.mem_cons_of_mem _ inside, found⟩
    · split at here
      · next same => exact ⟨file, List.mem_cons_self, same, Option.some.inj here⟩
      · cases here

end FileSet

/-! ### Index files -/

namespace Index

open OutputPath (Part parts IsName)

theorem mem_stepsFrom {directory rest : List Part} {step : List Part × Part} :
    step ∈ stepsFrom directory rest ↔
      ∃ before part after, rest = before ++ part :: after ∧ step = (directory ++ before, part) := by
  induction rest generalizing directory with
  | nil => simp [stepsFrom]
  | cons first rest ih =>
    rw [stepsFrom, List.mem_cons, ih]
    constructor
    · rintro (rfl | ⟨before, part, after, rfl, rfl⟩)
      · exact ⟨[], first, rest, rfl, by simp⟩
      · exact ⟨first :: before, part, after, rfl, by simp⟩
    · rintro ⟨before, part, after, same, rfl⟩
      cases before with
      | nil =>
        cases same
        exact .inl (by simp)
      | cons head before =>
        cases same
        exact .inr ⟨before, part, after, rfl, by simp⟩

theorem eq_of_compareParts_partsOf {a b : List Part}
    (equal : OutputPath.compareParts (partsOf a) (partsOf b) = .eq) : a = b :=
  List.append_cancel_right (OutputPath.compareParts_eq_iff.mp equal)

theorem mem_directories {declared : List (List Part × String)} {directory : List Part} :
    directory ∈ directories declared ↔ ∃ name, (directory, name) ∈ declared := by
  rw [directories, Sorted.mem_ofList eq_of_compareParts_partsOf, List.mem_map]
  constructor
  · rintro ⟨⟨_, name⟩, inside, rfl⟩
    exact ⟨name, inside⟩
  · rintro ⟨name, inside⟩
    exact ⟨(directory, name), inside, rfl⟩

/-- What is declared are the modules that follow the directories on the way to a file. -/
theorem mem_declarations {paths : List String} {directory : List Part} {name : String} :
    (directory, name) ∈ paths.flatMap declarations ↔
      ∃ path ∈ paths, ∃ part rest,
        parts path = directory ++ part :: rest ∧ moduleOf part = name := by
  constructor
  · intro inside
    obtain ⟨path, given, inside⟩ := List.mem_flatMap.mp inside
    obtain ⟨step, stepped, same⟩ := List.mem_map.mp inside
    obtain ⟨before, part, after, shape, rfl⟩ := mem_stepsFrom.mp stepped
    cases same
    exact ⟨path, given, part, after, shape, rfl⟩
  · rintro ⟨path, given, part, rest, shape, rfl⟩
    refine List.mem_flatMap.mpr ⟨path, given, ?_⟩
    have stepped : (directory, part) ∈ stepsFrom [] (parts path) :=
      mem_stepsFrom.mpr ⟨directory, part, rest, shape, rfl⟩
    exact List.mem_map.mpr ⟨_, stepped, rfl⟩

/-- The directories with an index are those on the way to a file. -/
theorem mem_directories_iff {paths : List String} {directory : List Part} :
    directory ∈ directories (paths.flatMap declarations) ↔
      ∃ path ∈ paths, ∃ part rest, parts path = directory ++ part :: rest := by
  rw [mem_directories]
  constructor
  · rintro ⟨name, inside⟩
    obtain ⟨path, given, part, rest, shape, _⟩ := mem_declarations.mp inside
    exact ⟨path, given, part, rest, shape⟩
  · rintro ⟨path, given, part, rest, shape⟩
    exact ⟨moduleOf part, mem_declarations.mpr ⟨path, given, part, rest, shape, rfl⟩⟩

variable {paths : List String} (named : ∀ path ∈ paths, OutputPath.IsNamed path)
include named

/-- The paths of indexes are taken apart as they were put together. -/
theorem parts_spell_partsOf {directory : List Part}
    (inside : directory ∈ directories (paths.flatMap declarations)) :
    parts (OutputPath.spell (partsOf directory)) = partsOf directory := by
  obtain ⟨path, given, part, rest, shape⟩ := mem_directories_iff.mp inside
  obtain ⟨names, each, spelled⟩ := named path given
  rw [spelled] at shape
  obtain ⟨before, after, rfl, rfl, _⟩ := List.map_eq_append_iff.mp shape
  have index : IsName "mod.rs" := ⟨by decide, by decide, by decide, by decide⟩
  have joined : partsOf (before.map .named) = (before ++ ["mod.rs"]).map .named := by
    simp [partsOf]
  rw [joined, OutputPath.spell_map_named]
  refine OutputPath.parts_intercalate (by simp) fun name held => ?_
  rcases List.mem_append.mp held with own | last
  · exact each name (List.mem_append_left _ own)
  · exact List.mem_singleton.mp last ▸ index

/-- A file has the path of an index exactly if it has the name of one. -/
theorem exists_ofPaths_iff {path last : String} {directory : List Part} (given : path ∈ paths)
    (shape : parts path = directory ++ [.named last]) :
    (∃ index ∈ ofPaths paths, parts index.1 = parts path) ↔ last = "mod.rs" := by
  constructor
  · rintro ⟨index, listed, same⟩
    obtain ⟨other, inside, rfl⟩ := List.mem_map.mp listed
    rw [parts_spell_partsOf named inside, shape, partsOf] at same
    have ends := List.singleton_inj.mp (List.append_inj' same rfl).2
    exact (Part.named.inj ends).symm
  · rintro rfl
    have inside := mem_directories_iff.mpr ⟨path, given, _, [], shape⟩
    refine ⟨_, List.mem_map.mpr ⟨directory, inside, rfl⟩, ?_⟩
    rw [parts_spell_partsOf named inside, shape, partsOf]

end Index

end Lexicon
