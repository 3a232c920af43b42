import Mathlib.Data.List.Induction
import Lexicon.Command.FileTree
import Lexicon.Proofs.NsidText
import Lexicon.Proofs.OutputFiles
import Lexicon.Proofs.Singulars

/-!
# Lexicon.Proofs.ContainedWrites

Files stay where they are written to.

A path is taken unless it is empty, starts at the root, or has a part that leads
upwards. What is left only leads further down, from wherever it is taken: each
part is a name, or stays where it is. So a set of files is not left by writing
to it, and nor is a directory.

A set holds one file for each list of parts, whatever the spelling of the path.
A write that is taken gives one file a new text or puts one in, and a write that
is refused does nothing.

## Main definitions

- `OutputPath.LeadsOut`: a path that is not taken.
- `OutputPath.join`, `OutputPath.resolve`: a path taken from another one, and
  the place it stands for.
- `FileSet.Stored`: what a write changes.
- `FileSet.after`: what a set holds after writes.

## Main results

- `OutputPath.isContained_iff`: the test of a path by its text.
- `OutputPath.parts_respelled`: spellings that have the same parts.
- `OutputPath.isPrefix_foldl_join`: walking on along a contained path.
- `FileSet.refusedOrStored`: a write is refused for where its path leads, or stored for its parts.

## Proof strategy

The order of the files carries the induction over the writes: it is what lets a
file stop the search for its place. For paths the one fact about joining is that
the parts behind the first one stay the same.
-/

namespace Lexicon

theorem Text.hasStart_iff {start s : String} :
    hasStart start s = true ↔ ∃ rest, s = start ++ rest := by
  rw [hasStart, List.isPrefixOf_iff_prefix]
  constructor
  · rintro ⟨rest, same⟩
    refine ⟨String.ofList rest, String.toList_inj.mp ?_⟩
    rw [String.toList_append, String.toList_ofList, same]
  · rintro ⟨rest, rfl⟩
    exact ⟨rest.toList, String.toList_append.symm⟩

/-! ### Paths that are taken -/

namespace OutputPath

variable {path root front : String}

/-- A path that is empty, starts at the root, or has a part that leads upwards. -/
def LeadsOut (path : String) : Prop :=
  path = "" ∨ Text.hasStart "/" path = true ∨ ".." ∈ Text.splitOn '/' path

instance (path : String) : Decidable (LeadsOut path) := by
  unfold LeadsOut
  infer_instance

/-- The parts of a path wherever it stands. -/
def inner (path : String) : List Part := (Text.splitOn '/' path).filterMap Part.ofPiece?

theorem parts_eq (path : String) : parts path = lead (Text.splitOn '/' path) ++ inner path := rfl

theorem Part.ofPiece?_cases (piece : String) :
    (ofPiece? piece = none ∧ (piece = "" ∨ piece = ".")) ∨
      (ofPiece? piece = some .parent ∧ piece = "..") ∨
      (ofPiece? piece = some (.named piece) ∧ piece ≠ "..") := by
  unfold ofPiece?
  split
  next stays => simpa using stays
  next =>
    split
    next up => exact .inr (.inl ⟨rfl, up⟩)
    next other => exact .inr (.inr ⟨rfl, other⟩)

theorem root_notMem_inner (path : String) : .root ∉ inner path := by
  intro inside
  obtain ⟨piece, _, made⟩ := List.mem_filterMap.mp inside
  rcases Part.ofPiece?_cases piece with ⟨shape, _⟩ | ⟨shape, _⟩ | ⟨shape, _⟩
  all_goals
    rw [shape] at made
    cases made

theorem parent_mem_inner_iff : .parent ∈ inner path ↔ ".." ∈ Text.splitOn '/' path := by
  rw [inner, List.mem_filterMap]
  constructor
  · rintro ⟨piece, listed, made⟩
    rcases Part.ofPiece?_cases piece with ⟨shape, _⟩ | ⟨_, rfl⟩ | ⟨shape, _⟩
    · rw [shape] at made
      cases made
    · exact listed
    · rw [shape] at made
      cases made
  · intro listed
    exact ⟨"..", listed, by decide⟩

theorem splitOn_ne_nil (path : String) : Text.splitOn '/' path ≠ [] := by
  simp [Text.splitOn, List.splitOn_ne_nil]

/-- The pieces of a path behind a slash go on with those in front of it. -/
theorem splitOn_slash (front path : String) :
    Text.splitOn '/' (front ++ "/" ++ path) = Text.splitOn '/' front ++ Text.splitOn '/' path :=
  Text.splitOn_append '/' front path

theorem lead_cons (piece : String) (rest : List String) :
    lead (piece :: rest) =
      if piece = "" ∧ rest ≠ [] then [.root] else if piece = "." then [.current] else [] := by
  cases rest <;> unfold lead <;> split <;> simp_all

theorem parts_slash (path : String) : parts ("/" ++ path) = .root :: inner path := by
  have pieces : Text.splitOn '/' ("/" ++ path) = "" :: Text.splitOn '/' path :=
    splitOn_slash "" path
  have noPiece : Part.ofPiece? "" = none := by decide
  rw [parts_eq, inner, pieces, List.filterMap_cons, noPiece, lead_cons,
    if_pos ⟨rfl, splitOn_ne_nil path⟩]
  rfl

/-- What comes behind a path does not change how it starts. -/
theorem parts_append_slash (given : front ≠ "") (path : String) :
    parts (front ++ "/" ++ path) = parts front ++ inner path := by
  have start : lead (Text.splitOn '/' front ++ Text.splitOn '/' path) =
      lead (Text.splitOn '/' front) := by
    obtain ⟨piece, rest, shape⟩ := List.exists_cons_of_ne_nil (splitOn_ne_nil front)
    -- A path of one piece is that piece, and so the piece is there.
    have alone : rest = [] → piece ≠ "" := by
      rintro rfl
      have whole := Text.intercalate_splitOn '/' front
      rw [shape, String.intercalate_singleton] at whole
      exact whole ▸ given
    rw [shape, List.cons_append, lead_cons, lead_cons]
    by_cases rest = [] <;> simp_all
  rw [parts_eq, inner, splitOn_slash, start, List.filterMap_append, parts_eq, inner, inner,
    List.append_assoc]

theorem parts_append_final_slash (given : front ≠ "") : parts (front ++ "/") = parts front := by
  have nothing : inner "" = [] := by decide
  have whole := parts_append_slash given ""
  rwa [String.append_empty, nothing, List.append_nil] at whole

/-- Slashes in a row, dots between slashes and a slash at the end make no difference. -/
theorem parts_respelled (given : front ≠ "") (back : String) :
    parts (front ++ "//" ++ back) = parts (front ++ "/" ++ back) ∧
      parts (front ++ "/./" ++ back) = parts (front ++ "/" ++ back) ∧
      parts (front ++ "/" ++ back ++ "/") = parts (front ++ "/" ++ back) := by
  -- Empty pieces and dots are no parts.
  have slash : inner ("" ++ "/" ++ back) = inner back := by
    rw [inner, splitOn_slash, List.filterMap_append]
    rfl
  have dot : inner ("." ++ "/" ++ back) = inner back := by
    rw [inner, splitOn_slash, List.filterMap_append]
    rfl
  refine ⟨?_, ?_, parts_append_final_slash (by simp)⟩
  · have shape : front ++ "//" ++ back = front ++ "/" ++ ("" ++ "/" ++ back) := by
      have slashes : "//" = "/" ++ "/" := by decide
      rw [slashes, String.empty_append]
      simp only [String.append_assoc]
    rw [shape, parts_append_slash given, parts_append_slash given, slash]
  · have shape : front ++ "/./" ++ back = front ++ "/" ++ ("." ++ "/" ++ back) := by
      have pieces : "/./" = "/" ++ "." ++ "/" := by decide
      rw [pieces]
      simp only [String.append_assoc]
    rw [shape, parts_append_slash given, parts_append_slash given, dot]

theorem root_mem_parts_iff : .root ∈ parts path ↔ Text.hasStart "/" path = true := by
  rw [Text.hasStart_iff]
  constructor
  · intro inside
    rw [parts_eq] at inside
    rcases List.mem_append.mp inside with first | behind
    · -- The first of several pieces is empty, so the path starts with a slash.
      unfold lead at first
      split at first
      next piece rest shape =>
        refine ⟨String.intercalate "/" (piece :: rest), ?_⟩
        have whole := Text.intercalate_splitOn '/' path
        rw [shape, String.intercalate_cons_cons] at whole
        exact whole.symm
      next => simp at first
      next => cases first
    · exact absurd behind (root_notMem_inner path)
  · rintro ⟨rest, rfl⟩
    rw [parts_slash]
    exact List.mem_cons_self

theorem parent_mem_parts_iff : .parent ∈ parts path ↔ ".." ∈ Text.splitOn '/' path := by
  have noLead : .parent ∉ lead (Text.splitOn '/' path) := by
    unfold lead
    split <;> simp
  rw [parts_eq, List.mem_append, parent_mem_inner_iff]
  simp [noLead]

theorem isContained_iff : isContained path = true ↔ ¬LeadsOut path := by
  -- Only a root and a step up do not stay below.
  have below : (parts path).all Part.staysBelow = true ↔
      .root ∉ parts path ∧ .parent ∉ parts path := by
    rw [List.all_eq_true]
    constructor
    · intro each
      constructor
      · intro inside
        cases each _ inside
      · intro inside
        cases each _ inside
    · rintro ⟨relative, noParent⟩ part inside
      cases part with
      | root => exact absurd inside relative
      | parent => exact absurd inside noParent
      | current => rfl
      | named name => rfl
  rw [isContained, Bool.and_eq_true, below, root_mem_parts_iff, parent_mem_parts_iff, LeadsOut]
  simp [not_or]

theorem isContained_eq_false_iff : isContained path = false ↔ LeadsOut path := by
  rw [Bool.eq_false_iff, ne_eq, isContained_iff, not_not]

theorem hasStart_of_isContained (contained : isContained path = true) :
    Text.hasStart "/" path = false := by
  have taken := isContained_iff.mp contained
  rw [LeadsOut, not_or, not_or] at taken
  simpa using taken.2.1

/-! ### Going on from a path -/

/-- A path taken from another one: behind it with a slash in between, unless it starts at the
root. -/
def join (root path : String) : String :=
  if Text.hasStart "/" path then path
  else if root.isEmpty || Text.hasEnd "/" root then root ++ path
  else root ++ "/" ++ path

theorem join_empty (path : String) : join "" path = path := by
  unfold join
  split
  · rfl
  · exact String.empty_append

theorem parts_join (given : root ≠ "") (relative : Text.hasStart "/" path = false) :
    parts (join root path) = parts root ++ inner path := by
  have some : root.isEmpty = false := by simpa using given
  simp only [join, relative, some, Bool.false_eq_true, if_false, Bool.false_or]
  split
  next ends =>
    obtain ⟨front, rfl⟩ := Text.hasEnd_iff.mp ends
    by_cases empty : front = ""
    · subst empty
      rw [String.empty_append, parts_slash]
      rfl
    · rw [parts_append_slash empty, parts_append_final_slash empty]
  next => exact parts_append_slash given path

variable {α : Type} {step : List α → Part → List α} (current : ∀ place, step place .current = place)
  (named : ∀ place name, place <+: step place (.named name))
include current named

/-- Parts that do not lead upwards only lead further down. -/
theorem isPrefix_foldl {rest : List Part} (below : ∀ part ∈ rest, part.staysBelow = true)
    (place : List α) : place <+: rest.foldl step place := by
  induction rest generalizing place with
  | nil => exact List.prefix_rfl
  | cons part rest ih =>
    obtain ⟨first, others⟩ := List.forall_mem_cons.mp below
    have next : place <+: step place part := by
      cases part with
      | root => cases first
      | parent => cases first
      | current => simp only [current, List.prefix_rfl]
      | named name => exact named place name
    exact next.trans (ih others (step place part))

/-- A contained path leads further down from wherever another one leads to. -/
theorem isPrefix_foldl_join (contained : isContained path = true) (root : String)
    (start : List α) :
    (parts root).foldl step start <+: (parts (join root path)).foldl step start := by
  have below : ∀ part ∈ parts path, part.staysBelow = true :=
    List.all_eq_true.mp (Bool.and_eq_true_iff.mp contained).2
  by_cases given : root = ""
  · subst given
    rw [join_empty]
    exact isPrefix_foldl current named below start
  · rw [parts_join given (hasStart_of_isContained contained), List.foldl_append]
    apply isPrefix_foldl current named
    intro part inside
    exact below part (List.mem_append_right _ inside)

omit current named

/-- The place that parts lead to, without a look at what is there: a part that leads upwards undoes
the name before it, and is kept if there is none. -/
def resolveStep (place : List Part) : Part → List Part
  | .root => [.root]
  | .current => place
  | .parent =>
    match place.getLast? with
    | some (.named _) => place.dropLast
    | some .root => place
    | _ => place ++ [.parent]
  | .named name => place ++ [.named name]

/-- The place that a path stands for. -/
def resolve (path : String) : List Part := (parts path).foldl resolveStep []

theorem resolve_isPrefix (contained : isContained path = true) (root : String) :
    resolve root <+: resolve (join root path) :=
  isPrefix_foldl_join (fun _ => rfl) (fun _ _ => List.prefix_append _ _) contained root []

end OutputPath

namespace FileTree

variable {tree next : FileTree} {directory path text : String}

theorem locate_isPrefix (contained : OutputPath.isContained path = true) (tree : FileTree)
    (root : String) : tree.locate root <+: tree.locate (OutputPath.join root path) :=
  OutputPath.isPrefix_foldl_join (fun _ => rfl) (fun _ _ => List.prefix_append _ _) contained root
    tree.start

/-- A file is put below the directory it is written to, under a path that is taken. -/
theorem put_of_write (given : directory ≠ "")
    (written : write directory tree path text = .ok next) :
    OutputPath.isContained path = true ∧
      next = tree.put (tree.locate (OutputPath.join directory path)) text := by
  unfold write FileSet.check at written
  split at written
  next contained =>
    have relative := OutputPath.hasStart_of_isContained contained
    -- The path is relative, so it is joined by a slash.
    have same : tree.locate (directory ++ "/" ++ path) =
        tree.locate (OutputPath.join directory path) := by
      rw [locate, locate, OutputPath.parts_append_slash given, OutputPath.parts_join given relative]
    simp only [bind, Except.bind, same] at written
    split at written
    · cases written
      exact ⟨contained, rfl⟩
    · cases written
  next => cases written

end FileTree

/-! ### Files of a set -/

namespace FileSet

open OutputPath (parts compareParts)

variable {path text : String} {files next : List (String × String)}

/-- The files are in the order of their paths, and no two have the same parts. -/
def Ordered (files : List (String × String)) : Prop :=
  (files.map fun file => parts file.1).Pairwise fun a b => compareParts a b = .lt

/-- One file has a new text under its old spelling, or is new in its place. -/
inductive Stored (path text : String) : List (String × String) → List (String × String) → Prop where
  | replaced (front back : List (String × String)) {spelling old : String}
      (same : parts spelling = parts path) :
      Stored path text (front ++ (spelling, old) :: back) (front ++ (spelling, text) :: back)
  | added (front back : List (String × String))
      (before : ∀ file ∈ front, compareParts (parts file.1) (parts path) = .lt)
      (behind : ∀ file ∈ back, compareParts (parts path) (parts file.1) = .lt) :
      Stored path text (front ++ back) (front ++ (path, text) :: back)

theorem stored_place (ordered : Ordered files) (path text : String) :
    Stored path text files (place path text files) := by
  induction files with
  | nil => exact .added [] [] (by simp) (by simp)
  | cons file rest ih =>
    obtain ⟨other, old⟩ := file
    obtain ⟨first, later⟩ := List.pairwise_cons.mp ordered
    rw [List.forall_mem_map] at first
    unfold place
    split
    next before =>
      apply Stored.added [] _ (by simp)
      intro file inside
      rcases List.mem_cons.mp inside with rfl | inside
      · exact before
      · exact Std.TransCmp.lt_trans before (first file inside)
    next same =>
      exact .replaced [] _ (OutputPath.compareParts_eq_iff.mp same).symm
    next behind =>
      -- The search goes on behind this file, which stays in front of what comes of the others.
      have smaller := Std.OrientedCmp.gt_iff_lt.mp behind
      have stored := ih later
      generalize place path text rest = placed at stored ⊢
      cases stored with
      | replaced front back same => exact .replaced ((other, old) :: front) back same
      | added front back before after =>
        exact .added ((other, old) :: front) back (List.forall_mem_cons.mpr ⟨smaller, before⟩) after

theorem Stored.ordered (stored : Stored path text files next) (ordered : Ordered files) :
    Ordered next := by
  cases stored with
  | replaced front back same => simpa [Ordered] using ordered
  | added front back before behind =>
    unfold Ordered at ordered ⊢
    rw [List.map_append, List.pairwise_append] at ordered
    obtain ⟨left, right, across⟩ := ordered
    rw [List.map_append, List.map_cons, List.pairwise_append, List.pairwise_cons]
    refine ⟨left, ⟨List.forall_mem_map.mpr behind, right⟩, ?_⟩
    intro a inside b there
    rcases List.mem_cons.mp there with rfl | there
    · obtain ⟨file, held, rfl⟩ := List.mem_map.mp inside
      exact before file held
    · exact across a inside b there

/-- The paths of a set differ in their parts. -/
theorem Ordered.nodup (ordered : Ordered files) : (files.map fun file => parts file.1).Nodup := by
  refine ordered.imp ?_
  rintro a b before rfl
  cases before.symm.trans Std.ReflCmp.compare_self

/-! ### Writes one after the other -/

/-- The set after a write, which stays as it is if the write is refused. -/
def attempt (set : FileSet) (file : String × String) : FileSet :=
  match write set file.1 file.2 with
  | .ok next => next
  | .error _ => set

/-- What a set holds after writes, of which some may have been refused. -/
def after (writes : List (String × String)) : FileSet := writes.foldl attempt .empty

theorem attempt_eq (set : FileSet) (path text : String) :
    attempt set (path, text) =
      if OutputPath.LeadsOut path then set else { files := place path text set.files } := by
  unfold attempt
  by_cases outside : OutputPath.LeadsOut path
  · have refused := OutputPath.isContained_eq_false_iff.mpr outside
    rw [write_of_not_isContained refused, if_pos outside]
  · rw [write_of_isContained (OutputPath.isContained_iff.mpr outside), if_neg outside]

theorem after_concat (writes : List (String × String)) (file : String × String) :
    after (writes ++ [file]) = attempt (after writes) file := by
  rw [after, List.foldl_append]
  rfl

theorem ordered_attempt {set : FileSet} (ordered : Ordered set.files) (file : String × String) :
    Ordered (attempt set file).files := by
  obtain ⟨path, text⟩ := file
  rw [attempt_eq]
  split
  · exact ordered
  · exact (stored_place ordered path text).ordered ordered

theorem ordered_after (writes : List (String × String)) : Ordered (after writes).files := by
  induction writes using List.reverseRecOn with
  | nil => exact List.Pairwise.nil
  | append_singleton writes file ih =>
    rw [after_concat]
    exact ordered_attempt ih file

theorem get?_attempt (set : FileSet) (path text other : String) :
    (attempt set (path, text)).get? other =
      if ¬OutputPath.LeadsOut path ∧ parts path = parts other then some text
      else set.get? other := by
  rw [attempt_eq]
  by_cases outside : OutputPath.LeadsOut path
  · simp [outside]
  · rw [if_neg outside, get?, find?_place]
    simp [outside, get?]

/-- A set holds under a path what was last taken for its parts. -/
theorem get?_after (writes : List (String × String)) (path : String) :
    (after writes).get? path =
      lastText path (writes.filter fun file => ¬OutputPath.LeadsOut file.1) := by
  -- The induction goes back from the last write, which decides if it is for the same parts.
  induction writes using List.reverseRecOn with
  | nil => rfl
  | append_singleton writes file ih =>
    obtain ⟨other, text⟩ := file
    rw [after_concat, get?_attempt, List.filter_append, lastText_append, ih]
    by_cases outside : OutputPath.LeadsOut other
    · simp [outside, lastText]
    · by_cases same : parts other = parts path <;> simp [outside, same, lastText]

/-- A write that comes after others is refused and changes nothing, or is stored as one file. -/
structure RefusedOrStored (writes : List (String × String)) (path text : String) : Prop where
  /-- There is one file for each list of parts that was written to, with the text that was last
  taken for it. -/
  ordered : Ordered (after writes).files
  held : ∀ other, (after writes).get? other =
    lastText other (writes.filter fun file => ¬OutputPath.LeadsOut file.1)
  refused_iff : (∃ error, write (after writes) path text = .error error) ↔
    OutputPath.LeadsOut path
  refused : OutputPath.LeadsOut path →
    write (after writes) path text = .error (.refused path) ∧
      after (writes ++ [(path, text)]) = after writes
  taken : ¬OutputPath.LeadsOut path →
    write (after writes) path text = .ok (after (writes ++ [(path, text)])) ∧
      Stored path text (after writes).files (after (writes ++ [(path, text)])).files ∧
      ∀ other, (after (writes ++ [(path, text)])).get? other =
        if parts path = parts other then some text else (after writes).get? other
  /-- Joined to another path, a path that is taken stands for a place at or below that of the
  other one. -/
  below : ¬OutputPath.LeadsOut path → ∀ root,
    OutputPath.resolve root <+: OutputPath.resolve (OutputPath.join root path)
  /-- So a tree of files takes the write below the directory that it is for, if at all. -/
  below_directory : ∀ directory (tree next : FileTree), directory ≠ "" →
    FileTree.write directory tree path text = .ok next →
      ¬OutputPath.LeadsOut path ∧
        ∃ location, tree.locate directory <+: location ∧ next = tree.put location text

/-- Paths that lead out are refused and nothing else is; a write that is taken stores one file,
below whatever directory the path is taken from. -/
theorem refusedOrStored (writes : List (String × String)) (path text : String) :
    RefusedOrStored writes path text := by
  have attempted := attempt_eq (after writes) path text
  -- Whether the path leads out decides what the write does.
  have refused (outside : OutputPath.LeadsOut path) :
      write (after writes) path text = .error (.refused path) :=
    write_of_not_isContained (OutputPath.isContained_eq_false_iff.mpr outside) _ _
  have taken (inside : ¬OutputPath.LeadsOut path) :
      write (after writes) path text = .ok (attempt (after writes) (path, text)) := by
    rw [attempted, if_neg inside]
    exact write_of_isContained (OutputPath.isContained_iff.mpr inside) _ _
  constructor
  case ordered => exact ordered_after writes
  case held => exact get?_after writes
  case refused_iff =>
    constructor
    · rintro ⟨error, failed⟩
      by_contra inside
      rw [taken inside] at failed
      cases failed
    · exact fun outside => ⟨_, refused outside⟩
  case refused =>
    intro outside
    refine ⟨refused outside, ?_⟩
    rw [after_concat, attempted, if_pos outside]
  case taken =>
    intro inside
    rw [after_concat]
    refine ⟨taken inside, ?_, fun other => ?_⟩
    · rw [attempted, if_neg inside]
      exact stored_place (ordered_after writes) path text
    · simpa [inside] using get?_attempt (after writes) path text other
  case below =>
    intro inside root
    exact OutputPath.resolve_isPrefix (OutputPath.isContained_iff.mpr inside) root
  case below_directory =>
    intro directory tree next given written
    obtain ⟨contained, put⟩ := FileTree.put_of_write given written
    exact ⟨OutputPath.isContained_iff.mp contained, _,
      FileTree.locate_isPrefix contained tree directory, put⟩

end FileSet

end Lexicon
