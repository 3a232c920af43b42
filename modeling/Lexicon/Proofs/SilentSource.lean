import Lexicon.Proofs.CommentLines
import Lexicon.Proofs.GeneratedSource

/-!
# Lexicon.Proofs.SilentSource

Generated source and what it says about itself.

A module says what its schema says: there is a description in its header, a
summary in front of each struct, and a text in front of each field. A module
that does without has the same lines otherwise, so whatever these texts hold,
they add comments to the source and nothing else.

## Main definitions

- `Text.Interspersed`: lines with others in between that are of one kind.
- `Helper.IsComment`: a line of a comment in generated source.
- `SourceModule.silent`: a module without its texts.

## Main result

`SourceModule.interspersed_lines`: the source of a module is that of the silent
module with comments in between.
-/

namespace Lexicon

/-! ### Lines in between -/

namespace Text

/-- The lines `all` are the lines `kept`, in their order, with lines in between that have the
property. -/
inductive Interspersed (added : String → Prop) : List String → List String → Prop where
  | nil : Interspersed added [] []
  | keep {kept all : List String} (line : String) (rest : Interspersed added kept all) :
      Interspersed added (line :: kept) (line :: all)
  | add {kept all : List String} {line : String} (given : added line)
      (rest : Interspersed added kept all) : Interspersed added kept (line :: all)

namespace Interspersed

variable {added : String → Prop} {kept all : List String}

theorem refl (lines : List String) : Interspersed added lines lines := by
  induction lines with
  | nil => exact .nil
  | cons line lines ih => exact .keep line ih

theorem append {more others : List String} (first : Interspersed added kept all)
    (second : Interspersed added more others) :
    Interspersed added (kept ++ more) (all ++ others) := by
  induction first with
  | nil => exact second
  | keep line _ ih => exact .keep line ih
  | add given _ ih => exact .add given ih

/-- Lines of the kind may all be added. -/
theorem of_forall {lines : List String} (each : ∀ line ∈ lines, added line) :
    Interspersed added [] lines := by
  induction lines with
  | nil => exact .nil
  | cons line lines ih =>
    exact .add (each line List.mem_cons_self) (ih fun other inside =>
      each other (List.mem_cons_of_mem _ inside))

theorem flatMap {α : Type} {items : List α} {keeps alls : α → List String}
    (each : ∀ item ∈ items, Interspersed added (keeps item) (alls item)) :
    Interspersed added (items.flatMap keeps) (items.flatMap alls) := by
  induction items with
  | nil => exact .nil
  | cons item items ih =>
    exact (each item List.mem_cons_self).append (ih fun other inside =>
      each other (List.mem_cons_of_mem _ inside))

/-- Where the text is cut does not matter if what is added are lines. -/
theorem splitOn_lined (lines : ∀ line, added line → IsLine line)
    (given : Interspersed added kept all) :
    Interspersed added (splitOn '\n' (lined kept)) (splitOn '\n' (lined all)) := by
  rw [Text.splitOn_lined, Text.splitOn_lined]
  refine append ?_ (refl _)
  -- A line that is kept is cut into the same pieces on both sides, and one that is added is whole.
  induction given with
  | nil => exact .nil
  | keep line _ ih => exact (refl _).append ih
  | @add kept all line given rest ih =>
    rw [List.flatMap_cons, splitOn_of_notMem (lines line given)]
    exact .add given ih

end Interspersed

end Text

/-! ### Comments in generated source -/

/-- The line is a comment about a module, about a struct or about a field. -/
def Helper.IsComment (line : String) : Prop :=
  Text.IsLine line ∧ ∃ start ∈ ["//!", "///", "    ///"], (uncomment? start line).isSome

namespace Helper

theorem interspersed_docLines {indent marker : String} (margin : Text.IsLine indent)
    (mark : Text.IsLine marker) (known : indent ++ marker ∈ ["//!", "///", "    ///"])
    (text : String) : Text.Interspersed IsComment [] (docLines indent marker text) := by
  refine .of_forall fun line listed => ?_
  refine ⟨isLine_of_mem_docLines margin mark listed, indent ++ marker, known, ?_⟩
  rw [docLines_eq_map] at listed
  obtain ⟨content, _, rfl⟩ := List.mem_map.mp listed
  rw [uncomment?_eq_some_iff.mpr rfl]
  rfl

end Helper

/-! ### Modules without texts -/

/-- The field without its text. -/
def StructField.silent (field : StructField) : StructField := { field with doc := "" }

/-- The struct without its summary, and without the texts of its fields. -/
def Declaration.silent (declaration : Declaration) : Declaration :=
  { declaration with
    summary := ""
    fields := declaration.fields.map StructField.silent }

/-- A description that says nothing. There is none in place of an empty one, and otherwise it is
blank: a blank line stands in front of every description that is not empty. -/
def SourceModule.silence (description : Option String) : Option String :=
  description.bind fun text => if text = "" then none else some " "

/-- The module without its texts. The comments of accessors stay: what they hold is the name of a
property. -/
def SourceModule.silent (module : SourceModule) : SourceModule :=
  { module with
    description := silence module.description
    declarations := module.declarations.map Declaration.silent }

/-! ### Their lines -/

theorem StructField.interspersed_lines (field : StructField) :
    Text.Interspersed Helper.IsComment field.silent.lines field.lines := by
  have comments : Text.Interspersed Helper.IsComment [] (Helper.docLines "    " "///" field.doc) :=
    Helper.interspersed_docLines (by decide) (by decide) (by decide) _
  exact comments.append (.refl _)

namespace Declaration

variable (declaration : Declaration)

theorem constantLines_silent : declaration.silent.constantLines = declaration.constantLines := rfl

theorem constructorLines_silent :
    declaration.silent.constructorLines = declaration.constructorLines := by
  unfold constructorLines constructorLine silent
  simp only [List.length_map, List.map_map]
  rfl

theorem readerLines_silent (runtime : String) :
    declaration.silent.readerLines runtime = declaration.readerLines runtime := by
  simp only [readerLines, silent, List.isEmpty_map, List.map_map]
  rfl

theorem interspersed_structLines :
    Text.Interspersed Helper.IsComment declaration.silent.structLines
      declaration.structLines := by
  have summary : Text.Interspersed Helper.IsComment []
      (Helper.docLines "" "///" declaration.summary) :=
    Helper.interspersed_docLines (by decide) (by decide) (by decide) _
  have fields : Text.Interspersed Helper.IsComment
      (declaration.silent.fields.flatMap StructField.lines)
      (declaration.fields.flatMap StructField.lines) := by
    rw [silent, List.flatMap_map]
    exact .flatMap fun field _ => field.interspersed_lines
  exact (((summary.append (.refl _)).append (.refl _)).append fields).append (.refl _)

theorem interspersed_lines (runtime : String) :
    Text.Interspersed Helper.IsComment (declaration.silent.lines runtime)
      (declaration.lines runtime) := by
  rw [lines, lines, constantLines_silent, constructorLines_silent, readerLines_silent]
  exact (((declaration.interspersed_structLines.append (.refl _)).append (.refl _)).append
    (.refl _)).append (.refl _)

end Declaration

namespace SourceModule

variable (module : SourceModule)

theorem headerLines_silent : module.silent.headerLines = module.headerLines := by
  simp only [headerLines, silent, List.map_map]
  rfl

theorem interspersed_descriptionLines :
    Text.Interspersed Helper.IsComment module.silent.descriptionLines
      module.descriptionLines := by
  unfold descriptionLines silent silence
  cases module.description with
  | none => exact .nil
  | some text =>
    by_cases nothing : text = ""
    · simp only [nothing, Option.bind_some, if_true]
      exact .nil
    · have comments : Text.Interspersed Helper.IsComment [] (Helper.docLines "" "//!" text) :=
        Helper.interspersed_docLines (by decide) (by decide) (by decide) _
      have blank : Helper.docLines "" "//!" " " = [] := by decide
      simp only [nothing, Option.bind_some, if_false, blank]
      exact .keep "" comments

/-- The texts of a module add comments to its lines, and nothing else. -/
theorem interspersed_lines (runtime : String) :
    Text.Interspersed Helper.IsComment (module.silent.lines runtime) (module.lines runtime) := by
  have declarations : Text.Interspersed Helper.IsComment
      (module.silent.declarations.flatMap fun declaration =>
        "" :: declaration.lines runtime ++ [""])
      (module.declarations.flatMap fun declaration => "" :: declaration.lines runtime ++ [""]) := by
    rw [silent, List.flatMap_map]
    refine .flatMap fun declaration _ => ?_
    exact .append (.keep "" (declaration.interspersed_lines runtime)) (.refl _)
  rw [lines, lines, headerLines_silent]
  exact ((Text.Interspersed.append (.refl _) module.interspersed_descriptionLines).append
    (.refl _)).append declarations

end SourceModule

end Lexicon
