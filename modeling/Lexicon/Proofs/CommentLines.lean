import Mathlib.Data.List.DropRight
import Lexicon.Proofs.LineTexts

/-!
# Lexicon.Proofs.CommentLines

Texts written as comments.

A text is written as comments line by line. The lines of a text end at line
breaks, and a carriage return in front of a line break belongs to it. White
space at the end of a line is left out, and so is white space at the end of the
whole text. Every line that is left gets its own mark, so whatever the text
holds, each line of what is written starts with the mark; behind it the line of
the text can be read again.

## Main definitions

- `Text.lines`: the lines of a text.
- `Text.contents`: the lines of a text, white space at their ends apart.
- `Helper.uncomment?`: what a comment says behind its mark.
- `Helper.CommentsOut`: a text is commented out in what is written for it.

## Main result

`Helper.commentsOut_docText`: every text is commented out.
-/

namespace Lexicon

namespace Text

/-! ### White space at the end -/

theorem dropEndWhile_eq_rdropWhile (p : Char → Bool) (cs : List Char) :
    dropEndWhile p cs = cs.rdropWhile p := rfl

theorem isWhiteSpace_lineBreak : Unicode.isWhiteSpace '\n' = true := by decide

theorem isWhiteSpace_carriageReturn : Unicode.isWhiteSpace '\r' = true := by decide

theorem trimEnd_eq_empty_iff {s : String} : trimEnd s = "" ↔ isBlankText s = true := by
  rw [trimEnd, String.ofList_eq_empty_iff, dropEndWhile_eq_rdropWhile, List.rdropWhile_eq_nil_iff,
    isBlankText, List.all_eq_true]

/-- White space at the end is left out, whether it stands there alone or not. -/
theorem trimEnd_append_singleton {c : Char} (white : Unicode.isWhiteSpace c = true) (s : String) :
    trimEnd (s ++ String.singleton c) = trimEnd s := by
  rw [trimEnd, String.toList_append, String.toList_singleton, dropEndWhile_eq_rdropWhile,
    List.rdropWhile_concat_pos _ _ _ white]
  rfl

/-- The last character of what is left is no white space. -/
theorem isWhiteSpace_of_getLast?_trimEnd {s : String} {c : Char}
    (last : (trimEnd s).toList.getLast? = some c) : Unicode.isWhiteSpace c = false := by
  rw [trimEnd, String.toList_ofList, dropEndWhile_eq_rdropWhile] at last
  obtain ⟨given, rfl⟩ := List.mem_getLast?_eq_getLast last
  simpa using List.rdropWhile_last_not _ _ given

/-! ### The last piece -/

/-- A text that ends with another character has something behind its last separator. -/
theorem getLast?_splitOn_ne_empty {separator c : Char} {s : String}
    (last : s.toList.getLast? = some c) (other : c ≠ separator) :
    (splitOn separator s).getLast? ≠ some "" := by
  by_cases inside : separator ∈ s.toList
  · -- The first separator from the end has the last piece behind it.
    obtain ⟨after, before, shape, absent⟩ :=
      List.eq_append_cons_of_mem (List.mem_reverse.mpr inside)
    have whole : s = String.ofList before.reverse ++ String.singleton separator ++
        String.ofList after.reverse := by
      apply String.toList_inj.mp
      rw [← List.reverse_reverse s.toList, shape]
      simp
    have piece : separator ∉ (String.ofList after.reverse).toList := by simpa using absent
    rw [whole, splitOn_append, splitOn_of_notMem piece, List.getLast?_concat]
    intro nothing
    obtain rfl : after = [] := by simpa using nothing
    rw [List.getLast?_eq_head?_reverse, shape] at last
    exact other (Option.some.inj last).symm
  · rw [splitOn_of_notMem inside]
    intro nothing
    obtain rfl : s = "" := by simpa using nothing
    cases last

/-! ### Lines -/

/-- The lines of a text that is cut into pieces at its line breaks. A carriage return at the end of
a piece belongs to the line break behind it, and there is no line behind the last line break if the
text ends there. -/
def linesOf : List String → List String
  | [] => []
  | [last] => if last = "" then [] else [last]
  | piece :: next :: rest => (dropEnd? "\r" piece).getD piece :: linesOf (next :: rest)

/-- The lines of a text. -/
def lines (s : String) : List String := linesOf (splitOn '\n' s)

/-- The lines of a text without white space at their ends, up to the last line that has any other
character. -/
def contents (s : String) : List String := (lines (trimEnd s)).map trimEnd

/-- Without white space at their ends the lines are the pieces, since the carriage return of a line
break is white space. -/
theorem map_trimEnd_linesOf {pieces : List String} (given : pieces.getLast? ≠ some "") :
    (linesOf pieces).map trimEnd = pieces.map trimEnd := by
  induction pieces with
  | nil => rfl
  | cons piece rest ih =>
    cases rest with
    | nil =>
      have some : piece ≠ "" := by simpa using given
      rw [linesOf, if_neg some]
    | cons next rest =>
      have line : trimEnd ((dropEnd? "\r" piece).getD piece) = trimEnd piece := by
        cases ending : dropEnd? "\r" piece with
        | none => rfl
        | some line =>
          obtain rfl := dropEnd?_eq_some_iff.mp ending
          exact (trimEnd_append_singleton isWhiteSpace_carriageReturn line).symm
      rw [List.getLast?_cons_cons] at given
      rw [linesOf, List.map_cons, List.map_cons, line, ih given]

theorem contents_eq_nil_of_isBlankText {s : String} (blank : isBlankText s = true) :
    contents s = [] := by
  rw [contents, trimEnd_eq_empty_iff.mpr blank]
  rfl

/-- What is left of a text ends with a character that is neither white space nor a line break, so
nothing is lost when its last piece is taken for a line. -/
theorem contents_eq_trimmedLines {s : String} (filled : isBlankText s = false) :
    contents s = trimmedLines (trimEnd s) := by
  have some : (trimEnd s).toList ≠ [] := by
    intro nothing
    have blank := trimEnd_eq_empty_iff.mp (String.toList_eq_nil_iff.mp nothing)
    rw [filled] at blank
    cases blank
  have last := List.getLast?_eq_some_getLast some
  have other : (trimEnd s).toList.getLast some ≠ '\n' := by
    intro lineBreak
    have white := isWhiteSpace_of_getLast?_trimEnd last
    rw [lineBreak, isWhiteSpace_lineBreak] at white
    cases white
  rw [contents, lines, trimmedLines, map_trimEnd_linesOf (getLast?_splitOn_ne_empty last other)]

theorem contents_eq_nil_iff {s : String} : contents s = [] ↔ isBlankText s = true := by
  refine ⟨fun nothing => ?_, contents_eq_nil_of_isBlankText⟩
  by_contra filled
  rw [contents_eq_trimmedLines (by simpa using filled), trimmedLines,
    List.map_eq_nil_iff] at nothing
  exact absurd nothing (by simp [splitOn, List.splitOn_ne_nil])

end Text

/-! ### Comments -/

namespace Helper

variable {indent marker text comment content : String}

/-- What a comment says behind its mark: nothing if the mark is all there is, and otherwise what is
behind the space that follows the mark. -/
def uncomment? (start comment : String) : Option String :=
  match Text.dropStart? start comment with
  | none => none
  | some rest =>
    if rest = "" then some "" else (Text.dropStart? " " rest).filter fun content => content != ""

@[simp] theorem docLine_empty : docLine indent marker "" = indent ++ marker := rfl

theorem docLine_of_ne_empty (given : content ≠ "") :
    docLine indent marker content = indent ++ marker ++ (" " ++ content) := by
  rw [docLine, if_neg (by simpa using given), String.append_assoc]

/-- There is one comment that says a content. -/
theorem uncomment?_eq_some_iff :
    uncomment? (indent ++ marker) comment = some content ↔
      comment = docLine indent marker content := by
  constructor
  · intro read
    unfold uncomment? at read
    split at read
    · cases read
    · next rest marked =>
      obtain rfl := Text.dropStart?_eq_some_iff.mp marked
      split at read
      · next bare =>
        obtain rfl := Option.some.inj read
        rw [bare, docLine_empty, String.append_empty]
      · obtain ⟨spaced, given⟩ := Option.filter_eq_some_iff.mp read
        obtain rfl := Text.dropStart?_eq_some_iff.mp spaced
        rw [docLine_of_ne_empty (by simpa using given)]
  · rintro rfl
    by_cases given : content = ""
    · subst given
      have marked := Text.dropStart?_append (indent ++ marker) ""
      rw [String.append_empty] at marked
      rw [docLine_empty, uncomment?, marked]
      rfl
    · rw [docLine_of_ne_empty given, uncomment?, Text.dropStart?_append]
      simp [Text.dropStart?_append, given]

theorem docLines_eq_map : docLines indent marker text =
    (Text.contents text).map (docLine indent marker) := by
  cases blank : Text.isBlankText text with
  | true => rw [docLines, if_pos blank, Text.contents_eq_nil_of_isBlankText blank, List.map_nil]
  | false => rw [docLines, blank, if_neg Bool.false_ne_true, Text.contents_eq_trimmedLines blank]

/-- A text is commented out in what is written for it. Nothing is written for white space.
Otherwise the mark stands in front of every line that is written, and behind the marks the text can
be read, line by line. -/
structure CommentsOut (indent marker text written : String) : Prop where
  empty_iff : written = "" ↔ Text.isBlankText text = true
  comments : ∃ comments, written = Text.lined comments ∧
    (∀ comment ∈ comments, Text.IsLine comment ∧ ∃ rest, comment = indent ++ marker ++ rest) ∧
    comments.map (uncomment? (indent ++ marker)) = (Text.contents text).map some

theorem exists_docLine_eq : ∃ rest, docLine indent marker content = indent ++ marker ++ rest := by
  by_cases given : content = ""
  · exact ⟨"", by rw [given, docLine_empty, String.append_empty]⟩
  · exact ⟨" " ++ content, docLine_of_ne_empty given⟩

theorem docText_eq_empty_iff : docText indent marker text = "" ↔ Text.isBlankText text = true := by
  have written : docText indent marker text = Text.lined (docLines indent marker text) := rfl
  rw [written, docLines_eq_map, ← Text.contents_eq_nil_iff]
  cases Text.contents text with
  | nil => simp
  | cons first rest => simp [Text.lined_cons]

/-- Every text is commented out, if the mark is on one line. -/
theorem commentsOut_docText (margin : Text.IsLine indent) (mark : Text.IsLine marker)
    (text : String) : CommentsOut indent marker text (docText indent marker text) where
  empty_iff := docText_eq_empty_iff
  comments := by
    refine ⟨docLines indent marker text, rfl, fun comment listed => ?_, ?_⟩
    · refine ⟨isLine_of_mem_docLines margin mark listed, ?_⟩
      rw [docLines_eq_map] at listed
      obtain ⟨content, _, rfl⟩ := List.mem_map.mp listed
      exact exists_docLine_eq
    · rw [docLines_eq_map, List.map_map]
      exact List.map_congr_left fun content _ => uncomment?_eq_some_iff.mpr rfl

-- Line breaks of both kinds, a blank line, and white space at the ends.
example : docText "  " "//" "one\r\n\n two \t\n \n" = "  // one\n  //\n  //  two\n" := by
  decide +kernel

end Helper

end Lexicon
