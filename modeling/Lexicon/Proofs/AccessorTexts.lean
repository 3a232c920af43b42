import Lexicon.Proofs.LineTexts
import Lexicon.Proofs.SourceLines

/-!
# Lexicon.Proofs.AccessorTexts

Where the name of a property gets to in the text of an accessor.

An accessor is a comment and a method behind it. The method follows from the
identifier, the type and the default of a property, and is the same whatever
the property is called. The comment holds the name as it is, and so it is one
line exactly if the name is: what is behind a line break in the name stands on
a line of its own, which no longer is part of the comment.

## Main definitions

- `Accessor.methodLines`: the lines of a method.
- `Accessor.NameOnlyInComment`: accessors for all names of a property differ in the comment.

## Main result

`Accessor.nameOnlyInComment`: both ways to make an accessor keep the name to the
comment.

## Proof strategy

The text is joined by line breaks, so it is cut into the lines of its parts, and
all parts but the comment are lines.
-/

namespace Lexicon

namespace Accessor

/-- The lines of a method: its signature, its body, and the end. -/
def methodLines (signature body : String) : List String :=
  ["    pub fn " ++ signature ++ " \x7b", "        " ++ body, "    \x7d"]

/-- The accessors that are made for all names of a property have one method. The name stands in the
comment, and stays there exactly if it is a line. -/
structure NameOnlyInComment (make : String → Option Accessor) : Prop where
  method : ∃ parts : Option (String × String),
    (∀ property, (make property).map codeLines =
      parts.map fun (signature, body) => methodLines signature body) ∧
    ∀ signature body, parts = some (signature, body) → Text.IsLine signature ∧ Text.IsLine body
  comment : ∃ start stop, Text.IsLine start ∧ Text.IsLine stop ∧
    ∀ property accessor, make property = some accessor →
      accessor.docLine = "    /// " ++ start ++ property ++ stop
  lines : ∀ property accessor, make property = some accessor →
    Text.splitOn '\n' accessor.text = Text.splitOn '\n' accessor.docLine ++ accessor.codeLines
  lines_iff : ∀ property accessor, make property = some accessor →
    (Text.splitOn '\n' accessor.text = accessor.docLine :: accessor.codeLines ↔
      Text.IsLine property)

theorem splitOn_text {accessor : Accessor} (codes : ∀ code ∈ accessor.codeLines, Text.IsLine code) :
    Text.splitOn '\n' accessor.text = Text.splitOn '\n' accessor.docLine ++ accessor.codeLines := by
  have lineBreak : "\n" = String.singleton '\n' := rfl
  obtain ⟨first, rest, shape⟩ : ∃ first rest, accessor.codeLines = first :: rest := by
    cases accessor <;> exact ⟨_, _, rfl⟩
  have some : accessor.codeLines ≠ [] := by simp [shape]
  rw [text, shape, String.intercalate_cons_cons, ← shape, lineBreak, Text.splitOn_append,
    Text.splitOn_intercalate some codes]

theorem isLine_of_mem_methodLines {signature body : String} (first : Text.IsLine signature)
    (second : Text.IsLine body) : ∀ line ∈ methodLines signature body, Text.IsLine line := by
  simp only [methodLines, List.forall_mem_cons, Text.isLine_append]
  exact ⟨⟨⟨by decide, first⟩, by decide⟩, ⟨by decide, second⟩, by decide, by simp⟩

/-- Only the comment holds the name if neither the method nor the frame of the comment depends on
it. -/
theorem NameOnlyInComment.of_parts {make : String → Option Accessor}
    (parts : Option (String × String))
    (methods : ∀ property, (make property).map codeLines =
      parts.map fun (signature, body) => methodLines signature body)
    (line : ∀ signature body, parts = some (signature, body) →
      Text.IsLine signature ∧ Text.IsLine body)
    (start stop : String) (frame : Text.IsLine start ∧ Text.IsLine stop)
    (comment : ∀ property accessor, make property = some accessor →
      accessor.docLine = "    /// " ++ start ++ property ++ stop) : NameOnlyInComment make := by
  have lines (property : String) (accessor : Accessor) (made : make property = some accessor) :
      Text.splitOn '\n' accessor.text =
        Text.splitOn '\n' accessor.docLine ++ accessor.codeLines := by
    have code := methods property
    rw [made, Option.map_some] at code
    obtain ⟨⟨signature, body⟩, given, same⟩ := Option.map_eq_some_iff.mp code.symm
    obtain ⟨first, second⟩ := line signature body given
    exact splitOn_text (same ▸ isLine_of_mem_methodLines first second)
  refine ⟨⟨parts, methods, line⟩, ⟨start, stop, frame.1, frame.2, comment⟩, lines, ?_⟩
  intro property accessor made
  have doc : Text.IsLine accessor.docLine ↔ Text.IsLine property := by
    simp only [comment property accessor made, Text.isLine_append, frame.1, frame.2, and_true,
      and_iff_right_iff_imp]
    exact fun _ => by decide
  rw [lines property accessor made, ← doc]
  constructor
  · -- The lines of the method cancel out, and what is left of the cut is the comment.
    intro same
    have one : Text.splitOn '\n' accessor.docLine = [accessor.docLine] :=
      List.append_cancel_right (same.trans (List.singleton_append).symm)
    exact Text.isLine_of_mem_splitOn (one ▸ List.mem_singleton_self _)
  · intro one
    rw [Text.splitOn_of_notMem one, List.singleton_append]

/-- Whatever a property is called, its name gets into the comments of its accessors, and nowhere
else. -/
theorem nameOnlyInComment {ident : String} {item : GeneratedType} (line : Text.IsLine ident)
    (itemLine : Text.IsLine item.text) (node : TypeNode) (optional : Bool) :
    NameOnlyInComment (fun property => ofDefault? property ident node optional) ∧
      NameOnlyInComment (fun property => some (push property ident item optional)) := by
  constructor
  · obtain ⟨parts, same, lines⟩ := exists_ofDefault?_eq ident node optional
    refine .of_parts (parts.map fun (result, body) =>
        (Keyword.bare ident ++ "_or_default" ++ "(&self) -> " ++ result, body)) ?_ ?_
      "`" "`, or its schema default when absent." ⟨by decide, by decide⟩ ?_
    · intro property
      rw [same property, Option.map_map, Option.map_map]
      cases parts with
      | none => rfl
      | some part =>
        simp only [Option.map_some, Function.comp_apply, codeLines, methodLines, method,
          String.append_assoc]
    · intro signature body given
      obtain ⟨⟨result, _⟩, given, pair⟩ := Option.map_eq_some_iff.mp given
      cases pair
      obtain ⟨first, second⟩ := lines line result body given
      simp only [Text.isLine_append]
      exact ⟨⟨⟨⟨Keyword.isLine_bare line, by decide⟩, by decide⟩, first⟩, second⟩
    · intro property accessor made
      obtain ⟨⟨result, body⟩, _, rfl⟩ := Option.map_eq_some_iff.mp (same property ▸ made)
      rfl
  · -- The name of the method has no part in the property, so any accessor of the field tells it.
    have named : Text.IsLine ("push_" ++ Plural.itemName (Keyword.bare ident)) := by
      have method : Text.IsLine (push "" ident item optional).method := isLine_method line
      rwa [method_push] at method
    refine .of_parts (some ("push_" ++ Plural.itemName (Keyword.bare ident) ++
        "(&mut self, item: " ++ item.text ++ ")",
        (if optional then "self." ++ ident ++ ".get_or_insert_with(Vec::new)" else "self." ++ ident)
          ++ ".push(item);")) ?_ ?_ "Append to `" "`." ⟨by decide, by decide⟩ ?_
    · intro property
      have closing : ") \x7b" = ")" ++ " \x7b" := by decide
      simp only [Option.map_some, codeLines, methodLines, method_push, closing, String.append_assoc]
    · intro signature body given
      cases given
      simp only [Text.isLine_append]
      refine ⟨⟨⟨⟨Text.isLine_append.mp named, by decide⟩, itemLine⟩, by decide⟩, ?_, by decide⟩
      split <;> simp only [Text.isLine_append]
      · exact ⟨⟨by decide, line⟩, by decide⟩
      · exact ⟨by decide, line⟩
    · intro property accessor made
      cases made
      rfl

theorem nameOnlyInComment_flags :
    Text.IsLine "flags" ∧ Text.IsLine GeneratedType.bool.text ∧
      NameOnlyInComment (fun property =>
        ofDefault? property "flags" (.boolean ⟨none, some true, none⟩) true) ∧
      NameOnlyInComment (fun property => some (push property "flags" .bool true)) :=
  ⟨by decide, by decide, nameOnlyInComment (by decide) (by decide) _ _⟩

end Accessor

/-! ### A name with a line break -/

/-- Behind the line break this name goes on with a constant. -/
def breakingProperty : String := "a\n    const B: u8 = 1; //"

def breakingDocument : Document :=
  objectDocument ⟨["com", "example"], "post", none⟩
    [(breakingProperty, .array ⟨none, some (.boolean ⟨none, none, none⟩), none, none⟩)]

theorem wellFormed_breakingDocument : breakingDocument.WellFormed := by
  exact wellFormed_objectDocument ⟨"com.example.post", by decide⟩ rfl (by decide)
    (by simpa using TypeNode.wellFormed_flags)

/-- A part of the name stands on a line of its own, between the comment and the method. -/
theorem splitOn_text_breakingDocument :
    (∃ value, Document.parse value = .ok breakingDocument) ∧
      ∃ module file, Generator.graphGenerator.Produces breakingDocument module file ∧
        ∃ declaration ∈ module.declarations, ∃ accessor ∈ declaration.accessors,
          accessor.codeLines =
            ["    pub fn push_a_const_b_u8_1_item(&mut self, item: bool) \x7b",
             "        self.a_const_b_u8_1.get_or_insert_with(Vec::new).push(item);",
             "    \x7d"] ∧
          Text.splitOn '\n' accessor.text =
            "    /// Append to `a" :: "    const B: u8 = 1; //`." :: accessor.codeLines := by
  have accepted := Document.parse_toJson wellFormed_breakingDocument
  have struct : breakingDocument.Generatable := ⟨_, _, rfl, rfl⟩
  have builtIn : Generator.graphGenerator.stubs = .builtIn := rfl
  obtain ⟨module, file, produces⟩ := Generator.exists_produces builtIn struct
  refine ⟨⟨_, accepted⟩, module, file, produces, ?_⟩
  have generated := produces.generated
  cases generated
  refine ⟨_, List.mem_cons_self, .push breakingProperty "a_const_b_u8_1" .bool true, ?_, ?_, ?_⟩
  · decide +kernel
  · decide +kernel
  · have codes : ∀ code ∈ (Accessor.push breakingProperty "a_const_b_u8_1" .bool true).codeLines,
        Text.IsLine code := by
      decide +kernel
    have comment : Text.splitOn '\n'
        (Accessor.push breakingProperty "a_const_b_u8_1" .bool true).docLine =
        ["    /// Append to `a", "    const B: u8 = 1; //`."] := by
      decide +kernel
    rw [Accessor.splitOn_text codes, comment]
    rfl

end Lexicon
