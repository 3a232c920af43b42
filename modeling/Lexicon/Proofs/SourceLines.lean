import Lexicon.Proofs.GenerationRuns
import Lexicon.Proofs.TemplateText

/-!
# Lexicon.Proofs.SourceLines

The lines of generated source.

The built-in templates write a struct and a module line by line. Here the lines
are listed as they follow from the declaration, without the templates, and the
templates are shown to write them.

## Main definitions

- `Declaration.lines`: the lines of a struct with its methods.
- `SourceModule.lines`: the lines of a module.

## Main results

`Declaration.render_builtIn` and `SourceModule.render_builtIn`: the text of a
declaration or a module is that of its lines, whatever they hold. So the
templates never fail, and `Generator.exists_generate_iff`: what can be generated
depends on the definitions of a document alone.
-/

namespace Lexicon

/-! ### The lines of a struct -/

namespace StructField

def lines (field : StructField) : List String :=
  Helper.docLines "    " "///" field.doc ++
    ["    pub " ++ field.ident ++ ": " ++ field.type.text ++ ","]

def parameter (field : StructField) : String := field.ident ++ ": " ++ field.type.text

def readerLine (runtime : String) (field : StructField) : String :=
  "            " ++ field.ident ++ ": " ++ field.read.text runtime field.property ++ "?,"

end StructField

def Accessor.lines (accessor : Accessor) : List String := accessor.docLine :: accessor.codeLines

namespace Declaration

variable (runtime : String) (declaration : Declaration)

def structLine : String := "pub struct " ++ declaration.name ++ " \x7b"

def structLines : List String :=
  Helper.docLines "" "///" declaration.summary ++ ["#[derive(Debug, Clone, PartialEq)]"] ++
    [declaration.structLine] ++ declaration.fields.flatMap StructField.lines ++
    ["\x7d", "", "impl " ++ declaration.name ++ " \x7b"]

def requiredLine : String :=
  "    pub const REQUIRED: &[&str] = &[" ++
    String.intercalate ", " (declaration.required.map Text.quoted) ++ "];"

def constantLines : List String :=
  ["    pub const NSID: &str = " ++ Text.quoted declaration.id.text ++ ";"] ++
    declaration.key.toList.map
      (fun key => "    pub const KEY: &str = " ++ Text.quoted key ++ ";") ++
    [declaration.requiredLine, ""]

def constructorLine : String :=
  "    pub fn new(" ++ String.intercalate ", " (declaration.fields.map StructField.parameter) ++
    ") -> Self \x7b"

def constructorLines : List String :=
  (if maxPlainParameters < declaration.fields.length then
    ["    #[allow(clippy::too_many_arguments)]"] else []) ++
    [declaration.constructorLine,
     "        Self \x7b " ++ String.intercalate ", " (declaration.fields.map (·.ident)) ++ " \x7d",
     "    \x7d", ""]

def readerLines : List String :=
  ["    /// Read from a generic value. Constraints are not checked.",
   "    pub fn from_value(value: &serde_json::Value) -> Result<Self, " ++ runtime ++
      "::FromValueError> \x7b",
   "        let " ++ (if declaration.fields.isEmpty then "_map" else "map") ++ " = " ++ runtime ++
      "::object(value)?;",
   "        Ok(Self \x7b"] ++
    declaration.fields.map (StructField.readerLine runtime) ++ ["        \x7d)", "    \x7d"]

def accessorLines : List String :=
  declaration.accessors.flatMap (fun accessor => "" :: accessor.lines) ++ ["\x7d"]

/-- The lines of a struct with its methods. -/
def lines : List String :=
  declaration.structLines ++ declaration.constantLines ++ declaration.constructorLines ++
    declaration.readerLines runtime ++ declaration.accessorLines

end Declaration

/-! ### The lines of a module -/

namespace SourceModule

variable (runtime : String) (module : SourceModule)

def headerLines : List String :=
  let names := module.declarations.map (·.name)
  ["// @generated by lexgen from " ++ module.id.text ++ ". Do not edit.",
   "// Declares " ++ toString names.length ++ " " ++
      (if names.length = 1 then "type" else "types") ++ ": " ++
      String.intercalate ", " names ++ "."]

def descriptionLines : List String :=
  match module.description with
  | none => []
  | some description => if description = "" then [] else "" :: Helper.docLines "" "//!" description

def importLines : List String :=
  if module.imports.isEmpty then [] else "" :: module.imports.map fun path => "use " ++ path ++ ";"

/-- The lines of a module: its header, what it imports, and its structs. -/
def lines : List String :=
  module.headerLines ++ module.descriptionLines ++ module.importLines ++
    module.declarations.flatMap fun declaration => "" :: declaration.lines runtime ++ [""]

end SourceModule

/-! ### Texts of lines -/

namespace Text

@[simp] theorem lined_singleton (line : String) : lined [line] = line ++ "\n" := by
  rw [lined_cons, lined_nil, String.append_empty]

theorem join_map_lined {α : Type} (items : List α) (lines : α → List String) :
    String.join (items.map fun item => lined (lines item)) = lined (items.flatMap lines) := by
  induction items with
  | nil => rfl
  | cons item rest ih =>
    rw [List.map_cons, String.join_cons, ih, List.flatMap_cons, lined_append]

/-- Lines that are joined lack the last line break. -/
theorem intercalate_append_lineBreak {lines : List String} (given : lines ≠ []) :
    String.intercalate "\n" lines ++ "\n" = lined lines := by
  induction lines with
  | nil => exact absurd rfl given
  | cons line rest ih =>
    cases rest with
    | nil => simp
    | cons next rest =>
      rw [String.intercalate_cons_cons, String.append_assoc, ih nofun, lined_cons line]

end Text

theorem Text.quoted_ne_empty (text : String) : quoted text ≠ "" := by
  simp [quoted]

/-! ### The template of a struct -/

namespace Stubs

open Template

variable (runtime : String) (declaration : Declaration)

/-- What the template of a struct is filled with. -/
def env : Env :=
  { root := declaration.data runtime
    scopes := [{ value := declaration.data runtime, bindings := [] }] }

theorem fields_of_env : (PathExpr.member "fields").value? (env runtime declaration) =
    some (.arr (declaration.fields.map (Declaration.fieldData runtime))) := rfl

theorem renderNodes_struct : renderNodes (env runtime declaration) structNodes =
    .ok (Text.lined declaration.structLines) := by
  have each (field : StructField) (bindings : List (String × Json)) : renderNodes
      { env runtime declaration with
        scopes := { value := Declaration.fieldData runtime field, bindings } ::
          (env runtime declaration).scopes }
      [.comment "description" [("indent", .literal (.str "    "))], .text "    pub ",
        .member "ident", .text ": ", .member "rust_type", .text ",\n"] =
      .ok (Text.lined field.lines) := by
    have ending : ",\n" = "," ++ "\n" := by decide
    rw [renderNodes_eq_ok
      (.cons rfl (.cons rfl (.cons rfl (.cons rfl (.cons rfl (.cons rfl .nil))))))]
    simp only [StructField.lines, Text.lined_append, Text.lined_singleton, ending,
      String.join_cons, String.join_nil, String.append_empty, String.append_assoc]
    rfl
  have fields := renderNode_forEach_map (fields_of_env runtime declaration) each
  -- The texts of a template span several lines, and are cut where the lines end.
  have derive : "#[derive(Debug, Clone, PartialEq)]\npub struct " =
      "#[derive(Debug, Clone, PartialEq)]" ++ ("\n" ++ "pub struct ") := by decide
  have opened : " \x7b\n" = " \x7b" ++ "\n" := by decide
  have behind : "\x7d\n\nimpl " = "\x7d" ++ ("\n" ++ ("" ++ ("\n" ++ "impl "))) := by decide
  rw [structNodes, renderNodes_eq_ok (.cons rfl (.cons rfl (.cons rfl (.cons rfl
    (.cons fields (.cons rfl (.cons rfl (.cons rfl .nil))))))))]
  simp only [Declaration.structLines, Declaration.structLine, Text.join_map_lined,
    Text.lined_append, Text.lined_cons, Text.lined_nil, derive, opened, behind,
    String.join_cons, String.join_nil, String.append_empty, String.append_assoc]
  rfl

theorem renderNodes_constants : renderNodes (env runtime declaration) constantNodes =
    .ok (Text.lined declaration.constantLines) := by
  have ending : ";\n" = ";" ++ "\n" := by decide
  have required : "];\n\n" = "];" ++ ("\n" ++ ("" ++ "\n")) := by decide
  have found : (PathExpr.member "key").value? (env runtime declaration) =
      some ((declaration.key.map fun key => Json.str (Text.quoted key)).getD .null) := rfl
  have key := renderNode_ifTrue found (renderNodes_eq_ok
    (.cons (renderNode_text "    pub const KEY: &str = ")
      (.cons (renderNode_member found (by decide)) (.cons (renderNode_text ";\n") .nil))))
  -- A quoted key is never empty, so the template takes it for given.
  have line : (if isTruthy ((declaration.key.map fun key => Json.str (Text.quoted key)).getD .null)
      then String.join ["    pub const KEY: &str = ",
        valueText ((declaration.key.map fun key => Json.str (Text.quoted key)).getD .null), ";\n"]
      else "") = Text.lined (declaration.key.toList.map fun key =>
        "    pub const KEY: &str = " ++ Text.quoted key ++ ";") := by
    cases declaration.key with
    | none => rfl
    | some key =>
      have given : isTruthy (.str (Text.quoted key)) = true := by
        simp [isTruthy, Text.quoted_ne_empty]
      simp only [Option.map_some, Option.getD_some, given, if_true, valueText, ending,
        Option.toList_some, List.map_cons, List.map_nil, Text.lined_singleton, String.join_cons,
        String.join_nil, String.append_empty, String.append_assoc]
  rw [line] at key
  rw [constantNodes, renderNodes_eq_ok (.cons rfl (.cons rfl (.cons rfl (.cons key
    (.cons rfl (.cons rfl (.cons rfl .nil)))))))]
  unfold Declaration.constantLines Declaration.requiredLine
  simp only [Text.lined_append, Text.lined_cons, Text.lined_nil, ending, required,
    String.join_cons, String.join_nil, String.append_empty, String.append_assoc]
  rfl

theorem renderNodes_constructor : renderNodes (env runtime declaration) constructorNodes =
    .ok (Text.lined declaration.constructorLines) := by
  have found : (PathExpr.member "many_params").value? (env runtime declaration) =
      some (.bool (Declaration.maxPlainParameters <
        (declaration.fields.map StructField.parameter).length)) := rfl
  have remark := renderNode_ifTrue found (renderNodes_eq_ok
    (.cons (renderNode_text "    #[allow(clippy::too_many_arguments)]\n") .nil))
  have line : (if isTruthy (.bool (Declaration.maxPlainParameters <
        (declaration.fields.map StructField.parameter).length))
      then String.join ["    #[allow(clippy::too_many_arguments)]\n"] else "") =
      Text.lined (if Declaration.maxPlainParameters < declaration.fields.length then
        ["    #[allow(clippy::too_many_arguments)]"] else []) := by
    have ending : "    #[allow(clippy::too_many_arguments)]\n" =
        "    #[allow(clippy::too_many_arguments)]" ++ "\n" := by decide
    simp only [isTruthy, List.length_map, decide_eq_true_eq]
    split
    · rw [Text.lined_singleton, String.join_cons, String.join_nil, String.append_empty, ending]
    · rfl
  have start : ") -> Self \x7b\n        Self \x7b " =
      ") -> Self \x7b" ++ ("\n" ++ "        Self \x7b ") := by decide
  have stop : " \x7d\n    \x7d\n\n" =
      " \x7d" ++ ("\n" ++ ("    \x7d" ++ ("\n" ++ ("" ++ "\n")))) := by decide
  rw [line] at remark
  rw [constructorNodes, renderNodes_eq_ok (.cons remark (.cons rfl (.cons rfl (.cons rfl
    (.cons rfl (.cons rfl .nil))))))]
  unfold Declaration.constructorLines Declaration.constructorLine
  simp only [Text.lined_append, Text.lined_cons, Text.lined_nil, start, stop,
    String.join_cons, String.join_nil, String.append_empty, String.append_assoc]
  rfl

theorem renderNodes_reader : renderNodes (env runtime declaration) readerNodes =
    .ok (Text.lined (declaration.readerLines runtime)) := by
  have each (field : StructField) (bindings : List (String × Json)) : renderNodes
      { env runtime declaration with
        scopes := { value := Declaration.fieldData runtime field, bindings } ::
          (env runtime declaration).scopes }
      [.text "            ", .member "ident", .text ": ", .member "read", .text "?,\n"] =
      .ok (field.readerLine runtime ++ "\n") := by
    have ending : "?,\n" = "?," ++ "\n" := by decide
    rw [renderNodes_eq_ok (.cons rfl (.cons rfl (.cons rfl (.cons rfl (.cons rfl .nil)))))]
    unfold StructField.readerLine
    simp only [ending, String.join_cons, String.join_nil, String.append_empty, String.append_assoc]
    rfl
  have fields := renderNode_forEach_map (fields_of_env runtime declaration) each
  -- Without fields the map is not read from, and has the name of an unused variable.
  have members := renderNode_choose (fields_of_env runtime declaration)
    (renderNodes_eq_ok (.cons (renderNode_text "map") .nil))
    (renderNodes_eq_ok (.cons (renderNode_text "_map") .nil))
  have name : (if isTruthy (.arr (declaration.fields.map (Declaration.fieldData runtime)))
      then String.join ["map"] else String.join ["_map"]) =
      if declaration.fields.isEmpty then "_map" else "map" := by
    cases declaration.fields with
    | nil => rfl
    | cons field rest => rfl
  have texts : String.join (declaration.fields.map fun field => field.readerLine runtime ++ "\n") =
      Text.lined (declaration.fields.map (StructField.readerLine runtime)) := by
    rw [Text.lined, List.map_map]
    rfl
  have remark : "    /// Read from a generic value. Constraints are not checked.\n" =
      "    /// Read from a generic value. Constraints are not checked." ++ "\n" := by decide
  have opened : "::FromValueError> \x7b\n        let " =
      "::FromValueError> \x7b" ++ ("\n" ++ "        let ") := by decide
  have built : "::object(value)?;\n        Ok(Self \x7b\n" =
      "::object(value)?;" ++ ("\n" ++ ("        Ok(Self \x7b" ++ "\n")) := by decide
  have closed : "        \x7d)\n    \x7d\n" =
      "        \x7d)" ++ ("\n" ++ ("    \x7d" ++ "\n")) := by decide
  rw [name] at members
  rw [texts] at fields
  rw [readerNodes, renderNodes_eq_ok (.cons rfl (.cons rfl (.cons rfl (.cons rfl (.cons members
    (.cons rfl (.cons rfl (.cons rfl (.cons fields (.cons rfl .nil))))))))))]
  simp only [Declaration.readerLines, Text.lined_append, Text.lined_cons, Text.lined_nil, remark,
    opened, built, closed, String.join_cons, String.join_nil, String.append_empty,
    String.append_assoc]
  rfl

theorem renderNodes_accessors : renderNodes (env runtime declaration) accessorNodes =
    .ok (Text.lined declaration.accessorLines) := by
  have found : (PathExpr.member "accessors").value? (env runtime declaration) =
      some (.arr (declaration.accessors.map fun accessor => .str accessor.text)) := rfl
  have each (accessor : Accessor) (bindings : List (String × Json)) : renderNodes
      { env runtime declaration with
        scopes := { value := .str accessor.text, bindings } :: (env runtime declaration).scopes }
      [.text "\n", .value .this, .text "\n"] = .ok (Text.lined ("" :: accessor.lines)) := by
    -- The lines of an accessor are joined without a last line break; the template adds it.
    have joined : String.intercalate "\n" accessor.lines ++ "\n" = Text.lined accessor.lines :=
      Text.intercalate_append_lineBreak nofun
    rw [renderNodes_eq_ok (.cons rfl (.cons (renderNode_this _ _ _) (.cons rfl .nil))),
      Text.lined_cons, ← joined]
    simp only [String.join_cons, String.join_nil, String.append_empty, String.empty_append]
    rfl
  have accessors := renderNode_forEach_map found each
  have closed : "\x7d\n" = "\x7d" ++ "\n" := by decide
  rw [accessorNodes, renderNodes_eq_ok (.cons accessors (.cons rfl .nil)), Text.join_map_lined]
  simp only [Declaration.accessorLines, Text.lined_append, Text.lined_singleton, closed,
    String.join_cons, String.join_nil, String.append_empty]

end Stubs

/-- The template of a struct writes its lines. -/
theorem Declaration.render_builtIn (declaration : Declaration) (runtime : String) :
    declaration.render .builtIn runtime = .ok (Text.lined (declaration.lines runtime)) := by
  have whole := Template.renderNodes_append (Template.renderNodes_append
    (Template.renderNodes_append (Template.renderNodes_append
      (Stubs.renderNodes_struct runtime declaration)
      (Stubs.renderNodes_constants runtime declaration))
      (Stubs.renderNodes_constructor runtime declaration))
      (Stubs.renderNodes_reader runtime declaration))
      (Stubs.renderNodes_accessors runtime declaration)
  rw [← Text.lined_append, ← Text.lined_append, ← Text.lined_append, ← Text.lined_append] at whole
  exact whole

/-! ### The template of a module -/

namespace SourceModule

open Template

variable (runtime : String) (module : SourceModule)

/-- What the template of a module is filled with. -/
def env : Env :=
  let data := module.data (module.declarations.map fun declaration =>
    Text.lined (declaration.lines runtime))
  { root := data, scopes := [{ value := data, bindings := [] }] }

theorem pluralText_type (n : Nat) :
    Helper.pluralText "type" (some (.int n)) = if n = 1 then "type" else "types" := by
  have plural : Plural.pluralize "type" = "types" := by decide
  have value : Json.asUInt64? (.int n) =
      if n < UInt64.size then some (UInt64.ofNat n) else none := by
    simp [Json.asUInt64?]
  -- A count beyond 64 bits is no number to the helper, and is not 1 either.
  have once : Json.asUInt64? (.int n) = some 1 ↔ n = 1 := by
    rw [value]
    split
    · next small =>
      rw [Option.some_inj, ← UInt64.toNat_inj, UInt64.toNat_ofNat_of_lt' small]
      rfl
    · next large =>
      constructor
      · intro same
        cases same
      · rintro rfl
        exact absurd (by decide) large
  rw [Helper.pluralText, plural, Option.bind_some]
  simp only [once]

theorem renderNode_description : renderNode (module.env runtime)
    (.ifTrue (.member "description")
      [.text "\n", .comment "description" [("marker", .literal (.str "//!"))]]) =
    .ok (Text.lined module.descriptionLines) := by
  have found : (PathExpr.member "description").value? (module.env runtime) =
      some ((module.description.map Json.str).getD .null) := rfl
  have operand : Helper.textOr "" (some ((module.description.map Json.str).getD .null)) =
      module.description.getD "" := by
    cases module.description <;> rfl
  have comment : renderNode (module.env runtime)
      (.comment "description" [("marker", .literal (.str "//!"))]) =
      .ok (Text.lined (Helper.docLines "" "//!" (module.description.getD ""))) := by
    rw [renderNode_comment found, ← operand]
    rfl
  rw [renderNode_ifTrue found
    (renderNodes_eq_ok (.cons (renderNode_text "\n") (.cons comment .nil)))]
  unfold descriptionLines
  cases module.description with
  | none => rfl
  | some description =>
    by_cases empty : description = ""
    · subst empty
      rfl
    · have given : isTruthy (.str description) = true := by simp [isTruthy, empty]
      simp only [Option.map_some, Option.getD_some, given, if_true, if_neg empty, Text.lined_cons,
        String.join_cons, String.join_nil, String.append_empty, String.empty_append]

theorem renderNode_imports : renderNode (module.env runtime)
    (.forEach "imports"
      [.ifTrue (.loopVariable "first") [.text "\n"], .text "use ", .value .this, .text ";\n"]) =
    .ok (Text.lined module.importLines) := by
  have found : (PathExpr.member "imports").value? (module.env runtime) =
      some (.arr (module.imports.map .str)) := rfl
  have each (path : String) (index : Nat) (_ : (path, index) ∈ module.imports.zipIdx) : renderNodes
      { module.env runtime with
        scopes := elementScope module.imports.length index (.str path) ::
          (module.env runtime).scopes }
      [.ifTrue (.loopVariable "first") [.text "\n"], .text "use ", .value .this, .text ";\n"] =
      .ok ((if index = 0 then "\n" else "") ++ ("use " ++ path ++ ";" ++ "\n")) := by
    have first : (PathExpr.loopVariable "first").value?
        { module.env runtime with
          scopes := elementScope module.imports.length index (.str path) ::
            (module.env runtime).scopes } = some (.bool (index == 0)) := rfl
    have blank := renderNode_ifTrue first
      (renderNodes_eq_ok (.cons (renderNode_text "\n") .nil))
    have ending : ";\n" = ";" ++ "\n" := by decide
    rw [renderNodes_eq_ok (.cons blank (.cons rfl (.cons rfl (.cons rfl .nil))))]
    simp only [isTruthy, beq_iff_eq, ending, String.join_cons, String.join_nil,
      String.append_empty, String.append_assoc]
    rfl
  rw [renderNode_forEach found each]
  unfold importLines
  cases module.imports with
  | nil => rfl
  | cons path rest =>
    -- The blank line stands in front of the first path only.
    have others : (rest.zipIdx 1).map (fun (path, index) =>
        (if index = 0 then "\n" else "") ++ ("use " ++ path ++ ";" ++ "\n")) =
        rest.map fun path => "use " ++ path ++ ";" ++ "\n" := by
      have later : ∀ entry ∈ rest.zipIdx 1, (if entry.2 = 0 then "\n" else "") ++
          ("use " ++ entry.1 ++ ";" ++ "\n") = "use " ++ entry.1 ++ ";" ++ "\n" := by
        intro entry inside
        have behind : 1 ≤ entry.2 := List.le_snd_of_mem_zipIdx inside
        rw [if_neg (by omega), String.empty_append]
      rw [List.map_congr_left later]
      conv_rhs => rw [← List.zipIdx_map_fst 1 rest, List.map_map]
      rfl
    rw [List.zipIdx_cons, List.map_cons, others]
    simp [Text.lined, String.join_cons, String.append_assoc, Function.comp_def]

theorem renderNode_declarations : renderNode (module.env runtime)
    (.forEach "declarations" [.text "\n", .value .this, .text "\n"]) =
    .ok (Text.lined (module.declarations.flatMap fun declaration =>
      "" :: declaration.lines runtime ++ [""])) := by
  have found : (PathExpr.member "declarations").value? (module.env runtime) =
      some (.arr (module.declarations.map fun declaration =>
        .str (Text.lined (declaration.lines runtime)))) := by
    have sources : (module.declarations.map fun declaration =>
        Text.lined (declaration.lines runtime)).map Json.str =
        module.declarations.map fun declaration =>
          .str (Text.lined (declaration.lines runtime)) := List.map_map
    exact congrArg (fun sources => some (Json.arr sources)) sources
  have each (declaration : Declaration) (bindings : List (String × Json)) : renderNodes
      { module.env runtime with
        scopes := { value := .str (Text.lined (declaration.lines runtime)), bindings } ::
          (module.env runtime).scopes }
      [.text "\n", .value .this, .text "\n"] =
      .ok (Text.lined ("" :: declaration.lines runtime ++ [""])) := by
    rw [renderNodes_eq_ok (.cons rfl (.cons (renderNode_this _ _ _) (.cons rfl .nil)))]
    simp only [List.cons_append, Text.lined_cons, Text.lined_append, Text.lined_nil,
      String.join_cons, String.join_nil, String.append_empty, String.empty_append]
  rw [renderNode_forEach_map found each, Text.join_map_lined]

/-- The templates write the lines of a module. -/
theorem render_builtIn :
    module.render .builtIn runtime = .ok (Text.lined (module.lines runtime)) := by
  have sources : module.declarations.mapM (·.render .builtIn runtime) =
      .ok (module.declarations.map fun declaration => Text.lined (declaration.lines runtime)) := by
    have texts := mapM_map_eq_ok (g := fun declaration => declaration) fun declaration
      (_ : declaration ∈ module.declarations) => declaration.render_builtIn runtime
    rwa [List.map_id'] at texts
  have header : ". Do not edit.\n// Declares " =
      ". Do not edit." ++ ("\n" ++ "// Declares ") := by decide
  have stop : ".\n" = "." ++ "\n" := by decide
  have nsid : renderNode (module.env runtime) (.member "nsid") = .ok module.id.text := by
    have found : (PathExpr.member "nsid").value? (module.env runtime) =
        some (.str module.id.text) := rfl
    rw [renderNode_member found (by decide), valueText]
  have count : renderNode (module.env runtime) (.member "count") =
      .ok (toString (module.declarations.map (·.name)).length) := by
    have found : (PathExpr.member "count").value? (module.env runtime) =
        some (.int (module.declarations.map (·.name)).length) := rfl
    exact renderNode_member found (by decide)
  have typeList : renderNode (module.env runtime) (.member "type_list") =
      .ok (String.intercalate ", " (module.declarations.map (·.name))) := by
    have found : (PathExpr.member "type_list").value? (module.env runtime) =
        some (.str (String.intercalate ", " (module.declarations.map (·.name)))) := rfl
    rw [renderNode_member found (by decide), valueText]
  have plural : renderNode (module.env runtime) (.call
      { name := "plural", operands := [.literal (.str "type"), .path (.member "count")],
        options := [] }) =
      .ok (if (module.declarations.map (·.name)).length = 1 then "type" else "types") := by
    rw [← pluralText_type]
    rfl
  have whole : renderNodes (module.env runtime) Stubs.fileTemplate =
      .ok (Text.lined (module.lines runtime)) := by
    rw [Stubs.fileTemplate, renderNodes_eq_ok (.cons rfl (.cons nsid (.cons rfl (.cons count
      (.cons rfl (.cons plural (.cons rfl (.cons typeList (.cons rfl
        (.cons (renderNode_description runtime module) (.cons (renderNode_imports runtime module)
          (.cons (renderNode_declarations runtime module) .nil))))))))))))]
    unfold lines headerLines
    simp only [Text.lined_append, Text.lined_cons, Text.lined_nil, header, stop, String.join_cons,
      String.join_nil, String.append_empty, String.append_assoc]
  rw [render, sources, ok_bind]
  exact whole

end SourceModule

/-- With the built-in templates every document with a struct is generated. -/
theorem Generator.exists_generate_iff {generator : Generator} {doc : Document}
    (builtIn : generator.stubs = .builtIn) :
    (∃ file, generator.generate doc = .ok file) ↔ doc.Generatable := by
  have modules : (∃ module, SourceModule.ofDocument generator.mapper doc = .ok module) ↔
      doc.Generatable := SourceModule.exists_ofDocument_iff
  rw [← modules]
  simp only [generate_eq_ok_iff]
  constructor
  · rintro ⟨file, module, produces⟩
    exact ⟨module, produces.generated⟩
  · rintro ⟨module, generated⟩
    have laidOut := module.render_builtIn generator.mapper.runtime
    rw [← builtIn] at laidOut
    exact ⟨⟨_, _, _, _⟩, module, generated, laidOut, rfl, rfl, rfl⟩

theorem Generator.exists_produces {generator : Generator} {doc : Document}
    (builtIn : generator.stubs = .builtIn) (struct : doc.Generatable) :
    ∃ module file, generator.Produces doc module file := by
  obtain ⟨file, generated⟩ := (exists_generate_iff builtIn).mpr struct
  obtain ⟨module, produces⟩ := generate_eq_ok_iff.mp generated
  exact ⟨module, file, produces⟩

end Lexicon
