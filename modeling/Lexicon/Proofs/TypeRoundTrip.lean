import Lexicon.Proofs.Entries
import Lexicon.Proofs.Results
import Lexicon.Proofs.TypeParsing
import Lexicon.Proofs.WellFormed
import Lexicon.Proofs.WrittenKeys

/-!
# Lexicon.Proofs.TypeRoundTrip

A well-formed field type reads back from what is written for it.

## Main results

- `TypeNode.parseShallow_toJson`: the node without its children.
- `TypeNode.WellFormed.parse_toJson`: the node with all of its children.
-/

namespace Lexicon

/-! ### The keys of a node -/

namespace StringFormat

theorem map_ofName {format : Option StringFormat}
    (proper : ∀ f, format = some f → f.Proper) :
    (format.map name).map ofName = format := by
  cases format with
  | none => rfl
  | some f => exact congrArg some (proper_iff.mp (proper f rfl))

end StringFormat

theorem Fields.expect_format (f : Fields) (key : String) (shape : KeyShape)
    (format : Option StringFormat) :
    f.expect key shape viewText (format.map fun g => .str g.name) =
      .ok (format.map StringFormat.name) := by
  rw [← expect_text f key shape (format.map StringFormat.name), Option.map_map]
  rfl

/-! ### The keys behind the header -/

/-- The keys of an object. -/
def ObjectShape.keys (t : ObjectType) : List (String × Json) :=
  TypeNode.member "required" TypeNode.jsonOfTexts (TypeNode.written? t.required) ++
    TypeNode.member "nullable" TypeNode.jsonOfTexts (TypeNode.written? t.nullable) ++
    TypeNode.member "properties" .obj (TypeNode.written? (TypeNode.propertiesJson t.properties))

theorem ObjectShape.toJson_eq (tag : String) (t : ObjectType) :
    t.toJson tag = .obj (TypeNode.header tag t.description ++ t.keys) := by
  simp only [toJson, TypeNode.objectMembers, keys, TypeNode.textsMember_eq,
    TypeNode.member_written?, List.append_assoc]

namespace TypeNode

/-- The keys of a node, its tag and its documentation apart. -/
def keys : TypeNode → List (String × Json)
  | boolean t => booleanMembers t
  | integer t => integerMembers t
  | string t => stringMembers t
  | bytes t =>
    member "minLength" jsonOfUInt64 t.minLength ++ member "maxLength" jsonOfUInt64 t.maxLength
  | blob t => member "accept" jsonOfTexts t.accept ++ member "maxSize" jsonOfUInt64 t.maxSize
  | array t =>
    member "items" toJson t.items ++ member "minLength" jsonOfUInt64 t.minLength ++
      member "maxLength" jsonOfUInt64 t.maxLength
  | object t => t.keys
  | ref t => member "ref" .str (some t.target)
  | union t =>
    member "refs" jsonOfTexts (some t.refs) ++
      member "closed" .bool (if t.closed then some true else none)
  | null _ | cidLink _ | unknown _ => []

/-- A node is written as its tag, its documentation and its keys. -/
theorem toJson_eq (node : TypeNode) :
    node.toJson = .obj (header node.kind node.description? ++ node.keys) := by
  cases node with
  | array t =>
    obtain ⟨description, items, minLength, maxLength⟩ := t
    simp only [toJson, kind, description?, keys, itemsMember_eq, List.append_assoc]
  | object t =>
    rw [kind, description?, keys, ← ObjectShape.toJson_eq]
    obtain ⟨description, required, nullable, properties⟩ := t
    rw [toJson]
    rfl
  | union t =>
    obtain ⟨description, refs, closed⟩ := t
    cases closed <;> simp [toJson, kind, description?, keys, member]
  | ref t => rw [toJson]; rfl
  | _ => simp [toJson, kind, description?, keys]

theorem lookup_type (tag : String) (description : Option String) (rest : List (String × Json)) :
    (header tag description ++ rest).lookup "type" = some (.str tag) := rfl

theorem parseShallow_header (tag : String) (description : Option String)
    (rest : List (String × Json)) :
    parseShallow (.obj (header tag description ++ rest)) =
      ofMembers tag (header tag description ++ rest) := by
  have read : Fields.text ⟨"type", header tag description ++ rest⟩ "type" = .ok tag :=
    (Fields.text_eq_ok_iff _ "type").mpr (lookup_type tag description rest)
  simp only [parseShallow, Fields.of, bind, Except.bind, read]

end TypeNode

/-! ### Reading the keys of one variant -/

theorem IntegerType.ofFields_written {t : IntegerType} (ordered : t.Ordered) (variant : String) :
    ofFields ⟨variant, TypeNode.header "integer" t.description ++ TypeNode.integerMembers t⟩ =
      .ok t := by
  simp only [ofFields, Fields.description_mk, Fields.int64?_mk, Fields.int64s?_mk]
  -- Each key is found in its own segment, so only the check of the bounds is left.
  simp only [TypeNode.integerMembers, List.append_assoc, List.lookup_append,
    TypeNode.lookup_header, TypeNode.lookup_member, String.reduceEq, ↓reduceIte, Option.or_self,
    Option.or_none, Option.none_or, Fields.expect_text, Fields.expect_int64,
    Fields.expect_int64s, ok_bind]
  split
  · next minimum maximum least greatest =>
    rw [if_neg (Int.not_lt.mpr (ordered minimum maximum least greatest))]
  · rfl

theorem StringType.ofFields_written {t : StringType}
    (proper : ∀ format, t.format = some format → format.Proper) (variant : String) :
    ofFields ⟨variant, TypeNode.header "string" t.description ++ TypeNode.stringMembers t⟩ =
      .ok t := by
  simp [ofFields, TypeNode.stringMembers, List.lookup_append, Fields.expect_format,
    StringFormat.map_ofName proper]

theorem ObjectShape.ofFields_written (t : ObjectType) (variant tag : String) :
    ofFields ⟨variant, TypeNode.header tag t.description ++ t.keys⟩ =
      .ok (t.withProperties []) := by
  simp [ofFields, keys, List.lookup_append, withProperties]

theorem UnionType.ofFields_written (t : UnionType) (variant : String) :
    ofFields ⟨variant, TypeNode.header "union" t.description ++ (TypeNode.union t).keys⟩ =
      .ok t := by
  obtain ⟨description, refs, closed⟩ := t
  let members := TypeNode.header "union" description ++
    (TypeNode.union ⟨description, refs, closed⟩).keys
  have listed : members.lookup "refs" = some (TypeNode.jsonOfTexts refs) := by
    simp [members, TypeNode.keys, List.lookup_append]
  have flagged : members.lookup "closed" = (if closed then some true else none).map .bool := by
    simp [members, TypeNode.keys, List.lookup_append]
  have documented : members.lookup "description" = description.map .str := by
    simp [members, TypeNode.keys, List.lookup_append]
  have viewed : Fields.viewList Fields.viewText (TypeNode.jsonOfTexts refs) = .ok refs :=
    Fields.viewList_map Fields.viewText .str (fun _ => rfl) refs
  have read : Fields.required ⟨variant, members⟩ "refs" .texts (Fields.viewList Fields.viewText) =
      .ok refs := Fields.required_of_view _ _ _ listed viewed
  simp only [ofFields, members, read, ok_bind, Fields.description_mk, documented,
    Fields.expect_text, Fields.bool?_mk, flagged, Fields.expect_bool]
  -- An open union is written without the flag, and reads as open without it.
  cases closed <;> rfl

namespace TypeNode

/-- A node without its children. -/
def shallow : TypeNode → TypeNode
  | array t => array { t with items := none }
  | object t => object (t.withProperties [])
  | node => node

theorem ofMembers_written {node : TypeNode} (wellFormed : node.WellFormed) :
    ofMembers node.kind (header node.kind node.description? ++ node.keys) = .ok node.shallow := by
  cases wellFormed with
  | integer ordered =>
    simp [ofMembers, kind, keys, description?, shallow, IntegerType.ofFields_written ordered]
  | string proper =>
    simp [ofMembers, kind, keys, description?, shallow, StringType.ofFields_written proper]
  | object distinct properties =>
    simp [ofMembers, kind, keys, description?, shallow, ObjectShape.ofFields_written]
  | union formed =>
    simp [ofMembers, kind, description?, shallow, UnionType.ofFields_written]
  | @ref t formed =>
    have target : Fields.text ⟨"ref", header "ref" t.description ++ (ref t).keys⟩ "ref" =
        .ok t.target := by
      simp [Fields.text_eq_ok_iff, keys, List.lookup_append]
    have documented : Fields.description ⟨"ref", header "ref" t.description ++ (ref t).keys⟩ =
        .ok t.description := by
      simp [keys, List.lookup_append]
    simp only [ofMembers, kind, description?, documented, target, ok_bind]
    rfl
  | _ =>
    simp [ofMembers, kind, keys, description?, shallow, booleanMembers, List.lookup_append]

theorem parseShallow_toJson {node : TypeNode} (wellFormed : node.WellFormed) :
    parseShallow node.toJson = .ok node.shallow := by
  rw [toJson_eq, parseShallow_header, ofMembers_written wellFormed]

/-! ### The children -/

theorem propertiesJson_eq (properties : List (String × TypeNode)) :
    propertiesJson properties = properties.map fun property => (property.1, property.2.toJson) := by
  induction properties with
  | nil => rfl
  | cons property rest ih => rw [propertiesJson, ih, List.map_cons]

/-- Properties with distinct keys read back once their types do. -/
theorem parseProperties_toJson (variant tag : String) {t : ObjectType}
    (distinct : (Entries.keys t.properties).Nodup)
    (each : ∀ name node, (name, node) ∈ t.properties → parse node.toJson = .ok node) :
    parseProperties variant (t.toJson tag) = .ok t.properties := by
  have found : (t.toJson tag).get? "properties" =
      (written? (propertiesJson t.properties)).map .obj := by
    rw [ObjectShape.toJson_eq]
    simp [Json.get?, ObjectShape.keys, List.lookup_append]
  rw [parseProperties_eq, found, ObjectShape.toJson_eq]
  cases empty : t.properties with
  -- Without properties the key is left out, which reads as no properties.
  | nil => rfl
  | cons property rest =>
    rw [← empty]
    have read : (propertiesJson t.properties).mapM parseProperty = .ok t.properties := by
      rw [propertiesJson_eq]
      refine mapM_map_eq_ok_self fun entry inside => ?_
      simp only [parseProperty, each entry.1 entry.2 inside]
      rfl
    have some : written? (propertiesJson t.properties) = some (propertiesJson t.properties) := by
      rw [empty]
      rfl
    simp [some, Fields.of, Except.bind, read, Except.map, Entries.ofPairs_of_nodup distinct]

theorem get?_items (t : ArrayType) : (array t).toJson.get? "items" = t.items.map toJson := by
  rw [toJson_eq]
  simp [Json.get?, keys, List.lookup_append]

theorem toJson_object (t : ObjectType) : (object t).toJson = t.toJson "object" := by
  rw [toJson_eq, ObjectShape.toJson_eq]
  rfl

/-- A well-formed field type reads back from what is written for it. -/
theorem WellFormed.parse_toJson {node : TypeNode} (wellFormed : node.WellFormed) :
    parse node.toJson = .ok node := by
  have known := wellFormed
  induction wellFormed with
  | @array t items ih =>
    -- The items are attached to the array without them.
    rw [parse_eq, parseShallow_toJson known]
    simp only [shallow, Except.bind, Definition.attachNode, get?_items]
    obtain ⟨description, inner, minLength, maxLength⟩ := t
    cases inner with
    | none => rfl
    | some inner =>
      simp only [Option.map_some, ih inner rfl (items inner rfl)]
      rfl
  | @object t distinct properties ih =>
    rw [parse_eq, parseShallow_toJson known]
    simp only [shallow, Except.bind, Definition.attachNode, toJson_object]
    rw [parseProperties_toJson "object" "object" distinct fun name node inside =>
      ih name node inside (properties name node inside)]
    rfl
  | _ =>
    rw [parse_eq, parseShallow_toJson known]
    rfl

/-- Attaching the children to a node without them gives the node. -/
theorem WellFormed.attachNode_toJson {node : TypeNode} (wellFormed : node.WellFormed) :
    Definition.attachNode node.toJson node.shallow = .ok node := by
  have read := wellFormed.parse_toJson
  rwa [parse_eq, parseShallow_toJson wellFormed] at read

end TypeNode

end Lexicon
