import Lexicon.Proofs.Tags
import Lexicon.Schema.Document

/-!
# Lexicon.Proofs.FieldAgreement

Readers look keys up by name.

What a reader makes of a node depends on the variant that errors name and on
the values of the keys that it asks for, whatever else the node holds and in
whatever order. So two nodes that hold the same values under these keys are
read alike, faults included.

## Main definition

- `Fields.AgreeOn`: two nodes hold the same values under some keys.

## Main results

- `TypeNode.ofMembers_congr`: the keys of a type node, by its tag.
- `Document.parseVersion_congr` and its kin: the header of a document.
-/

namespace Lexicon

namespace Fields

/-- Two nodes of one variant hold the same values under some keys. -/
structure AgreeOn (keys : List String) (f g : Fields) : Prop where
  variant : f.variant = g.variant
  raw? : ∀ key ∈ keys, f.raw? key = g.raw? key

namespace AgreeOn

variable {keys : List String} {f g : Fields} (agree : AgreeOn keys f g)
include agree

theorem invalid (key : String) (fault : KeyFault) : f.invalid key fault = g.invalid key fault := by
  rw [Fields.invalid, Fields.invalid, agree.variant]

theorem missing (key : String) : f.missing key = g.missing key := by
  rw [Fields.missing, Fields.missing, agree.variant]

variable {α : Type} (key : String) (known : key ∈ keys)
include known

theorem optional (shape : KeyShape) (view : Json → Except Kind α) :
    f.optional key shape view = g.optional key shape view := by
  simp only [Fields.optional, agree.raw? key known, agree.invalid]

theorem required (shape : KeyShape) (view : Json → Except Kind α) :
    f.required key shape view = g.required key shape view := by
  simp only [Fields.required, agree.optional key known, agree.missing]

theorem text? : f.text? key = g.text? key := agree.optional key known _ _

theorem text : f.text key = g.text key := agree.required key known _ _

theorem bool? : f.bool? key = g.bool? key := agree.optional key known _ _

theorem int64? : f.int64? key = g.int64? key := agree.optional key known _ _

theorem uint64? : f.uint64? key = g.uint64? key := agree.optional key known _ _

theorem texts? : f.texts? key = g.texts? key := agree.optional key known _ _

theorem int64s? : f.int64s? key = g.int64s? key := agree.optional key known _ _

omit known in
theorem description (known : "description" ∈ keys) : f.description = g.description :=
  agree.text? "description" known

end AgreeOn

end Fields

/-! ### Type nodes -/

open Fields (AgreeOn)

theorem IntegerType.ofFields_congr {f g : Fields}
    (agree : AgreeOn ["description", "minimum", "maximum", "enum", "const", "default"] f g) :
    ofFields f = ofFields g := by
  simp only [ofFields, agree.description (by simp), agree.int64? "minimum" (by simp),
    agree.int64? "maximum" (by simp), agree.int64s? "enum" (by simp),
    agree.int64? "const" (by simp), agree.int64? "default" (by simp), agree.invalid]

theorem StringType.ofFields_congr {f g : Fields}
    (agree : AgreeOn ["description", "format", "minLength", "maxLength", "minGraphemes",
      "maxGraphemes", "enum", "const", "knownValues", "default"] f g) :
    ofFields f = ofFields g := by
  simp only [ofFields, agree.description (by simp), agree.text? "format" (by simp),
    agree.uint64? "minLength" (by simp), agree.uint64? "maxLength" (by simp),
    agree.uint64? "minGraphemes" (by simp), agree.uint64? "maxGraphemes" (by simp),
    agree.texts? "enum" (by simp), agree.text? "const" (by simp),
    agree.texts? "knownValues" (by simp), agree.text? "default" (by simp)]

theorem ObjectShape.ofFields_congr {f g : Fields}
    (agree : AgreeOn ["description", "required", "nullable"] f g) : ofFields f = ofFields g := by
  simp only [ofFields, agree.description (by simp), agree.texts? "required" (by simp),
    agree.texts? "nullable" (by simp)]

theorem UnionType.ofFields_congr {f g : Fields}
    (agree : AgreeOn ["description", "refs", "closed"] f g) : ofFields f = ofFields g := by
  simp only [ofFields, agree.description (by simp), agree.required "refs" (by simp),
    agree.bool? "closed" (by simp)]

namespace TypeNode

/-- The keys of a node of the given tag that are not read as types. -/
def ownKeys (tag : String) : List String :=
  match tag with
  | "null" | "cid-link" | "unknown" => ["description"]
  | "boolean" => ["description", "default", "const"]
  | "integer" => ["description", "minimum", "maximum", "enum", "const", "default"]
  | "string" =>
    ["description", "format", "minLength", "maxLength", "minGraphemes", "maxGraphemes", "enum",
      "const", "knownValues", "default"]
  | "bytes" | "array" => ["description", "minLength", "maxLength"]
  | "blob" => ["description", "accept", "maxSize"]
  | "object" => ["description", "required", "nullable"]
  | "ref" => ["description", "ref"]
  | "union" => ["description", "refs", "closed"]
  | _ => []

theorem ofMembers_congr {tag : String} {members others : List (String × Json)}
    (agree : ∀ key ∈ ownKeys tag, members.lookup key = others.lookup key) :
    ofMembers tag members = ofMembers tag others := by
  have fields : AgreeOn (ownKeys tag) ⟨tag, members⟩ ⟨tag, others⟩ := ⟨rfl, agree⟩
  cases tag using tag_cases with
  | null | cidLink | unknown => simp only [ofMembers, fields.description (by simp [ownKeys])]
  | boolean =>
    simp only [ofMembers, fields.description (by simp [ownKeys]),
      fields.bool? "default" (by simp [ownKeys]), fields.bool? "const" (by simp [ownKeys])]
  | integer => simp only [ofMembers, IntegerType.ofFields_congr fields]
  | string => simp only [ofMembers, StringType.ofFields_congr fields]
  | bytes | array =>
    simp only [ofMembers, fields.description (by simp [ownKeys]),
      fields.uint64? "minLength" (by simp [ownKeys]),
      fields.uint64? "maxLength" (by simp [ownKeys])]
  | blob =>
    simp only [ofMembers, fields.description (by simp [ownKeys]),
      fields.texts? "accept" (by simp [ownKeys]), fields.uint64? "maxSize" (by simp [ownKeys])]
  | object => simp only [ofMembers, ObjectShape.ofFields_congr fields]
  | ref =>
    simp only [ofMembers, fields.description (by simp [ownKeys]),
      fields.text "ref" (by simp [ownKeys])]
  | union => simp only [ofMembers, UnionType.ofFields_congr fields]
  | other tag unlisted => rw [ofMembers_of_unlisted unlisted, ofMembers_of_unlisted unlisted]

end TypeNode

/-! ### Headers of documents -/

namespace Document

variable {keys : List String} {f g : Fields}

theorem parseVersion_congr (agree : AgreeOn keys f g) (known : "lexicon" ∈ keys) :
    parseVersion f = parseVersion g :=
  agree.required "lexicon" known _ _

theorem parseId_congr (agree : AgreeOn keys f g) (known : "id" ∈ keys) : parseId f = parseId g := by
  simp only [parseId, agree.text "id" known, agree.invalid]

end Document

end Lexicon
