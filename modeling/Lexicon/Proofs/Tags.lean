import Lexicon.Schema.Definition

/-!
# Lexicon.Proofs.Tags

The tags of schema documents, one by one.

A tag is a text, and so is any other text that stands in its place. What is
proved of a reader by its tag has one case for each tag that the reader knows,
under the name of the type or definition, and one for all other texts.

## Main definition

- `TypeNode.tags`: the tags of field types.

## Main results

- `TypeNode.tag_cases`, `Definition.tag_cases`: the cases of a tag.
- `TypeNode.ofMembers_of_unlisted`, `Definition.ofTag_of_unlisted`: what is read
  under any other tag.
-/

namespace Lexicon

namespace TypeNode

/-- The tags of field types. -/
def tags : List String :=
  ["null", "boolean", "integer", "string", "bytes", "cid-link", "blob", "array", "object", "ref",
   "union", "unknown"]

theorem kind_mem_tags (node : TypeNode) : node.kind ∈ tags := by
  cases node <;> simp [kind, tags]

/-- What holds for the tag of each field type and for all other texts holds for every tag. -/
@[elab_as_elim]
theorem tag_cases {motive : String → Prop} (null : motive "null") (boolean : motive "boolean")
    (integer : motive "integer") (string : motive "string") (bytes : motive "bytes")
    (cidLink : motive "cid-link") (blob : motive "blob") (array : motive "array")
    (object : motive "object") (ref : motive "ref") (union : motive "union")
    (unknown : motive "unknown") (other : ∀ tag, tag ∉ tags → motive tag) (tag : String) :
    motive tag := by
  by_cases listed : tag ∈ tags
  · simp only [tags, List.mem_cons, List.not_mem_nil, or_false] at listed
    rcases listed with rfl | rfl | rfl | rfl | rfl | rfl | rfl | rfl | rfl | rfl | rfl | rfl <;>
      assumption
  · exact other tag listed

/-- A tag of no field type is refused, with a word of its own if it belongs to a definition. -/
theorem ofMembers_of_unlisted {tag : String} (unlisted : tag ∉ tags)
    (members : List (String × Json)) :
    ofMembers tag members =
      if definitionTags.contains tag then .error (.here (.misplacedTag tag))
      else .error (.here (.unknownTag tag)) := by
  unfold ofMembers
  split <;> first | exact absurd (by decide) unlisted | rfl

end TypeNode

namespace Definition

/-- What holds for the tag of each definition that is no field type and for all other texts holds
for every tag. -/
@[elab_as_elim]
theorem tag_cases {motive : String → Prop} (record : motive "record") (query : motive "query")
    (procedure : motive "procedure") (subscription : motive "subscription")
    (token : motive "token") (type : ∀ tag, tag ∉ definitionTags → motive tag) (tag : String) :
    motive tag := by
  by_cases listed : tag ∈ definitionTags
  · simp only [definitionTags, List.mem_cons, List.not_mem_nil, or_false] at listed
    rcases listed with rfl | rfl | rfl | rfl | rfl <;> assumption
  · exact type tag listed

/-- A definition under any other tag is a field type, or none at all. -/
theorem ofTag_of_unlisted {tag : String} (unlisted : tag ∉ definitionTags) (value : Json)
    (f : Fields) (description : Option String) :
    ofTag value f description tag =
      TypeNode.parseShallow value >>= fun node => .ok (.data node) := by
  unfold ofTag
  split <;> first | exact absurd (by decide) unlisted | rfl

end Definition

end Lexicon
