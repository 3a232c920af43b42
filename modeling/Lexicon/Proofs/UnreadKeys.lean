import Mathlib.Logic.Relation
import Lexicon.Proofs.DocumentRoundTrip
import Lexicon.Proofs.KnownKeys

/-!
# Lexicon.Proofs.UnreadKeys

Edits of a document that nothing in it is read from.

The members of an object may stand in another order, members may be added that
its tag does not know, and these may be replaced. An edit of a known member is
again such an edit. Definitions, properties and lists of errors keep their order
and their entries.

## Main definition

`Json.Edit`: one edit, at any depth of a document.

## Main results

- `Json.Edit.sameReading`: one edit changes nothing that is read.
- `Document.parse_eq_of_edits`: after any number of edits a document is read as before, and so are
  its faults.

## Proof strategy

An edit of an object leaves what is found under its known keys alone, or changes
it under one of them, to a value that is read alike by induction. That needs the
keys of children to be apart from each other and from the rest.
-/

namespace Lexicon

/-! ### Edits -/

/-- One edit of a value of a document, at any depth. The keys of an object are distinct. -/
inductive Json.Edit : Role → Json → Json → Prop where
  /-- The members of an object are put in another order. -/
  | reorder {role : Role} {keys : KnownKeys} {members others : List (String × Json)}
      (known : role.known? members = some keys) (distinct : (Entries.keys members).Nodup)
      (same : members.Perm others) : Edit role (.obj members) (.obj others)
  /-- A member is added that is not looked up. -/
  | insert {role : Role} {keys : KnownKeys} {before after : List (String × Json)} {key : String}
      {value : Json} (known : role.known? (before ++ after) = some keys) (unread : key ∉ keys.all) :
      Edit role (.obj (before ++ after)) (.obj (before ++ (key, value) :: after))
  /-- What stands under a key that is not looked up is replaced. -/
  | replace {role : Role} {keys : KnownKeys} {before after : List (String × Json)} {key : String}
      {value other : Json} (known : role.known? (before ++ (key, value) :: after) = some keys)
      (unread : key ∉ keys.all) :
      Edit role (.obj (before ++ (key, value) :: after)) (.obj (before ++ (key, other) :: after))
  /-- The value of a known key is edited. -/
  | child {role inner : Role} {keys : KnownKeys} {before after : List (String × Json)}
      {key : String} {value other : Json}
      (known : role.known? (before ++ (key, value) :: after) = some keys)
      (place : (key, inner) ∈ keys.children) (edit : Edit inner value other) :
      Edit role (.obj (before ++ (key, value) :: after)) (.obj (before ++ (key, other) :: after))
  | definition {before after : List (String × Json)} {name : String} {raw other : Json}
      (distinct : (Entries.keys (before ++ (name, raw) :: after)).Nodup)
      (edit : Edit .definition raw other) :
      Edit .definitions (.obj (before ++ (name, raw) :: after))
        (.obj (before ++ (name, other) :: after))
  | property {before after : List (String × Json)} {name : String} {raw other : Json}
      (edit : Edit .node raw other) :
      Edit .properties (.obj (before ++ (name, raw) :: after))
        (.obj (before ++ (name, other) :: after))
  | declaredError {before after : List Json} {raw other : Json}
      (edit : Edit .declaredError raw other) :
      Edit .errors (.arr (before ++ raw :: after)) (.arr (before ++ other :: after))

/-! ### Keys of children -/

namespace KnownKeys

/-- The keys under which any object has children. -/
def childKeys : List String :=
  ["defs", "record", "parameters", "input", "output", "message", "errors", "schema", "items",
    "properties"]

/-- Every child has a key of its own, apart from the other known keys. -/
structure Apart (keys : KnownKeys) : Prop where
  distinct : (Entries.keys keys.children).Nodup
  children : ∀ key ∈ Entries.keys keys.children, key ∈ childKeys
  own : ∀ key ∈ keys.own, key ∉ childKeys

theorem apart_tagged {ofTag : String → KnownKeys} (apart : ∀ tag, (ofTag tag).Apart)
    (members : List (String × Json)) : (tagged ofTag members).Apart := by
  unfold tagged
  split
  · next tag _ =>
    exact ⟨(apart tag).distinct, (apart tag).children,
      List.forall_mem_cons.mpr ⟨by decide, (apart tag).own⟩⟩
  · exact ⟨by decide, by decide, by decide⟩

end KnownKeys

theorem TypeNode.notMem_childKeys (tag : String) :
    ∀ key ∈ ownKeys tag, key ∉ KnownKeys.childKeys := by
  unfold ownKeys
  split <;> decide

theorem TypeNode.apart_knownKeys (tag : String) : (knownKeys tag).Apart where
  distinct := by
    unfold knownKeys
    dsimp only
    split <;> decide
  children := by
    unfold knownKeys
    dsimp only
    split <;> decide
  own := notMem_childKeys tag

theorem Definition.apart_knownKeys (tag : String) : (knownKeys tag).Apart where
  distinct := by
    cases tag using tag_cases with
    | record | query | procedure | subscription | token => decide
    | type tag unlisted =>
      rw [knownKeys_of_unlisted unlisted]
      exact (TypeNode.apart_knownKeys tag).distinct
  children := by
    cases tag using tag_cases with
    | record | query | procedure | subscription | token => decide
    | type tag unlisted =>
      rw [knownKeys_of_unlisted unlisted]
      exact (TypeNode.apart_knownKeys tag).children
  own := by
    refine List.forall_mem_cons.mpr ⟨by decide, ?_⟩
    split
    · decide
    · exact TypeNode.notMem_childKeys tag

theorem Definition.apart_parameterKeys (tag : String) : (parameterKeys tag).Apart := by
  unfold parameterKeys
  split <;> exact ⟨by decide, by decide, by decide⟩

theorem Role.apart_of_known {role : Role} {keys : KnownKeys} {members : List (String × Json)}
    (known : role.known? members = some keys) : keys.Apart := by
  cases role with
  | document | body | message | declaredError =>
    cases known
    exact ⟨by decide, by decide, by decide⟩
  | definition =>
    cases known
    exact KnownKeys.apart_tagged Definition.apart_knownKeys members
  | node =>
    cases known
    exact KnownKeys.apart_tagged TypeNode.apart_knownKeys members
  | parameters =>
    cases known
    exact KnownKeys.apart_tagged Definition.apart_parameterKeys members
  | definitions | properties | errors => cases known

/-! ### Edited objects -/

namespace KnownKeys

variable {keys : KnownKeys} {members others before after : List (String × Json)}

/-- Objects in which the same is found under every known key. -/
theorem Agree.of_lookup (same : ∀ key ∈ keys.all, members.lookup key = others.lookup key) :
    keys.Agree members others where
  own := fun key inside => same key (List.mem_append_left _ inside)
  children := by
    intro key role inside
    rw [same key (List.mem_append_right _ (Entries.mem_keys_of_mem inside))]
    cases others.lookup key with
    | none => exact .none
    | some value => exact .some (Role.SameReading.refl role value)

theorem Agree.of_perm (distinct : (Entries.keys members).Nodup) (same : members.Perm others) :
    keys.Agree members others :=
  .of_lookup fun _ _ => Entries.lookup_perm distinct same

theorem Agree.of_insert {key : String} (value : Json) (unread : key ∉ keys.all) :
    keys.Agree (before ++ after) (before ++ (key, value) :: after) :=
  .of_lookup fun _ inside =>
    (Entries.lookup_insert_of_ne value (ne_of_mem_of_not_mem inside unread)).symm

theorem Agree.of_replace {key : String} (value other : Json) (unread : key ∉ keys.all) :
    keys.Agree (before ++ (key, value) :: after) (before ++ (key, other) :: after) :=
  .of_lookup fun _ inside =>
    Entries.lookup_replace_of_ne value other (ne_of_mem_of_not_mem inside unread)

/-- A child may be replaced by one that is read alike. -/
theorem Agree.of_child (apart : keys.Apart) {key : String} {inner : Role} {value other : Json}
    (place : (key, inner) ∈ keys.children) (alike : inner.SameReading value other) :
    keys.Agree (before ++ (key, value) :: after) (before ++ (key, other) :: after) where
  own := by
    intro found inside
    have different : found ≠ key := fun same =>
      apart.own found inside (same ▸ apart.children key (Entries.mem_keys_of_mem place))
    exact Entries.lookup_replace_of_ne value other different
  children := by
    intro found role inside
    by_cases same : found = key
    · subst found
      cases (Entries.lookup_of_mem apart.distinct inside).symm.trans
        (Entries.lookup_of_mem apart.distinct place)
      -- An earlier member under the key is found in either object.
      rw [List.lookup_append, List.lookup_append, Entries.lookup_cons_self,
        Entries.lookup_cons_self]
      cases before.lookup key with
      | none => exact .some alike
      | some earlier => exact .some (Role.SameReading.refl inner earlier)
    · rw [Entries.lookup_replace_of_ne value other same]
      cases (before ++ (key, other) :: after).lookup found with
      | none => exact .none
      | some held => exact .some (Role.SameReading.refl role held)

end KnownKeys

/-! ### Edited values -/

theorem TypeNode.parseProperty_congr {name : String} {raw other : Json}
    (alike : TypeNode.SameReading raw other) :
    parseProperty (name, raw) = parseProperty (name, other) := by
  simp only [parseProperty, alike.whole]

theorem Json.Edit.sameReading {role : Role} {value other : Json} (edit : Edit role value other) :
    role.SameReading value other := by
  induction edit with
  | reorder known distinct same => exact Role.sameReading_obj known (.of_perm distinct same)
  | insert known unread => exact Role.sameReading_obj known (.of_insert _ unread)
  | replace known unread => exact Role.sameReading_obj known (.of_replace _ _ unread)
  | child known place _ ih =>
    exact Role.sameReading_obj known (.of_child (Role.apart_of_known known) place ih)
  | definition distinct _ ih =>
    exact .inr ⟨_, _, rfl, rfl, Document.parseDefinitions_replaced distinct ih⟩
  | property _ ih =>
    exact .inr ⟨_, _, rfl, rfl, mapM_replaced (TypeNode.parseProperty_congr ih)⟩
  | @declaredError before after raw other _ ih =>
    refine .inr ⟨_, _, rfl, rfl, fun variant => ?_⟩
    rw [List.zipIdx_append, List.zipIdx_append, List.zipIdx_cons, List.zipIdx_cons]
    exact mapM_replaced (ih variant _)

namespace Document

/-- Any number of edits, at any depth, change neither what is read from a document nor, where it is
refused, the fault that is reported. -/
theorem parse_eq_of_edits {value other : Json}
    (edits : Relation.ReflTransGen (Json.Edit .document) value other) :
    parse other = parse value := by
  induction edits with
  | refl => rfl
  | tail _ edit ih =>
    have same : parse _ = parse _ := edit.sameReading
    rw [← same, ih]

/-- The main definition of a post with the given type of its tags. -/
def postMain (tags : Json) : Json :=
  .obj ([("type", .str "record"), ("key", .str "tid")] ++
    ("record", .obj ([("type", .str "object"), ("required", .arr [.str "tags"])] ++
      ("properties", .obj ([] ++ ("tags", tags) ::
        [("reply", .obj [("type", .str "ref"), ("ref", .str "#main")])])) :: [])) :: [])

/-- A post with the given type of its tags. -/
def postMembers (tags : Json) : List (String × Json) :=
  [("lexicon", .int 1), ("id", .str "com.example.post"), ("description", .str "A post.")] ++
    ("defs", .obj ([] ++ ("main", postMain tags) :: [("end", .obj [("type", .str "token")])])) :: []

/-- Tags with further keys. -/
def postTags (further : List (String × Json)) : Json :=
  .obj ([("type", .str "array")] ++ (further ++
    [("items", .obj [("type", .str "integer"), ("minimum", .int 0), ("maximum", .int 9)]),
      ("maxLength", .int 3)]))

theorem parse_eq_of_edits_postDocument :
    Relation.ReflTransGen (Json.Edit .document) postDocument.toJson
        (.obj (postMembers (postTags [("minimum", .str "none")])).reverse) ∧
      parse (.obj (postMembers (postTags [("minimum", .str "none")])).reverse) =
        .ok postDocument := by
  -- An array does not know the bounds of its items.
  have tags : Json.Edit .node (postTags []) (postTags [("minimum", .str "none")]) :=
    .insert rfl (by decide)
  have main : Json.Edit .definition (postMain (postTags []))
      (postMain (postTags [("minimum", .str "none")])) :=
    .child rfl (List.mem_singleton_self _)
      (.child rfl (List.mem_singleton_self _) (.property tags))
  have whole : Json.Edit .document (.obj (postMembers (postTags [])))
      (.obj (postMembers (postTags [("minimum", .str "none")]))) :=
    .child rfl (List.mem_singleton_self _) (.definition (by decide) main)
  have order : Json.Edit .document (.obj (postMembers (postTags [("minimum", .str "none")])))
      (.obj (postMembers (postTags [("minimum", .str "none")])).reverse) :=
    .reorder rfl (by decide) (List.reverse_perm _).symm
  have edits := (Relation.ReflTransGen.single whole).tail order
  exact ⟨edits, (parse_eq_of_edits edits).trans (parse_toJson postDocument_wellFormed)⟩

end Document

end Lexicon
