import Lexicon.Generation.Generator
import Lexicon.Proofs.Boxing

/-!
# Lexicon.Proofs.Dependencies

What a document can look up.

Every definition lists the references that it holds. Here the references are
followed from a document through the documents that a registry holds, which
gives a set of identifiers. Two registries that hold the same documents under
these identifiers cannot be told apart by validating against the document or
by generating it.

## Main definitions

- `Document.Consulted`: the identifiers that references lead to.
- `Document.InView`: the documents that are held under them.

## Main result

`Document.results_eq_of_consulted`: only the documents under consulted
identifiers matter.

## Proof strategy

The validator and the type mapper are both solutions of equations in which one
step asks for the results of other steps. A step at a document in view makes
the same look-ups in both registries and asks only for steps at documents in
view. The search for boxed fields is settled by reachability, since its bound
does depend on the rest of the registry.
-/

namespace Lexicon

/-! ### Two recursions -/

/-- Two recursions agree where their steps do, if the calls do not lead elsewhere. -/
theorem agree_of_steps {α β : Type} {calls : α → α → Prop} {within : α → Prop}
    {f g : α → β} {step other : (α → β) → α → β}
    (ends : WellFounded fun later earlier => calls earlier later)
    (solved : ∀ a, f a = step f a) (otherSolved : ∀ a, g a = other g a)
    (congr : ∀ {ask again : α → β} {a : α}, (∀ later, calls a later → ask later = again later) →
      step ask a = step again a)
    (same : ∀ ask a, within a → step ask a = other ask a)
    (stays : ∀ a later, within a → calls a later → within later) {a : α} (inside : within a) :
    f a = g a := by
  -- The induction is on the calls: what is called agrees, so the step of one recursion may ask the
  -- other one.
  induction a using ends.induction with
  | h a ih =>
    have called : ∀ later, calls a later → f later = g later :=
      fun later asked => ih later asked (stays a later inside asked)
    calc f a = step f a := solved a
      _ = step g a := congr called
      _ = other g a := same g a inside
      _ = g a := (otherSolved a).symm

/-- A path stays in a closed set, and is a path of every relation that agrees there. -/
theorem path_of_closed {α : Type} {r s : α → α → Prop} {within : α → Prop}
    (stays : ∀ a b, within a → r a b → within b ∧ s a b) {a b : α} (inside : within a)
    (path : Relation.ReflTransGen r a b) : within b ∧ Relation.ReflTransGen s a b := by
  induction path with
  | refl => exact ⟨inside, .refl⟩
  | tail _ edge ih =>
    obtain ⟨there, path⟩ := ih
    obtain ⟨next, edge⟩ := stays _ _ there edge
    exact ⟨next, path.tail edge⟩

/-! ### References of parts -/

theorem TypeNode.dependencies_of_items {t : ArrayType} {items : TypeNode}
    (given : t.items = some items) : items.dependencies ⊆ (TypeNode.array t).dependencies := by
  obtain ⟨description, _, minLength, maxLength⟩ := t
  intro reference inside
  rw [dependencies]
  exact mem_itemDependencies.mpr ⟨items, given, inside⟩

theorem TypeNode.dependencies_of_property {t : ObjectType} {name : String} {node : TypeNode}
    (held : (name, node) ∈ t.properties) :
    node.dependencies ⊆ (TypeNode.object t).dependencies := by
  intro reference inside
  rw [Definition.dependencies_object]
  exact mem_propertyDependencies.mpr ⟨name, node, held, inside⟩

theorem Definition.dependencies_of_target {definition : Definition} {reference : String}
    {node : TypeNode} (typed : definition.target reference = .ok node) :
    node.dependencies ⊆ definition.dependencies := by
  unfold Definition.target at typed
  split at typed
  · cases typed
    rw [dependencies_object]
    exact List.Subset.refl _
  · cases typed
    exact List.Subset.refl _
  · cases typed

theorem Definition.dependencies_of_object? {definition : Definition} {object : ObjectType}
    (struct : definition.object? = some object) :
    (TypeNode.object object).dependencies ⊆ definition.dependencies := by
  rw [dependencies_object]
  rcases object?_eq_some_iff.mp struct with rfl | ⟨description, key, rfl⟩
  · rw [dependencies, dependencies_object]
    exact List.Subset.refl _
  · exact List.Subset.refl _

/-- A reference that is followed stands in the node. -/
theorem Move.mem_dependencies {scope : Option Document} {value : Json} {node : TypeNode}
    {reference : String} {strict : Bool}
    (asked : Move.ofNode scope value node = .follow reference strict) :
    reference ∈ node.dependencies := by
  cases node with
  | ref t =>
    cases asked
    rw [TypeNode.dependencies]
    exact List.mem_singleton_self _
  | union t =>
    rw [TypeNode.dependencies]
    change Move.ofUnion scope t value = _ at asked
    unfold Move.ofUnion at asked
    -- A union is followed to a member that it lists, or not at all.
    split at asked
    · split at asked
      · cases asked
      · split at asked
        · next member selected =>
          cases asked
          exact List.mem_of_find?_eq_some selected
        · split at asked <;> cases asked
    · cases asked
  | _ => cases asked

/-! ### Documents in view -/

namespace Document

/-- All references in the definitions of a document. -/
def references (doc : Document) : List String :=
  doc.definitions.flatMap fun (_, definition) => definition.dependencies

/-- A reference in a document stands for an identifier. -/
def Mentions (doc : Document) (id : Nsid) : Prop :=
  ∃ text ∈ doc.references, (Reference.parse text).bind (·.absolute doc.id) = .ok id

/-- The identifiers of documents that references lead to, from a document through those that a
registry holds. -/
inductive Consulted (doc : Document) (registry : Registry) : Nsid → Prop where
  | self : Consulted doc registry doc.id
  | own {id : Nsid} (mentioned : doc.Mentions id) : Consulted doc registry id.base
  | held {known id : Nsid} {other : Document} (consulted : Consulted doc registry known)
      (held : registry.get? known = some other) (mentioned : other.Mentions id) :
      Consulted doc registry id.base

/-- The document itself, and what the registry holds under a consulted identifier. -/
def InView (doc : Document) (registry : Registry) (other : Document) : Prop :=
  other = doc ∨ ∃ id, doc.Consulted registry id ∧ registry.get? id = some other

/-- Another registry holds the same under all consulted identifiers. -/
structure SameView (doc : Document) (registry other : Registry) : Prop where
  main : doc.id.fragment = none
  agree : ∀ id, doc.Consulted registry id → other.get? id = registry.get? id

theorem references_of_definition {doc : Document} {name : String} {definition : Definition}
    (found : doc.definition? name = some definition) :
    definition.dependencies ⊆ doc.references := by
  intro text inside
  exact List.mem_flatMap.mpr ⟨_, Json.mem_of_lookup found, inside⟩

variable {doc : Document} {registry : Registry}

theorem InView.consulted {inner : Document} {id : Nsid} (view : doc.InView registry inner)
    (mentioned : inner.Mentions id) : doc.Consulted registry id.base := by
  rcases view with rfl | ⟨known, consulted, held⟩
  · exact .own mentioned
  · exact .held consulted held mentioned

namespace SameView

variable {other : Registry} {inner : Document} {text : String} (same : doc.SameView registry other)
include same

theorem fragment (view : doc.InView registry inner) : inner.id.fragment = none := by
  rcases view with rfl | ⟨id, _, held⟩
  · exact same.main
  · exact Registry.fragment_of_get? held

theorem get?_eq {id : Nsid} (consulted : doc.Consulted registry id.base) :
    other.get? id = registry.get? id := by
  have base : id.base = id.base.base := rfl
  rw [Registry.get?_congr base, same.agree _ consulted, ← Registry.get?_congr base]

theorem owner?_eq {id : Nsid} (consulted : doc.Consulted registry id.base) :
    TypeMapper.owner? (some registry) inner id = TypeMapper.owner? (some other) inner id := by
  simp only [TypeMapper.owner?, Option.bind_some, same.get?_eq consulted]

omit same in
theorem inView_of_owner? (view : doc.InView registry inner) {id : Nsid} {owner : Document}
    (consulted : doc.Consulted registry id.base)
    (owned : TypeMapper.owner? (some registry) inner id = some owner) :
    doc.InView registry owner := by
  unfold TypeMapper.owner? at owned
  split at owned
  · cases owned
    exact view
  · refine .inr ⟨id.base, consulted, ?_⟩
    rw [← owned]
    exact Registry.get?_congr rfl

theorem ofText_eq (view : doc.InView registry inner) (inside : text ∈ inner.references) :
    Lookup.ofText (some registry) (some inner) text =
      Lookup.ofText (some other) (some inner) text := by
  unfold Lookup.ofText
  split
  · next target parsed =>
    cases target with
    | fragment name => rfl
    | external id =>
      have mentioned : inner.Mentions id := ⟨text, inside, by rw [parsed]; rfl⟩
      have found := same.get?_eq (view.consulted mentioned)
      simp only [Lookup.ofReference, Lookup.inRegistry, found]
  · rfl

theorem inView_of_ofText (view : doc.InView registry inner) (inside : text ∈ inner.references)
    {owner : Document} {definition : Definition}
    (found : Lookup.ofText (some registry) (some inner) text = .found owner definition) :
    doc.InView registry owner ∧ definition.dependencies ⊆ owner.references := by
  obtain ⟨id, absolute, owned, _, defined⟩ :=
    (Lookup.ofText_eq_found_iff.mp found).absolute (same.fragment view)
  have consulted := view.consulted ⟨text, inside, absolute⟩
  exact ⟨inView_of_owner? view consulted owned, references_of_definition defined⟩

end SameView

end Document

/-! ### The validator -/

namespace Visit

variable {doc : Document} {registry other : Registry}

/-- What is visited stands in a document in view. -/
def InView (doc : Document) (registry : Registry) : Visit → Prop
  | .atNode _ scope node _ => ∃ inner, scope = some inner ∧ doc.InView registry inner ∧
      node.dependencies ⊆ inner.references
  | .atDefinition _ inner definition _ _ => doc.InView registry inner ∧
      definition.dependencies ⊆ inner.references

theorem InView.calls (same : doc.SameView registry other) {visit later : Visit}
    (view : visit.InView doc registry) (calls : Calls (some registry) visit later) :
    later.InView doc registry := by
  cases calls with
  | follow asked found =>
    obtain ⟨inner, rfl, view, held⟩ := view
    exact same.inView_of_ofText view (held (Move.mem_dependencies asked)) found
  | target typed =>
    obtain ⟨view, held⟩ := view
    exact ⟨_, rfl, view, List.Subset.trans (Definition.dependencies_of_target typed) held⟩
  | element given inside =>
    obtain ⟨inner, here, view, held⟩ := view
    exact ⟨inner, here, view, List.Subset.trans (TypeNode.dependencies_of_items given) held⟩
  | member declared found present =>
    obtain ⟨inner, here, view, held⟩ := view
    have part := TypeNode.dependencies_of_property (Json.mem_of_lookup declared)
    exact ⟨inner, here, view, List.Subset.trans part held⟩

theorem step_eq (same : doc.SameView registry other) (options : ValidationOptions)
    (ask : Visit → List Finding) (visit : Visit) (view : visit.InView doc registry) :
    step { options, registry := some registry } ask visit =
      step { options, registry := some other } ask visit := by
  cases visit with
  | atDefinition hops inner definition reference value => rfl
  | atNode hops scope node value =>
    obtain ⟨inner, rfl, view, held⟩ := view
    simp only [step]
    split
    · rfl
    · rfl
    · rfl
    · next reference strict asked =>
      -- The registry is asked for references only.
      have found := same.ofText_eq view (held (Move.mem_dependencies asked))
      simp only [found]

theorem findings_eq (same : doc.SameView registry other) (options : ValidationOptions)
    {visit : Visit} (view : visit.InView doc registry) :
    findings { options, registry := some registry } visit =
      findings { options, registry := some other } visit :=
  agree_of_steps (calls_wellFounded (some registry)) (findings_eq_step _) (findings_eq_step _)
    (fun agree => step_congr agree) (step_eq same options)
    (fun _ _ view calls => view.calls same calls) view

end Visit

theorem Validator.checkDefinition_eq {doc : Document} {registry other : Registry}
    (same : doc.SameView registry other) (options : ValidationOptions) (value : Json)
    (name : String) :
    checkDefinition { options, registry := some registry } value doc name =
      checkDefinition { options, registry := some other } value doc name := by
  unfold checkDefinition
  split
  · rfl
  · next definition found =>
    dsimp only
    split
    · next node typed =>
      have held := List.Subset.trans (Definition.dependencies_of_target typed)
        (Document.references_of_definition found)
      have view : (Visit.atNode maxHops (some doc) node value).InView doc registry :=
        ⟨doc, rfl, .inl rfl, held⟩
      rw [check_eq_checkWithin, check_eq_checkWithin]
      exact Visit.findings_eq same options view
    · rfl

/-! ### The type mapper -/

namespace MapVisit

variable {doc : Document} {registry other : Registry}

/-- What is visited stands in a document in view, and is consulted by its identifier. -/
def InView (doc : Document) (registry : Registry) : MapVisit → Prop
  | .atNode _ inner node => doc.InView registry inner ∧ node.dependencies ⊆ inner.references
  | .atDefinition _ id _ owner definition => doc.Consulted registry id.base ∧
      doc.InView registry owner ∧ definition.dependencies ⊆ owner.references

theorem consulted_of_absolute {inner : Document} {t : RefType} {id : Nsid}
    (view : doc.InView registry inner)
    (held : (TypeNode.ref t).dependencies ⊆ inner.references)
    (absolute : (Reference.parse t.target).bind (·.absolute inner.id) = .ok id) :
    doc.Consulted registry id.base := by
  have inside : t.target ∈ (TypeNode.ref t).dependencies := by simp [TypeNode.dependencies]
  exact view.consulted ⟨t.target, held inside, absolute⟩

theorem InView.calls {visit later : MapVisit} (view : visit.InView doc registry)
    (calls : Calls (some registry) visit later) : later.InView doc registry := by
  cases calls with
  | items given =>
    obtain ⟨view, held⟩ := view
    exact ⟨view, List.Subset.trans (TypeNode.dependencies_of_items given) held⟩
  | follow absolute owned found =>
    obtain ⟨view, held⟩ := view
    have consulted := consulted_of_absolute view held absolute
    exact ⟨consulted, Document.SameView.inView_of_owner? view consulted owned,
      Document.references_of_definition found⟩
  | transparent noStruct =>
    obtain ⟨_, view, held⟩ := view
    exact ⟨view, held⟩

theorem step_eq (same : doc.SameView registry other) (ask : MapVisit → Mapping)
    (visit : MapVisit) (view : visit.InView doc registry) :
    step (some registry) ask visit = step (some other) ask visit := by
  cases visit with
  | atDefinition hops id external owner definition => rfl
  | atNode hops inner node =>
    obtain ⟨view, held⟩ := view
    cases node with
    | ref t =>
      cases hops with
      | zero => rfl
      | succ hops =>
        simp only [step]
        split
        · rfl
        · next id absolute =>
          rw [same.owner?_eq (consulted_of_absolute view held absolute)]
    | _ => rfl

theorem mapping_eq (same : doc.SameView registry other) {visit : MapVisit}
    (view : visit.InView doc registry) :
    mapping (some registry) visit = mapping (some other) visit :=
  agree_of_steps (calls_wellFounded (some registry)) (mapping_eq_step _) (mapping_eq_step _)
    step_congr (step_eq same) (fun _ _ view calls => view.calls calls) view

theorem consulted_of_target {visit : MapVisit} (view : visit.InView doc registry) {target : Nsid}
    (mapped : (mapping (some registry) visit).target? = some target) :
    doc.Consulted registry target.base := by
  -- The target comes from the last visit, so the view is carried along the calls to it.
  induction visit using (calls_wellFounded (some registry)).induction with
  | h visit ih =>
    rw [mapping_eq_step] at mapped
    cases visit with
    | atNode hops inner node =>
      cases node with
      | array t => cases given : t.items <;> simp [step, given, Mapping.target?] at mapped
      | ref t =>
        cases hops with
        | zero => cases mapped
        | succ hops =>
          simp only [step] at mapped
          split at mapped
          · cases mapped
          · next id absolute =>
            have consulted := consulted_of_absolute view.1 view.2 absolute
            split at mapped
            · cases mapped
              exact consulted
            · next owner owned =>
              split at mapped
              · cases mapped
                exact consulted
              · next definition found =>
                have calls : Calls (some registry) (.atNode (hops + 1) inner (.ref t))
                    (.atDefinition hops id (id.base ≠ inner.id) owner definition) :=
                  .follow absolute owned found
                exact ih _ calls (view.calls calls) mapped
      | string t =>
        simp only [step, TypeMapper.mapWith] at mapped
        split at mapped <;> cases mapped
      | _ => cases mapped
    | atDefinition hops id external owner definition =>
      cases definition with
      | record description key object =>
        cases mapped
        exact view.1
      | data node =>
        cases node with
        | object object =>
          cases mapped
          exact view.1
        | _ => exact ih (.atNode hops owner _) (.transparent rfl) ⟨view.2.1, view.2.2⟩ mapped
      | _ => cases mapped

end MapVisit

/-! ### The generator -/

section Generation

variable {doc : Document} {registry other : Registry} (same : doc.SameView registry other)
  (layout : Layout) (runtime : String)
include same

namespace TypeMapper

theorem map_eq {inner : Document} {node : TypeNode} (view : doc.InView registry inner)
    (held : node.dependencies ⊆ inner.references) :
    map ⟨layout, runtime, some registry⟩ node inner =
      map ⟨layout, runtime, some other⟩ node inner := by
  have visited : (MapVisit.atNode maxHops inner node).InView doc registry := ⟨view, held⟩
  exact MapVisit.mapping_eq same visited

omit same in
theorem consulted_of_map {inner : Document} {node : TypeNode} (view : doc.InView registry inner)
    (held : node.dependencies ⊆ inner.references) {target : Nsid}
    (mapped : (map ⟨layout, runtime, some registry⟩ node inner).target? = some target) :
    doc.Consulted registry target.base := by
  have visited : (MapVisit.atNode maxHops inner node).InView doc registry := ⟨view, held⟩
  exact MapVisit.consulted_of_target visited mapped

omit same in
theorem references_of_property {owner : Document} {definition : Definition} {object : ObjectType}
    {name key : String} {node : TypeNode} (defined : owner.definition? key = some definition)
    (struct : definition.object? = some object) (held : (name, node) ∈ object.properties) :
    node.dependencies ⊆ owner.references := by
  have part := TypeNode.dependencies_of_property held
  have whole := Definition.dependencies_of_object? struct
  exact List.Subset.trans (List.Subset.trans part whole)
    (Document.references_of_definition defined)

theorem mem_inlineStructs_iff {id target : Nsid} (consulted : doc.Consulted registry id.base) :
    target ∈ inlineStructs ⟨layout, runtime, some registry⟩ doc id ↔
      target ∈ inlineStructs ⟨layout, runtime, some other⟩ doc id := by
  rw [mem_inlineStructs, mem_inlineStructs]
  dsimp only
  rw [← same.owner?_eq consulted]
  refine exists_congr fun owner => exists_congr fun definition => exists_congr fun object =>
    exists_congr fun name => exists_congr fun node => ?_
  refine and_congr_right fun owned => and_congr_right fun defined => and_congr_right fun struct =>
    and_congr_right fun held => ?_
  have view := Document.SameView.inView_of_owner? (.inl rfl) consulted owned
  rw [map_eq same layout runtime view (references_of_property defined struct held)]

omit same in
theorem consulted_of_mem_inlineStructs {id target : Nsid}
    (consulted : doc.Consulted registry id.base)
    (inside : target ∈ inlineStructs ⟨layout, runtime, some registry⟩ doc id) :
    doc.Consulted registry target.base := by
  obtain ⟨owner, definition, object, name, node, owned, defined, struct, held, mapped⟩ :=
    mem_inlineStructs.mp inside
  have view := Document.SameView.inView_of_owner? (.inl rfl) consulted owned
  have part := references_of_property defined struct held
  exact consulted_of_map layout runtime view part mapped

theorem leadsBack_eq {start : Nsid} (consulted : doc.Consulted registry start.base)
    (goal : Nsid) :
    leadsBack ⟨layout, runtime, some registry⟩ doc start goal =
      leadsBack ⟨layout, runtime, some other⟩ doc start goal := by
  let next := inlineStructs ⟨layout, runtime, some registry⟩ doc
  let otherNext := inlineStructs ⟨layout, runtime, some other⟩ doc
  have forth : ∀ a b, doc.Consulted registry a.base → Reach.Edge next a b →
      doc.Consulted registry b.base ∧ Reach.Edge otherNext a b := fun a b inside edge =>
    ⟨consulted_of_mem_inlineStructs layout runtime inside edge,
      (mem_inlineStructs_iff same layout runtime inside).mp edge⟩
  have back : ∀ a b, doc.Consulted registry a.base → Reach.Edge otherNext a b →
      doc.Consulted registry b.base ∧ Reach.Edge next a b := by
    intro a b inside edge
    have edge := (mem_inlineStructs_iff same layout runtime inside).mpr edge
    exact ⟨consulted_of_mem_inlineStructs layout runtime inside edge, edge⟩
  -- The bounds of the two searches differ, but both of them decide reachability.
  rw [Bool.eq_iff_iff, leadsBack_iff, leadsBack_iff]
  constructor
  · exact fun path => (path_of_closed forth consulted path).2
  · exact fun path => (path_of_closed back consulted path).2

end TypeMapper

namespace Declaration

theorem stored_eq {node : TypeNode} (held : node.dependencies ⊆ doc.references) (id : Nsid) :
    stored ⟨layout, runtime, some registry⟩ doc id
        (TypeMapper.map ⟨layout, runtime, some registry⟩ node doc) =
      stored ⟨layout, runtime, some other⟩ doc id
        (TypeMapper.map ⟨layout, runtime, some other⟩ node doc) := by
  rw [← TypeMapper.map_eq same layout runtime (.inl rfl) held]
  let mapping := TypeMapper.map ⟨layout, runtime, some registry⟩ node doc
  -- The two differ only in the search that decides whether a box is needed.
  have back : (mapping.target?.any fun target =>
        TypeMapper.leadsBack ⟨layout, runtime, some registry⟩ doc target id) =
      mapping.target?.any fun target =>
        TypeMapper.leadsBack ⟨layout, runtime, some other⟩ doc target id := by
    cases mapped : mapping.target? with
    | none => rw [Option.any_none, Option.any_none]
    | some target =>
      have consulted := TypeMapper.consulted_of_map layout runtime (.inl rfl) held mapped
      rw [Option.any_some, Option.any_some, TypeMapper.leadsBack_eq same layout runtime consulted]
  rw [stored, stored, back]

theorem accessorsOf_eq {node : TypeNode} (held : node.dependencies ⊆ doc.references)
    (object : ObjectType) (property ident : String) :
    accessorsOf ⟨layout, runtime, some registry⟩ doc object property ident node =
      accessorsOf ⟨layout, runtime, some other⟩ doc object property ident node := by
  cases node with
  | array t =>
    have items : itemMapping ⟨layout, runtime, some registry⟩ doc t =
        itemMapping ⟨layout, runtime, some other⟩ doc t := by
      unfold itemMapping
      split
      · next items given =>
        have part := List.Subset.trans (TypeNode.dependencies_of_items given) held
        exact TypeMapper.map_eq same layout runtime (.inl rfl) part
      · rfl
    simp only [accessorsOf, items]
  | _ => rfl

variable {object : ObjectType} (held : (TypeNode.object object).dependencies ⊆ doc.references)
include held

theorem ofObject_eq (id : Nsid) (definition : Definition) (key : Option String) :
    ofObject ⟨layout, runtime, some registry⟩ doc id definition object key =
      ofObject ⟨layout, runtime, some other⟩ doc id definition object key := by
  have part : ∀ entry ∈ object.properties.zip (identsFrom [] (Entries.keys object.properties)),
      entry.1.2.dependencies ⊆ doc.references := by
    intro entry zipped
    have inside := TypeNode.dependencies_of_property (List.of_mem_zip zipped).1
    exact List.Subset.trans inside held
  rw [ofObject, ofObject, Declaration.mk.injEq]
  refine ⟨rfl, rfl, rfl, rfl, rfl, List.map_congr_left fun entry zipped => ?_,
    List.flatMap_congr fun entry zipped => ?_⟩
  · simp only [fieldOf, stored_eq same layout runtime (part entry zipped)]
  · exact accessorsOf_eq same layout runtime (part entry zipped) object _ _

theorem importsOf_eq :
    importsOf ⟨layout, runtime, some registry⟩ doc object =
      importsOf ⟨layout, runtime, some other⟩ doc object := by
  refine List.flatMap_congr fun ⟨property, node⟩ inside => ?_
  have part := List.Subset.trans (TypeNode.dependencies_of_property inside) held
  simp only [TypeMapper.imports, TypeMapper.map_eq same layout runtime (.inl rfl) part]

end Declaration

theorem SourceModule.ofDocument_eq :
    ofDocument ⟨layout, runtime, some registry⟩ doc =
      ofDocument ⟨layout, runtime, some other⟩ doc := by
  unfold ofDocument
  cases first : main doc with
  | error reason => rw [error_bind, error_bind]
  | ok parts =>
    obtain ⟨definition, object, key⟩ := parts
    obtain ⟨found, struct⟩ := main_eq_ok first
    -- Every struct comes from a definition of the document, so its references are within the view.
    have own : (TypeNode.object object).dependencies ⊆ doc.references := List.Subset.trans
      (Definition.dependencies_of_object? (Definition.object?_of_structParts? struct))
      (Document.references_of_definition found)
    have rest : ∀ entry ∈ others doc,
        (TypeNode.object entry.2.2).dependencies ⊆ doc.references := by
      rintro ⟨id, definition, object⟩ listed text inside
      obtain ⟨rfl, name, held, _⟩ := mem_others listed
      exact List.mem_flatMap.mpr ⟨_, held, inside⟩
    have first := Declaration.ofObject_eq same layout runtime own doc.id definition key
    rw [ok_bind, ok_bind]
    dsimp only
    rw [pure_eq_ok, pure_eq_ok, Except.ok.injEq, SourceModule.mk.injEq]
    refine ⟨rfl, rfl, congrArg Sorted.texts (List.flatMap_congr fun part listed => ?_),
      List.cons_eq_cons.mpr ⟨first, List.map_congr_left fun entry listed => ?_⟩⟩
    · rcases List.mem_cons.mp listed with rfl | listed
      · exact Declaration.importsOf_eq same layout runtime own
      · obtain ⟨entry, there, rfl⟩ := List.mem_map.mp listed
        exact Declaration.importsOf_eq same layout runtime (rest entry there)
    · exact Declaration.ofObject_eq same layout runtime (rest entry listed) _ _ none

theorem Generator.generate_eq (stubs : Stubs) :
    generate { mapper := ⟨layout, runtime, some registry⟩, stubs } doc =
      generate { mapper := ⟨layout, runtime, some other⟩, stubs } doc := by
  unfold generate
  dsimp only
  rw [SourceModule.ofDocument_eq same layout runtime]

end Generation

/-! ### Registries that cannot be told apart -/

/-- What an accepted document looks up is among what its references lead to: registries that hold
the same documents there give the same violations and the same generated file. -/
theorem Document.results_eq_of_consulted {doc : Document} {registry other : Registry}
    (accepted : ∃ value, Document.parse value = .ok doc)
    (agree : ∀ id, doc.Consulted registry id → other.get? id = registry.get? id) :
    (∀ options value name,
        ({ options, registry := some registry } : Validator).validateDefinition value doc name =
          ({ options, registry := some other } : Validator).validateDefinition value doc name) ∧
      ∀ layout runtime stubs,
        ({ mapper := ⟨layout, runtime, some registry⟩, stubs } : Generator).generate doc =
          ({ mapper := ⟨layout, runtime, some other⟩, stubs } : Generator).generate doc := by
  obtain ⟨value, parsed⟩ := accepted
  have main := (wellFormed_of_parse value doc parsed).noFragment
  have same : doc.SameView registry other := { main, agree }
  constructor
  · intro options value name
    simp only [Validator.validateDefinition_eq_report, Validator.checkDefinition_eq same]
  · intro layout runtime stubs
    exact Generator.generate_eq same layout runtime stubs

/-- The registry of the documents of graphs. -/
def graphRegistry : Registry := .ofDocuments graphDocuments

/-- The registry that holds the document of posts as well, which no document of graphs mentions. -/
def widerRegistry : Registry := .ofDocuments (graphDocuments ++ [Document.postDocument])

theorem consulted_nodeDocument {id : Nsid} (consulted : nodeDocument.Consulted graphRegistry id) :
    id ∈ graphDocuments.map (·.id) := by
  have named : ∀ doc ∈ graphDocuments, ∀ text ∈ doc.references,
      ((Reference.parse text).bind (·.absolute doc.id)).toOption.map Nsid.base ∈
        graphDocuments.map fun doc => some doc.id := by decide
  have mentioned : ∀ doc ∈ graphDocuments, ∀ id, doc.Mentions id →
      id.base ∈ graphDocuments.map (·.id) := by
    rintro doc inside id ⟨text, given, absolute⟩
    have listed := named doc inside text given
    rw [absolute] at listed
    simpa [Except.toOption] using listed
  cases consulted with
  | self => exact List.mem_cons_self
  | own given => exact mentioned nodeDocument List.mem_cons_self _ given
  | held _ held given => exact mentioned _ (List.mem_of_find?_eq_some held) _ given

theorem results_eq_of_consulted_nodeDocument :
    (∃ value, Document.parse value = .ok nodeDocument) ∧
      (∀ id, nodeDocument.Consulted graphRegistry id →
        widerRegistry.get? id = graphRegistry.get? id) ∧
      (∀ options value name,
        ({ options, registry := some graphRegistry } : Validator).validateDefinition value
            nodeDocument name =
          ({ options, registry := some widerRegistry } : Validator).validateDefinition value
            nodeDocument name) ∧
      ∀ layout runtime stubs,
        ({ mapper := ⟨layout, runtime, some graphRegistry⟩, stubs } : Generator).generate
            nodeDocument =
          ({ mapper := ⟨layout, runtime, some widerRegistry⟩, stubs } : Generator).generate
            nodeDocument := by
  have accepted : ∃ value, Document.parse value = .ok nodeDocument :=
    ⟨_, Document.parse_toJson (wellFormed_graphDocuments _ List.mem_cons_self)⟩
  have agree : ∀ id, nodeDocument.Consulted graphRegistry id →
      widerRegistry.get? id = graphRegistry.get? id := by
    intro id consulted
    have listed := consulted_nodeDocument consulted
    simp only [graphDocuments, List.map_cons, List.map_nil, List.mem_cons, List.not_mem_nil,
      or_false] at listed
    rcases listed with rfl | rfl | rfl <;> rfl
  exact ⟨accepted, agree, Document.results_eq_of_consulted accepted agree⟩

end Lexicon
