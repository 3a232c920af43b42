import Lexicon.Proofs.StructTargets
import Lexicon.Proofs.ValidatedReading

/-!
# Lexicon.Proofs.LookupAgreement

The validator, the type mapper and a registry find the same definitions.

Each of the three looks references up in a way of its own: the validator goes
by the form of the reference and by the enclosing document, the type mapper
makes the reference absolute and compares documents, and a registry knows
nothing of an enclosing document. In a document that is registered under its
own identifier all three come down to the registry.

## Main definition

`SameTarget`: a reference in a document is taken to what a registry resolves an
identifier to, by the validator and by the type mapper.

## Main result

`sameTarget_of_parse`: this holds of every reference that is well formed, and
of the identifier that it stands for.
-/

namespace Lexicon

variable {registry : Registry} {doc owner : Document} {id : Nsid} {reference : String}
  {target : Reference} {definition : Definition}

/-! ### One look-up -/

/-- A well-formed reference stands for an identifier inside every document. -/
theorem Reference.absolute_succeeds (parsed : parse reference = .ok target) (document : Nsid) :
    Succeeds (target.absolute document) := by
  cases target with
  | fragment name =>
    obtain ⟨id, absolute, _⟩ :=
      Nsid.withFragment_of_isName document.base (parse_eq_fragment_iff.mp parsed).2
    exact ⟨id, absolute⟩
  | external id => exact ⟨id, rfl⟩

namespace Lookup

theorem inRegistry_eq_found_iff :
    inRegistry (some registry) id = .found owner definition ↔
      registry.resolve? id = some (owner, definition) := by
  cases held : registry.get? id with
  | none => simp [inRegistry, Registry.resolve?, held]
  | some other =>
    cases found : other.definition? id.definitionName <;>
      simp [inRegistry, inDocument, Registry.resolve?, held, found]

theorem inRegistry_of_resolve?_eq_none (unresolved : registry.resolve? id = none) :
    inRegistry (some registry) id =
      if registry.has id then .noDefinition id.base else .notRegistered id.base := by
  cases held : registry.get? id with
  | none => simp [inRegistry, Registry.has, held]
  | some other =>
    cases found : other.definition? id.definitionName with
    | none => simp [inRegistry, Registry.has, held, inDocument_of_none found,
        Registry.id_of_get? held]
    | some definition => simp [Registry.resolve?, held, found] at unresolved

/-- In a registered document the validator looks references up as the registry does. -/
theorem ofText_eq_inRegistry (held : registry.get? doc.id = some doc)
    (parsed : Reference.parse reference = .ok target) (absolute : target.absolute doc.id = .ok id) :
    ofText (some registry) (some doc) reference = inRegistry (some registry) id := by
  rw [ofText_of_parse parsed]
  have main := Registry.fragment_of_get? held
  -- Whatever names the enclosing document finds it in the registry as well.
  have here : ∀ other : Nsid, other.base = doc.id → inRegistry (some registry) other =
      inDocument doc other.definitionName := by
    intro other same
    have found : registry.get? other = some doc := by
      rw [← held]
      exact Registry.get?_congr (same.trans (Nsid.base_eq_self main).symm)
    simp only [inRegistry, found]
  cases target with
  | fragment name =>
    obtain ⟨other, given, base, named⟩ :=
      Nsid.withFragment_of_isName doc.id.base (Reference.parse_eq_fragment_iff.mp parsed).2
    obtain rfl : other = id := Except.ok.inj (given.symm.trans absolute)
    rw [here other (base.trans (Nsid.base_eq_self main)), named]
    rfl
  | external other =>
    obtain rfl : other = id := Except.ok.inj absolute
    by_cases own : other.base = doc.id
    · rw [here other own, ofReference, if_pos own]
    · rw [ofReference, if_neg own]

end Lookup

/-- In a registered document the type mapper looks for definitions where the registry does. -/
theorem TypeMapper.owner?_eq_get? (held : registry.get? doc.id = some doc) (id : Nsid) :
    owner? (some registry) doc id = registry.get? id := by
  unfold owner?
  split
  · next own =>
    rw [← held]
    exact Registry.get?_congr (by rw [← own]; rfl)
  · rfl

/-! ### What is done with it -/

/-- The findings at a value that a reference holds to what a registry resolves an identifier
to. -/
def Validator.checkResolved (v : Validator) (registry : Registry) (id : Nsid) (hops : Nat)
    (reference : String) (strict : Bool) (value : Json) : List Finding :=
  match registry.resolve? id with
  | some (owner, definition) => v.checkTarget hops owner definition reference value
  | none =>
    let cause : Cause :=
      if registry.has id then .noDefinition reference id.base else .notRegistered id.base
    if strict then [.here reference cause] else []

/-- The mapping of what a registry resolves an identifier to. -/
def TypeMapper.mapResolved (registry : Registry) (id : Nsid) (external : Bool) (hops : Nat) :
    Mapping :=
  match registry.resolve? id with
  | some (owner, definition) =>
    MapVisit.mapping (some registry) (.atDefinition hops id external owner definition)
  | none => .struct id external

/-- A reference in a document is taken to the definition that a registry resolves an identifier
to, or to none where the registry has none, by the validator and by the type mapper. -/
structure SameTarget (registry : Registry) (doc : Document) (reference : String) (id : Nsid) :
    Prop where
  /-- All that the validator visits is the definition that the registry has. -/
  visits : ∀ hops node value strict,
    Move.ofNode (some doc) value node = .follow reference strict → ∀ later,
      Visit.Calls (some registry) (.atNode (hops + 1) (some doc) node value) later ↔
        ∃ owner definition, registry.resolve? id = some (owner, definition) ∧
          later = .atDefinition hops owner definition reference value
  findings : ∀ (v : Validator), v.registry = some registry → ∀ hops node value strict,
    Move.ofNode (some doc) value node = .follow reference strict →
      v.checkWithin (hops + 1) (some doc) node value =
        v.checkResolved registry id hops reference strict value
  /-- All that the type mapper visits is the definition that the registry has. -/
  mapVisits : ∀ hops description later,
    MapVisit.Calls (some registry) (.atNode (hops + 1) doc (.ref ⟨description, reference⟩)) later ↔
      ∃ owner definition, registry.resolve? id = some (owner, definition) ∧
        later = .atDefinition hops id (id.base ≠ doc.id) owner definition
  mappings : ∀ hops, TypeMapper.mapReference (some registry) (hops + 1) doc reference =
    TypeMapper.mapResolved registry id (id.base ≠ doc.id) hops

/-! ### The validator -/

section Validation

variable {node : TypeNode} {value : Json} {strict : Bool}

theorem Visit.calls_iff_of_follow
    (looked : Lookup.ofText (some registry) (some doc) reference =
      Lookup.inRegistry (some registry) id)
    (follow : Move.ofNode (some doc) value node = .follow reference strict) (hops : Nat)
    (later : Visit) :
    Calls (some registry) (.atNode (hops + 1) (some doc) node value) later ↔
      ∃ owner definition, registry.resolve? id = some (owner, definition) ∧
        later = .atDefinition hops owner definition reference value := by
  constructor
  · intro calls
    cases calls with
    | follow asked found =>
      cases follow.symm.trans asked
      exact ⟨_, _, Lookup.inRegistry_eq_found_iff.mp (looked ▸ found), rfl⟩
    -- An array or an object asks for nothing to be followed.
    | element => cases follow
    | member => cases follow
  · rintro ⟨owner, definition, resolved, rfl⟩
    exact .follow follow (looked ▸ Lookup.inRegistry_eq_found_iff.mpr resolved)

theorem Validator.checkReference_eq_checkResolved {v : Validator}
    (known : v.registry = some registry)
    (looked : Lookup.ofText (some registry) (some doc) reference =
      Lookup.inRegistry (some registry) id) (hops : Nat) :
    v.checkReference hops (some doc) reference strict value =
      v.checkResolved registry id hops reference strict value := by
  rw [checkReference, checkResolved, known, looked]
  cases resolved : registry.resolve? id with
  | none =>
    rw [Lookup.inRegistry_of_resolve?_eq_none resolved]
    cases registry.has id <;> rfl
  | some pair => rw [Lookup.inRegistry_eq_found_iff.mpr resolved]

end Validation

/-! ### The type mapper -/

theorem MapVisit.calls_ref_iff (held : registry.get? doc.id = some doc)
    (absolute : (Reference.parse reference).bind (·.absolute doc.id) = .ok id) (hops : Nat)
    (description : Option String) (later : MapVisit) :
    Calls (some registry) (.atNode (hops + 1) doc (.ref ⟨description, reference⟩)) later ↔
      ∃ owner definition, registry.resolve? id = some (owner, definition) ∧
        later = .atDefinition hops id (id.base ≠ doc.id) owner definition := by
  constructor
  · intro calls
    cases calls with
    | follow absolute' owned found =>
      cases absolute.symm.trans absolute'
      rw [TypeMapper.owner?_eq_get? held] at owned
      exact ⟨_, _, Registry.resolve?_eq_some_iff.mpr ⟨owned, found⟩, rfl⟩
  · rintro ⟨owner, definition, resolved, rfl⟩
    obtain ⟨given, found⟩ := Registry.resolve?_eq_some_iff.mp resolved
    exact .follow absolute ((TypeMapper.owner?_eq_get? held id).trans given) found

theorem TypeMapper.mapReference_eq_mapResolved (held : registry.get? doc.id = some doc)
    (absolute : (Reference.parse reference).bind (·.absolute doc.id) = .ok id) (hops : Nat) :
    mapReference (some registry) (hops + 1) doc reference =
      mapResolved registry id (id.base ≠ doc.id) hops := by
  let visit : MapVisit := .atNode (hops + 1) doc (.ref ⟨none, reference⟩)
  have stepped : mapReference (some registry) (hops + 1) doc reference =
      MapVisit.step (some registry) (MapVisit.mapping (some registry)) visit :=
    MapVisit.mapping_eq_step (some registry) visit
  rw [stepped]
  simp only [visit, MapVisit.step, absolute, owner?_eq_get? held, mapResolved]
  cases given : registry.get? id with
  | none => simp [Registry.resolve?, given]
  | some owner =>
    cases found : owner.definition? id.definitionName <;> simp [Registry.resolve?, given, found]

/-! ### All together -/

/-- In a document that a registry holds under its own identifier, every well-formed reference
stands for an identifier, and is taken to what the registry resolves that identifier to. -/
theorem sameTarget_of_parse (held : registry.get? doc.id = some doc)
    (parsed : Reference.parse reference = .ok target) :
    ∃ id, target.absolute doc.id = .ok id ∧ SameTarget registry doc reference id := by
  obtain ⟨id, absolute⟩ := Reference.absolute_succeeds parsed doc.id
  have looked := Lookup.ofText_eq_inRegistry held parsed absolute
  have named : (Reference.parse reference).bind (·.absolute doc.id) = .ok id :=
    bind_eq_ok_iff.mpr ⟨target, parsed, absolute⟩
  refine ⟨id, absolute, ?_⟩
  constructor
  case visits =>
    intro hops node value strict follow later
    exact Visit.calls_iff_of_follow looked follow hops later
  case findings =>
    intro v known hops node value strict follow
    rw [Validator.checkWithin_of_follow_succ hops follow,
      Validator.checkReference_eq_checkResolved known looked]
  case mapVisits => exact MapVisit.calls_ref_iff held named
  case mappings => exact TypeMapper.mapReference_eq_mapResolved held named

/-- An alias in another document, and an own definition that is not there. -/
theorem sameTarget_sharingDocument :
    let known : Registry := .ofDocuments sharingDocuments
    let other : Nsid := ⟨["com", "example"], "defs", some "alias"⟩
    let own : Nsid := ⟨["com", "example"], "post", some "gone"⟩
    (∀ doc ∈ sharingDocuments, ∃ value, Document.parse value = .ok doc) ∧
      known.get? sharingDocument.id = some sharingDocument ∧
      (SameTarget known sharingDocument "com.example.defs#alias" other ∧
        known.resolve? other = some (sharedDocument, .data (.ref ⟨none, "#thing"⟩))) ∧
      (SameTarget known sharingDocument "#gone" own ∧ known.resolve? own = none) := by
  intro known other own
  have held : known.get? sharingDocument.id = some sharingDocument := rfl
  have parsed : Reference.parse "com.example.defs#alias" = .ok (.external other) := by decide
  have parsedOwn : Reference.parse "#gone" = .ok (.fragment "gone") := by decide
  obtain ⟨id, absolute, same⟩ := sameTarget_of_parse held parsed
  obtain ⟨ownId, absoluteOwn, sameOwn⟩ := sameTarget_of_parse held parsedOwn
  cases absolute
  obtain rfl : own = ownId := Except.ok.inj ((show _ = _ by decide).trans absoluteOwn)
  exact ⟨Document.accepted_of_wellFormed wellFormed_sharingDocuments, held, ⟨same, rfl⟩,
    sameOwn, rfl⟩

end Lexicon
