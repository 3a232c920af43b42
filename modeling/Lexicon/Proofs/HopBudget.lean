import Lexicon.Proofs.NsidText
import Lexicon.Proofs.Recursion
import Lexicon.Proofs.ValidatorConformance

/-!
# Lexicon.Proofs.HopBudget

How far references are followed.

Both the validator and the type mapper count the references that they follow.
Here chains of aliases are followed through both: a chain of at most 32
references is followed to its end, a longer one or an endless one is given up.

## Main result

`follow_ends_and_limits_agree`: following ends in both, and the limit is exact
and the same in both.

## Proof strategy

A chain is taken apart reference by reference, and each reference takes one hop
away from either side. The validator looks references up as they are written
and the type mapper looks up absolute identifiers; both find the same.
-/

namespace Lexicon

variable {registry : Option Registry}

/-! ### Chains of aliases -/

/-- A node starts a chain of `k` references, each of which resolves to the next one, and the last
of which resolves to a definition. -/
inductive AliasChain (registry : Option Registry) :
    (k : Nat) → Option Document → TypeNode → Document → Definition → Prop where
  | last {scope : Option Document} {t : RefType} {owner : Document} {definition : Definition}
      (resolves : Resolves registry scope t.target owner definition) :
      AliasChain registry 1 scope (.ref t) owner definition
  | next {k : Nat} {scope : Option Document} {t u : RefType} {doc owner : Document}
      {definition : Definition} (resolves : Resolves registry scope t.target doc (.data (.ref u)))
      (rest : AliasChain registry k (some doc) (.ref u) owner definition) :
      AliasChain registry (k + 1) scope (.ref t) owner definition

/-- A chain that ends in an alias goes on with the chain of that alias. -/
theorem AliasChain.append {k m : Nat} {scope : Option Document} {node : TypeNode} {u : RefType}
    {doc owner : Document} {middle definition : Definition}
    (first : AliasChain registry k scope node doc middle) (goesOn : middle = .data (.ref u))
    (second : AliasChain registry m (some doc) (.ref u) owner definition) :
    AliasChain registry (m + k) scope node owner definition := by
  induction first with
  | last resolves =>
    subst goesOn
    exact .next resolves second
  | next resolves rest ih => exact .next resolves (ih goesOn second)

/-- An alias that leads back to itself starts chains without end. -/
theorem AliasChain.of_cycle {k : Nat} {doc : Document} {u : RefType}
    (cycle : AliasChain registry k (some doc) (.ref u) doc (.data (.ref u))) (turns : Nat) :
    AliasChain registry (k * (turns + 1)) (some doc) (.ref u) doc (.data (.ref u)) := by
  induction turns with
  | zero => simpa using cycle
  | succ turns ih => exact Nat.mul_succ k (turns + 1) ▸ cycle.append rfl ih

/-! ### The validator along a chain -/

section Validation

variable {v : Validator} {scope : Option Document} {t : RefType} {doc owner : Document}
  {definition : Definition} {target : TypeNode} {value : Json}

theorem Validator.checkWithin_ref_zero :
    v.checkWithin 0 scope (.ref t) value = [.here t.target (.tooManyHops maxHops t.target)] :=
  checkWithin_of_follow_zero (Move.ofNode_ref scope value t)

/-- A reference that resolves is transparent, but for the hop that it takes. -/
theorem Validator.checkWithin_ref_succ (hops : Nat)
    (resolves : Resolves v.registry scope t.target doc definition)
    (typed : definition.dataType? = some target) :
    v.checkWithin (hops + 1) scope (.ref t) value =
      v.checkWithin hops (some doc) target value := by
  rw [checkWithin_of_follow_succ hops (Move.ofNode_ref scope value t)]
  simp only [checkReference, Lookup.ofText_of_resolves resolves, checkTarget_of_dataType typed]

/-- Within its hops a chain is followed to the definition at its end. -/
theorem AliasChain.checkWithin_eq {k : Nat} {node : TypeNode}
    (chain : AliasChain v.registry k scope node owner definition)
    (typed : definition.dataType? = some target) (hops : Nat) :
    v.checkWithin (hops + k) scope node value = v.checkWithin hops (some owner) target value := by
  induction chain with
  | last resolves => exact Validator.checkWithin_ref_succ hops resolves typed
  | next resolves rest ih =>
    rw [← ih typed]
    exact Validator.checkWithin_ref_succ _ resolves rfl

/-- A chain that is longer than its hops is given up with a single finding. -/
theorem AliasChain.checkWithin_exceeded {k : Nat} {node : TypeNode}
    (chain : AliasChain v.registry k scope node owner definition) {hops : Nat}
    (exceeded : hops < k) :
    ∃ reference, v.checkWithin hops scope node value =
      [.here reference (.tooManyHops maxHops reference)] := by
  -- Each reference takes a hop, so the hops run out somewhere along the chain.
  induction chain generalizing hops with
  | last resolves =>
    obtain rfl : hops = 0 := by omega
    exact ⟨_, Validator.checkWithin_ref_zero⟩
  | next resolves rest ih =>
    cases hops with
    | zero => exact ⟨_, Validator.checkWithin_ref_zero⟩
    | succ hops =>
      obtain ⟨reference, given⟩ := ih (by omega : hops < _)
      exact ⟨reference, by rw [Validator.checkWithin_ref_succ hops resolves rfl, given]⟩

end Validation

namespace Visit

variable {scope : Option Document} {t : RefType} {doc owner : Document}
  {definition : Definition} {value : Json}

theorem calls_of_resolves (hops : Nat)
    (resolves : Resolves registry scope t.target doc definition) :
    Calls registry (.atNode (hops + 1) scope (.ref t) value)
      (.atDefinition hops doc definition t.target value) :=
  .follow (Move.ofNode_ref scope value t) (Lookup.ofText_of_resolves resolves)

/-- A reference that resolves is asked for nothing but its target. -/
theorem Calls.ref_inv {hops : Nat} {later : Visit}
    (calls : Calls registry (.atNode hops scope (.ref t) value) later)
    (resolves : Resolves registry scope t.target doc definition) :
    ∃ fewer, hops = fewer + 1 ∧ later = .atDefinition fewer doc definition t.target value := by
  cases calls with
  | follow asked found =>
    cases asked
    rw [Lookup.ofText_of_resolves resolves] at found
    cases found
    exact ⟨_, rfl, rfl⟩

/-- The calls that follow a chain lead to the definition at its end exactly if the hops
suffice. -/
theorem reaches_iff {k hops : Nat} {node : TypeNode}
    (chain : AliasChain registry k scope node owner definition)
    (ends : ∀ t, definition ≠ .data (.ref t)) :
    Reaches registry (.atNode hops scope node value) owner definition value ↔ k ≤ hops := by
  induction chain generalizing hops with
  | last resolves =>
    constructor
    · rintro ⟨rest, reference, path⟩
      rcases path.cases_head with here | ⟨second, calls, _⟩
      · cases here
      · obtain ⟨fewer, rfl, _⟩ := calls.ref_inv resolves
        omega
    · intro enough
      obtain ⟨fewer, rfl⟩ : ∃ fewer, hops = fewer + 1 := ⟨hops - 1, by omega⟩
      exact ⟨fewer, _, .single (calls_of_resolves fewer resolves)⟩
  | next resolves rest ih =>
    constructor
    · rintro ⟨left, reference, path⟩
      rcases path.cases_head with here | ⟨second, calls, path⟩
      · cases here
      -- The path goes through the alias in the middle and cannot end there.
      obtain ⟨fewer, rfl, rfl⟩ := calls.ref_inv resolves
      rcases path.cases_head with here | ⟨third, calls, path⟩
      · cases here
        exact absurd rfl (ends _)
      · cases calls with
        | target typed =>
          cases typed
          have enough := (ih ends).mp ⟨left, reference, path⟩
          omega
    · intro enough
      obtain ⟨fewer, rfl⟩ : ∃ fewer, hops = fewer + 1 := ⟨hops - 1, by omega⟩
      obtain ⟨left, reference, path⟩ := (ih ends).mpr (show _ ≤ fewer by omega)
      exact ⟨left, reference, .head (calls_of_resolves fewer resolves) (.head (.target rfl) path)⟩

end Visit

/-! ### The two ways of looking a reference up -/

theorem Registry.id_of_get? {known : Registry} {id : Nsid} {doc : Document}
    (held : known.get? id = some doc) : doc.id = id.base := by
  simpa using List.find?_some held

/-- A registry holds documents under identifiers without fragments. -/
theorem Registry.fragment_of_get? {known : Registry} {id : Nsid} {doc : Document}
    (held : known.get? id = some doc) : doc.id.fragment = none := by
  rw [id_of_get? held]
  rfl

theorem Nsid.base_eq_self {id : Nsid} (main : id.fragment = none) : id.base = id := by
  cases id
  cases main
  rfl

/-- Another definition of the document: it has the document's base and the given name. -/
theorem Nsid.withFragment_of_isName (id : Nsid) {name : String}
    (named : Label.isName name = true) :
    ∃ other, id.withFragment name = .ok other ∧ other.base = id.base ∧
      other.definitionName = name := by
  unfold withFragment
  by_cases main : name = mainDefinition
  · subst main
    exact ⟨_, if_pos rfl, rfl, rfl⟩
  · exact ⟨{ id with fragment := some name }, by rw [if_neg main, if_pos named], rfl, rfl⟩

section Lookup

variable {doc owner : Document} {text : String} {definition : Definition}

/-- What the validator resolves inside a document, the type mapper finds under the absolute
identifier. -/
theorem Resolves.absolute (main : doc.id.fragment = none)
    (resolves : Resolves registry (some doc) text owner definition) :
    ∃ id, (Reference.parse text).bind (·.absolute doc.id) = .ok id ∧
      TypeMapper.owner? registry doc id = some owner ∧ id.base = owner.id ∧
      owner.definition? id.definitionName = some definition := by
  obtain ⟨target, name, parsed, addressed, found⟩ := resolves
  rw [parsed]
  cases addressed with
  | fragment inside =>
    cases inside
    -- The mapper makes the fragment an identifier of the enclosing document.
    obtain ⟨id, absolute, base, named⟩ :=
      Nsid.withFragment_of_isName doc.id.base (Reference.parse_eq_fragment_iff.mp parsed).2
    have same : id.base = doc.id := base.trans (Nsid.base_eq_self main)
    exact ⟨id, absolute, by simp only [TypeMapper.owner?, if_pos same], same, named ▸ found⟩
  | own inside same =>
    cases inside
    exact ⟨_, rfl, by simp only [TypeMapper.owner?, if_pos same], same, found⟩
  | @registered known _ id foreign given held =>
    subst given
    have owned : TypeMapper.owner? (some known) doc id = some owner := by
      simp only [TypeMapper.owner?, if_neg (foreign doc rfl), Option.bind_some, held]
    exact ⟨_, rfl, owned, (Registry.id_of_get? held).symm, found⟩

theorem Resolves.owner_main (main : doc.id.fragment = none)
    (resolves : Resolves registry (some doc) text owner definition) :
    owner.id.fragment = none := by
  obtain ⟨id, _, _, base, _⟩ := resolves.absolute main
  rw [← base]
  rfl

end Lookup

/-! ### The type mapper along a chain -/

namespace TypeMapper

variable {t : RefType} {doc owner : Document} {definition : Definition} {target : TypeNode}

/-- A reference to an alias stands for the type of the alias, but for the hop that it takes. -/
theorem mapReference_of_alias (hops : Nat) {text : String} (main : doc.id.fragment = none)
    (resolves : Resolves registry (some doc) text owner (.data target))
    (noStruct : (Definition.data target).object? = none) :
    mapReference registry (hops + 1) doc text =
      mapWith (mapReference registry hops owner) target := by
  have other : ∀ object, target ≠ .object object := by
    rintro object rfl
    cases noStruct
  obtain ⟨id, absolute, owned, _, found⟩ := resolves.absolute main
  rw [mapReference]
  simp only [absolute, owned, found]

/-- A reference to a record or an object is the struct of that definition. -/
theorem mapReference_of_struct (hops : Nat) {text : String} {object : ObjectType}
    (main : doc.id.fragment = none)
    (resolves : Resolves registry (some doc) text owner definition)
    (struct : definition.object? = some object) :
    ∃ id external, mapReference registry (hops + 1) doc text = .struct id external ∧
      id.base = owner.id ∧ owner.definition? id.definitionName = some definition := by
  obtain ⟨id, absolute, owned, base, found⟩ := resolves.absolute main
  refine ⟨id, decide (id.base ≠ doc.id), ?_, base, found⟩
  rw [mapReference]
  simp only [absolute, owned, found]
  cases definition with
  | record description key object => rfl
  | data node => cases node <;> simp_all [Definition.object?]
  | _ => simp [Definition.object?] at struct

/-- A mapping is that of a definition: the struct of a record or an object, and the type of an
alias, with so many references left to follow. -/
def IsMappingOf (registry : Option Registry) (hops : Nat) (owner : Document)
    (definition : Definition) (mapping : Mapping) : Prop :=
  match definition.object? with
  | some _ => ∃ id external, mapping = .struct id external ∧ id.base = owner.id ∧
      owner.definition? id.definitionName = some definition
  | none => ∀ target, definition.dataType? = some target →
      mapping = mapWith (mapReference registry hops owner) target

theorem isMappingOf_mapReference (hops : Nat) {text : String} (main : doc.id.fragment = none)
    (resolves : Resolves registry (some doc) text owner definition) :
    IsMappingOf registry hops owner definition (mapReference registry (hops + 1) doc text) := by
  unfold IsMappingOf
  split
  · next object struct => exact mapReference_of_struct hops main resolves struct
  · next noStruct =>
    intro target typed
    cases definition with
    | data node =>
      cases typed
      exact mapReference_of_alias hops main resolves noStruct
    | record description key object => cases noStruct
    | _ => cases typed

/-- Within its hops a chain is mapped to the definition at its end. -/
theorem isMappingOf_chain {k : Nat} {scope : Option Document} {node : TypeNode}
    (chain : AliasChain registry k scope node owner definition) (inside : scope = some doc)
    (main : doc.id.fragment = none) (hops : Nat) :
    IsMappingOf registry hops owner definition
      (mapWith (mapReference registry (hops + k) doc) node) := by
  -- The enclosing document changes along the chain, and each one has a main identifier.
  induction chain generalizing doc with
  | last resolves =>
    subst inside
    rw [mapWith]
    exact isMappingOf_mapReference hops main resolves
  | next resolves rest ih =>
    subst inside
    rw [mapWith, ← Nat.add_assoc, mapReference_of_alias _ main resolves rfl]
    exact ih rfl (resolves.owner_main main)

/-- A chain that is longer than its hops is mapped to any value at all. -/
theorem mapWith_chain_exceeded {k : Nat} {scope : Option Document} {node : TypeNode}
    (chain : AliasChain registry k scope node owner definition) (inside : scope = some doc)
    (main : doc.id.fragment = none) {hops : Nat} (exceeded : hops < k) :
    mapWith (mapReference registry hops doc) node = .unknown := by
  induction chain generalizing doc hops with
  | last resolves =>
    obtain rfl : hops = 0 := by omega
    rw [mapWith, mapReference]
  | next resolves rest ih =>
    subst inside
    cases hops with
    | zero => rw [mapWith, mapReference]
    | succ hops =>
      rw [mapWith, mapReference_of_alias hops main resolves rfl]
      exact ih rfl (resolves.owner_main main) (by omega)

end TypeMapper

namespace MapVisit

variable {t : RefType} {doc owner : Document} {definition : Definition}

theorem calls_of_resolves (hops : Nat) (main : doc.id.fragment = none)
    (resolves : Resolves registry (some doc) t.target owner definition) :
    ∃ id external, Calls registry (.atNode (hops + 1) doc (.ref t))
      (.atDefinition hops id external owner definition) := by
  obtain ⟨id, absolute, owned, _, found⟩ := resolves.absolute main
  exact ⟨id, _, .follow absolute owned found⟩

/-- A reference that resolves is asked for nothing but its target. -/
theorem Calls.ref_inv {hops : Nat} {later : MapVisit}
    (calls : Calls registry (.atNode hops doc (.ref t)) later) (main : doc.id.fragment = none)
    (resolves : Resolves registry (some doc) t.target owner definition) :
    ∃ fewer id external, hops = fewer + 1 ∧
      later = .atDefinition fewer id external owner definition := by
  obtain ⟨id, absolute, owned, _, found⟩ := resolves.absolute main
  cases calls with
  | follow absolute' owned' found' =>
    obtain rfl := Except.ok.inj (absolute.symm.trans absolute')
    obtain rfl := Option.some.inj (owned.symm.trans owned')
    obtain rfl := Option.some.inj (found.symm.trans found')
    exact ⟨_, _, _, rfl, rfl⟩

/-- The calls that follow a chain lead to the definition at its end exactly if the hops
suffice. -/
theorem reaches_iff {k hops : Nat} {scope : Option Document} {node : TypeNode}
    (chain : AliasChain registry k scope node owner definition) (inside : scope = some doc)
    (main : doc.id.fragment = none) (ends : ∀ t, definition ≠ .data (.ref t)) :
    Reaches registry (.atNode hops doc node) owner definition ↔ k ≤ hops := by
  -- Each reference takes one hop, so the hops are free in the induction on the chain.
  induction chain generalizing doc hops with
  | last resolves =>
    subst inside
    constructor
    · rintro ⟨rest, _, _, path⟩
      rcases path.cases_head with here | ⟨second, calls, _⟩
      · cases here
      · obtain ⟨fewer, _, _, rfl, _⟩ := calls.ref_inv main resolves
        omega
    · intro enough
      obtain ⟨fewer, rfl⟩ : ∃ fewer, hops = fewer + 1 := ⟨hops - 1, by omega⟩
      obtain ⟨id, external, calls⟩ := calls_of_resolves fewer main resolves
      exact ⟨fewer, id, external, .single calls⟩
  | next resolves rest ih =>
    subst inside
    constructor
    · rintro ⟨left, id, external, path⟩
      rcases path.cases_head with here | ⟨second, calls, path⟩
      · cases here
      obtain ⟨fewer, _, _, rfl, rfl⟩ := calls.ref_inv main resolves
      rcases path.cases_head with here | ⟨third, calls, path⟩
      · cases here
        exact absurd rfl (ends _)
      · cases calls with
        | transparent noStruct =>
          have enough := (ih rfl (resolves.owner_main main) ends).mp ⟨left, id, external, path⟩
          omega
    · intro enough
      obtain ⟨fewer, rfl⟩ : ∃ fewer, hops = fewer + 1 := ⟨hops - 1, by omega⟩
      obtain ⟨_, _, calls⟩ := calls_of_resolves fewer main resolves
      obtain ⟨left, id, external, path⟩ :=
        (ih rfl (resolves.owner_main main) ends).mpr (show _ ≤ fewer by omega)
      exact ⟨left, id, external, .head calls (.head (.transparent rfl) path)⟩

end MapVisit

/-! ### Both together -/

/-- Following ends: no calls go on forever, and what the validator finds and what the type mapper
maps to are the only solutions of their equations. -/
structure FollowingEnds (v : Validator) (mapper : TypeMapper) : Prop where
  visits : WellFounded fun later earlier => Visit.Calls v.registry earlier later
  findings : ∀ ask, (∀ visit, ask visit = Visit.step v ask visit) ↔ ask = Visit.findings v
  check : ∀ scope node value,
    v.check scope node value = Visit.findings v (.atNode 32 scope node value)
  walk : ∀ scope node path value,
    v.walk scope node path value =
      Validator.report path (Visit.findings v (.atNode 32 scope node value))
  mapVisits : WellFounded fun later earlier => MapVisit.Calls mapper.registry earlier later
  mappings : ∀ ask, (∀ visit, ask visit = MapVisit.step mapper.registry ask visit) ↔
    ask = MapVisit.mapping mapper.registry
  map : ∀ node doc, mapper.map node doc = MapVisit.mapping mapper.registry (.atNode 32 doc node)

/-- The validator follows `k` references from a node to the type `target` of a definition exactly
if `k` is at most 32. -/
structure Validator.FollowsChain (v : Validator) (k : Nat) (scope : Option Document)
    (node : TypeNode) (owner : Document) (definition : Definition) (target : TypeNode) :
    Prop where
  reaches : ∀ value, Visit.Reaches v.registry (.atNode 32 scope node value) owner definition
    value ↔ k ≤ 32
  followed : k ≤ 32 → ∀ value,
    v.check scope node value = v.checkWithin (32 - k) (some owner) target value

/-- The type mapper follows `k` references from a node to a definition exactly if `k` is at
most 32. -/
structure TypeMapper.FollowsChain (mapper : TypeMapper) (k : Nat) (doc : Document)
    (node : TypeNode) (owner : Document) (definition : Definition) : Prop where
  reaches : MapVisit.Reaches mapper.registry (.atNode 32 doc node) owner definition ↔ k ≤ 32
  followed : k ≤ 32 →
    IsMappingOf mapper.registry (32 - k) owner definition (mapper.map node doc)

/-- At a node the validator reports that too many references are to be followed, at the place of
the value and nothing else. -/
def Validator.GivesUp (v : Validator) (scope : Option Document) (node : TypeNode) : Prop :=
  ∀ value, ∃ reference, ∀ start, v.walk scope node start value =
    [{ path := start
       expected := reference
       message := (Cause.tooManyHops 32 reference).message }]

/-- A node is mapped to any value at all. -/
def TypeMapper.GivesUp (mapper : TypeMapper) (doc : Document) (node : TypeNode) : Prop :=
  mapper.map node doc = .unknown ∧ (mapper.map node doc).type.text = "serde_json::Value"

theorem followingEnds (v : Validator) (mapper : TypeMapper) : FollowingEnds v mapper where
  visits := Visit.calls_wellFounded v.registry
  findings ask := by
    constructor
    · exact Visit.eq_findings_of_step
    · rintro rfl visit
      exact Visit.findings_eq_step v visit
  check := v.check_eq_checkWithin
  walk scope node path value := by
    rw [v.walk_eq_report, v.check_eq_checkWithin]
    rfl
  mapVisits := MapVisit.calls_wellFounded mapper.registry
  mappings ask := by
    constructor
    · exact MapVisit.eq_mapping_of_step
    · rintro rfl visit
      exact MapVisit.mapping_eq_step mapper.registry visit
  map _ _ := rfl

section Chain

variable {k : Nat} {scope : Option Document} {node : TypeNode} {doc owner : Document}
  {definition : Definition} {target : TypeNode}

theorem AliasChain.validator_follows {v : Validator}
    (chain : AliasChain v.registry k scope node owner definition)
    (typed : definition.dataType? = some target) (ends : ∀ t, target ≠ .ref t) :
    v.FollowsChain k scope node owner definition target where
  reaches value := by
    refine Visit.reaches_iff chain ?_
    rintro t rfl
    cases typed
    exact ends t rfl
  followed enough value := by
    rw [v.check_eq_checkWithin, ← chain.checkWithin_eq typed (32 - k), Nat.sub_add_cancel enough]
    rfl

theorem AliasChain.mapper_follows {mapper : TypeMapper}
    (chain : AliasChain mapper.registry k (some doc) node owner definition)
    (main : doc.id.fragment = none) (ends : ∀ t, definition ≠ .data (.ref t)) :
    mapper.FollowsChain k doc node owner definition where
  reaches := MapVisit.reaches_iff chain rfl main ends
  followed enough := by
    have mapped := TypeMapper.isMappingOf_chain chain rfl main (32 - k)
    rwa [Nat.sub_add_cancel enough] at mapped

theorem AliasChain.validator_givesUp {v : Validator}
    (chain : AliasChain v.registry k scope node owner definition) (long : 33 ≤ k) :
    v.GivesUp scope node := by
  intro value
  obtain ⟨reference, given⟩ : ∃ reference, v.checkWithin maxHops scope node value =
      [.here reference (.tooManyHops maxHops reference)] := chain.checkWithin_exceeded long
  refine ⟨reference, fun start => ?_⟩
  rw [v.walk_eq_report, v.check_eq_checkWithin]
  exact congrArg (Validator.report start) given

theorem AliasChain.mapper_givesUp {mapper : TypeMapper}
    (chain : AliasChain mapper.registry k (some doc) node owner definition)
    (main : doc.id.fragment = none) (long : 33 ≤ k) : mapper.GivesUp doc node := by
  have given : mapper.map node doc = .unknown :=
    TypeMapper.mapWith_chain_exceeded chain rfl main long
  exact ⟨given, by rw [given]; rfl⟩

end Chain

/-- Following references ends in the validator and in the type mapper, for all documents. A chain
of aliases is followed to its end by both if it has at most 32 references, and is given up by both
otherwise, whether it ends or not. The mapper is given a document that has an identifier without a
fragment, as every document has that is read. -/
theorem follow_ends_and_limits_agree (mapper : TypeMapper) (options : ValidationOptions) :
    let v : Validator := { options, registry := mapper.registry }
    FollowingEnds v mapper ∧
      ∀ k scope node owner definition,
        AliasChain mapper.registry k scope node owner definition →
        (∀ target, definition.dataType? = some target → (∀ t, target ≠ .ref t) →
          v.FollowsChain k scope node owner definition target ∧
          ∀ doc, scope = some doc → doc.id.fragment = none →
            mapper.FollowsChain k doc node owner definition) ∧
        (33 ≤ k →
          v.GivesUp scope node ∧
          ∀ doc, scope = some doc → doc.id.fragment = none → mapper.GivesUp doc node) := by
  intro v
  refine ⟨followingEnds v mapper, fun k scope node owner definition chain => ⟨?_, ?_⟩⟩
  · intro target typed ends
    refine ⟨chain.validator_follows (v := v) typed ends, ?_⟩
    rintro doc rfl main
    refine chain.mapper_follows main ?_
    rintro t rfl
    cases typed
    exact ends t rfl
  · intro long
    -- Nothing is asked of the definition: a chain inside a cycle is as long as one likes.
    refine ⟨chain.validator_givesUp (v := v) long, ?_⟩
    rintro doc rfl main
    exact chain.mapper_givesUp main long

/-- A document with an alias of any value and an alias of itself. -/
def aliasDocument : Document where
  lexicon := 1
  id := { labels := ["com", "example"], name := "alias", fragment := none }
  revision := none
  description := none
  definitions := [
    ("any", .data (.unknown ⟨none⟩)),
    ("alias", .data (.ref ⟨none, "#any"⟩)),
    ("loop", .data (.ref ⟨none, "#loop"⟩))]

/-- The mapper that knows no other documents. -/
def aliasMapper : TypeMapper := { layout := {}, runtime := "lex_runtime", registry := none }

theorem follow_ends_and_limits_agree_aliasDocument :
    let v : Validator := { options := {}, registry := none }
    (v.FollowsChain 2 (some aliasDocument) (.ref ⟨none, "#alias"⟩) aliasDocument
        (.data (.unknown ⟨none⟩)) (.unknown ⟨none⟩) ∧
      aliasMapper.FollowsChain 2 aliasDocument (.ref ⟨none, "#alias"⟩) aliasDocument
        (.data (.unknown ⟨none⟩))) ∧
      v.GivesUp (some aliasDocument) (.ref ⟨none, "#loop"⟩) ∧
      aliasMapper.GivesUp aliasDocument (.ref ⟨none, "#loop"⟩) := by
  have short : AliasChain none 2 (some aliasDocument) (.ref ⟨none, "#alias"⟩) aliasDocument
      (.data (.unknown ⟨none⟩)) :=
    .next ⟨.fragment "alias", "alias", by decide, .fragment rfl, rfl⟩
      (.last ⟨.fragment "any", "any", by decide, .fragment rfl, rfl⟩)
  have loop : AliasChain none 1 (some aliasDocument) (.ref ⟨none, "#loop"⟩) aliasDocument
      (.data (.ref ⟨none, "#loop"⟩)) :=
    .last ⟨.fragment "loop", "loop", by decide, .fragment rfl, rfl⟩
  obtain ⟨-, follow⟩ := follow_ends_and_limits_agree aliasMapper {}
  obtain ⟨validated, mapped⟩ := (follow 2 _ _ _ _ short).1 (.unknown ⟨none⟩) rfl nofun
  obtain ⟨refused, unknown⟩ := (follow 33 _ _ _ _ (loop.of_cycle 32)).2 (by decide)
  exact ⟨⟨validated, mapped _ rfl rfl⟩, refused, unknown _ rfl rfl⟩

end Lexicon
