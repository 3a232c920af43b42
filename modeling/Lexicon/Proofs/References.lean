import Lexicon.Validation.Resolution

/-!
# Lexicon.Proofs.References

Where references lead, stated without a search.

A reference addresses a definition of one document. It may resolve to that
definition, dangle because the document or the definition is missing, or be
unanswerable because there is nothing to look in. `Lookup` decides which.

## Main results

- `Lookup.ofText_eq_found_iff`, `Lookup.dangles_iff`, `Lookup.ofText_eq_unknown_iff`:
  the look-up agrees with the three relations.
- `Resolves.unique`: a reference resolves to one definition at most.
-/

namespace Lexicon

variable {registry : Option Registry} {scope : Option Document} {text : String}

/-- An identifier names another document than the enclosing one. -/
def Nsid.Foreign (scope : Option Document) (id : Nsid) : Prop :=
  ∀ doc, scope = some doc → id.base ≠ doc.id

/-- The document and the name in it that a reference addresses. References into the enclosing
document stay there, whatever the registry holds under its identifier. -/
inductive Reference.Addresses (registry : Option Registry) (scope : Option Document) :
    Reference → Document → String → Prop where
  | fragment {doc : Document} {name : String} (inside : scope = some doc) :
      Addresses registry scope (.fragment name) doc name
  | own {doc : Document} {id : Nsid} (inside : scope = some doc) (same : id.base = doc.id) :
      Addresses registry scope (.external id) doc id.definitionName
  | registered {known : Registry} {doc : Document} {id : Nsid} (foreign : id.Foreign scope)
      (given : registry = some known) (held : known.get? id = some doc) :
      Addresses registry scope (.external id) doc id.definitionName

/-- A reference leads to a definition. -/
def Resolves (registry : Option Registry) (scope : Option Document) (text : String)
    (doc : Document) (definition : Definition) : Prop :=
  ∃ target name, Reference.parse text = .ok target ∧
    target.Addresses registry scope doc name ∧ doc.definition? name = some definition

/-- A reference leads to a definition that is not there: its document is known and does not have
it, or the registry does not hold its document. -/
inductive Dangles (registry : Option Registry) (scope : Option Document) (text : String) :
    Prop where
  | undefined {target : Reference} {doc : Document} {name : String}
      (parsed : Reference.parse text = .ok target)
      (addressed : target.Addresses registry scope doc name)
      (absent : doc.definition? name = none)
  | unregistered {known : Registry} {id : Nsid}
      (parsed : Reference.parse text = .ok (.external id)) (foreign : id.Foreign scope)
      (given : registry = some known) (absent : known.get? id = none)

/-- There is nothing to look a well-formed reference up in. -/
inductive Unanswerable (registry : Option Registry) (scope : Option Document) (text : String) :
    Prop where
  | noScope {name : String} (parsed : Reference.parse text = .ok (.fragment name))
      (outside : scope = none)
  | noRegistry {id : Nsid} (parsed : Reference.parse text = .ok (.external id))
      (foreign : id.Foreign scope) (absent : registry = none)

/-! ### One document -/

theorem Reference.Addresses.unique {target : Reference} {doc other : Document}
    {name otherName : String} (left : target.Addresses registry scope doc name)
    (right : target.Addresses registry scope other otherName) :
    doc = other ∧ name = otherName := by
  cases left with
  | fragment inside =>
    cases right with
    | fragment inside' => exact ⟨Option.some.inj (inside.symm.trans inside'), rfl⟩
  | own inside same =>
    cases right with
    | own inside' _ => exact ⟨Option.some.inj (inside.symm.trans inside'), rfl⟩
    | registered foreign _ _ => exact absurd same (foreign _ inside)
  | registered foreign given held =>
    cases right with
    -- The enclosing document hides one of the same identifier in the registry.
    | own inside same => exact absurd same (foreign _ inside)
    | registered _ given' held' =>
      obtain rfl := Option.some.inj (given.symm.trans given')
      exact ⟨Option.some.inj (held.symm.trans held'), rfl⟩

theorem Resolves.unique {doc other : Document} {definition otherDefinition : Definition}
    (left : Resolves registry scope text doc definition)
    (right : Resolves registry scope text other otherDefinition) :
    doc = other ∧ definition = otherDefinition := by
  obtain ⟨target, name, parsed, addressed, found⟩ := left
  obtain ⟨target', name', parsed', addressed', found'⟩ := right
  obtain rfl := Except.ok.inj (parsed.symm.trans parsed')
  obtain ⟨rfl, rfl⟩ := addressed.unique addressed'
  exact ⟨rfl, Option.some.inj (found.symm.trans found')⟩

/-! ### Looking up -/

namespace Lookup

theorem inDocument_of_some {doc : Document} {name : String} {definition : Definition}
    (found : doc.definition? name = some definition) :
    inDocument doc name = .found doc definition := by
  simp only [inDocument, found]

theorem inDocument_of_none {doc : Document} {name : String}
    (absent : doc.definition? name = none) : inDocument doc name = .noDefinition doc.id := by
  simp only [inDocument, absent]

/-- Where a reference addresses a document, that document is searched. -/
theorem ofReference_of_addresses {target : Reference} {doc : Document} {name : String}
    (addressed : target.Addresses registry scope doc name) :
    ofReference registry scope target = inDocument doc name := by
  cases addressed with
  | fragment inside => subst inside; rfl
  | own inside same => subst inside; simp only [ofReference, if_pos same]
  | registered foreign given held =>
    subst given
    cases scope with
    | none => simp only [ofReference, inRegistry, held]
    | some outer =>
      simp only [ofReference, if_neg (foreign outer rfl), inRegistry, held]

theorem ofReference_of_foreign {id : Nsid} (foreign : id.Foreign scope) :
    ofReference registry scope (.external id) = inRegistry registry id := by
  cases scope with
  | none => rfl
  | some outer => simp only [ofReference, if_neg (foreign outer rfl)]

/-- The four ways in which the look-up of a well-formed reference can go. -/
theorem ofReference_cases (registry : Option Registry) (scope : Option Document)
    (target : Reference) :
    (∃ doc name, target.Addresses registry scope doc name) ∨
      (∃ known id, target = .external id ∧ id.Foreign scope ∧ registry = some known ∧
        known.get? id = none) ∨
      (∃ name, target = .fragment name ∧ scope = none) ∨
      (∃ id, target = .external id ∧ id.Foreign scope ∧ registry = none) := by
  cases target with
  | fragment name =>
    cases scope with
    | none => exact .inr (.inr (.inl ⟨name, rfl, rfl⟩))
    | some doc => exact .inl ⟨doc, name, .fragment rfl⟩
  | external id =>
    -- The registry is only asked for other documents than the enclosing one.
    by_cases own : ∃ doc, scope = some doc ∧ id.base = doc.id
    · obtain ⟨doc, inside, same⟩ := own
      exact .inl ⟨doc, _, .own inside same⟩
    · have foreign : id.Foreign scope := fun doc inside same => own ⟨doc, inside, same⟩
      cases registry with
      | none => exact .inr (.inr (.inr ⟨id, rfl, foreign, rfl⟩))
      | some known =>
        cases held : known.get? id with
        | none => exact .inr (.inl ⟨known, id, rfl, foreign, rfl, held⟩)
        | some doc => exact .inl ⟨doc, _, .registered foreign rfl held⟩

theorem ofText_of_parse {target : Reference} (parsed : Reference.parse text = .ok target) :
    ofText registry scope text = ofReference registry scope target := by
  simp only [ofText, parsed]

theorem ofText_of_resolves {doc : Document} {definition : Definition}
    (resolves : Resolves registry scope text doc definition) :
    ofText registry scope text = .found doc definition := by
  obtain ⟨target, name, parsed, addressed, found⟩ := resolves
  rw [ofText_of_parse parsed, ofReference_of_addresses addressed, inDocument_of_some found]

theorem ofText_of_dangles (dangles : Dangles registry scope text) :
    (∃ id, ofText registry scope text = .noDefinition id) ∨
      ∃ id, ofText registry scope text = .notRegistered id := by
  cases dangles with
  | undefined parsed addressed absent =>
    left
    exact ⟨_, by
      rw [ofText_of_parse parsed, ofReference_of_addresses addressed, inDocument_of_none absent]⟩
  | unregistered parsed foreign given absent =>
    right
    subst given
    exact ⟨_, by
      rw [ofText_of_parse parsed, ofReference_of_foreign foreign]
      simp only [inRegistry, absent]
      rfl⟩

theorem ofText_of_unanswerable (unanswerable : Unanswerable registry scope text) :
    ofText registry scope text = .unknown := by
  cases unanswerable with
  | noScope parsed outside => subst outside; rw [ofText_of_parse parsed]; rfl
  | noRegistry parsed foreign absent =>
    subst absent
    rw [ofText_of_parse parsed, ofReference_of_foreign foreign]
    rfl

/-- Every text is malformed, or one of the three relations holds of it. -/
theorem ofText_cases (registry : Option Registry) (scope : Option Document) (text : String) :
    (∃ reason, ofText registry scope text = .malformed reason) ∨
      (∃ doc definition, Resolves registry scope text doc definition) ∨
      Dangles registry scope text ∨ Unanswerable registry scope text := by
  cases parsed : Reference.parse text with
  | error reason => exact .inl ⟨reason, by simp only [ofText, parsed]⟩
  | ok target =>
    right
    rcases ofReference_cases registry scope target with
      ⟨doc, name, addressed⟩ | ⟨known, id, rfl, foreign, given, absent⟩ |
        ⟨name, rfl, outside⟩ | ⟨id, rfl, foreign, absent⟩
    · cases found : doc.definition? name with
      | none => exact .inr (.inl (.undefined parsed addressed found))
      | some definition => exact .inl ⟨doc, definition, target, name, parsed, addressed, found⟩
    · exact .inr (.inl (.unregistered parsed foreign given absent))
    · exact .inr (.inr (.noScope parsed outside))
    · exact .inr (.inr (.noRegistry parsed foreign absent))

theorem ofText_eq_found_iff {doc : Document} {definition : Definition} :
    ofText registry scope text = .found doc definition ↔
      Resolves registry scope text doc definition := by
  constructor
  · intro found
    -- The four outcomes exclude each other, so the one that was found is the first relation.
    rcases ofText_cases registry scope text with
      ⟨reason, malformed⟩ | ⟨doc', definition', resolves⟩ | dangles | unanswerable
    · simp [found] at malformed
    · have same := ofText_of_resolves resolves
      rw [found] at same
      cases same
      exact resolves
    · rcases ofText_of_dangles dangles with ⟨id, missing⟩ | ⟨id, missing⟩ <;>
        simp [found] at missing
    · have unknown := ofText_of_unanswerable unanswerable
      simp [found] at unknown
  · exact ofText_of_resolves

theorem dangles_iff : Dangles registry scope text ↔
    (∃ id, ofText registry scope text = .noDefinition id) ∨
      ∃ id, ofText registry scope text = .notRegistered id := by
  refine ⟨ofText_of_dangles, fun missing => ?_⟩
  rcases ofText_cases registry scope text with
    ⟨reason, malformed⟩ | ⟨doc, definition, resolves⟩ | dangles | unanswerable
  · simp [malformed] at missing
  · simp [ofText_of_resolves resolves] at missing
  · exact dangles
  · simp [ofText_of_unanswerable unanswerable] at missing

theorem ofText_eq_unknown_iff :
    ofText registry scope text = .unknown ↔ Unanswerable registry scope text := by
  refine ⟨fun unknown => ?_, ofText_of_unanswerable⟩
  rcases ofText_cases registry scope text with
    ⟨reason, malformed⟩ | ⟨doc, definition, resolves⟩ | dangles | unanswerable
  · simp [unknown] at malformed
  · simp [ofText_of_resolves resolves] at unknown
  · rcases ofText_of_dangles dangles with ⟨id, missing⟩ | ⟨id, missing⟩ <;>
      simp [unknown] at missing
  · exact unanswerable

end Lookup

end Lexicon
