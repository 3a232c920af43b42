import Lexicon.Proofs.NamedStructs

/-!
# Lexicon.Proofs.Transparency

References are transparent.

A value that is held to a reference is held to the definition that the
reference leads to. What is found is the same as for the definition itself,
wherever the reference stands and however it is written.

## Main result

`Validator.references_transparent`: a reference and its target give the same
errors, unless too many references follow each other.

## Proof strategy

A reference takes one hop from those of its target, and every child starts with
all hops again. So it is enough that a hop more changes nothing at a value
where the hops did not run out.
-/

namespace Lexicon

namespace Validator

variable {v : Validator} {scope : Option Document} {node : TypeNode} {value : Json}

/-! ### A hop to spare -/

/-- Hops count for nothing at a node that asks for no reference to be followed. -/
theorem checkWithin_of_no_follow (stays : ∀ reference strict,
    Move.ofNode scope value node ≠ .follow reference strict) (hops more : Nat) :
    v.checkWithin hops scope node value = v.checkWithin more scope node value := by
  cases asked : Move.ofNode scope value node with
  | stay => rw [checkWithin_of_stay hops asked, checkWithin_of_stay more asked]
  | accept => rw [checkWithin_of_accept hops asked, checkWithin_of_accept more asked]
  | refuse cause => rw [checkWithin_of_refuse hops asked, checkWithin_of_refuse more asked]
  | follow reference strict => exact absurd asked (stays reference strict)

/-- With a hop more the same is found, unless the hops ran out. -/
theorem checkWithin_succ {hops : Nat} (enough : ∀ reference,
    v.checkWithin hops scope node value ≠ [.here reference (.tooManyHops maxHops reference)]) :
    v.checkWithin (hops + 1) scope node value = v.checkWithin hops scope node value := by
  by_cases follows : ∃ reference strict, Move.ofNode scope value node = .follow reference strict
  · obtain ⟨reference, strict, asked⟩ := follows
    -- The hops run out at the last reference of a chain, so the chain carries the induction.
    induction hops generalizing scope node reference strict with
    | zero => exact absurd (checkWithin_of_follow_zero asked) (enough reference)
    | succ hops ih =>
      rw [checkWithin_of_follow_succ hops asked] at enough
      rw [checkWithin_of_follow_succ (hops + 1) asked, checkWithin_of_follow_succ hops asked]
      cases found : Lookup.ofText v.registry scope reference with
      | found doc definition =>
        simp only [checkReference, found] at enough ⊢
        cases typed : definition.target reference with
        | error cause => simp only [checkTarget, typed]
        | ok target =>
          simp only [checkTarget, typed] at enough ⊢
          by_cases further : ∃ next strict,
              Move.ofNode (some doc) value target = .follow next strict
          · obtain ⟨next, strict, asked⟩ := further
            exact ih enough next strict asked
          · push Not at further
            exact checkWithin_of_no_follow further _ _
      | _ => simp only [checkReference, found]
  · push Not at follows
    exact checkWithin_of_no_follow follows _ _

/-! ### References and their targets -/

variable {doc owner : Document} {t : RefType} {definition : Definition}

theorem check_ref (resolves : Resolves v.registry scope t.target owner definition)
    (typed : definition.dataType? = some node) :
    v.check scope (.ref t) value = v.checkWithin 31 (some owner) node value := by
  rw [check_eq_checkWithin]
  exact checkWithin_ref_succ 31 resolves typed

theorem checkDefinition_of_dataType {name : String}
    (found : doc.definition? name = some definition)
    (typed : definition.dataType? = some node) :
    v.checkDefinition value doc name = v.checkWithin maxHops (some doc) node value := by
  simp only [checkDefinition, found, target_eq_ok_iff.mpr typed, check_eq_checkWithin]

/-- Two references to the same definition give the same findings, however many hops follow. -/
theorem check_ref_eq {other : RefType}
    (resolves : Resolves v.registry scope t.target owner definition)
    (again : Resolves v.registry scope other.target owner definition)
    (typed : definition.dataType? = some node) :
    v.check scope (.ref t) value = v.check scope (.ref other) value := by
  rw [check_ref resolves typed, check_ref again typed]

end Validator

/-- A definition of a document has an identifier of its own. -/
theorem Nsid.exists_parse_text_append {id : Nsid} {text name : String}
    (parsed : parse text = .ok id) (main : id.fragment = none) (named : Label.isName name = true) :
    ∃ other, parse (id.text ++ "#" ++ name) = .ok other ∧ other.base = id ∧
      other.definitionName = name := by
  obtain ⟨other, given, base, definition⟩ := id.withFragment_of_isName named
  have written : id.text = id.baseText := by simp only [Nsid.text, main]
  refine ⟨other, ?_, base.trans (base_eq_self main), definition⟩
  rw [written]
  exact parse_baseText_append parsed given

/-! ### Reports -/

/-- No error is about too many references. -/
def WithinHops (violations : List Violation) : Prop :=
  ∀ violation ∈ violations, ∀ reference,
    violation.message ≠ (Cause.tooManyHops 32 reference).message

namespace Validator

/-- Holding a value to a reference that stands in a document is holding it to the definition that
the reference leads to, unless too many references follow each other. The name of an own definition
leads there by itself and behind the identifier of the document. -/
theorem references_transparent (v : Validator) (doc : Document) :
    (∀ (t : RefType) (target : Reference) (owner : Document) (name : String)
        (definition : Definition) (node : TypeNode) (value : Json),
      Reference.parse t.target = .ok target →
      target.Addresses v.registry (some doc) owner name →
      owner.definition? name = some definition → definition.dataType? = some node →
      WithinHops (v.validateInDocument value (.ref t) doc) →
      v.validateInDocument value (.ref t) doc = v.validateDefinition value owner name) ∧
    ((∃ document, Document.parse document = .ok doc) →
      ∀ (name : String) (definition : Definition) (node : TypeNode)
        (description : Option String) (value : Json),
      Label.isName name = true → doc.definition? name = some definition →
      definition.dataType? = some node →
      v.validateInDocument value (.ref ⟨description, "#" ++ name⟩) doc =
        v.validateInDocument value (.ref ⟨description, doc.id.text ++ "#" ++ name⟩) doc) := by
  constructor
  · intro t target owner name definition node value parsed addressed found typed followed
    have resolves : Resolves v.registry (some doc) t.target owner definition :=
      ⟨target, name, parsed, addressed, found⟩
    -- The reference takes one of the 32 hops, which shows only if all of them are taken.
    have enough : ∀ reference, v.checkWithin 31 (some owner) node value ≠
        [.here reference (.tooManyHops maxHops reference)] := by
      intro reference exceeded
      refine followed (.ofFinding "" (.here reference (.tooManyHops maxHops reference))) ?_
        reference rfl
      rw [validateInDocument_eq_report, check_ref resolves typed, exceeded]
      exact List.mem_singleton_self _
    rw [validateInDocument_eq_report, validateDefinition_eq_report, check_ref resolves typed,
      checkDefinition_of_dataType found typed]
    exact congrArg (report "") (checkWithin_succ enough).symm
  · rintro ⟨document, accepted⟩ name definition node description value named found typed
    obtain ⟨⟨text, parsed⟩, main⟩ : (∃ text, Nsid.parse text = .ok doc.id) ∧
        doc.id.fragment = none :=
      ⟨(Document.wellFormed_of_parse _ _ accepted).identifier,
        (Document.wellFormed_of_parse _ _ accepted).noFragment⟩
    obtain ⟨id, read, base, rfl⟩ := Nsid.exists_parse_text_append parsed main named
    have short : Resolves v.registry (some doc) ("#" ++ id.definitionName) doc definition :=
      ⟨_, _, Reference.parse_eq_fragment_iff.mpr ⟨rfl, named⟩, .fragment rfl, found⟩
    have long : Resolves v.registry (some doc) (doc.id.text ++ "#" ++ id.definitionName) doc
        definition :=
      ⟨_, _, Reference.parse_eq_external_iff.mpr read, .own rfl base, found⟩
    rw [validateInDocument_eq_report, validateInDocument_eq_report]
    exact congrArg (report "") (check_ref_eq short long typed)

/-- The validator that knows both documents. -/
def sharingValidator : Validator :=
  { options := {}, registry := some (.ofDocuments sharingDocuments) }

/-- An integer is no object, and the aliases in between do not show. -/
theorem references_transparent_sharingDocument :
    sharingValidator.validateInDocument (.int 5) (.ref ⟨none, "com.example.defs#alias"⟩)
        sharingDocument = sharingValidator.validateDefinition (.int 5) sharedDocument "alias" ∧
      sharingValidator.validateDefinition (.int 5) sharedDocument "alias" =
        [{ path := "", expected := "object", message := "expected object, found integer" }] ∧
      sharingValidator.validateInDocument (.int 5) (.ref ⟨none, "#alias"⟩) sharedDocument =
        sharingValidator.validateInDocument (.int 5) (.ref ⟨none, "com.example.defs#alias"⟩)
          sharedDocument := by
  have errors : sharingValidator.validateInDocument (.int 5)
      (.ref ⟨none, "com.example.defs#alias"⟩) sharingDocument =
      [{ path := "", expected := "object", message := "expected object, found integer" }] := rfl
  have within : WithinHops (sharingValidator.validateInDocument (.int 5)
      (.ref ⟨none, "com.example.defs#alias"⟩) sharingDocument) := by
    rw [errors]
    intro violation inside reference same
    have written : (Cause.tooManyHops 32 reference).message =
        "reference chain exceeds 32 hops at " ++ reference := rfl
    rw [List.mem_singleton.mp inside, written] at same
    have first := congrArg (·.toList.head?) same
    simp at first
  have external : (Reference.external ⟨["com", "example"], "defs", some "alias"⟩).Addresses
      sharingValidator.registry (some sharingDocument) sharedDocument "alias" :=
    .registered (by rintro _ ⟨⟩; decide) rfl rfl
  have same := (references_transparent sharingValidator sharingDocument).1 _ _ _ _ _ _ _
    (by decide) external rfl rfl within
  have accepted := Document.accepted_of_wellFormed wellFormed_sharingDocuments sharedDocument
    List.mem_cons_self
  have spelling := (references_transparent sharingValidator sharedDocument).2 accepted "alias" _ _
    none (.int 5) (by decide) rfl rfl
  exact ⟨same, same ▸ errors, spelling⟩

end Validator

end Lexicon
