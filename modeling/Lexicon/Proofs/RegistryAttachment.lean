import Lexicon.Proofs.OptionComparison

/-!
# Lexicon.Proofs.RegistryAttachment

One value with a registry and without one.

Without a registry no reference leaves its document: the values of those that
would are accepted. With a registry these values are held to something, and
whatever that finds comes in addition.

## Main result

`Validator.registry_adds`: the errors without a registry are some of those with
one, in the same order.

## Proof strategy

The validator without a registry makes fewer calls, so its calls carry the
induction. A reference leads nowhere or to the same definition as with the
registry, since the enclosing document comes first in either case.
-/

namespace Lexicon

/-- Without a registry a reference leads where it leads with one, or there is nothing to look
in. -/
theorem Lookup.ofText_none (registry : Option Registry) (scope : Option Document)
    (reference : String) :
    ofText none scope reference = .unknown ∨
      ofText none scope reference = ofText registry scope reference := by
  unfold ofText
  cases Reference.parse reference with
  | error reason => exact .inr rfl
  | ok target =>
    cases target with
    | fragment name => cases scope <;> exact .inr rfl
    | external id =>
      cases scope with
      | none => exact .inl rfl
      | some doc =>
        by_cases own : id.base = doc.id
        · exact .inr (by simp only [ofReference, if_pos own])
        · exact .inl (by simp only [ofReference, if_neg own, inRegistry])

theorem Comparison.sublist (options : ValidationOptions) :
    Comparison options options List.Sublist where
  nil := .refl []
  append first second := first.append second
  inside _ _ _ given := given.map _
  refused _ _ _ := .refl _
  verdict _ _ := .refl _
  count _ _ := .refl _
  missing _ _ := .refl _
  undeclared _ _ := .refl _

/-! ### The validator -/

variable {options : ValidationOptions} {registry : Option Registry}

/-- One step finds less without a registry if its calls do. -/
theorem Visit.step_sublist {ask askOther : Visit → List Finding} {visit : Visit}
    (agree : ∀ later, Calls none visit later → (ask later).Sublist (askOther later)) :
    (step { options, registry := none } ask visit).Sublist
      (step { options, registry } askOther visit) := by
  cases visit with
  | atDefinition hops doc definition reference value =>
    simp only [step]
    split
    · next type typed => exact agree _ (.target typed)
    · exact .refl _
  | atNode hops scope type value =>
    simp only [step]
    split
    -- Only references look at the registry, so this is a comparison of a setting with itself.
    · exact (Comparison.sublist options).shapeStep agree
    · exact .refl _
    · exact .refl _
    · next reference strict follow =>
      split
      · exact .refl _
      · rcases Lookup.ofText_none registry scope reference with unknown | same
        · rw [unknown]
          exact List.nil_sublist _
        · rw [← same]
          split
          · next doc definition found => exact agree _ (.follow follow found)
          all_goals exact .refl _

theorem Visit.findings_sublist (options : ValidationOptions) (registry : Option Registry)
    (visit : Visit) :
    (findings { options, registry := none } visit).Sublist
      (findings { options, registry } visit) := by
  induction visit using (calls_wellFounded none).induction with
  | h visit ih =>
    rw [findings_eq_step, findings_eq_step]
    exact step_sublist ih

namespace Validator

theorem check_sublist (options : ValidationOptions) (registry : Option Registry)
    (scope : Option Document) (node : TypeNode) (value : Json) :
    (check { options, registry := none } scope node value).Sublist
      (check { options, registry } scope node value) := by
  rw [check_eq_checkWithin, check_eq_checkWithin]
  exact Visit.findings_sublist options registry (.atNode maxHops scope node value)

theorem checkDefinition_sublist (options : ValidationOptions) (registry : Option Registry)
    (value : Json) (doc : Document) (name : String) :
    (checkDefinition { options, registry := none } value doc name).Sublist
      (checkDefinition { options, registry } value doc name) := by
  unfold checkDefinition
  split
  · exact .refl _
  · dsimp only
    split
    · exact check_sublist options registry (some doc) _ value
    · exact .refl _

/-! ### Reports -/

/-- Errors are some of others, in their order; in particular there are none if there are no
others. -/
structure PartOf (errors others : List Violation) : Prop where
  sublist : errors.Sublist others
  valid : others = [] → errors = []

theorem PartOf.report {findings others : List Finding} (part : findings.Sublist others)
    (start : String) : PartOf (report start findings) (report start others) := by
  have reported : (Validator.report start findings).Sublist (Validator.report start others) :=
    part.map _
  exact ⟨reported, fun valid => List.sublist_nil.mp (valid ▸ reported)⟩

/-- A registry adds errors and takes none away: for a value anywhere, inside a document or without
one, and for the definitions of a document. So what is valid with a registry is valid without
one. -/
theorem registry_adds (options : ValidationOptions) (registry : Registry) (value : Json) :
    let alone : Validator := { options, registry := none }
    let attached : Validator := { options, registry := some registry }
    (∀ node path, PartOf (alone.validateAt value node path)
        (attached.validateAt value node path)) ∧
      (∀ node doc, PartOf (alone.validateInDocument value node doc)
        (attached.validateInDocument value node doc)) ∧
      ∀ doc name, PartOf (alone.validateDefinition value doc name)
        (attached.validateDefinition value doc name) := by
  intro alone attached
  simp only [validateAt_eq_report, validateInDocument_eq_report, validateDefinition_eq_report]
  exact ⟨fun node path => .report (check_sublist options registry none node value) path,
    fun node doc => .report (check_sublist options registry (some doc) node value) "",
    fun doc name => .report (checkDefinition_sublist options registry value doc name) ""⟩

end Validator

end Lexicon
