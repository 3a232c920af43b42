import Lexicon.Proofs.Causes
import Lexicon.Proofs.Recursion

/-!
# Lexicon.Proofs.OptionComparison

One value under two settings.

The settings of a validation matter where findings arise: at the verdict on a
value, at the number of elements, at missing and at undeclared fields. They
decide nothing about where the validator goes next.

## Main result

`Comparison.check`: a relation that holds wherever findings arise, and is kept
where they are put together, holds between all that two settings find.

## Proof strategy

Both validators make the same calls, since they share the registry. So the
calls of one of them carry the induction, and one step of both is compared at a
time.
-/

namespace Lexicon

/-- A relation between what is found under two settings. Causes that come from following
references are told apart from the one about undeclared fields. -/
structure Comparison (options other : ValidationOptions)
    (R : List Finding → List Finding → Prop) : Prop where
  nil : R [] []
  append : ∀ {a b c d}, R a b → R c d → R (a ++ c) (b ++ d)
  inside : ∀ (step : Step) {a b}, R a b → R (a.map (.inside step)) (b.map (.inside step))
  refused : ∀ (expected : String) {cause : Cause}, cause ≠ .undeclared →
    R [.here expected cause] [.here expected cause]
  verdict : ∀ node value, R (Validator.ofVerdict options node (.ofNode node value))
    (Validator.ofVerdict other node (.ofNode node value))
  count : ∀ t count, R (Validator.countFindings options t count)
    (Validator.countFindings other t count)
  missing : ∀ t members, R (Validator.missingFindings options t members)
    (Validator.missingFindings other t members)
  undeclared : ∀ t members, R (Validator.undeclaredFindings options t members)
    (Validator.undeclaredFindings other t members)

/-! ### Refusals on the way to a type -/

theorem Move.cause_ne_undeclared {scope : Option Document} {value : Json} {node : TypeNode}
    {cause : Cause} (refused : Move.ofNode scope value node = .refuse cause) :
    cause ≠ .undeclared := by
  rintro rfl
  exact absurd (isOfValue_of_refuse refused) (by decide)

theorem Definition.cause_ne_undeclared {definition : Definition} {reference : String}
    {cause : Cause} (refused : definition.target reference = .error cause) :
    cause ≠ .undeclared := by
  rw [target_eq_error refused]
  nofun

/-! ### One step -/

namespace Comparison

variable {options other : ValidationOptions} {R : List Finding → List Finding → Prop}
  {registry : Option Registry} {ask askOther : Visit → List Finding}

theorem flatMap (comparison : Comparison options other R) {α : Type} {as : List α}
    {f g : α → List Finding} (each : ∀ a ∈ as, R (f a) (g a)) :
    R (as.flatMap f) (as.flatMap g) := by
  induction as with
  | nil => exact comparison.nil
  | cons a rest ih =>
    have first : R (f a) (g a) := each a List.mem_cons_self
    have later : R (rest.flatMap f) (rest.flatMap g) :=
      ih fun b inside => each b (List.mem_cons_of_mem _ inside)
    simpa only [List.flatMap_cons] using comparison.append first later

theorem memberStep (comparison : Comparison options other R) {hops : Nat}
    {scope : Option Document} {t : ObjectType} {members : List (String × Json)}
    (agree : ∀ later, Visit.Calls registry (.atNode hops scope (.object t) (.obj members)) later →
      R (ask later) (askOther later)) {field : String} {value : Json}
    (found : members.lookup field = some value) :
    R (Visit.memberStep ask scope t field value)
      (Visit.memberStep askOther scope t field value) := by
  unfold Visit.memberStep
  split
  · exact comparison.nil
  · next type declared =>
    split
    · exact comparison.nil
    · next present => exact agree _ (.member declared found (by simpa using present))

theorem shapeStep (comparison : Comparison options other R) {hops : Nat}
    {scope : Option Document} {type : TypeNode} {value : Json}
    (agree : ∀ later, Visit.Calls registry (.atNode hops scope type value) later →
      R (ask later) (askOther later)) :
    R (Visit.shapeStep { options, registry } ask scope type value)
      (Visit.shapeStep { options := other, registry } askOther scope type value) := by
  unfold Visit.shapeStep
  split
  · next t elements =>
    refine comparison.append (comparison.count t elements.length) ?_
    split
    · exact comparison.nil
    · next items given =>
      refine comparison.flatMap fun entry inside => comparison.inside _ ?_
      exact agree _ (.element given (List.fst_mem_of_mem_zipIdx inside))
  · next t members =>
    have fields : R
        (t.properties.flatMap fun property =>
          (((members.lookup property.1).map (Visit.memberStep ask scope t property.1)).getD []).map
            (.inside (.field property.1)))
        (t.properties.flatMap fun property =>
          (((members.lookup property.1).map
            (Visit.memberStep askOther scope t property.1)).getD []).map
            (.inside (.field property.1))) := by
      refine comparison.flatMap fun property _ => comparison.inside _ ?_
      cases found : members.lookup property.1 with
      | none => exact comparison.nil
      | some value => exact comparison.memberStep agree found
    exact comparison.append (comparison.append (comparison.missing t members) fields)
      (comparison.undeclared t members)
  · exact comparison.verdict type value

theorem step (comparison : Comparison options other R) {visit : Visit}
    (agree : ∀ later, Visit.Calls registry visit later → R (ask later) (askOther later)) :
    R (Visit.step { options, registry } ask visit)
      (Visit.step { options := other, registry } askOther visit) := by
  cases visit with
  | atDefinition hops doc definition reference value =>
    simp only [Visit.step]
    split
    · next type typed => exact agree _ (.target typed)
    · next cause refused => exact comparison.refused _ (Definition.cause_ne_undeclared refused)
  | atNode hops scope type value =>
    simp only [Visit.step]
    split
    · exact comparison.shapeStep agree
    · exact comparison.nil
    · next cause refused => exact comparison.refused _ (Move.cause_ne_undeclared refused)
    · next reference strict follow =>
      split
      · exact comparison.refused _ (by simp)
      -- The registry is shared, so both sides find the same definition or miss the same one.
      · split
        · next doc definition found => exact agree _ (.follow follow found)
        · split
          · exact comparison.refused _ (by simp)
          · exact comparison.nil
        · split
          · exact comparison.refused _ (by simp)
          · exact comparison.nil
        · exact comparison.nil
        · exact comparison.refused _ (by simp)

/-! ### Whole runs -/

theorem findings (comparison : Comparison options other R) (registry : Option Registry)
    (visit : Visit) :
    R (Visit.findings { options, registry } visit)
      (Visit.findings { options := other, registry } visit) := by
  induction visit using (Visit.calls_wellFounded registry).induction with
  | h visit ih =>
    rw [Visit.findings_eq_step, Visit.findings_eq_step]
    exact comparison.step ih

theorem check (comparison : Comparison options other R) (registry : Option Registry)
    (scope : Option Document) (node : TypeNode) (value : Json) :
    R (Validator.check { options, registry } scope node value)
      (Validator.check { options := other, registry } scope node value) := by
  rw [Validator.check_eq_checkWithin, Validator.check_eq_checkWithin]
  exact comparison.findings registry (.atNode maxHops scope node value)

theorem checkDefinition (comparison : Comparison options other R) (registry : Option Registry)
    (value : Json) (doc : Document) (name : String) :
    R (Validator.checkDefinition { options, registry } value doc name)
      (Validator.checkDefinition { options := other, registry } value doc name) := by
  unfold Validator.checkDefinition
  split
  · exact comparison.refused _ (by simp)
  · dsimp only
    split
    · exact comparison.check registry (some doc) _ value
    · next cause refused => exact comparison.refused _ (Definition.cause_ne_undeclared refused)

end Comparison

end Lexicon
