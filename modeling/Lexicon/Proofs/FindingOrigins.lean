import Lexicon.Proofs.Causes
import Lexicon.Proofs.Entries
import Lexicon.Proofs.Recursion

/-!
# Lexicon.Proofs.FindingOrigins

Where findings come from.

A finding arises at one value, for one reason, and is handed up from there:
unchanged through references and definitions, with one more step through
elements and members. What is to hold of all findings of a run can be shown
along that way, with one case for each reason.

## Main definition

`Visit.Arises`: a finding arises from what is visited.

## Main results

- `Visit.arises_of_mem`: all that the validator finds arises.
- `Validator.arises_of_mem_check`, `Validator.arises_of_mem_checkDefinition`:
  the same for a whole run.
-/

namespace Lexicon

namespace Visit

/-- A finding arises from what is visited, at the value itself or below it. -/
inductive Arises (v : Validator) : Visit → Finding → Prop where
  | refused {hops : Nat} {scope : Option Document} {node : TypeNode} {value : Json} {cause : Cause}
      (asked : Move.ofNode scope value node = .refuse cause) :
      Arises v (.atNode hops scope node value) (.here node.kind cause)
  | exhausted {scope : Option Document} {node : TypeNode} {value : Json} {reference : String}
      {strict : Bool} (asked : Move.ofNode scope value node = .follow reference strict) :
      Arises v (.atNode 0 scope node value) (.here reference (.tooManyHops maxHops reference))
  | undefined {hops : Nat} {scope : Option Document} {node : TypeNode} {value : Json}
      {reference : String} {strict : Bool} {document : Nsid}
      (asked : Move.ofNode scope value node = .follow reference strict)
      (missed : Lookup.ofText v.registry scope reference = .noDefinition document) :
      Arises v (.atNode (hops + 1) scope node value)
        (.here reference (.noDefinition reference document))
  | unregistered {hops : Nat} {scope : Option Document} {node : TypeNode} {value : Json}
      {reference : String} {strict : Bool} {document : Nsid}
      (asked : Move.ofNode scope value node = .follow reference strict)
      (missed : Lookup.ofText v.registry scope reference = .notRegistered document) :
      Arises v (.atNode (hops + 1) scope node value) (.here reference (.notRegistered document))
  | unresolvable {hops : Nat} {scope : Option Document} {node : TypeNode} {value : Json}
      {reference : String} {strict : Bool} {reason : IdentifierError}
      (asked : Move.ofNode scope value node = .follow reference strict)
      (malformed : Lookup.ofText v.registry scope reference = .malformed reason) :
      Arises v (.atNode (hops + 1) scope node value) (.here reference (.unresolvable reason))
  | followed {hops : Nat} {scope : Option Document} {node : TypeNode} {value : Json}
      {reference : String} {strict : Bool} {doc : Document} {definition : Definition}
      {finding : Finding} (asked : Move.ofNode scope value node = .follow reference strict)
      (found : Lookup.ofText v.registry scope reference = .found doc definition)
      (below : Arises v (.atDefinition hops doc definition reference value) finding) :
      Arises v (.atNode (hops + 1) scope node value) finding
  | untyped {hops : Nat} {doc : Document} {definition : Definition} {reference : String}
      {value : Json} {cause : Cause} (refused : definition.target reference = .error cause) :
      Arises v (.atDefinition hops doc definition reference value) (.here definition.kind cause)
  | typed {hops : Nat} {doc : Document} {definition : Definition} {reference : String}
      {node : TypeNode} {value : Json} {finding : Finding}
      (target : definition.target reference = .ok node)
      (below : Arises v (.atNode hops (some doc) node value) finding) :
      Arises v (.atDefinition hops doc definition reference value) finding
  | verdict {hops : Nat} {scope : Option Document} {node : TypeNode} {value : Json} {cause : Cause}
      (against : cause ∈ (Verdict.ofNode node value).causes) :
      Arises v (.atNode hops scope node value) (.here node.kind cause)
  | count {hops : Nat} {scope : Option Document} {t : ArrayType} {elements : List Json}
      {cause : Cause} (against : cause ∈ t.failures elements.length) :
      Arises v (.atNode hops scope (.array t) (.arr elements)) (.here "array" cause)
  | element {hops : Nat} {scope : Option Document} {t : ArrayType} {items : TypeNode}
      {elements : List Json} {index : Nat} {element : Json} {finding : Finding}
      (given : t.items = some items) (stands : elements[index]? = some element)
      (below : Arises v (.atNode maxHops scope items element) finding) :
      Arises v (.atNode hops scope (.array t) (.arr elements)) (finding.inside (.index index))
  | missing {hops : Nat} {scope : Option Document} {t : ObjectType}
      {members : List (String × Json)} {field : String} (required : field ∈ t.required)
      (absent : members.lookup field = none) :
      Arises v (.atNode hops scope (.object t) (.obj members))
        { steps := [.field field]
          expected := ((t.property? field).map TypeNode.kind).getD "value"
          cause := .requiredMissing }
  | member {hops : Nat} {scope : Option Document} {t : ObjectType} {field : String}
      {node : TypeNode} {members : List (String × Json)} {value : Json} {finding : Finding}
      (declared : t.property? field = some node) (found : members.lookup field = some value)
      (present : (value.isNull && t.isNullable field) = false)
      (below : Arises v (.atNode maxHops scope node value) finding) :
      Arises v (.atNode hops scope (.object t) (.obj members)) (finding.inside (.field field))
  | undeclared {hops : Nat} {scope : Option Document} {t : ObjectType} {field : String}
      {members : List (String × Json)} {value : Json} (there : (field, value) ∈ members)
      (unknown : Entries.has t.properties field = false) :
      Arises v (.atNode hops scope (.object t) (.obj members))
        { steps := [.field field], expected := "no field", cause := .undeclared }

variable {v : Validator} {ask : Visit → List Finding} {hops : Nat} {scope : Option Document}
  {finding : Finding}

/-! ### One step -/

theorem arises_of_mem_ofVerdict {node : TypeNode} {value : Json}
    (inside : finding ∈ Validator.ofVerdict v.options node (.ofNode node value)) :
    Arises v (.atNode hops scope node value) finding := by
  have against : ∃ cause ∈ (Verdict.ofNode node value).causes,
      finding = .here node.kind cause := by
    cases given : Verdict.ofNode node value with
    | malformed cause =>
      rw [given] at inside
      exact ⟨cause, List.mem_singleton_self _, List.mem_singleton.mp inside⟩
    | formed failing =>
      rw [given] at inside
      obtain ⟨cause, reported, rfl⟩ := List.mem_map.mp inside
      exact ⟨cause, Validator.reported_subset _ _ reported, rfl⟩
  obtain ⟨cause, against, rfl⟩ := against
  exact .verdict against

theorem exists_of_mem_countFindings {options : ValidationOptions} {t : ArrayType} {count : Nat}
    (inside : finding ∈ Validator.countFindings options t count) :
    ∃ cause ∈ t.failures count, finding = .here "array" cause := by
  unfold Validator.countFindings at inside
  split at inside
  · obtain ⟨cause, against, rfl⟩ := List.mem_map.mp inside
    exact ⟨cause, against, rfl⟩
  · cases inside

theorem exists_of_mem_missingFindings {options : ValidationOptions} {t : ObjectType}
    {members : List (String × Json)}
    (inside : finding ∈ Validator.missingFindings options t members) :
    ∃ field ∈ t.required, members.lookup field = none ∧ finding =
      { steps := [.field field]
        expected := ((t.property? field).map TypeNode.kind).getD "value"
        cause := .requiredMissing } := by
  unfold Validator.missingFindings at inside
  split at inside
  · obtain ⟨field, kept, rfl⟩ := List.mem_map.mp inside
    obtain ⟨required, lacks⟩ := List.mem_filter.mp kept
    exact ⟨field, required, Entries.has_eq_false_iff.mp (by simpa using lacks), rfl⟩
  · cases inside

theorem exists_of_mem_undeclaredFindings {options : ValidationOptions} {t : ObjectType}
    {members : List (String × Json)}
    (inside : finding ∈ Validator.undeclaredFindings options t members) :
    ∃ field value, (field, value) ∈ members ∧ Entries.has t.properties field = false ∧ finding =
      { steps := [.field field], expected := "no field", cause := .undeclared } := by
  unfold Validator.undeclaredFindings at inside
  split at inside
  · obtain ⟨⟨field, value⟩, kept, rfl⟩ := List.mem_map.mp inside
    obtain ⟨there, hidden⟩ := List.mem_filter.mp kept
    simp only [Bool.and_eq_true, Bool.not_eq_true'] at hidden
    exact ⟨field, value, there, hidden.2, rfl⟩
  · cases inside

theorem arises_of_mem_memberStep {t : ObjectType} {members : List (String × Json)}
    (below : ∀ later, Calls v.registry (.atNode hops scope (.object t) (.obj members)) later →
      ∀ finding ∈ ask later, Arises v later finding) {field : String} {value : Json}
    (found : members.lookup field = some value)
    (inside : finding ∈ memberStep ask scope t field value) :
    Arises v (.atNode hops scope (.object t) (.obj members)) (finding.inside (.field field)) := by
  unfold memberStep at inside
  split at inside
  · cases inside
  · next node declared =>
    split at inside
    · cases inside
    · next given =>
      have present : (value.isNull && t.isNullable field) = false := by simpa using given
      exact .member declared found present
        (below _ (.member declared found present) finding inside)

theorem arises_of_mem_shapeStep {node : TypeNode} {value : Json}
    (below : ∀ later, Calls v.registry (.atNode hops scope node value) later →
      ∀ finding ∈ ask later, Arises v later finding)
    (inside : finding ∈ shapeStep v ask scope node value) :
    Arises v (.atNode hops scope node value) finding := by
  unfold shapeStep at inside
  split at inside
  · next t elements =>
    rcases List.mem_append.mp inside with count | further
    · obtain ⟨cause, against, rfl⟩ := exists_of_mem_countFindings count
      exact .count against
    · split at further
      · cases further
      · next items given =>
        obtain ⟨⟨element, index⟩, entry, further⟩ := List.mem_flatMap.mp further
        obtain ⟨inner, found, rfl⟩ := List.mem_map.mp further
        exact .element given (List.mem_zipIdx_iff_getElem?.mp entry)
          (below _ (.element given (List.fst_mem_of_mem_zipIdx entry)) inner found)
  · next t members =>
    rcases List.mem_append.mp inside with first | undeclared
    · rcases List.mem_append.mp first with missing | declared
      · obtain ⟨field, required, absent, rfl⟩ := exists_of_mem_missingFindings missing
        exact .missing required absent
      · obtain ⟨property, _, further⟩ := List.mem_flatMap.mp declared
        obtain ⟨inner, reported, rfl⟩ := List.mem_map.mp further
        cases found : members.lookup property.1 with
        -- Nothing is found at a field that is not there.
        | none => simp [found] at reported
        | some value =>
          rw [found] at reported
          exact arises_of_mem_memberStep below found reported
    · obtain ⟨field, value, there, unknown, rfl⟩ := exists_of_mem_undeclaredFindings undeclared
      exact .undeclared there unknown
  · exact arises_of_mem_ofVerdict inside

theorem arises_of_mem_step {visit : Visit}
    (below : ∀ later, Calls v.registry visit later →
      ∀ finding ∈ ask later, Arises v later finding)
    (inside : finding ∈ step v ask visit) : Arises v visit finding := by
  cases visit with
  | atDefinition hops doc definition reference value =>
    simp only [step] at inside
    split at inside
    · next node target => exact .typed target (below _ (.target target) finding inside)
    · next cause refused => exact List.mem_singleton.mp inside ▸ .untyped refused
  | atNode hops scope node value =>
    simp only [step] at inside
    split at inside
    · exact arises_of_mem_shapeStep below inside
    · cases inside
    · next cause asked => exact List.mem_singleton.mp inside ▸ .refused asked
    · next reference strict asked =>
      split at inside
      · exact List.mem_singleton.mp inside ▸ .exhausted asked
      · split at inside
        · next doc definition found =>
          exact .followed asked found (below _ (.follow asked found) finding inside)
        · next document missed =>
          split at inside
          · exact List.mem_singleton.mp inside ▸ .undefined asked missed
          · cases inside
        · next document missed =>
          split at inside
          · exact List.mem_singleton.mp inside ▸ .unregistered asked missed
          · cases inside
        · cases inside
        · next reason malformed =>
          exact List.mem_singleton.mp inside ▸ .unresolvable asked malformed

/-! ### Whole runs -/

/-- All that the validator finds arises at some value, for some reason. -/
theorem arises_of_mem (v : Validator) (visit : Visit) :
    ∀ finding ∈ findings v visit, Arises v visit finding := by
  -- References may form cycles, so the calls carry the induction and not the nodes.
  induction visit using (calls_wellFounded v.registry).induction with
  | h visit ih =>
    intro finding inside
    rw [findings_eq_step] at inside
    exact arises_of_mem_step ih inside

end Visit

namespace Validator

variable {v : Validator} {value : Json} {finding : Finding}

theorem arises_of_mem_check {scope : Option Document} {node : TypeNode}
    (inside : finding ∈ v.check scope node value) :
    Visit.Arises v (.atNode maxHops scope node value) finding := by
  rw [check_eq_checkWithin] at inside
  exact Visit.arises_of_mem v (.atNode maxHops scope node value) finding inside

/-- What is found at a definition is that there is none, or arises from it. -/
theorem arises_of_mem_checkDefinition {doc : Document} {name : String}
    (inside : finding ∈ v.checkDefinition value doc name) :
    finding = .here "definition" (.missingDefinition doc.id name) ∨
      ∃ definition, doc.definition? name = some definition ∧
        Visit.Arises v (.atDefinition maxHops doc definition
          (((doc.idOf? name).map Nsid.text).getD ("#" ++ name)) value) finding := by
  unfold checkDefinition at inside
  split at inside
  · exact .inl (List.mem_singleton.mp inside)
  · next definition found =>
    refine .inr ⟨definition, found, ?_⟩
    dsimp only at inside
    split at inside
    · next node target => exact .typed target (arises_of_mem_check inside)
    · next cause refused => exact List.mem_singleton.mp inside ▸ .untyped refused

end Validator

end Lexicon
