import Lexicon.Proofs.DocumentRoundTrip
import Lexicon.Proofs.FormedReferences
import Lexicon.Proofs.JsonReading

/-!
# Lexicon.Proofs.FailFast

Without accumulation a value stops at its first failure, with two exceptions.

An array is held to both bounds on its length, and bounds that exclude each
other are accepted. An object is searched for every entry of its list of
required fields, and a field may be listed more than once. In either case two
errors stand at one place.

## Main definition

`Visit.FailsTwice`: the two exceptions, with the two errors.

## Main result

`Validator.places_distinct_iff`: the errors have different places exactly if
none of the exceptions is reached, and no other two errors share a place.

## Proof strategy

Relations between findings that are only about findings at one place look the
same from the enclosing value. What is handed up through different elements or
members has different places, so one step of the validator keeps such a relation
exactly if it holds among the findings at the value itself and among those of
each call. By induction on the calls, it holds in a whole run exactly if it holds
at every value that is reached.
-/

namespace Lexicon

/-! ### Distinct names -/

/-- A field type is another one, or has it as its items or as a property, at any depth. -/
inductive TypeNode.Contains : TypeNode → TypeNode → Prop where
  | self (node : TypeNode) : Contains node node
  | items {t : ArrayType} {node inner : TypeNode} (given : t.items = some node)
      (below : node.Contains inner) : Contains (.array t) inner
  | property {t : ObjectType} {name : String} {node inner : TypeNode}
      (given : (name, node) ∈ t.properties) (below : node.Contains inner) :
      Contains (.object t) inner

/-- The properties of a field type have distinct names, and so have those of all types inside it. -/
def TypeNode.NamesDistinct (node : TypeNode) : Prop :=
  ∀ t : ObjectType, node.Contains (.object t) → (Entries.keys t.properties).Nodup

namespace TypeNode

theorem WellFormed.of_contains {node inner : TypeNode} (wellFormed : node.WellFormed)
    (contains : node.Contains inner) : inner.WellFormed := by
  induction contains with
  | self node => exact wellFormed
  | items given below ih => exact ih (wellFormed.of_items given)
  | property given below ih => exact ih (wellFormed.of_property given)

theorem WellFormed.namesDistinct {node : TypeNode} (wellFormed : node.WellFormed) :
    node.NamesDistinct := by
  intro t contains
  cases wellFormed.of_contains contains with
  | object distinct properties => exact distinct

theorem NamesDistinct.of_items {t : ArrayType} {node : TypeNode}
    (distinct : (array t).NamesDistinct) (given : t.items = some node) : node.NamesDistinct :=
  fun inner below => distinct inner (.items given below)

theorem NamesDistinct.of_property {t : ObjectType} {name : String} {node : TypeNode}
    (distinct : (object t).NamesDistinct) (given : (name, node) ∈ t.properties) :
    node.NamesDistinct :=
  fun inner below => distinct inner (.property given below)

theorem hereditary_namesDistinct : Hereditary NamesDistinct where
  shallow own t contains := by
    cases contains with
    | self =>
      have none : t.properties = [] := own
      simp [none, Entries.keys]
    -- A type that was read without its children has none.
    | items given below => cases own.symm.trans given
    | property given below =>
      rw [show _ = [] from own] at given
      cases given
  array items t contains := by
    cases contains with
    | items given below => exact items _ given t below
  object distinct properties t contains := by
    cases contains with
    | self => exact distinct
    | property given below => exact properties _ _ given t below

end TypeNode

/-! ### Findings at one place -/

namespace Finding

/-- A relation between findings that is only about findings at one place, and looks the same from
the enclosing value. -/
structure Local (related : Finding → Finding → Prop) : Prop where
  apart : ∀ {first second : Finding}, first.steps ≠ second.steps → related first second
  inside_iff : ∀ {first second : Finding} (step : Step),
    related (first.inside step) (second.inside step) ↔ related first second

/-- Two findings have different places. -/
def Apart (first second : Finding) : Prop := first.steps ≠ second.steps

theorem local_apart : Local Apart where
  apart differ := differ
  inside_iff step := not_congr ⟨List.tail_eq_of_cons_eq, congrArg (step :: ·)⟩

variable {related : Finding → Finding → Prop}

theorem Local.apart_head (isLocal : Local related) {first second : Finding}
    (differ : first.steps.head? ≠ second.steps.head?) : related first second :=
  isLocal.apart fun same => differ (congrArg List.head? same)

theorem Local.of_fields (isLocal : Local related) {first second : Finding} {field other : String}
    (place : first.steps.head? = some (.field field))
    (elsewhere : second.steps.head? = some (.field other)) (differ : field ≠ other) :
    related first second := by
  refine isLocal.apart_head ?_
  rw [place, elsewhere]
  exact fun same => differ (Step.field.inj (Option.some.inj same))

/-- What is handed up through different steps has different places. -/
theorem Local.pairwise_handedUp (isLocal : Local related) {α : Type} {entries : List α}
    {step : α → Step} (distinct : entries.Pairwise fun first second => step first ≠ step second)
    (below : α → List Finding) :
    (entries.flatMap fun entry => (below entry).map (inside (step entry))).Pairwise related ↔
      ∀ entry ∈ entries, (below entry).Pairwise related := by
  rw [List.pairwise_flatMap]
  have across : entries.Pairwise fun first second =>
      ∀ a ∈ (below first).map (inside (step first)),
        ∀ b ∈ (below second).map (inside (step second)), related a b := by
    refine distinct.imp fun differ a one b other => ?_
    obtain ⟨a, _, rfl⟩ := List.mem_map.mp one
    obtain ⟨b, _, rfl⟩ := List.mem_map.mp other
    exact isLocal.apart_head fun same => differ (Option.some.inj same)
  simp only [across, and_true, List.pairwise_map, isLocal.inside_iff]

end Finding

/-! ### The value itself -/

/-- A relation that holds between different elements holds throughout a list exactly if the elements
that are listed more than once stand in it to themselves. -/
theorem pairwise_iff_of_count {α : Type} [DecidableEq α] {related : α → α → Prop}
    (apart : ∀ a b, a ≠ b → related a b) (l : List α) :
    l.Pairwise related ↔ ∀ a, 2 ≤ l.count a → related a a := by
  rw [List.pairwise_iff_forall_sublist]
  constructor
  · intro each a twice
    exact each (List.replicate_sublist_iff.mpr twice)
  · intro each a b listed
    by_cases same : a = b
    · subst same
      exact each a (List.replicate_sublist_iff.mp listed)
    · exact apart a b same

theorem pairwise_of_length_le_one {α : Type} {related : α → α → Prop} {l : List α}
    (short : l.length ≤ 1) : l.Pairwise related := by
  match l, short with
  | [], _ => exact .nil
  | [a], _ => exact List.pairwise_singleton related a

namespace Visit

/-- The finding about a required field that is missing. -/
def missing (t : ObjectType) (field : String) : Finding where
  steps := [.field field]
  expected := ((t.property? field).map TypeNode.kind).getD "value"
  cause := .requiredMissing

/-- The value that is looked at fails twice, though it should stop at its first failure. -/
inductive FailsTwice : Visit → Finding → Finding → Prop where
  /-- An array is outside of both of its bounds. -/
  | bounds {hops : Nat} {scope : Option Document} {t : ArrayType} {elements : List Json}
      {low high : UInt64} (lower : t.minLength = some low) (few : elements.length < low.toNat)
      (upper : t.maxLength = some high) (many : high.toNat < elements.length) :
      FailsTwice (.atNode hops scope (.array t) (.arr elements))
        (.here "array" (.fewElements elements.length low.toNat))
        (.here "array" (.manyElements elements.length high.toNat))
  /-- An object lacks a field that is listed more than once among the required ones. -/
  | required {hops : Nat} {scope : Option Document} {t : ObjectType}
      {members : List (String × Json)} {field : String} (twice : 2 ≤ t.required.count field)
      (absent : members.lookup field = none) :
      FailsTwice (.atNode hops scope (.object t) (.obj members)) (missing t field)
        (missing t field)

/-- A relation holds wherever the value that is looked at fails twice. In the lenient mode no value
does. -/
def Covers (options : ValidationOptions) (related : Finding → Finding → Prop) (visit : Visit) :
    Prop :=
  options.mode ≠ .lenient → ∀ first second, FailsTwice visit first second → related first second

/-- The names of properties are distinct in what is looked at, and so are the keys of objects. -/
def Distinct : Visit → Prop
  | .atNode _ scope node value =>
    (∀ doc, scope = some doc → doc.WellFormed) ∧ node.NamesDistinct ∧ value.KeysDistinct
  | .atDefinition _ doc definition _ value =>
    doc.WellFormed ∧ definition.WellFormed ∧ value.KeysDistinct

theorem Distinct.of_calls {registry : Option Registry} (formed : AllFormed registry)
    {earlier later : Visit} (distinct : earlier.Distinct) (calls : Calls registry earlier later) :
    later.Distinct := by
  cases calls with
  | follow asked found =>
    obtain ⟨within, _, keys⟩ := distinct
    obtain ⟨doc, definition⟩ := Lookup.wellFormed_of_found formed within found
    exact ⟨doc, definition, keys⟩
  | target typed =>
    obtain ⟨doc, definition, keys⟩ := distinct
    exact ⟨fun _ same => Option.some.inj same ▸ doc, (definition.of_target typed).namesDistinct,
      keys⟩
  | element given inside =>
    obtain ⟨within, names, keys⟩ := distinct
    cases keys with
    | arr each => exact ⟨within, names.of_items given, each _ inside⟩
  | member declared found present =>
    obtain ⟨within, names, keys⟩ := distinct
    cases keys with
    | obj _ each =>
      exact ⟨within, names.of_property (Json.mem_of_lookup declared),
        each _ _ (Json.mem_of_lookup found)⟩

/-- The findings at the value that is looked at, without what is asked for. -/
def own (v : Validator) (visit : Visit) : List Finding := step v (fun _ => []) visit

variable {v : Validator} {hops : Nat} {scope : Option Document}
  {related : Finding → Finding → Prop}

theorem own_array (v : Validator) (hops : Nat) (scope : Option Document) (t : ArrayType)
    (elements : List Json) :
    own v (.atNode hops scope (.array t) (.arr elements)) =
      Validator.countFindings v.options t elements.length := by
  cases given : t.items <;> simp [own, step, Move.ofNode, shapeStep, given]

theorem own_object (v : Validator) (hops : Nat) (scope : Option Document) (t : ObjectType)
    (members : List (String × Json)) :
    own v (.atNode hops scope (.object t) (.obj members)) =
      Validator.missingFindings v.options t members ++
        Validator.undeclaredFindings v.options t members := by
  have nothing (field : String) : memberStep (fun _ => []) scope t field = fun _ => [] := by
    funext value
    unfold memberStep
    split
    · rfl
    · exact ite_self []
  have below (field : String) :
      ((members.lookup field).map fun _ => ([] : List Finding)).getD [] = [] := by
    cases members.lookup field <;> rfl
  simp [own, step, Move.ofNode, shapeStep, nothing, below]

theorem pairwise_countFindings (v : Validator) (hops : Nat) (scope : Option Document)
    (t : ArrayType) (elements : List Json) :
    (Validator.countFindings v.options t elements.length).Pairwise related ↔
      Covers v.options related (.atNode hops scope (.array t) (.arr elements)) := by
  by_cases lenient : v.options.mode = .lenient
  · simp [Covers, Validator.countFindings, ValidationMode.checksConstraints, lenient]
  simp only [Covers, Validator.countFindings, ValidationMode.checksConstraints, lenient, ne_eq,
    not_false_eq_true, decide_true, if_true, forall_const]
  constructor
  · intro each first second twice
    cases twice with
    | bounds lower few upper many =>
      simpa [ArrayShape.failures, against, failing, lower, few, upper, many] using each
  · intro each
    -- One bound is reported once, so only the two bounds together can give a pair.
    have single (constraint : Option UInt64) (bad : UInt64 → Bool) (cause : UInt64 → Cause) :
        (against constraint fun m => failing (bad m) (cause m)).Pairwise fun first second =>
          related (.here "array" first) (.here "array" second) := by
      cases constraint with
      | none => exact .nil
      | some m => cases given : bad m <;> simp [against, failing, given]
    rw [List.pairwise_map, ArrayShape.failures, List.pairwise_append]
    refine ⟨single _ _ _, single _ _ _, fun first below second above => ?_⟩
    simp only [mem_against, mem_failing, decide_eq_true_eq] at below above
    obtain ⟨low, lower, few, rfl⟩ := below
    obtain ⟨high, upper, many, rfl⟩ := above
    exact each _ _ (.bounds lower few upper many)

theorem pairwise_missingFindings (isLocal : Finding.Local related) (v : Validator) (hops : Nat)
    (scope : Option Document) (t : ObjectType) (members : List (String × Json)) :
    (Validator.missingFindings v.options t members).Pairwise related ↔
      Covers v.options related (.atNode hops scope (.object t) (.obj members)) := by
  by_cases lenient : v.options.mode = .lenient
  · simp [Covers, Validator.missingFindings, ValidationMode.checksConstraints, lenient]
  have written : Validator.missingFindings v.options t members =
      (t.required.filter fun field => !Entries.has members field).map (missing t) := by
    simp only [Validator.missingFindings, ValidationMode.checksConstraints, lenient, ne_eq,
      not_false_eq_true, decide_true, if_true]
    rfl
  have apart (field other : String) (differ : field ≠ other) :
      related (missing t field) (missing t other) :=
    isLocal.apart fun same => differ (Step.field.inj (List.head_eq_of_cons_eq same))
  -- What is missing is reported as often as it is required.
  have counted {field : String} (absent : members.lookup field = none) :
      (t.required.filter fun field => !Entries.has members field).count field =
        t.required.count field := by
    refine List.count_filter ?_
    simpa using Entries.has_eq_false_iff.mpr absent
  rw [written, List.pairwise_map, pairwise_iff_of_count apart]
  constructor
  · intro each _ first second twice
    cases twice with
    | @required _ _ _ _ field twice absent =>
      exact each field ((counted absent).symm ▸ twice)
  · intro each field twice
    have listed : field ∈ t.required.filter fun field => !Entries.has members field :=
      List.count_pos_iff.mp (by omega)
    have absent := Entries.has_eq_false_iff.mp (by simpa using (List.mem_filter.mp listed).2)
    exact each lenient _ _ (.required ((counted absent).symm ▸ twice) absent)

theorem pairwise_undeclaredFindings (isLocal : Finding.Local related)
    (options : ValidationOptions) (t : ObjectType) {members : List (String × Json)}
    (distinct : (Entries.keys members).Nodup) :
    (Validator.undeclaredFindings options t members).Pairwise related := by
  unfold Validator.undeclaredFindings
  split
  · rw [List.pairwise_map]
    refine ((List.pairwise_map.mp distinct).filter _).imp fun differ => ?_
    exact isLocal.apart fun same => differ (Step.field.inj (List.head_eq_of_cons_eq same))
  · exact .nil

theorem pairwise_own_object (isLocal : Finding.Local related) (v : Validator) (hops : Nat)
    (scope : Option Document) (t : ObjectType) {members : List (String × Json)}
    (distinct : (Entries.keys members).Nodup) :
    (own v (.atNode hops scope (.object t) (.obj members))).Pairwise related ↔
      Covers v.options related (.atNode hops scope (.object t) (.obj members)) := by
  rw [own_object, List.pairwise_append, pairwise_missingFindings isLocal v hops scope]
  refine and_iff_left ⟨pairwise_undeclaredFindings isLocal v.options t distinct, ?_⟩
  -- A field that is missing is not there, and one that is undeclared is.
  intro first lacking second further
  obtain ⟨field, _, absent, rfl⟩ := exists_of_mem_missingFindings lacking
  obtain ⟨other, value, there, _, rfl⟩ := exists_of_mem_undeclaredFindings further
  refine isLocal.of_fields rfl rfl ?_
  rintro rfl
  cases (Entries.lookup_of_mem distinct there).symm.trans absent

/-- Without accumulation a verdict gives one finding at most. -/
theorem length_ofVerdict_le {options : ValidationOptions} (failFast : options.accumulate = false)
    (node : TypeNode) (verdict : Verdict) :
    (Validator.ofVerdict options node verdict).length ≤ 1 := by
  cases verdict with
  | malformed cause => exact Nat.le_refl 1
  | formed failing =>
    simp only [Validator.ofVerdict, Validator.reported, failFast, List.length_map]
    split
    · exact Nat.zero_le 1
    · exact List.length_take_le 1 failing

/-- A value fails once at most, unless it is an array or an object. -/
theorem length_own_le (failFast : v.options.accumulate = false) {type : TypeNode} {value : Json}
    (noArray : ∀ t elements, type = .array t → value ≠ .arr elements)
    (noObject : ∀ t members, type = .object t → value ≠ .obj members) :
    (own v (.atNode hops scope type value)).length ≤ 1 := by
  simp only [own, step]
  cases Move.ofNode scope value type with
  | stay =>
    dsimp only
    rw [shapeStep_eq_ofVerdict noArray noObject]
    exact length_ofVerdict_le failFast type _
  | accept => exact Nat.zero_le 1
  | refuse cause => exact Nat.le_refl 1
  | follow reference strict =>
    cases hops with
    | zero => exact Nat.le_refl 1
    | succ hops =>
      dsimp only
      cases Lookup.ofText v.registry scope reference with
      | found doc definition => exact Nat.zero_le 1
      | noDefinition document => cases strict <;> simp
      | notRegistered document => cases strict <;> simp
      | unknown => exact Nat.zero_le 1
      | malformed reason => exact Nat.le_refl 1

/-- Without accumulation a relation about findings at one place holds at a value exactly if it holds
where the value fails twice. -/
theorem pairwise_own_iff (isLocal : Finding.Local related)
    (failFast : v.options.accumulate = false) {visit : Visit} (distinct : visit.Distinct) :
    (own v visit).Pairwise related ↔
      Covers v.options related visit := by
  -- What fails once at most satisfies every relation, and is not one of the exceptions.
  have once (short : (own v visit).length ≤ 1)
      (never : ∀ first second, ¬ FailsTwice visit first second) :
      (own v visit).Pairwise related ↔
        Covers v.options related visit :=
    iff_of_true (pairwise_of_length_le_one short) fun _ first second twice =>
      absurd twice (never first second)
  cases visit with
  | atDefinition hops doc definition reference value =>
    refine once ?_ fun _ _ twice => by cases twice
    simp only [own, step]
    split <;> simp
  | atNode hops scope type value =>
    obtain ⟨_, _, keys⟩ := distinct
    cases type, value using Validator.shape_cases with
    | array t elements =>
      rw [own_array]
      exact pairwise_countFindings v hops scope t elements
    | object t members =>
      cases keys with
      | obj distinct => exact pairwise_own_object isLocal v hops scope t distinct
    | leaf type value noArray noObject =>
      refine once (length_own_le failFast noArray noObject) fun _ _ twice => ?_
      cases twice with
      | bounds => exact noArray _ _ rfl rfl
      | required => exact noObject _ _ rfl rfl

/-! ### One step -/

/-- The findings of a step are related to each other exactly if those at the value itself are, and
those of each call. -/
def Splits (v : Validator) (ask : Visit → List Finding) (related : Finding → Finding → Prop)
    (visit : Visit) : Prop :=
  (step v ask visit).Pairwise related ↔
    (own v visit).Pairwise related ∧
      ∀ later, Calls v.registry visit later → (ask later).Pairwise related

variable {ask : Visit → List Finding}

theorem Splits.of_none {visit : Visit} (none : ∀ later, ¬ Calls v.registry visit later) :
    Splits v ask related visit := by
  have same : step v ask visit = own v visit :=
    step_congr fun later calls => absurd calls (none later)
  simp only [Splits, same, none, false_imp_iff, implies_true, and_true]

/-- What a reference or a definition asks for is handed up unchanged. -/
theorem Splits.of_only {visit next : Visit} (silent : own v visit = [])
    (passed : step v ask visit = ask next) (asked : Calls v.registry visit next)
    (only : ∀ later, Calls v.registry visit later → later = next) :
    Splits v ask related visit := by
  rw [Splits, silent, passed]
  constructor
  · intro kept
    exact ⟨.nil, fun later calls => only later calls ▸ kept⟩
  · intro split
    exact split.2 next asked

theorem Splits.array (isLocal : Finding.Local related) (hops : Nat) (scope : Option Document)
    {t : ArrayType} {items : TypeNode} (given : t.items = some items) (elements : List Json) :
    Splits v ask related (.atNode hops scope (.array t) (.arr elements)) := by
  have written : step v ask (.atNode hops scope (.array t) (.arr elements)) =
      Validator.countFindings v.options t elements.length ++
        elements.zipIdx.flatMap fun entry =>
          (ask (.atNode maxHops scope items entry.1)).map (.inside (.index entry.2)) := by
    simp only [step, Move.ofNode, shapeStep, given]
  have indices : elements.zipIdx.Pairwise fun first second =>
      Step.index first.2 ≠ Step.index second.2 := by
    have mapped : (elements.zipIdx.map Prod.snd).Nodup := by
      rw [List.zipIdx_map_snd]
      exact List.nodup_range'
    exact (List.pairwise_map.mp mapped).imp fun differ same => differ (Step.index.inj same)
  rw [Splits, written, own_array, List.pairwise_append, isLocal.pairwise_handedUp indices]
  refine and_congr_right fun _ => ?_
  constructor
  · intro below later calls
    cases calls with
    | follow asked found => cases asked
    | @element _ _ _ _ _ element some inside =>
      cases given.symm.trans some
      obtain ⟨index, stands⟩ := List.getElem?_of_mem inside
      exact below.1 (element, index) (List.mem_zipIdx_iff_getElem?.mpr stands)
  · intro below
    refine ⟨fun entry inside => below _ (.element given (List.fst_mem_of_mem_zipIdx inside)), ?_⟩
    -- The counts are about the array and not about its elements.
    intro first counted second further
    obtain ⟨entry, _, handed⟩ := List.mem_flatMap.mp further
    obtain ⟨inner, _, rfl⟩ := List.mem_map.mp handed
    obtain ⟨cause, _, rfl⟩ := exists_of_mem_countFindings counted
    exact isLocal.apart_head (Option.some_ne_none _).symm

theorem steps_of_mem_handedUp {scope : Option Document} {t : ObjectType}
    {members : List (String × Json)} {finding : Finding}
    (inside : finding ∈ t.properties.flatMap fun property =>
      (((members.lookup property.1).map (memberStep ask scope t property.1)).getD []).map
        (.inside (.field property.1))) :
    ∃ field, finding.steps.head? = some (.field field) ∧ members.lookup field ≠ none ∧
      Entries.has t.properties field = true := by
  obtain ⟨⟨field, node⟩, property, handed⟩ := List.mem_flatMap.mp inside
  obtain ⟨inner, reported, rfl⟩ := List.mem_map.mp handed
  refine ⟨field, rfl, fun absent => ?_, Entries.has_of_mem property⟩
  -- Nothing is found at a field that is not there.
  rw [absent] at reported
  cases reported

/-- The properties of an object ask for what the object calls. -/
theorem forall_properties_iff {registry : Option Registry} (hops : Nat) {scope : Option Document}
    {t : ObjectType} {members : List (String × Json)} :
    (∀ property ∈ t.properties,
        (((members.lookup property.1).map (memberStep ask scope t property.1)).getD []).Pairwise
          related) ↔
      ∀ later, Calls registry (.atNode hops scope (.object t) (.obj members)) later →
        (ask later).Pairwise related := by
  constructor
  · intro each later calls
    cases calls with
    | follow asked found => cases asked
    | member declared found present =>
      have asked := each _ (Json.mem_of_lookup declared)
      simpa [found, memberStep, declared, present] using asked
  · rintro below ⟨field, node⟩ _
    cases found : members.lookup field with
    | none => exact .nil
    | some value =>
      simp only [Option.map_some, Option.getD_some, memberStep]
      split
      · exact .nil
      · next type declared =>
        split
        · exact .nil
        · next present => exact below _ (.member declared found (by simpa using present))

theorem Splits.object (isLocal : Finding.Local related) (hops : Nat) (scope : Option Document)
    {t : ObjectType} (names : (Entries.keys t.properties).Nodup) (members : List (String × Json)) :
    Splits v ask related (.atNode hops scope (.object t) (.obj members)) := by
  have written : step v ask (.atNode hops scope (.object t) (.obj members)) =
      Validator.missingFindings v.options t members ++
        (t.properties.flatMap fun property =>
          (((members.lookup property.1).map (memberStep ask scope t property.1)).getD []).map
            (.inside (.field property.1))) ++
        Validator.undeclaredFindings v.options t members := rfl
  have fields : t.properties.Pairwise fun first second =>
      Step.field first.1 ≠ Step.field second.1 :=
    (List.pairwise_map.mp names).imp fun differ same => differ (Step.field.inj same)
  rw [Splits, written, own_object, List.pairwise_append, List.pairwise_append, List.pairwise_append,
    isLocal.pairwise_handedUp fields, forall_properties_iff hops]
  constructor
  · rintro ⟨⟨lacking, below, _⟩, undeclared, across⟩
    exact ⟨⟨lacking, undeclared, fun a inside => across a (List.mem_append_left _ inside)⟩, below⟩
  · rintro ⟨⟨lacking, undeclared, across⟩, below⟩
    refine ⟨⟨lacking, below, ?_⟩, undeclared, List.forall_mem_append.mpr ⟨across, ?_⟩⟩
    -- What is handed up stands at a member that is there.
    · intro first missed second handed
      obtain ⟨field, _, absent, rfl⟩ := exists_of_mem_missingFindings missed
      obtain ⟨other, place, there, _⟩ := steps_of_mem_handedUp handed
      refine isLocal.of_fields rfl place ?_
      rintro rfl
      exact there absent
    -- What is handed up stands at a property that is declared.
    · intro first handed second further
      obtain ⟨field, place, _, declared⟩ := steps_of_mem_handedUp handed
      obtain ⟨other, _, _, unknown, rfl⟩ := exists_of_mem_undeclaredFindings further
      refine isLocal.of_fields place rfl ?_
      rintro rfl
      cases unknown.symm.trans declared

theorem splits (isLocal : Finding.Local related) {visit : Visit} (distinct : visit.Distinct) :
    Splits v ask related visit := by
  -- The call tells what is visited: a reference and a definition make one call only.
  by_cases any : ∃ later, Calls v.registry visit later
  · obtain ⟨later, calls⟩ := any
    cases calls with
    | follow asked found =>
      refine .of_only ?_ ?_ (.follow asked found) fun later calls => ?_
      · simp only [own, step, asked, found]
      · simp only [step, asked, found]
      · cases calls with
        | follow again same =>
          cases asked.symm.trans again
          cases found.symm.trans same
          rfl
        | element => cases asked
        | member => cases asked
    | target typed =>
      refine .of_only ?_ ?_ (.target typed) fun later calls => ?_
      · simp only [own, step, typed]
      · simp only [step, typed]
      · cases calls with
        | target again =>
          cases typed.symm.trans again
          rfl
    | element given => exact .array isLocal _ _ given _
    | member => exact .object isLocal _ _ (distinct.2.1 _ (.self _)) _
  · exact .of_none (not_exists.mp any)

/-! ### Whole runs -/

theorem Distinct.of_reachable {registry : Option Registry} (formed : AllFormed registry)
    {start visit : Visit} (distinct : start.Distinct)
    (path : Relation.ReflTransGen (Calls registry) start visit) : visit.Distinct :=
  (path_of_closed (fun _ _ within calls => ⟨within.of_calls formed calls, calls⟩) distinct path).1

/-- A run keeps a relation about findings at one place exactly if it holds at every value that is
looked at. -/
theorem pairwise_findings_iff (isLocal : Finding.Local related) (formed : AllFormed v.registry)
    {visit : Visit} (distinct : visit.Distinct) :
    (findings v visit).Pairwise related ↔
      ∀ later, Relation.ReflTransGen (Calls v.registry) visit later →
        (own v later).Pairwise related := by
  -- References may form cycles, so the calls carry the induction and not the nodes.
  induction visit using (calls_wellFounded v.registry).induction with
  | h visit ih =>
    rw [findings_eq_step]
    refine (splits isLocal distinct).trans ?_
    constructor
    · rintro ⟨here, below⟩ later path
      rcases path.cases_head with rfl | ⟨next, calls, rest⟩
      · exact here
      · exact (ih next calls (distinct.of_calls formed calls)).mp (below next calls) later rest
    · intro each
      refine ⟨each visit .refl, fun next calls => ?_⟩
      exact (ih next calls (distinct.of_calls formed calls)).mpr fun later path =>
        each later (.head calls path)

/-- Without accumulation a relation about findings at one place holds in a run exactly if it holds
wherever a value fails twice. -/
theorem pairwise_findings_iff_covers (isLocal : Finding.Local related)
    (failFast : v.options.accumulate = false) (formed : AllFormed v.registry) {visit : Visit}
    (distinct : visit.Distinct) :
    (findings v visit).Pairwise related ↔
      ∀ later, Relation.ReflTransGen (Calls v.registry) visit later →
        later.Covers v.options related := by
  rw [pairwise_findings_iff isLocal formed distinct]
  refine forall₂_congr fun later path => ?_
  exact pairwise_own_iff isLocal failFast (distinct.of_reachable formed path)

/-- A value fails twice at one place, for the two reasons that there are. -/
theorem FailsTwice.same_place {visit : Visit} {first second : Finding}
    (twice : FailsTwice visit first second) : first.steps = second.steps := by
  cases twice <;> rfl

end Visit

/-! ### Runs without accumulation -/

/-- Two findings at one place are about both bounds of one array or about one missing field. -/
def Finding.Excused (first second : Finding) : Prop :=
  first.steps = second.steps →
    (∃ count low high, first.cause = .fewElements count low ∧
      second.cause = .manyElements count high) ∨
    first.cause = .requiredMissing ∧ second.cause = .requiredMissing

theorem Finding.local_excused : Local Excused where
  apart differ same := absurd same differ
  inside_iff step := by simp [Excused, inside]

theorem Visit.FailsTwice.excused {visit : Visit} {first second : Finding}
    (twice : FailsTwice visit first second) : first.Excused second := by
  cases twice with
  | bounds => exact fun _ => .inl ⟨_, _, _, rfl, rfl⟩
  | required => exact fun _ => .inr ⟨rfl, rfl⟩

namespace Validator

/-- Without accumulation the errors have different places exactly if no value is looked at that
fails twice: an array that is outside of both of its bounds, or an object without a field that it
requires more than once. The places of all other errors differ. Each error is written from its
place. -/
theorem places_distinct_iff (v : Validator) (scope : Option Document) (node : TypeNode)
    (value : Json) (failFast : v.options.accumulate = false)
    (accepted : ∃ raw, TypeNode.parse raw = .ok node)
    (placed : ∀ doc, scope = some doc → ∃ raw, Document.parse raw = .ok doc)
    (registered : ∀ known, v.registry = some known →
      ∀ doc ∈ known.documents, ∃ raw, Document.parse raw = .ok doc)
    (distinct : value.KeysDistinct) :
    (∀ start, v.walk scope node start value = report start (v.check scope node value)) ∧
    (((v.check scope node value).map (·.steps)).Nodup ↔
      (v.options.mode ≠ .lenient → ∀ visit,
        Relation.ReflTransGen (Visit.Calls v.registry) (.atNode maxHops scope node value) visit →
          ∀ first second, ¬ Visit.FailsTwice visit first second)) ∧
    (v.check scope node value).Pairwise Finding.Excused := by
  have formed : AllFormed v.registry := fun known given =>
    Document.wellFormed_of_accepted (registered known given)
  obtain ⟨raw, read⟩ := accepted
  have start : (Visit.atNode maxHops scope node value).Distinct := by
    refine ⟨fun doc same => ?_, TypeNode.hereditary_namesDistinct.of_parse raw node read, distinct⟩
    obtain ⟨document, parsed⟩ := placed doc same
    exact Document.wellFormed_of_parse document doc parsed
  have findings : v.check scope node value =
      Visit.findings v (.atNode maxHops scope node value) :=
    check_eq_checkWithin v scope node value
  refine ⟨fun start => v.walk_eq_report scope node start value, ?_⟩
  rw [findings]
  constructor
  · rw [List.Nodup, List.pairwise_map]
    refine (Visit.pairwise_findings_iff_covers Finding.local_apart failFast formed start).trans ?_
    constructor
    · intro covers checked visit path first second twice
      exact covers visit path checked first second twice twice.same_place
    · intro never visit path checked first second twice
      exact absurd twice (never checked visit path first second)
  · exact (Visit.pairwise_findings_iff_covers Finding.local_excused failFast formed start).mpr
      fun visit _ _ first second twice => twice.excused

/-- A post without tags replies to another one without tags, and has an undeclared field. The three
errors have different places, so no value fails twice. -/
theorem places_distinct_iff_postDocument :
    let node : TypeNode := .ref ⟨none, "#main"⟩
    let value : Json := .obj [("reply", .obj []), ("extra", .null)]
    let v : Validator :=
      { options := { mode := .strict }, registry := some (.ofDocuments [.postDocument]) }
    (∃ raw, TypeNode.parse raw = .ok node) ∧
      (∃ raw, Document.parse raw = .ok .postDocument) ∧
      (∀ doc ∈ (Registry.ofDocuments [.postDocument]).documents,
        ∃ raw, Document.parse raw = .ok doc) ∧
      value.KeysDistinct ∧
      (v.check (some .postDocument) node value).map (·.steps) =
        [[.field "tags"], [.field "reply", .field "tags"], [.field "extra"]] ∧
      ∀ visit, Relation.ReflTransGen (Visit.Calls v.registry)
          (.atNode maxHops (some .postDocument) node value) visit →
        ∀ first second, ¬ Visit.FailsTwice visit first second := by
  intro node value v
  have accepted : ∃ raw, TypeNode.parse raw = .ok node :=
    ⟨node.toJson, (TypeNode.WellFormed.ref ⟨.fragment "main", by decide⟩).parse_toJson⟩
  have read : ∃ raw, Document.parse raw = .ok .postDocument :=
    ⟨_, Document.parse_toJson Document.postDocument_wellFormed⟩
  have known : (Registry.ofDocuments [.postDocument]).documents = [.postDocument] := rfl
  have registered : ∀ doc ∈ (Registry.ofDocuments [.postDocument]).documents,
      ∃ raw, Document.parse raw = .ok doc := by
    simpa [known] using read
  have distinct : value.KeysDistinct := by
    refine .obj (by decide) fun key member inside => ?_
    simp only [List.mem_cons, Prod.mk.injEq, List.not_mem_nil, or_false] at inside
    rcases inside with ⟨rfl, rfl⟩ | ⟨rfl, rfl⟩
    · exact .obj (by decide) nofun
    · exact .null
  have places : (v.check (some .postDocument) node value).map (·.steps) =
      [[.field "tags"], [.field "reply", .field "tags"], [.field "extra"]] := by decide +kernel
  have separate := (places_distinct_iff v (some .postDocument) node value rfl accepted
    (fun doc same => Option.some.inj same ▸ read)
    (fun other same => Option.some.inj same ▸ registered) distinct).2.1
  rw [places] at separate
  exact ⟨accepted, read, registered, distinct, places, separate.mp (by decide) (by decide)⟩

/-- An array type with bounds that exclude each other. -/
def crossedArray : TypeNode := .array ⟨none, none, some 3, some 1⟩

/-- An object type that requires one field two times. -/
def repeatingObject : TypeNode := .object ⟨none, ["text", "text"], [], []⟩

/-- Both types are accepted, and with either of them two errors stand at one place. -/
theorem places_coincide :
    let v : Validator := { options := { accumulate := false }, registry := none }
    (∃ raw, TypeNode.parse raw = .ok crossedArray) ∧
      (∃ raw, TypeNode.parse raw = .ok repeatingObject) ∧
      (v.check none crossedArray (.arr [.int 1, .int 2])).map (·.steps) = [[], []] ∧
      v.validate (.arr [.int 1, .int 2]) crossedArray =
        [{ path := "", expected := "array", message := "2 elements is fewer than minLength 3" },
          { path := "", expected := "array", message := "2 elements is more than maxLength 1" }] ∧
      (v.check none repeatingObject (.obj [])).map (·.steps) =
        [[.field "text"], [.field "text"]] ∧
      v.validate (.obj []) repeatingObject =
        [{ path := "text", expected := "value", message := "required field is missing" },
          { path := "text", expected := "value", message := "required field is missing" }] := by
  intro v
  have array : crossedArray.WellFormed := .array nofun
  have object : repeatingObject.WellFormed := .object (by decide) nofun
  exact ⟨⟨_, array.parse_toJson⟩, ⟨_, object.parse_toJson⟩, by decide +kernel, by decide +kernel,
    by decide +kernel, by decide +kernel⟩

end Validator

end Lexicon
