import Mathlib.Data.List.Basic
import Mathlib.Logic.Relation
import Lexicon.Generation.Inline
import Lexicon.Proofs.Entries
import Lexicon.Proofs.FirstOccurrences

/-!
# Lexicon.Proofs.Reachability

The closure in rounds is reachability.

## Main results

- `Reach.mem_close_iff`: when the rounds suffice, the closure of a list holds
  what can be reached from it, and nothing else.
- `Reach.close_add`: when the rounds suffice, further rounds change nothing.
- `TypeMapper.leadsBack_iff`: a struct leads back to another one exactly if it
  reaches it through inline fields, whatever cycles the fields form.

## Proof strategy

A round that is not the last one makes the list longer, and the list has no
repetitions. All that can be reached is in a finite pool, so the rounds end
before they run out: for structs, the pool is what the properties of the
known documents name, and there are no more names than properties.
-/

namespace Lexicon

namespace Reach

variable {α : Type} {next : α → List α} {seen pool : List α} {a b : α}

/-- One element is a successor of another one. -/
def Edge (next : α → List α) (a b : α) : Prop := b ∈ next a

/-- All successors of the members of a list are members. -/
def Closed (next : α → List α) (seen : List α) : Prop := ∀ a ∈ seen, ∀ b ∈ next a, b ∈ seen

theorem mem_of_reachable (closed : Closed next seen) (inside : a ∈ seen)
    (path : Relation.ReflTransGen (Edge next) a b) : b ∈ seen := by
  induction path with
  | refl => exact inside
  | tail _ edge ih => exact closed _ ih _ edge

/-! ### One round -/

variable [DecidableEq α]

theorem mem_step : b ∈ step next seen ↔ b ∈ seen ∨ ∃ a ∈ seen, b ∈ next a := by
  simp only [step, List.mem_append, List.mem_filter, List.mem_eraseDups, List.mem_flatMap,
    Bool.not_eq_true', List.contains_eq_mem, decide_eq_false_iff_not]
  constructor
  · rintro (old | ⟨new, _⟩)
    · exact .inl old
    · exact .inr new
  · rintro (old | new)
    · exact .inl old
    · by_cases known : b ∈ seen
      · exact .inl known
      · exact .inr ⟨new, known⟩

theorem nodup_step (distinct : seen.Nodup) : (step next seen).Nodup := by
  have added : ((seen.flatMap next).eraseDups.filter fun a => !seen.contains a).Nodup :=
    (nodup_eraseDups _).filter _
  refine List.nodup_append.mpr ⟨distinct, added, ?_⟩
  intro a old b new same
  have unknown : seen.contains b = false := by simpa using (List.mem_filter.mp new).2
  rw [← same] at unknown
  simp [old] at unknown

theorem closed_iff_length_step : Closed next seen ↔ (step next seen).length = seen.length := by
  have longer : (step next seen).length = seen.length ↔
      ((seen.flatMap next).eraseDups.filter fun a => !seen.contains a) = [] := by
    rw [step, List.length_append, ← List.length_eq_zero_iff]
    omega
  rw [longer, List.filter_eq_nil_iff]
  simp only [List.mem_eraseDups, List.mem_flatMap, List.contains_eq_mem, Bool.not_eq_true',
    decide_eq_false_iff_not, not_not, Closed]
  constructor
  · rintro closed b ⟨a, inside, edge⟩
    exact closed a inside b edge
  · intro all a inside b edge
    exact all b ⟨a, inside, edge⟩

theorem length_lt_step (more : ¬Closed next seen) : seen.length < (step next seen).length := by
  have bound : seen.length ≤ (step next seen).length := by
    rw [step, List.length_append]
    omega
  have different := mt closed_iff_length_step.mpr more
  omega

/-! ### All rounds -/

theorem close_of_closed (closed : Closed next seen) (rounds : Nat) :
    close next rounds seen = seen := by
  cases rounds with
  | zero => rfl
  | succ rounds => rw [close, if_pos (closed_iff_length_step.mp closed)]

theorem close_of_not_closed (more : ¬Closed next seen) (rounds : Nat) :
    close next (rounds + 1) seen = close next rounds (step next seen) := by
  rw [close, if_neg (mt closed_iff_length_step.mpr more)]

theorem mem_close_of_mem (rounds : Nat) (inside : a ∈ seen) : a ∈ close next rounds seen := by
  induction rounds generalizing seen with
  | zero => exact inside
  | succ rounds ih =>
    by_cases closed : Closed next seen
    · rwa [close_of_closed closed]
    · rw [close_of_not_closed closed]
      exact ih (mem_step.mpr (.inl inside))

theorem reachable_of_mem_close (rounds : Nat) (inside : b ∈ close next rounds seen) :
    ∃ a ∈ seen, Relation.ReflTransGen (Edge next) a b := by
  induction rounds generalizing seen with
  | zero => exact ⟨b, inside, .refl⟩
  | succ rounds ih =>
    by_cases closed : Closed next seen
    · rw [close_of_closed closed] at inside
      exact ⟨b, inside, .refl⟩
    · rw [close_of_not_closed closed] at inside
      obtain ⟨a, given, path⟩ := ih inside
      rcases mem_step.mp given with old | ⟨first, old, edge⟩
      · exact ⟨a, old, path⟩
      · exact ⟨first, old, .head edge path⟩

/-- The rounds end with a closed list, if there are enough for a pool of all successors. -/
theorem closed_close (successors : ∀ a, next a ⊆ pool) (distinct : seen.Nodup)
    (subset : seen ⊆ pool) (rounds : Nat)
    (enough : pool.length < seen.length + rounds) : Closed next (close next rounds seen) := by
  induction rounds generalizing seen with
  | zero =>
    have bound := distinct.length_le_of_subset subset
    omega
  | succ rounds ih =>
    by_cases closed : Closed next seen
    · rwa [close_of_closed closed]
    · rw [close_of_not_closed closed]
      -- The longer list is inside the pool still, so one round less is enough from here on.
      have stays : step next seen ⊆ pool := by
        intro b inside
        rcases mem_step.mp inside with old | ⟨a, _, edge⟩
        · exact subset old
        · exact successors a edge
      have longer := length_lt_step closed
      exact ih (nodup_step distinct) stays (by omega)

theorem nodup_close (distinct : seen.Nodup) (rounds : Nat) : (close next rounds seen).Nodup := by
  induction rounds generalizing seen with
  | zero => exact distinct
  | succ rounds ih =>
    by_cases closed : Closed next seen
    · rwa [close_of_closed closed]
    · rw [close_of_not_closed closed]
      exact ih (nodup_step distinct)

theorem mem_close_iff (successors : ∀ a, next a ⊆ pool) (distinct : seen.Nodup)
    (subset : seen ⊆ pool) {rounds : Nat} (enough : pool.length < seen.length + rounds) :
    b ∈ close next rounds seen ↔ ∃ a ∈ seen, Relation.ReflTransGen (Edge next) a b := by
  constructor
  · exact reachable_of_mem_close rounds
  · rintro ⟨a, inside, path⟩
    exact mem_of_reachable (closed_close successors distinct subset rounds enough)
      (mem_close_of_mem rounds inside) path

theorem close_add (rounds extra : Nat) (closed : Closed next (close next rounds seen)) :
    close next (rounds + extra) seen = close next rounds seen := by
  induction rounds generalizing seen with
  | zero =>
    rw [Nat.zero_add]
    exact close_of_closed closed extra
  | succ rounds ih =>
    by_cases done : Closed next seen
    · rw [close_of_closed done, close_of_closed done]
    · rw [Nat.add_right_comm, close_of_not_closed done, close_of_not_closed done]
      rw [close_of_not_closed done] at closed
      exact ih closed

end Reach

/-! ### Structs -/

namespace TypeMapper

variable {mapper : TypeMapper} {doc : Document}

/-- The properties of the structs of a document. -/
def structProperties (doc : Document) : List (String × TypeNode) :=
  doc.definitions.flatMap fun (_, definition) =>
    (definition.object?.map (·.properties)).getD []

/-- The structs that properties of a document name. -/
def namedStructs (mapper : TypeMapper) (doc : Document) : List Nsid :=
  (structProperties doc).filterMap fun (_, node) => (mapper.map node doc).target?

/-- The documents in which structs are looked up. -/
def knownDocuments (mapper : TypeMapper) (doc : Document) : List Document :=
  doc :: (mapper.registry.map (·.documents)).getD []

theorem owner?_mem {owner : Document} {id : Nsid}
    (owned : owner? mapper.registry doc id = some owner) : owner ∈ mapper.knownDocuments doc := by
  unfold owner? at owned
  split at owned
  · cases owned
    exact List.mem_cons_self
  · cases given : mapper.registry with
    | none => simp [given] at owned
    | some registry =>
      rw [given] at owned
      have held : owner ∈ registry.documents := List.mem_of_find?_eq_some owned
      simpa [knownDocuments, given] using .inr held

theorem mem_inlineStructs {id target : Nsid} :
    target ∈ mapper.inlineStructs doc id ↔
      ∃ owner definition object name node, owner? mapper.registry doc id = some owner ∧
        owner.definition? id.definitionName = some definition ∧
        definition.object? = some object ∧ (name, node) ∈ object.properties ∧
        (mapper.map node owner).target? = some target := by
  constructor
  · intro inside
    unfold inlineStructs at inside
    split at inside
    · cases inside
    · next owner object found =>
      simp only [structOf?, Option.bind_eq_bind, Option.bind_eq_some_iff, Option.pure_def,
        Option.some.injEq, Prod.mk.injEq] at found
      obtain ⟨holder, owned, definition, defined, struct, found, rfl, rfl⟩ := found
      obtain ⟨⟨name, node⟩, held, mapped⟩ := List.mem_filterMap.mp inside
      exact ⟨holder, definition, struct, name, node, owned, defined, found, held, mapped⟩
  · rintro ⟨owner, definition, object, name, node, owned, defined, struct, held, mapped⟩
    have found : structOf? mapper.registry doc id = some (owner, object) := by
      simp [structOf?, owned, defined, struct]
    simp only [inlineStructs, found, List.mem_filterMap]
    exact ⟨(name, node), held, mapped⟩

/-- The start and all structs that known documents name. -/
def structUniverse (mapper : TypeMapper) (doc : Document) (start : Nsid) : List Nsid :=
  start :: (mapper.knownDocuments doc).flatMap mapper.namedStructs

theorem inlineStructs_subset (mapper : TypeMapper) (doc : Document) (start id : Nsid) :
    mapper.inlineStructs doc id ⊆ mapper.structUniverse doc start := by
  intro target inside
  obtain ⟨owner, definition, object, name, node, owned, defined, struct, held, mapped⟩ :=
    mem_inlineStructs.mp inside
  have property : (name, node) ∈ structProperties owner := by
    refine List.mem_flatMap.mpr ⟨_, Json.mem_of_lookup defined, ?_⟩
    simpa [struct] using held
  refine List.mem_cons_of_mem _ (List.mem_flatMap.mpr ⟨owner, owner?_mem owned, ?_⟩)
  exact List.mem_filterMap.mpr ⟨_, property, mapped⟩

theorem length_structUniverse (mapper : TypeMapper) (doc : Document) (start : Nsid) :
    (mapper.structUniverse doc start).length ≤ mapper.structBound doc := by
  -- The bound is a fold, so what has been added up so far is generalized.
  have general : ∀ (docs : List Document) (bound : Nat),
      bound + (docs.flatMap mapper.namedStructs).length ≤
        docs.foldl (fun bound other => bound + propertyCount other) bound := by
    intro docs
    induction docs with
    | nil => simp
    | cons other rest ih =>
      intro bound
      have named : (mapper.namedStructs other).length ≤ propertyCount other :=
        List.length_filterMap_le _ _
      have later := ih (bound + propertyCount other)
      simp only [List.flatMap_cons, List.length_append, List.foldl_cons]
      omega
  have bound := general (mapper.knownDocuments doc) 1
  rw [structUniverse, List.length_cons, Nat.add_comm]
  exact bound

theorem structBound_enough (mapper : TypeMapper) (doc : Document) (start : Nsid) :
    (mapper.structUniverse doc start).length < [start].length + mapper.structBound doc := by
  have bound := mapper.length_structUniverse doc start
  rw [List.length_singleton]
  omega

/-- The search for structs ends by itself: with more rounds it would find the same. -/
theorem close_eq_reachable (mapper : TypeMapper) (doc : Document) (start : Nsid) {rounds : Nat}
    (enough : mapper.structBound doc ≤ rounds) :
    Reach.close (mapper.inlineStructs doc) rounds [start] = mapper.reachable doc start := by
  obtain ⟨extra, rfl⟩ := Nat.exists_eq_add_of_le enough
  have closed : Reach.Closed (mapper.inlineStructs doc) (mapper.reachable doc start) :=
    Reach.closed_close (mapper.inlineStructs_subset doc start) (List.nodup_singleton start)
      (by simp [structUniverse]) _ (mapper.structBound_enough doc start)
  exact Reach.close_add _ extra closed

/-- A struct leads back to another one exactly if it reaches it through inline fields. -/
theorem leadsBack_iff {start goal : Nsid} : mapper.leadsBack doc start goal = true ↔
    Relation.ReflTransGen (Reach.Edge (mapper.inlineStructs doc)) start goal := by
  have given : [start] ⊆ mapper.structUniverse doc start := by simp [structUniverse]
  rw [leadsBack, List.contains_iff_mem, reachable,
    Reach.mem_close_iff (mapper.inlineStructs_subset doc start) (List.nodup_singleton start) given
      (mapper.structBound_enough doc start)]
  simp only [List.mem_singleton, exists_eq_left]

end TypeMapper

end Lexicon
