import Mathlib.Data.List.Forall2
import Lexicon.Proofs.Entries
import Lexicon.Proofs.Results
import Lexicon.Schema.Document

/-!
# Lexicon.Proofs.DefinitionPasses

The two passes over the definitions of a document.

The first pass reads every definition without its children and the second one
attaches them. Either pass keeps the names, and a definition gets its children
from the value that it was read from. So when both passes succeed and all
references are well formed, every definition has been read by itself.

## Main definition

- `Document.readEntry`: one definition in both passes, with its references checked.

## Main result

`Document.parseDefinitions_eq_ok_iff`: definitions are read exactly if each of
them is, in order.
-/

namespace Lexicon

open List (Forall₂)

theorem exists_mem_of_forall₂ {α β : Type} {R : α → β → Prop} {as : List α} {bs : List β}
    (related : Forall₂ R as bs) {a : α} (inside : a ∈ as) : ∃ b ∈ bs, R a b := by
  induction related with
  | nil => cases inside
  | cons first _ ih =>
    rcases List.mem_cons.mp inside with rfl | inside
    · exact ⟨_, List.mem_cons_self, first⟩
    · obtain ⟨b, held, given⟩ := ih inside
      exact ⟨b, List.mem_cons_of_mem _ held, given⟩

/-- Steps that keep the keys keep the list of keys. -/
theorem Entries.keys_eq_of_forall₂ {α β : Type} {R : String × α → String × β → Prop}
    (named : ∀ entry other, R entry other → other.1 = entry.1) {entries : List (String × α)}
    {others : List (String × β)} (related : Forall₂ R entries others) :
    keys others = keys entries := by
  induction related with
  | nil => rfl
  | cons first _ ih =>
    simp only [keys, List.map_cons] at ih ⊢
    rw [named _ _ first, ih]

namespace Document

variable {raws : List (String × Json)} {definitions : List (String × Definition)}

/-- The first pass keeps the name and reads the value under it. -/
theorem of_parseShallowEntry (entry : String × Json) :
    Ensures (parseShallowEntry entry) fun read =>
      read.1 = entry.1 ∧ Definition.parseShallow entry.2 = .ok read.2 := by
  obtain ⟨name, raw⟩ := entry
  simp only [parseShallowEntry]
  refine .mapError ?_
  split
  · exact .error
  · exact .bind fun definition read => .ok ⟨rfl, read⟩

/-- The second pass keeps the name. -/
theorem name_of_attachEntry (raws : List (String × Json)) (entry : String × Definition) :
    Ensures (attachEntry raws entry) fun full => full.1 = entry.1 :=
  .mapError (.bind fun _ _ => .ok rfl)

/-- The children of a definition are found in the value under its name, and in no other one. -/
theorem attachEntry_of_mem (distinct : (Entries.keys raws).Nodup) {raw : String × Json}
    (inside : raw ∈ raws) {shallow : String × Definition} (named : shallow.1 = raw.1) :
    attachEntry raws shallow = attachEntry [raw] shallow := by
  obtain ⟨name, definition⟩ := shallow
  obtain ⟨name, value⟩ := raw
  cases named
  simp only [attachEntry, Entries.lookup_of_mem distinct inside, Entries.lookup_cons_self]

theorem checkReferences_cons {entry : String × Definition} :
    checkReferences (entry :: definitions) = .ok () ↔
      checkReferences [entry] = .ok () ∧ checkReferences definitions = .ok () := by
  simp only [checkReferences, forM_eq_ok_iff, List.forall_mem_cons, List.not_mem_nil,
    false_implies, implies_true, and_true]

/-- Reads one definition in both passes, as if it were the only one, and checks its references. -/
def readEntry (raw : String × Json) : Except ParseError (String × Definition) := do
  let shallow ← parseShallowEntry raw
  let full ← attachEntry [raw] shallow
  checkReferences [full]
  return full

theorem readEntry_eq_ok_iff {raw : String × Json} {full : String × Definition} :
    readEntry raw = .ok full ↔ ∃ shallow, parseShallowEntry raw = .ok shallow ∧
      attachEntry [raw] shallow = .ok full ∧ checkReferences [full] = .ok () := by
  constructor
  · intro read
    obtain ⟨shallow, first, read⟩ := bind_eq_ok_iff.mp read
    obtain ⟨whole, second, read⟩ := bind_eq_ok_iff.mp read
    obtain ⟨⟨⟩, checked, same⟩ := bind_eq_ok_iff.mp read
    cases same
    exact ⟨shallow, first, second, checked⟩
  · rintro ⟨shallow, first, second, checked⟩
    exact bind_eq_ok_iff.mpr ⟨shallow, first, bind_eq_ok_iff.mpr ⟨full, second,
      bind_eq_ok_iff.mpr ⟨(), checked, rfl⟩⟩⟩

theorem name_of_readEntry (raw : String × Json) :
    Ensures (readEntry raw) fun full => full.1 = raw.1 := by
  intro full read
  obtain ⟨shallow, first, second, _⟩ := readEntry_eq_ok_iff.mp read
  rw [name_of_attachEntry _ _ full second, (of_parseShallowEntry raw shallow first).1]

/-- Both passes over some of the definitions, where the children may be found among all of them. -/
theorem passes_iff (distinct : (Entries.keys raws).Nodup) {some : List (String × Json)}
    (part : some ⊆ raws) :
    (∃ shallow, Forall₂ (fun raw read => parseShallowEntry raw = .ok read) some shallow ∧
        Forall₂ (fun read full => attachEntry raws read = .ok full) shallow definitions ∧
        checkReferences definitions = .ok ()) ↔
      Forall₂ (fun raw full => readEntry raw = .ok full) some definitions := by
  induction some generalizing definitions with
  | nil =>
    constructor
    · rintro ⟨_, ⟨⟩, ⟨⟩, _⟩
      exact .nil
    · rintro ⟨⟩
      exact ⟨[], .nil, .nil, rfl⟩
  | cons raw rest ih =>
    obtain ⟨inside, part⟩ := List.cons_subset.mp part
    have own {shallow : String × Definition} (first : parseShallowEntry raw = .ok shallow) :
        attachEntry raws shallow = attachEntry [raw] shallow :=
      attachEntry_of_mem distinct inside (of_parseShallowEntry raw shallow first).1
    constructor
    · rintro ⟨_, _ | ⟨first, firsts⟩, _ | ⟨second, seconds⟩, checked⟩
      obtain ⟨here, later⟩ := checkReferences_cons.mp checked
      rw [own first] at second
      exact .cons (readEntry_eq_ok_iff.mpr ⟨_, first, second, here⟩)
        ((ih part).mp ⟨_, firsts, seconds, later⟩)
    · rintro (_ | ⟨one, others⟩)
      obtain ⟨shallow, first, second, here⟩ := readEntry_eq_ok_iff.mp one
      obtain ⟨shallows, firsts, seconds, later⟩ := (ih part).mpr others
      rw [← own first] at second
      exact ⟨shallow :: shallows, .cons first firsts, .cons second seconds,
        checkReferences_cons.mpr ⟨here, later⟩⟩

/-- Definitions of distinct names are read exactly if each of them is read by itself. -/
theorem parseDefinitions_eq_ok_iff (distinct : (Entries.keys raws).Nodup) :
    (parseDefinitions raws = .ok definitions ∧ checkReferences definitions = .ok ()) ↔
      Forall₂ (fun raw full => readEntry raw = .ok full) raws definitions := by
  rw [← passes_iff distinct (List.Subset.refl raws)]
  -- Distinct names stay distinct, so neither pass drops a definition.
  have shallowKeys {shallow : List (String × Definition)}
      (firsts : Forall₂ (fun raw read => parseShallowEntry raw = .ok read) raws shallow) :
      (Entries.keys shallow).Nodup := by
    rwa [Entries.keys_eq_of_forall₂ (fun raw read given => (of_parseShallowEntry raw read given).1)
      firsts]
  have fullKeys {shallow full : List (String × Definition)}
      (firsts : Forall₂ (fun raw read => parseShallowEntry raw = .ok read) raws shallow)
      (seconds : Forall₂ (fun read full => attachEntry raws read = .ok full) shallow full) :
      (Entries.keys full).Nodup := by
    rw [Entries.keys_eq_of_forall₂ (fun read full given => name_of_attachEntry raws read full given)
      seconds]
    exact shallowKeys firsts
  constructor
  · rintro ⟨read, checked⟩
    obtain ⟨shallow, first, read⟩ := bind_eq_ok_iff.mp read
    obtain ⟨full, second, same⟩ := bind_eq_ok_iff.mp read
    have firsts := mapM_eq_ok_iff.mp first
    rw [Entries.ofPairs_of_nodup (shallowKeys firsts)] at second
    have seconds := mapM_eq_ok_iff.mp second
    cases same
    rw [Entries.ofPairs_of_nodup (fullKeys firsts seconds)] at checked ⊢
    exact ⟨shallow, firsts, seconds, checked⟩
  · rintro ⟨shallow, firsts, seconds, checked⟩
    refine ⟨bind_eq_ok_iff.mpr ⟨shallow, mapM_eq_ok_iff.mpr firsts, ?_⟩, checked⟩
    rw [Entries.ofPairs_of_nodup (shallowKeys firsts)]
    refine bind_eq_ok_iff.mpr ⟨definitions, mapM_eq_ok_iff.mpr seconds, ?_⟩
    rw [Entries.ofPairs_of_nodup (fullKeys firsts seconds)]
    rfl

end Document

end Lexicon
