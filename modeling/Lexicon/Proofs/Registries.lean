import Mathlib.Data.List.Nodup
import Lexicon.Proofs.HopBudget

/-!
# Lexicon.Proofs.Registries

Registries of lists of documents.

## Main result

`Registry.get?_ofDocuments_iff`: documents with identifiers of their own are
all found in the registry of their list, and nothing else is.
-/

namespace Lexicon

namespace Registry

variable {docs : List Document}

theorem has_eq_false_iff {registry : Registry} {id : Nsid} (main : id.fragment = none) :
    registry.has id = false ↔ id ∉ registry.documents.map (·.id) := by
  simp [has, get?, Nsid.base_eq_self main]

theorem documents_ofDocuments (main : ∀ doc ∈ docs, doc.id.fragment = none)
    (distinct : (docs.map (·.id)).Nodup) : (ofDocuments docs).documents = docs := by
  have general : ∀ (rest held : List Document), (∀ doc ∈ rest, doc.id.fragment = none) →
      ((held ++ rest).map (·.id)).Nodup →
      (rest.foldl register ⟨held⟩).documents = held ++ rest := by
    intro rest
    induction rest with
    | nil => simp
    | cons doc rest ih =>
      intro held main distinct
      -- The identifiers to come differ from those that are held, so no document is replaced.
      have absent : doc.id ∉ held.map (·.id) := by
        intro inside
        rw [List.map_append, List.nodup_append] at distinct
        exact distinct.2.2 _ inside _ (by simp) rfl
      have new : (⟨held⟩ : Registry).has doc.id = false :=
        (has_eq_false_iff (main doc List.mem_cons_self)).mpr absent
      have added : register ⟨held⟩ doc = ⟨held ++ [doc]⟩ := by simp [register, new]
      rw [List.foldl_cons, added, ih (held ++ [doc])]
      · simp
      · exact fun other inside => main other (List.mem_cons_of_mem _ inside)
      · simpa using distinct
  exact general docs [] main distinct

theorem get?_ofDocuments_iff (main : ∀ doc ∈ docs, doc.id.fragment = none)
    (distinct : (docs.map (·.id)).Nodup) {id : Nsid} {doc : Document} :
    (ofDocuments docs).get? id = some doc ↔ doc ∈ docs ∧ doc.id = id.base := by
  have documents := documents_ofDocuments main distinct
  constructor
  · intro held
    have inside : doc ∈ (ofDocuments docs).documents := List.mem_of_find?_eq_some held
    exact ⟨documents ▸ inside, id_of_get? held⟩
  · rintro ⟨inside, named⟩
    cases held : (ofDocuments docs).get? id with
    | none =>
      rw [get?, documents, List.find?_eq_none] at held
      exact absurd (by simpa using named) (held doc inside)
    | some other =>
      have there : other ∈ (ofDocuments docs).documents := List.mem_of_find?_eq_some held
      have same : other.id = doc.id := (id_of_get? held).trans named.symm
      rw [List.inj_on_of_nodup_map distinct (documents ▸ there) inside same]

end Registry

end Lexicon
