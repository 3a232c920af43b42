import Lexicon.Entries
import Lexicon.Json.Basic

/-!
# Lexicon.Proofs.Entries

Dictionaries with distinct keys.

A look-up finds the first pair under a key. When the keys are distinct that is
every pair under the key, and a list of pairs spells the dictionary that it
already is.

## Main results

- `Entries.exists_lookup_iff`: a key is there exactly if a look-up finds it.
- `Entries.lookup_of_mem`: with distinct keys every pair is found.
- `Entries.lookup_map_snd`: a look-up finds what was made of the value.
- `Entries.ofPairs_of_nodup`: a list with distinct keys spells itself.
-/

namespace Lexicon

namespace Entries

variable {α : Type} {entries : List (String × α)} {key : String}

theorem exists_lookup_iff : (∃ value, entries.lookup key = some value) ↔ key ∈ keys entries := by
  induction entries with
  | nil => simp [keys]
  | cons entry rest ih =>
    obtain ⟨k, v⟩ := entry
    by_cases same : key = k
    · subst same
      simp [keys]
    · rw [lookup_cons_of_ne same, ih]
      simp [keys, same]

theorem has_iff : has entries key = true ↔ ∃ value, entries.lookup key = some value := by
  rw [exists_lookup_iff]
  simp [has, keys]

theorem has_eq_false_iff : has entries key = false ↔ entries.lookup key = none := by
  rw [← Bool.not_eq_true, has_iff, not_exists, Option.eq_none_iff_forall_ne_some]

theorem mem_keys_of_mem {value : α} (inside : (key, value) ∈ entries) : key ∈ keys entries :=
  List.mem_map.mpr ⟨_, inside, rfl⟩

theorem has_of_mem {value : α} (inside : (key, value) ∈ entries) : has entries key = true :=
  has_iff.mpr (exists_lookup_iff.mpr (mem_keys_of_mem inside))

theorem lookup_of_mem {value : α} (distinct : (keys entries).Nodup)
    (inside : (key, value) ∈ entries) : entries.lookup key = some value := by
  induction entries with
  | nil => simp at inside
  | cons entry rest ih =>
    obtain ⟨k, v⟩ := entry
    have split := List.nodup_cons.mp distinct
    rcases List.mem_cons.mp inside with same | inside
    · cases same
      exact lookup_cons_self key value rest
    -- An earlier pair under the key would be a repeated key.
    · have different : key ≠ k := fun same => split.1 (same ▸ mem_keys_of_mem inside)
      rw [lookup_cons_of_ne different]
      exact ih split.2 inside

theorem lookup_eq_some_iff {value : α} (distinct : (keys entries).Nodup) :
    entries.lookup key = some value ↔ (key, value) ∈ entries :=
  ⟨Json.mem_of_lookup, lookup_of_mem distinct⟩

/-- With distinct keys the order does not matter to a look-up. -/
theorem lookup_perm {others : List (String × α)} (distinct : (keys entries).Nodup)
    (same : entries.Perm others) : entries.lookup key = others.lookup key := by
  have otherDistinct : (keys others).Nodup := (same.map Prod.fst).nodup_iff.mp distinct
  refine Option.ext fun value => ?_
  rw [lookup_eq_some_iff distinct, lookup_eq_some_iff otherDistinct, same.mem_iff]

theorem lookup_insert_of_ne {before after : List (String × α)} {other : String} (value : α)
    (different : other ≠ key) :
    (before ++ (key, value) :: after).lookup other = (before ++ after).lookup other := by
  rw [List.lookup_append, lookup_cons_of_ne different, ← List.lookup_append]

theorem lookup_replace_of_ne {before after : List (String × α)} {other : String} (value again : α)
    (different : other ≠ key) :
    (before ++ (key, value) :: after).lookup other =
      (before ++ (key, again) :: after).lookup other := by
  rw [lookup_insert_of_ne value different, lookup_insert_of_ne again different]

/-- What is done to every value is done to the value that a look-up finds. -/
theorem lookup_map_snd {β : Type} (f : α → β) (entries : List (String × α)) (key : String) :
    (entries.map fun entry => (entry.1, f entry.2)).lookup key = (entries.lookup key).map f := by
  induction entries with
  | nil => rfl
  | cons entry rest ih =>
    obtain ⟨k, v⟩ := entry
    rw [List.map_cons]
    by_cases same : key = k
    · subst same
      rw [lookup_cons_self, lookup_cons_self, Option.map_some]
    · rw [lookup_cons_of_ne same, lookup_cons_of_ne same, ih]

/-! ### Lists of pairs -/

theorem put_of_notMem {value : α} (absent : key ∉ keys entries) :
    put entries key value = entries ++ [(key, value)] := by
  induction entries with
  | nil => rfl
  | cons entry rest ih =>
    obtain ⟨k, v⟩ := entry
    simp only [keys, List.map_cons, List.mem_cons, not_or] at absent
    rw [put, if_neg (fun same => absent.1 same.symm), ih absent.2]
    rfl

theorem mem_put {entry : String × α} {value : α} (inside : entry ∈ put entries key value) :
    entry = (key, value) ∨ entry ∈ entries := by
  induction entries with
  | nil => exact .inl (List.mem_singleton.mp inside)
  | cons first rest ih =>
    obtain ⟨k, v⟩ := first
    unfold put at inside
    split at inside
    · next same =>
      subst same
      rcases List.mem_cons.mp inside with here | there
      · exact .inl here
      · exact .inr (List.mem_cons_of_mem _ there)
    · rcases List.mem_cons.mp inside with here | there
      · exact .inr (here ▸ List.mem_cons_self)
      · rcases ih there with new | old
        · exact .inl new
        · exact .inr (List.mem_cons_of_mem _ old)

theorem mem_foldl_put {entry : String × α} (pairs entries : List (String × α))
    (inside : entry ∈ pairs.foldl (fun entries pair => put entries pair.1 pair.2) entries) :
    entry ∈ pairs ∨ entry ∈ entries := by
  -- What has been built is generalized, since every pair is put into it.
  induction pairs generalizing entries with
  | nil => exact .inr inside
  | cons pair rest ih =>
    rcases ih _ inside with later | earlier
    · exact .inl (List.mem_cons_of_mem _ later)
    · rcases mem_put earlier with new | old
      · exact .inl (new ▸ List.mem_cons_self)
      · exact .inr old

/-- A dictionary has no pairs but those it was spelled from. -/
theorem mem_of_mem_ofPairs {entry : String × α} {pairs : List (String × α)}
    (inside : entry ∈ ofPairs pairs) : entry ∈ pairs := by
  rcases mem_foldl_put pairs [] inside with given | none
  · exact given
  · simp at none

theorem foldl_put_of_nodup (pairs entries : List (String × α))
    (distinct : (keys (entries ++ pairs)).Nodup) :
    pairs.foldl (fun entries pair => put entries pair.1 pair.2) entries = entries ++ pairs := by
  induction pairs generalizing entries with
  | nil => simp
  | cons pair rest ih =>
    obtain ⟨k, v⟩ := pair
    -- The keys to come are distinct from those that are there, so each pair goes to the end.
    have absent : k ∉ keys entries := by
      intro inside
      rw [keys, List.map_append, List.nodup_append] at distinct
      exact distinct.2.2 k inside k (by simp) rfl
    rw [List.foldl_cons, put_of_notMem absent, ih _ (by simpa using distinct)]
    simp

/-- A list of pairs with distinct keys spells itself. -/
theorem ofPairs_of_nodup {pairs : List (String × α)} (distinct : (keys pairs).Nodup) :
    ofPairs pairs = pairs :=
  foldl_put_of_nodup pairs [] distinct

end Entries

end Lexicon
