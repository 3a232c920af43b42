/-!
# Lexicon.Entries

Ordered dictionaries as lists of pairs.

Schema documents and data keep the order in which their keys were written. A
key that is written again keeps its first place and takes its last value;
`Entries.put` states that rule for one pair and `Entries.ofPairs` for a list.

## Main results

- `Entries.nodup_keys_ofPairs`: the keys of `ofPairs` are pairwise distinct.
- `Entries.lookup_put`: what a lookup finds after `put`.
-/

namespace Lexicon

namespace Entries

variable {α : Type}

/-- The keys of a dictionary, in order. -/
def keys (entries : List (String × α)) : List String := entries.map Prod.fst

/-- Sets `key` to `value`: in place when the key is there, at the end otherwise. -/
def put (entries : List (String × α)) (key : String) (value : α) : List (String × α) :=
  match entries with
  | [] => [(key, value)]
  | (k, v) :: rest => if k = key then (k, value) :: rest else (k, v) :: put rest key value

/-- The dictionary that a list of pairs spells: first places, last values. -/
def ofPairs (pairs : List (String × α)) : List (String × α) :=
  pairs.foldl (fun entries pair => put entries pair.1 pair.2) []

/-- Whether the dictionary has the key. -/
def has (entries : List (String × α)) (key : String) : Bool :=
  entries.any fun entry => entry.1 == key

/-! ### Laws of `put` -/

theorem keys_put (entries : List (String × α)) (key : String) (value : α) :
    keys (put entries key value) =
      if key ∈ keys entries then keys entries else keys entries ++ [key] := by
  induction entries with
  | nil => simp [put, keys]
  | cons entry rest ih =>
    obtain ⟨k, v⟩ := entry
    by_cases h : k = key
    · subst h
      simp [put, keys]
    · have hne : key ≠ k := fun e => h e.symm
      simp only [put, if_neg h]
      simp only [keys, List.map_cons, List.mem_cons, hne, false_or] at ih ⊢
      rw [ih]
      by_cases hk : key ∈ List.map Prod.fst rest <;> simp [hk]

theorem nodup_keys_put {entries : List (String × α)} (key : String) (value : α)
    (h : (keys entries).Nodup) : (keys (put entries key value)).Nodup := by
  rw [keys_put]
  split
  · exact h
  · next hk =>
    rw [List.nodup_append]
    refine ⟨h, by simp, ?_⟩
    intro a ha b hb
    simp only [List.mem_singleton] at hb
    subst hb
    exact fun e => hk (e ▸ ha)

theorem nodup_keys_ofPairs (pairs : List (String × α)) : (keys (ofPairs pairs)).Nodup := by
  have general : ∀ (pairs entries : List (String × α)), (keys entries).Nodup →
      (keys (pairs.foldl (fun entries pair => put entries pair.1 pair.2) entries)).Nodup := by
    intro pairs
    induction pairs with
    | nil => intro entries h; exact h
    | cons pair rest ih => intro entries h; exact ih _ (nodup_keys_put _ _ h)
  exact general pairs [] (by simp [keys])

theorem lookup_cons_self (key : String) (value : α) (rest : List (String × α)) :
    ((key, value) :: rest).lookup key = some value := by
  rw [List.lookup_cons, beq_self_eq_true]

theorem lookup_cons_of_ne {key other : String} (h : other ≠ key) (value : α)
    (rest : List (String × α)) : ((key, value) :: rest).lookup other = rest.lookup other := by
  have hb : (other == key) = false := by simpa using h
  rw [List.lookup_cons, hb]

theorem lookup_put (entries : List (String × α)) (key other : String) (value : α) :
    (put entries key value).lookup other =
      if other = key then some value else entries.lookup other := by
  induction entries with
  | nil =>
    by_cases h : other = key
    · subst h
      simp [put]
    · simp [put, lookup_cons_of_ne h, h]
  | cons entry rest ih =>
    obtain ⟨k, v⟩ := entry
    by_cases h : k = key
    · subst h
      by_cases ho : other = k
      · subst ho
        simp [put]
      · simp [put, lookup_cons_of_ne ho, ho]
    · simp only [put, if_neg h]
      by_cases ho : other = k
      · subst ho
        simp [h]
      · rw [lookup_cons_of_ne ho, lookup_cons_of_ne ho, ih]

end Entries

end Lexicon
