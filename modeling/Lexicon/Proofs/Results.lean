import Mathlib.Data.List.Forall2

/-!
# Lexicon.Proofs.Results

Computations that give a result or an error.

What is known of the result of a computation follows from what is known of its
steps. `Ensures` states it without a case for the error, and `Raises` states
what is known of the error. For lists of steps every result comes from one step,
and the error from the first step that fails.
-/

namespace Lexicon

variable {ε α β : Type}

/-- Every result of a computation has a property. -/
def Ensures (computation : Except ε α) (P : α → Prop) : Prop :=
  ∀ a, computation = .ok a → P a

@[simp] theorem ok_bind (a : α) (next : α → Except ε β) : (.ok a >>= next) = next a := rfl

@[simp] theorem error_bind (e : ε) (next : α → Except ε β) : (.error e >>= next) = .error e := rfl

@[simp] theorem pure_eq_ok (a : α) : (pure a : Except ε α) = .ok a := rfl

@[simp] theorem mapError_ok {ε' : Type} (a : α) (f : ε → ε') :
    (.ok a : Except ε α).mapError f = .ok a := rfl

theorem bind_eq_ok_iff {computation : Except ε α} {next : α → Except ε β} {b : β} :
    (computation >>= next) = .ok b ↔ ∃ a, computation = .ok a ∧ next a = .ok b := by
  cases computation with
  | error e => simp [bind, Except.bind]
  | ok a => simp [bind, Except.bind]

theorem bind_eq_error_iff {computation : Except ε α} {next : α → Except ε β} {e : ε} :
    (computation >>= next) = .error e ↔
      computation = .error e ∨ ∃ a, computation = .ok a ∧ next a = .error e := by
  cases computation with
  | error e => simp [bind, Except.bind]
  | ok a => simp [bind, Except.bind]

theorem map_eq_ok_iff {computation : Except ε α} {f : α → β} {b : β} :
    computation.map f = .ok b ↔ ∃ a, computation = .ok a ∧ f a = b := by
  cases computation <;> simp [Except.map]

theorem mapError_eq_ok_iff {ε' : Type} {computation : Except ε α} {f : ε → ε'} {a : α} :
    computation.mapError f = .ok a ↔ computation = .ok a := by
  constructor
  · intro given
    cases computation with
    | error e => cases given
    | ok b =>
      cases given
      rfl
  · rintro rfl
    rfl

theorem mapError_eq_error_iff {ε' : Type} {computation : Except ε α} {f : ε → ε'} {e : ε'} :
    computation.mapError f = .error e ↔ ∃ inner, computation = .error inner ∧ f inner = e := by
  constructor
  · intro given
    cases computation with
    | error inner =>
      cases given
      exact ⟨inner, rfl, rfl⟩
    | ok b => cases given
  · rintro ⟨inner, rfl, rfl⟩
    rfl

namespace Ensures

variable {P : α → Prop} {Q : β → Prop}

theorem ok {a : α} (holds : P a) : Ensures (.ok a : Except ε α) P := by
  rintro _ ⟨⟩
  exact holds

theorem error {e : ε} : Ensures (.error e : Except ε α) P := by
  rintro _ ⟨⟩

theorem bind {computation : Except ε α} {next : α → Except ε β}
    (last : ∀ a, computation = .ok a → Ensures (next a) Q) : Ensures (computation >>= next) Q := by
  intro b given
  obtain ⟨a, first, second⟩ := bind_eq_ok_iff.mp given
  exact last a first b second

theorem map {computation : Except ε α} {f : α → β} (holds : Ensures computation (Q ∘ f)) :
    Ensures (f <$> computation) Q := by
  intro b given
  obtain ⟨a, first, rfl⟩ := map_eq_ok_iff.mp given
  exact holds a first

theorem mapError {ε' : Type} {computation : Except ε α} {f : ε → ε'}
    (holds : Ensures computation P) : Ensures (computation.mapError f) P :=
  fun a given => holds a (mapError_eq_ok_iff.mp given)

end Ensures

/-- Every error of a computation has a property. -/
def Raises (computation : Except ε α) (P : ε → Prop) : Prop :=
  ∀ e, computation = .error e → P e

namespace Raises

variable {P Q : ε → Prop}

theorem ok {a : α} : Raises (.ok a : Except ε α) P := by
  rintro _ ⟨⟩

theorem error {e : ε} (holds : P e) : Raises (.error e : Except ε α) P := by
  rintro _ ⟨⟩
  exact holds

theorem imp {computation : Except ε α} (given : Raises computation P) (weaker : ∀ e, P e → Q e) :
    Raises computation Q :=
  fun e failed => weaker e (given e failed)

theorem bind {computation : Except ε α} {next : α → Except ε β} (first : Raises computation P)
    (later : ∀ a, computation = .ok a → Raises (next a) P) : Raises (computation >>= next) P := by
  intro e failed
  rcases bind_eq_error_iff.mp failed with failed | ⟨a, done, failed⟩
  · exact first e failed
  · exact later a done e failed

theorem map {computation : Except ε α} (given : Raises computation P) (f : α → β) :
    Raises (f <$> computation) P := by
  intro e failed
  cases computation with
  | error inner =>
    cases failed
    exact given _ rfl
  | ok a => cases failed

theorem mapError {ε' : Type} {R : ε' → Prop} {computation : Except ε α} {f : ε → ε'}
    (given : Raises computation (R ∘ f)) : Raises (computation.mapError f) R := by
  intro e failed
  obtain ⟨inner, origin, rfl⟩ := mapError_eq_error_iff.mp failed
  exact given inner origin

theorem mapM {f : α → Except ε β} {as : List α} (each : ∀ a ∈ as, Raises (f a) P) :
    Raises (as.mapM f) P := by
  induction as with
  | nil => exact .ok
  | cons a rest ih =>
    rw [List.mapM_cons]
    refine (each a List.mem_cons_self).bind fun b _ => ?_
    exact (ih fun c inside => each c (List.mem_cons_of_mem _ inside)).bind fun bs _ => .ok

theorem forM {check : α → Except ε Unit} {as : List α} (each : ∀ a ∈ as, Raises (check a) P) :
    Raises (as.forM check) P := by
  induction as with
  | nil => exact .ok
  | cons a rest ih =>
    rw [List.forM]
    exact (each a List.mem_cons_self).bind fun _ _ =>
      ih fun c inside => each c (List.mem_cons_of_mem _ inside)

end Raises

/-- A computation gives a result. -/
def Succeeds (computation : Except ε α) : Prop := ∃ a, computation = .ok a

namespace Succeeds

variable {computation : Except ε α}

theorem map (given : Succeeds computation) (f : α → β) : Succeeds (computation.map f) := by
  obtain ⟨a, rfl⟩ := given
  exact ⟨f a, rfl⟩

theorem mapError {ε' : Type} (given : Succeeds computation) (f : ε → ε') :
    Succeeds (computation.mapError f) := by
  obtain ⟨a, rfl⟩ := given
  exact ⟨a, rfl⟩

theorem bind {next : α → Except ε β} (given : Succeeds computation)
    (later : ∀ a, Succeeds (next a)) : Succeeds (computation >>= next) := by
  obtain ⟨a, rfl⟩ := given
  exact later a

theorem mapM {f : α → Except ε β} {as : List α} (each : ∀ a ∈ as, Succeeds (f a)) :
    Succeeds (as.mapM f) := by
  induction as with
  | nil => exact ⟨[], rfl⟩
  | cons a rest ih =>
    rw [List.mapM_cons]
    refine (each a List.mem_cons_self).bind fun b => ?_
    refine (ih fun c inside => each c (List.mem_cons_of_mem _ inside)).bind fun bs => ?_
    exact ⟨b :: bs, rfl⟩

end Succeeds

/-! ### Lists of computations -/

variable {f : α → Except ε β}

/-- Results of several steps are the results of the single ones, in order. -/
theorem mapM_eq_ok_iff {as : List α} {bs : List β} :
    as.mapM f = .ok bs ↔ List.Forall₂ (fun a b => f a = .ok b) as bs := by
  induction as generalizing bs with
  | nil =>
    constructor
    · rintro ⟨⟩
      exact .nil
    · rintro ⟨⟩
      rfl
  | cons a rest ih =>
    rw [List.mapM_cons, bind_eq_ok_iff]
    constructor
    · rintro ⟨b, first, given⟩
      obtain ⟨others, later, same⟩ := bind_eq_ok_iff.mp given
      cases same
      exact .cons first (ih.mp later)
    · rintro (_ | ⟨first, later⟩)
      exact ⟨_, first, bind_eq_ok_iff.mpr ⟨_, ih.mpr later, rfl⟩⟩

/-- Each of several results is the result of one step. -/
theorem mem_of_mapM_eq_ok {as : List α} {bs : List β} (given : as.mapM f = .ok bs) :
    ∀ b ∈ bs, ∃ a ∈ as, f a = .ok b := by
  induction as generalizing bs with
  | nil =>
    cases given
    rintro b ⟨⟩
  | cons a rest ih =>
    -- The first step and the remaining ones give results, or nothing does.
    rw [List.mapM_cons, bind_eq_ok_iff] at given
    obtain ⟨b, first, later⟩ := given
    obtain ⟨others, remaining, same⟩ := bind_eq_ok_iff.mp later
    cases same
    intro c inside
    rcases List.mem_cons.mp inside with rfl | inside
    · exact ⟨a, List.mem_cons_self, first⟩
    · obtain ⟨source, held, read⟩ := ih remaining c inside
      exact ⟨source, List.mem_cons_of_mem _ held, read⟩

/-- The results of steps that are known one by one. -/
theorem mapM_map_eq_ok {γ : Type} {g : γ → α} {h : γ → β} {cs : List γ}
    (each : ∀ c ∈ cs, f (g c) = .ok (h c)) : (cs.map g).mapM f = .ok (cs.map h) := by
  induction cs with
  | nil => rfl
  | cons c rest ih =>
    rw [List.map_cons, List.mapM_cons, each c List.mem_cons_self,
      ih fun d inside => each d (List.mem_cons_of_mem _ inside)]
    rfl

/-- Steps that take back what was done to each element give the elements. -/
theorem mapM_map_eq_ok_self {g : β → α} {bs : List β} (back : ∀ b ∈ bs, f (g b) = .ok b) :
    (bs.map g).mapM f = .ok bs := by
  rw [mapM_map_eq_ok back, List.map_id']

/-- Steps that agree on every element of a list give the same results, or the same error. -/
theorem mapM_congr {g : α → Except ε β} {as : List α} (same : ∀ a ∈ as, f a = g a) :
    as.mapM f = as.mapM g := by
  induction as with
  | nil => rfl
  | cons a rest ih =>
    rw [List.mapM_cons, List.mapM_cons, same a List.mem_cons_self,
      ih fun b inside => same b (List.mem_cons_of_mem _ inside)]

/-- An element may be replaced by one that the step takes to the same result or error. -/
theorem mapM_replaced {before after : List α} {a b : α} (same : f a = f b) :
    (before ++ a :: after).mapM f = (before ++ b :: after).mapM f := by
  rw [List.mapM_append, List.mapM_append, List.mapM_cons, List.mapM_cons, same]

theorem forM_eq_ok_iff {check : α → Except ε Unit} {as : List α} :
    as.forM check = .ok () ↔ ∀ a ∈ as, check a = .ok () := by
  induction as with
  | nil => simp [List.forM, pure, Except.pure]
  | cons a rest ih =>
    rw [List.forM, bind_eq_ok_iff, List.forall_mem_cons, ← ih]
    constructor
    · rintro ⟨⟨⟩, first, later⟩
      exact ⟨first, later⟩
    · rintro ⟨first, later⟩
      exact ⟨(), first, later⟩

/-- Checks stop at the first element that fails. -/
theorem exists_of_forM_eq_error {check : α → Except ε Unit} {as : List α} {e : ε}
    (failed : as.forM check = .error e) : ∃ before a after, as = before ++ a :: after ∧
      (∀ earlier ∈ before, check earlier = .ok ()) ∧ check a = .error e := by
  induction as with
  | nil => cases failed
  | cons a rest ih =>
    rw [List.forM, bind_eq_error_iff] at failed
    rcases failed with here | ⟨⟨⟩, passed, later⟩
    · exact ⟨[], a, rest, rfl, by simp, here⟩
    · obtain ⟨before, found, after, rfl, earlier, fails⟩ := ih later
      exact ⟨a :: before, found, after, rfl, List.forall_mem_cons.mpr ⟨passed, earlier⟩, fails⟩

theorem forM_congr {check other : α → Except ε Unit} {as : List α}
    (same : ∀ a ∈ as, check a = other a) : as.forM check = as.forM other := by
  induction as with
  | nil => rfl
  | cons a rest ih =>
    rw [List.forM, List.forM, same a List.mem_cons_self,
      ih fun b inside => same b (List.mem_cons_of_mem _ inside)]

theorem forM_flatMap {check : β → Except ε Unit} (g : α → List β) (as : List α) :
    (as.flatMap g).forM check = as.forM fun a => (g a).forM check := by
  induction as with
  | nil => rfl
  | cons a rest ih =>
    rw [List.flatMap_cons, List.forM, ← ih]
    exact List.forM_append

/-- Steps without their results are checks. -/
theorem map_unit_mapM (f : α → Except ε β) (as : List α) :
    (as.mapM f).map (fun _ => ()) = as.forM fun a => (f a).map fun _ => () := by
  induction as with
  | nil => rfl
  | cons a rest ih =>
    rw [List.mapM_cons, List.forM, ← ih]
    cases f a with
    | error e => rfl
    | ok b => cases rest.mapM f <;> rfl

end Lexicon
