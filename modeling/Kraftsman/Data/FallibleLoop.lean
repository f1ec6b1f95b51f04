import Mathlib.Data.List.Forall2

/-!
Contract: reasoning rules for loops whose body can fail.

Owns: the inversion of sequenced computations, and the correctness rules of a
left fold whose invariant may mention what is left to do.
Does not own: any particular state or failure.
-/

namespace Kraftsman.Data

universe u v

namespace FallibleLoop

section Sequence

variable {E : Type u} {A B : Type v} {first : Except E A} {result : B}

theorem bind_eq_ok {next : A → Except E B} :
    (first >>= next) = .ok result ↔ ∃ value, first = .ok value ∧ next value = .ok result := by
  cases first with
  | error _ | ok _ => simp [bind, Except.bind]

variable {change : A → B}

theorem map_eq_ok :
    (do let value ← first; return change value) = .ok result ↔
      ∃ value, first = .ok value ∧ change value = result := by
  rw [bind_eq_ok]
  simp [pure, Except.pure]

theorem except_map_eq_ok :
    first.map change = .ok result ↔ ∃ value, first = .ok value ∧ change value = result := by
  cases first <;> simp [Except.map]

theorem toOption_eq_some {computation : Except E A} {value : A} :
    computation.toOption = some value ↔ computation = .ok value := by
  cases computation <;> simp [Except.toOption]

theorem exists_ok {computation : Except E A} {Q : A → Prop} [DecidablePred Q]
    (seen : computation.toOption.any fun result => Q result) :
    ∃ result, computation = .ok result ∧ Q result := by
  cases computation with
  | error _ => cases seen
  | ok result => exact ⟨result, rfl, of_decide_eq_true seen⟩

theorem bind_eq_error {next : A → Except E B} {failure : E} : (first >>= next) = .error failure ↔
      first = .error failure ∨ ∃ value, first = .ok value ∧ next value = .error failure := by
  cases first with
  | error _ | ok _ => simp [bind, Except.bind]

theorem map_eq_error {failure : E} :
    (do let value ← first; return change value) = .error failure ↔ first = .error failure := by
  rw [bind_eq_error]
  simp [pure, Except.pure]

theorem guard_eq_ok {check : Prop} [Decidable check] {failure : E} {next : Except E B} : (do
      if check then
        throw failure
      next) = .ok result ↔ ¬ check ∧ next = .ok result := by
  by_cases failed : check <;>
    simp [failed, throw, throwThe, MonadExceptOf.throw, bind, Except.bind]

theorem mapM_eq_ok {I : Type*} {body : I → Except E A} {items : List I} {results : List A} :
    items.mapM body = .ok results ↔
      List.Forall₂ (fun item result => body item = .ok result) items results := by
  induction items generalizing results with
  | nil =>
    rw [List.mapM_nil, List.forall₂_nil_left_iff]
    exact ⟨fun done => (Except.ok.inj done).symm, fun isNil => isNil ▸ rfl⟩
  | cons item rest ih =>
    rw [List.mapM_cons, List.forall₂_cons_left_iff]
    simp only [bind_eq_ok, ih]
    constructor
    · rintro ⟨result, isResult, others, areOthers, done⟩
      exact ⟨result, others, isResult, areOthers, (Except.ok.inj done).symm⟩
    · rintro ⟨result, others, isResult, areOthers, rfl⟩
      exact ⟨result, isResult, others, areOthers, rfl⟩

end Sequence

section Outcome

variable {E : Type u} {A B : Type v} {Fails : E → Prop}

/-- A computation succeeds with a result, or fails, as stated. -/
def Ensures (Fails : E → Prop) (Post : A → Prop) : Except E A → Prop
  | .ok result => Post result
  | .error failure => Fails failure

variable {computation : Except E A} {Post : A → Prop}

theorem Ensures.of_ok {result : A} (ensured : Ensures Fails Post computation)
    (done : computation = .ok result) : Post result := by
  rw [done] at ensured
  exact ensured

theorem Ensures.of_error {failure : E} (ensured : Ensures Fails Post computation)
    (failed : computation = .error failure) :
    Fails failure := by
  rw [failed] at ensured
  exact ensured

theorem Ensures.of_forall_ok (post : ∀ result, computation = .ok result → Post result) :
    Ensures (fun _ => True) Post computation := by
  cases computation with
  | ok result => exact post result rfl
  | error failure => trivial

theorem Ensures.bind {Middle : A → Prop} {Post : B → Prop} {first : Except E A}
    {next : A → Except E B} (start : Ensures Fails Middle first)
    (continued : ∀ value, first = .ok value → Middle value → Ensures Fails Post (next value)) :
    Ensures Fails Post (first >>= next) := by
  cases first with
  | error failure => exact start
  | ok value => exact continued value rfl start

section

variable {Middle : A → Prop} {first : Except E A} (start : Ensures Fails Middle first)
  {Post : B → Prop} {change : A → B}
  (changed : ∀ value, first = .ok value → Middle value → Post (change value))
include start changed

theorem Ensures.map : Ensures Fails Post (do let value ← first; return change value) :=
  start.bind changed

theorem Ensures.except_map : Ensures Fails Post (first.map change) := by
  cases first with
  | error failure => exact start
  | ok value => exact changed value rfl start

end

theorem Ensures.imp {Fails' : E → Prop} (ensured : Ensures Fails Post computation)
    (weaker : ∀ failure, Fails failure → Fails' failure) :
    Ensures Fails' Post computation := by
  cases computation with
  | error failure => exact weaker failure ensured
  | ok value => exact ensured

theorem Ensures.foldlM {S : Type v} {I : Type*} {body : S → I → Except E S} (Invariant : S → Prop)
    (step : ∀ state item, Invariant state → Ensures Fails Invariant (body state item))
    {items : List I} {state : S} (start : Invariant state) :
    Ensures Fails Invariant (items.foldlM body state) := by
  induction items generalizing state with
  | nil => exact start
  | cons item rest ih =>
    exact (step state item start).bind fun _ _ kept => ih kept

end Outcome

variable {E : Type u} {S : Type v} {A : Type*} {body : S → A → Except E S}

/-- Partial correctness: what each successful iteration preserves holds after the loop. -/
theorem foldlM_preserves (Invariant : List A → S → Prop)
    (step : ∀ item rest state state', Invariant (item :: rest) state →
      body state item = .ok state' → Invariant rest state')
    {items : List A} {state state' : S} (start : Invariant items state)
    (finished : items.foldlM body state = .ok state') : Invariant [] state' := by
  induction items generalizing state with
  | nil =>
    have same : state = state' := Except.ok.inj finished
    exact same ▸ start
  | cons item rest ih =>
    rw [List.foldlM_cons, bind_eq_ok] at finished
    obtain ⟨middle, firstDone, restDone⟩ := finished
    exact ih (step item rest state middle start firstDone) restDone

/-- Total correctness: if every iteration succeeds and keeps the invariant, so does the loop. -/
theorem foldlM_succeeds (Invariant : List A → S → Prop)
    (step : ∀ item rest state, Invariant (item :: rest) state →
      ∃ state', body state item = .ok state' ∧ Invariant rest state')
    {items : List A} {state : S} (start : Invariant items state) :
    ∃ state', items.foldlM body state = .ok state' ∧ Invariant [] state' := by
  induction items generalizing state with
  | nil => exact ⟨state, rfl, start⟩
  | cons item rest ih =>
    obtain ⟨middle, firstDone, kept⟩ := step item rest state start
    obtain ⟨state', restDone, finished⟩ := ih kept
    refine ⟨state', ?_, finished⟩
    rw [List.foldlM_cons, bind_eq_ok]
    exact ⟨middle, firstDone, restDone⟩

theorem foldlM_error (Failure : E → Prop)
    (step : ∀ state item failure, body state item = .error failure → Failure failure)
    {items : List A} {state : S} {failure : E} (failed : items.foldlM body state = .error failure) :
    Failure failure := by
  induction items generalizing state with
  | nil => cases failed
  | cons item rest ih =>
    rw [List.foldlM_cons] at failed
    cases first : body state item with
    | error reason =>
      rw [first] at failed
      obtain rfl := Except.error.inj failed
      exact step state item reason first
    | ok middle =>
      rw [first] at failed
      exact ih failed

theorem foldlM_frame {V : Type*} (view : S → V)
    (step : ∀ state item state', body state item = .ok state' → view state' = view state)
    {items : List A} {state state' : S} (finished : items.foldlM body state = .ok state') :
    view state' = view state := by
  let unchanged : List A → S → Prop := fun _ middle => view middle = view state
  have start : unchanged items state := rfl
  have iteration : ∀ item rest middle middle', unchanged (item :: rest) middle →
      body middle item = .ok middle' → unchanged rest middle' := by
    intro item rest middle middle' kept done
    exact (step middle item middle' done).trans kept
  exact foldlM_preserves unchanged iteration start finished

theorem filterM_eq_ok {A : Type} {test : A → Except E Bool} {keep : A → Bool}
    (decides : ∀ item verdict, test item = .ok verdict → verdict = keep item) {items found : List A}
    (done : items.filterM test = .ok found) : found = items.filter keep := by
  -- the loop collects in reverse, after what was kept before
  have collected : ∀ (items kept found : List A), items.filterAuxM test kept = .ok found →
      found = (items.filter keep).reverse ++ kept := by
    intro items
    induction items with
    | nil =>
      intro kept found collected
      exact (Except.ok.inj collected).symm
    | cons head rest ih =>
      intro kept found collected
      rw [List.filterAuxM, bind_eq_ok] at collected
      obtain ⟨verdict, tested, restDone⟩ := collected
      rw [ih _ _ restDone, decides head verdict tested, List.filter_cons]
      cases keep head <;> simp
  obtain ⟨reversed, filtered, rfl⟩ := map_eq_ok.mp done
  rw [collected items [] reversed filtered, List.append_nil, List.reverse_reverse]

/-- A nested loop is a loop over pairs. -/
theorem foldlM_nested {B C : Type*} (label : A → C) (inner : A → List B)
    (visit : S → C × B → Except E S) (outer : List A) (state : S) :
    outer.foldlM (fun state item =>
        (inner item).foldlM (fun state other => visit state (label item, other)) state) state =
      (outer.flatMap fun item =>
        (inner item).map fun other => (label item, other)).foldlM visit state := by
  induction outer generalizing state with
  | nil => rfl
  | cons item rest ih =>
    rw [List.foldlM_cons, List.flatMap_cons, List.foldlM_append, List.foldlM_map]
    congr 1
    funext middle
    exact ih middle

end FallibleLoop

end Kraftsman.Data
