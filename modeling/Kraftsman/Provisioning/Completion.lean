import Kraftsman.Provisioning.Transitions

/-!
Contract: scheduling runs come to an end.

Owns: what events use up, and that only finitely many of them change a run.
Does not own: what a run has placed when it ends.
-/

namespace Kraftsman.Provisioning

open Apis Data Option

variable {tables : LabelTables} {pod relaxed : Pod} {run run' : SolveRun} {event : SolveEvent}

/-- A bound on how many constraints a pod can still give up. -/
def constraintsLeft (pod : Pod) : Nat :=
  (pod.nodeAffinity.elim 0 fun affinity =>
      (affinity.required.getD []).length + affinity.preferred.length) +
    pod.podAffinity.elim 0 (·.preferred.length) + pod.podAntiAffinity.elim 0 (·.preferred.length) +
    pod.topologySpreadConstraints.length +
    if pod.tolerations.any (matchToleration · preferNoScheduleToleration) then 0 else 1

theorem length_withoutHeaviest {affinity lighter : PodAffinity}
    (removed : withoutHeaviest affinity = some lighter) :
    lighter.preferred.length < affinity.preferred.length := by
  unfold withoutHeaviest at removed
  split at removed
  · cases removed
  · next some =>
    cases removed
    have := List.length_pos_of_ne_nil some
    simp
    omega

theorem length_swapRemove {A : Type*} {list : List A} {index : Nat} (inside : index < list.length) :
    (swapRemove list index).length < list.length := by
  unfold swapRemove
  split
  · next nothing =>
    rw [List.getLast?_eq_none_iff.mp nothing] at inside
    cases inside
  · simp
    omega

theorem constraintsLeft_relax {tolerate : Bool} (relaxes : relax tolerate pod = some relaxed) :
    constraintsLeft relaxed < constraintsLeft pod := by
  unfold relax at relaxes
  simp only [orElse_eq_orElse, orElse_eq_or, or_eq_some_iff] at relaxes
  unfold constraintsLeft
  rcases relaxes with
    required | ⟨-, affinity | ⟨-, anti | ⟨-, preferred | ⟨-, spread | ⟨-, taints⟩⟩⟩⟩⟩
  · unfold removeRequiredNodeAffinityTerm at required
    split at required
    · next isAffinity =>
      split at required
      · next terms =>
        cases required
        simp [isAffinity, terms]
      · cases required
    · cases required
  · obtain ⟨lighter, removed, rfl⟩ := map_eq_some_iff.mp affinity
    obtain ⟨heavier, isAffinity, removed⟩ := bind_eq_some_iff.mp removed
    simp [isAffinity, length_withoutHeaviest removed]
  · obtain ⟨lighter, removed, rfl⟩ := map_eq_some_iff.mp anti
    obtain ⟨heavier, isAffinity, removed⟩ := bind_eq_some_iff.mp removed
    simp [isAffinity, length_withoutHeaviest removed]
  · unfold removePreferredNodeAffinityTerm at preferred
    split at preferred
    · next isAffinity =>
      split at preferred
      · cases preferred
      · next some =>
        cases preferred
        have := List.length_pos_of_ne_nil some
        simp [isAffinity]
        omega
    · cases preferred
  · obtain ⟨index, found, rfl⟩ := map_eq_some_iff.mp spread
    have shorter := length_swapRemove (List.findIdx?_eq_some_iff_findIdx_eq.mp found).1
    simp [shorter]
  · split_ifs at taints
    unfold toleratePreferNoScheduleTaints at taints
    split_ifs at taints with tolerated
    cases taints
    rw [if_neg tolerated, if_pos (by simp [matchToleration])]
    exact Nat.lt_succ_self _

theorem Queue.pop_eq_some {queue queue' : Queue} (popped : queue.pop = some (pod, queue')) :
    queue.pods = pod :: queue'.pods ∧ queue'.lastLen = queue.lastLen ∧
      (queue.lastLen.lookup pod.uid).getD 0 ≠ queue.pods.length := by
  have split := pods_of_pop popped
  unfold pop at popped
  split at popped
  · cases popped
  · split_ifs at popped with stale
    cases popped
    exact ⟨split, rfl, stale⟩

namespace SolveRun

/-- The pods that were not tried since the last placement, with the one being tried. -/
def untried (run : SolveRun) : Nat :=
  (run.queue.pods.countP fun pod =>
    (run.queue.lastLen.lookup pod.uid).getD 0 ≠ run.waiting.length) + run.current.toList.length

/-- What events use up: pods to place, then pods to try, then constraints. -/
def fuel (run : SolveRun) : Nat × Nat × Nat :=
  (run.waiting.length + (!run.finished).toNat, 2 * run.untried + run.current.isNone.toNat,
    run.current.elim 0 fun forms => constraintsLeft forms.2)

theorem untried_pop {queue : Queue} (idle : run.current = none)
    (popped : run.queue.pop = some (pod, queue)) :
    untried { run with queue := queue, current := some (pod, pod) } = run.untried := by
  obtain ⟨split, sameLen, fresh⟩ := Queue.pop_eq_some popped
  rw [split] at fresh
  simpa [untried, waiting, idle, split, sameLen, List.countP_cons] using fresh

theorem untried_requeue {original : Pod} (trying : run.current = some (original, pod))
    (update : UpdateAnswers) (error : PodError) :
    (run.requeue tables update original error).untried < run.untried := by
  simp only [untried, waiting, requeue, Queue.push, trying]
  simp
  refine List.countP_mono_left fun queued _ => ?_
  rw [GoMap.lookup_insert_eq]
  split_ifs
  · simp
  · exact id

theorem fuel_decreases (done : run.apply tables event = .ok run') (moves : run' ≠ run) :
    Prod.Lex (· < ·) (Prod.Lex (· < ·) (· < ·)) run'.fuel run.fuel := by
  rw [Prod.lex_def, Prod.lex_def]
  cases transition_of_apply done with
  | idle => exact absurd rfl moves
  | stop | timeOut =>
    have running : ¬ run.finished := fun finished => by
      unfold apply at done
      rw [if_pos finished] at done
      exact moves (Except.ok.inj done).symm
    exact .inl (by simp [fuel, waiting, running])
  | pop idle popped =>
    -- the pod counts as untried as before, and something is being tried
    have same := untried_pop idle popped
    refine .inr ⟨?_, .inl ?_⟩
    · simp [fuel, waiting, idle, Queue.pods_of_pop popped]
    · simp [fuel, same, idle]
  | @requeue original pod error trying _ =>
    have fewer := @untried_requeue tables pod run original trying event.update error
    refine .inr ⟨?_, .inl ?_⟩
    · simp [fuel, waiting, trying, requeue, refresh, Queue.push]
    · have idle : (run.requeue tables event.update original error).current = none := rfl
      simp only [fuel, trying, idle, isNone_some, isNone_none, Bool.toNat_true, Bool.toNat_false]
      omega
  | relax trying relaxes =>
    refine .inr ⟨by simp [fuel, waiting, trying, refresh], .inr ⟨?_, ?_⟩⟩
    · simp [fuel, untried, waiting, trying, refresh]
    · simpa [fuel, trying] using constraintsLeft_relax relaxes
  | place _ trying _ placing =>
    refine .inl ?_
    simp [fuel, waiting, trying, succeed]

end SolveRun

/-- However pods, nodes and timeouts turn out, a run handles only finitely many
events that change it. -/
theorem solve_terminates (tables : LabelTables) : WellFounded fun run' run : SolveRun =>
    run' ≠ run ∧ ∃ event, run.apply tables event = .ok run' := by
  refine Subrelation.wf ?_ (InvImage.wf SolveRun.fuel
    (WellFounded.prod_lex wellFounded_lt (WellFounded.prod_lex wellFounded_lt wellFounded_lt)))
  rintro run' run ⟨moves, event, done⟩
  exact SolveRun.fuel_decreases done moves

end Kraftsman.Provisioning
