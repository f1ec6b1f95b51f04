import Kraftsman.Provisioning.Completion
import Kraftsman.Provisioning.InFlight

/-!
Contract: the whereabouts of the pods of a scheduling run.

Owns: the pods that nodes and NodeClaims hold, those that wait, and those that
have failed.
Does not own: whether a node has room for its pods.
-/

namespace Kraftsman.Provisioning

open Apis Data Data.FallibleLoop Option List

variable {tables : LabelTables} {answers : Answers} {pod : Pod} {podData : PodData}

/-- The pods that existing nodes and NodeClaims have taken. -/
def Scheduler.held (s : Scheduler) : List Pod :=
  s.existingNodes.flatMap (·.pods) ++ s.newNodeClaims.flatMap (·.pods)

theorem flatMap_set_perm {A B : Type*} (items : A → List B) {list : List A} {index : Nat}
    {old new : A} {item : B} (found : list[index]? = some old)
    (more : items new = items old ++ [item]) :
    ((list.set index new).flatMap items).Perm (list.flatMap items ++ [item]) := by
  induction list generalizing index with
  | nil => cases found
  | cons first rest ih =>
    cases index with
    | zero =>
      obtain rfl : first = old := by simpa using found
      simp only [set_cons_zero, flatMap_cons, more, append_assoc]
      exact perm_append_comm.append_left _
    | succ index =>
      rw [set_cons_succ, flatMap_cons, flatMap_cons, append_assoc]
      exact (ih (by simpa using found)).append_left _

theorem Placing.held {s s' : Scheduler} {placed : Placed}
    (placing : Placing tables s answers pod podData s' placed) :
    placed.pod = pod ∧ s'.held.Perm (s.held ++ [pod]) := by
  unfold Scheduler.held
  cases placing with
  | existing found taken =>
    refine ⟨rfl, ((flatMap_set_perm (·.pods) found rfl).append_right _).trans ?_⟩
    simp only [append_assoc]
    exact perm_append_comm.append_left _
  | inflight perm found taken reserved =>
    refine ⟨rfl, ?_⟩
    rw [append_assoc]
    exact ((flatMap_set_perm NodeClaim.pods found rfl).trans
      ((perm.flatMap_right _).append_right _)).append_left _
  | @fresh claims template index instanceTypes claim placement manager perm listed within opened
      taken reserved =>
    have first : (claim.placed pod podData placement).pods = [pod] := by
      rw [opened]
      rfl
    refine ⟨rfl, ?_⟩
    simp only [flatMap_append, flatMap_cons, flatMap_nil, first, append_nil, append_assoc]
    exact ((perm.flatMap_right _).append_right _).append_left _

namespace SolveRun

/-- Every pod was placed, waits, or was given up at the deadline. What is held is
what was placed, and has no error. Pods that wait for another try have one and
come last; if time did not run out, all pods that are left in the end have one. -/
structure Accounts (pods : List Pod) (run : SolveRun) : Prop where
  all : (run.placements.map (·.pod.uid) ++ (run.waiting ++ run.timedOut.toList).map (·.uid)).Perm
    (pods.map (·.uid))
  held : run.scheduler.held.Perm (run.placements.map (·.pod))
  cleared : ∀ placed ∈ run.placements, run.podErrors.lookup placed.pod.uid = none
  failed : ∃ fresh retried, run.queue.pods = fresh ++ retried ∧
    (∀ pod ∈ fresh, run.queue.lastLen.lookup pod.uid = none) ∧
    ∀ pod ∈ retried, (run.podErrors.lookup pod.uid).isSome
  timeout : run.timedOut.isSome → run.finished
  finished : run.finished → run.current = none ∧
    (run.timedOut = none → ∀ pod ∈ run.queue.pods, (run.podErrors.lookup pod.uid).isSome)

variable {run run' : SolveRun} {event : SolveEvent} {config : SchedulerConfig}
variable {pods : List Pod} {original : Pod}

namespace Accounts

variable (accounts : run.Accounts pods)
include accounts

/-- No pod is placed while it waits. -/
theorem placed_ne (distinct : (pods.map (·.uid)).Nodup) {placed : Placed}
    (trying : run.current = some (original, pod)) (member : placed ∈ run.placements) :
    placed.pod.uid ≠ original.uid := by
  have apart := (nodup_append.mp (accounts.all.nodup_iff.mpr distinct)).2.2
  exact apart _ (mem_map_of_mem member) _ (mem_map_of_mem (by simp [waiting, trying]))

theorem pop {queue : Queue} (idle : run.current = none) (popped : run.queue.pop = some (pod, queue))
    (running : ¬ run.finished) :
    Accounts pods { run with queue := queue, current := some (pod, pod) } := by
  obtain ⟨split, sameLen, -⟩ := Queue.pop_eq_some popped
  obtain ⟨fresh, retried, parts, untried, errors⟩ := accounts.failed
  have same : waiting { run with queue := queue, current := some (pod, pod) } = run.waiting := by
    simp [waiting, idle, split]
  refine ⟨same ▸ accounts.all, accounts.held, accounts.cleared, ?_, accounts.timeout,
    fun finished => absurd finished running⟩
  rw [split] at parts
  dsimp only
  rw [sameLen]
  cases fresh with
  | nil =>
    obtain rfl : pod :: queue.pods = retried := parts
    exact ⟨[], queue.pods, rfl, by simp, fun _ member => errors _ (.tail _ member)⟩
  | cons first fresh =>
    exact ⟨fresh, retried, (cons.inj parts).2, fun _ member => untried _ (.tail _ member), errors⟩

theorem requeue (synced : run.Synced tables config) (distinct : (pods.map (·.uid)).Nodup)
    (trying : run.current = some (original, pod)) (running : ¬ run.finished) (update : UpdateAnswers)
    (error : PodError) : (run.requeue tables update original error).Accounts pods := by
  obtain ⟨fresh, retried, parts, untried, errors⟩ := accounts.failed
  refine ⟨?_, accounts.held, fun placed member => ?_, ⟨fresh, retried ++ [original], ?_, ?_, ?_⟩,
    accounts.timeout, fun finished => absurd finished running⟩
  · refine Perm.trans (.append_left _ (.map _ (.append_right _ ?_))) accounts.all
    rw [waiting, waiting, trying]
    exact perm_append_singleton original run.queue.pods
  · change (run.podErrors.insert original.uid error).lookup placed.pod.uid = none
    rw [AList.lookup_insert_ne (accounts.placed_ne distinct trying member)]
    exact accounts.cleared placed member
  · change run.queue.pods ++ [original] = _
    rw [parts, append_assoc]
  · intro queued member
    change (run.queue.lastLen.insert original.uid _).lookup queued.uid = none
    rw [AList.lookup_insert_ne (synced.queued_ne trying (parts ▸ mem_append_left _ member))]
    exact untried queued member
  · intro queued member
    change ((run.podErrors.insert original.uid error).lookup queued.uid).isSome
    rw [GoMap.lookup_insert_eq]
    split_ifs with same
    · rfl
    · rcases mem_append.mp member with old | new
      · exact errors queued old
      · exact absurd (congrArg _ (mem_singleton.mp new)) same

theorem place (synced : run.Synced tables config) (trying : run.current = some (original, pod))
    (running : ¬ run.finished) {scheduler : Scheduler} {placed : Placed}
    (placing : Placing tables run.scheduler answers pod podData scheduler placed) :
    (run.succeed original scheduler placed).Accounts pods := by
  obtain ⟨fresh, retried, parts, untried, errors⟩ := accounts.failed
  obtain ⟨rfl, held⟩ := placing.held
  have sameUid := (synced.trying original _ trying).1
  have erased : ∀ uid, (run.podErrors.erase original.uid).lookup uid =
      if uid = original.uid then none else run.podErrors.lookup uid := GoMap.lookup_erase_eq _ _
  refine ⟨?_, ?_, fun other member => ?_, ⟨fresh, retried, parts, untried, fun queued member => ?_⟩,
    accounts.timeout, fun finished => absurd finished running⟩
  · refine Perm.trans (Perm.of_eq ?_) accounts.all
    simp [succeed, waiting, trying, sameUid]
  · refine held.trans ?_
    simpa [succeed] using accounts.held.append_right [placed.pod]
  · change (run.podErrors.erase original.uid).lookup other.pod.uid = none
    rw [erased]
    split_ifs with same
    · rfl
    · rcases mem_append.mp member with old | new
      · exact accounts.cleared other old
      · exact absurd (mem_singleton.mp new ▸ sameUid) same
  · change ((run.podErrors.erase original.uid).lookup queued.uid).isSome
    rw [erased, if_neg (synced.queued_ne trying (parts ▸ mem_append_right _ member))]
    exact errors queued member

/-- If no pod is left to try, all that are left have failed. -/
theorem stop (idle : run.current = none) (nothing : run.queue.pop = none) :
    Accounts pods { run with finished := true } := by
  obtain ⟨fresh, retried, parts, untried, errors⟩ := accounts.failed
  refine ⟨accounts.all, accounts.held, accounts.cleared, accounts.failed, fun _ => rfl,
    fun _ => ⟨idle, fun _ queued member => errors queued ?_⟩⟩
  cases fresh with
  | nil =>
    rw [parts] at member
    exact member
  | cons first fresh =>
    unfold Queue.pop at nothing
    simp only [parts, cons_append] at nothing
    rw [untried first mem_cons_self] at nothing
    simp at nothing

theorem timeOut (trying : run.current = some (original, pod)) (running : ¬ run.finished) :
    Accounts pods { run with finished := true, current := none, timedOut := some original } := by
  have nothing : run.timedOut = none := not_isSome_iff_eq_none.mp (mt accounts.timeout running)
  refine ⟨Perm.trans (.append_left _ (.map _ ?_)) accounts.all, accounts.held, accounts.cleared,
    accounts.failed, fun _ => rfl, by simp⟩
  simp only [waiting, trying, nothing, toList_none, toList_some, append_nil]
  exact perm_append_comm

theorem step (synced : run.Synced tables config) (distinct : (pods.map (·.uid)).Nodup)
    (done : run.apply tables event = .ok run') : run'.Accounts pods := by
  by_cases running : run.finished
  · unfold apply at done
    rw [if_pos running] at done
    exact Except.ok.inj done ▸ accounts
  cases transition_of_apply done with
  | idle => exact accounts
  | stop idle nothing => exact accounts.stop idle nothing
  | timeOut _ trying => exact accounts.timeOut trying running
  | pop idle popped => exact accounts.pop idle popped running
  | requeue trying _ => exact accounts.requeue synced distinct trying running _ _
  | relax trying relaxes =>
    refine ⟨?_, accounts.held, accounts.cleared, accounts.failed, accounts.timeout,
      fun finished => absurd finished running⟩
    have pods := accounts.all
    simp only [waiting, trying] at pods
    exact pods
  | place _ trying _ placing => exact accounts.place synced trying running placing

end Accounts

theorem accounts_of_reached {input : SolveInput} {start : SolveRun}
    (started : input.start tables = some start)
    (reached : Reaches (SolveRun.apply tables) (fun _ _ => True) start run) :
    run.Accounts input.pods := by
  refine reached.invariant_along (Accounts input.pods) ?_ ?_
  · obtain ⟨topology, -, rfl⟩ := input.start_eq_some tables started
    have vacant : (input.newExistingNodes tables).flatMap (·.pods) = [] := by
      refine flatMap_eq_nil_iff.mpr fun node member => ?_
      obtain ⟨stateNode, -, rfl⟩ := mem_map.mp ((perm_insertionSort _ _).mem_iff.mp member)
      rfl
    refine ⟨?_, ?_, by simp, ⟨(newQueue input.pods).pods, [], by simp, fun _ _ => rfl, by simp⟩,
      by simp, by simp⟩
    · simpa [waiting, newQueue] using (perm_insertionSort _ input.pods).map _
    · simp [Scheduler.held, SolveInput.newScheduler, vacant]
  · intro state event state' earlier accounts _ done
    exact accounts.step (synced_of_reached tables started earlier) input.pods_distinct done

/-- Only the deadline gives a pod up, the one that is being tried. -/
theorem timedOut_of_apply (done : run.apply tables event = .ok run')
    (changed : run'.timedOut ≠ run.timedOut) : ∃ update original pod,
      event = .interrupt true update ∧ run.current = some (original, pod) ∧
      run'.timedOut = some original := by
  cases transition_of_apply done with
  | idle | stop | pop | requeue | relax | place => exact absurd rfl changed
  | timeOut deadline trying => exact ⟨_, _, _, deadline, trying, rfl⟩

end SolveRun

variable {input : SolveInput} {start run : SolveRun}

/-- No run loses a pod or places it twice: every pod was placed, waits, or is the
one that was being tried when the deadline ended the run, and nodes hold the pods
that were placed. -/
theorem run_keeps_every_pod (started : input.start tables = some start)
    (reached : Reaches (SolveRun.apply tables) (fun _ _ => True) start run) :
    (run.placements.map (·.pod.uid) ++ (run.waiting ++ run.timedOut.toList).map (·.uid)).Perm
        (input.pods.map (·.uid)) ∧
    run.scheduler.held.Perm (run.placements.map (·.pod)) ∧
    (run.timedOut.isSome → run.finished = true) ∧
    ∀ event run', run.apply tables event = .ok run' → run'.timedOut ≠ run.timedOut →
      ∃ update original pod, event = .interrupt true update ∧
        run.current = some (original, pod) ∧ run'.timedOut = some original := by
  have accounts := SolveRun.accounts_of_reached started reached
  exact ⟨accounts.all, accounts.held, accounts.timeout, fun _ _ => SolveRun.timedOut_of_apply⟩

theorem twoPods_held : ∃ start run, twoPods.start .base = some start ∧
    Reaches (SolveRun.apply .base) (fun _ _ => True) start run ∧ run.finished = true ∧
    (run.scheduler.held.map (·.uid)).Perm ["first", "second"] := by
  obtain ⟨start, run, started, reached, finished, placed⟩ := twoPods.exists_of_follow .base
    (Q := fun run => run.finished ∧ run.placements.map (·.pod.uid) = ["first", "second"])
    [.pop, .attempt {} {}, .pop, .attempt {} {}, .pop] (by decide +kernel)
  obtain ⟨-, held, -⟩ := run_keeps_every_pod started reached
  exact ⟨start, run, started, reached, finished, placed ▸ map_map (f := Placed.pod) ▸ held.map _⟩

/-- A pod that was placed is not reported. A run that ends before the deadline
reports all other pods. -/
theorem run_reports_unplaced_pods (started : input.start tables = some start)
    (reached : Reaches (SolveRun.apply tables) (fun _ _ => True) start run) :
    (∀ placed ∈ run.placements, run.podErrors.lookup placed.pod.uid = none) ∧
    (run.finished → run.timedOut = none →
      ∀ pod ∈ input.pods, pod.uid ∈ run.placements.map (·.pod.uid) ∨
        (run.podErrors.lookup pod.uid).isSome) := by
  have accounts := SolveRun.accounts_of_reached started reached
  refine ⟨accounts.cleared, fun finished inTime pod member => ?_⟩
  obtain ⟨idle, failed⟩ := accounts.finished finished
  have found := accounts.all.mem_iff.mpr (mem_map_of_mem member)
  simp only [SolveRun.waiting, idle, inTime, toList_none, map_nil, nil_append, append_nil,
    mem_append] at found
  refine found.imp_right fun waits => ?_
  obtain ⟨queued, isQueued, same⟩ := mem_map.mp waits
  exact same ▸ failed inTime queued isQueued

def hugeSecondPod : SolveInput :=
  { twoPods with pods := [podNamed "first" 2, podNamed "huge" 9], pods_distinct := by decide }

theorem huge_pod_reported : ∃ start run, hugeSecondPod.start .base = some start ∧
    Reaches (SolveRun.apply .base) (fun _ _ => True) start run ∧
    (run.podErrors.lookup "huge").isSome = true := by
  obtain ⟨start, run, started, reached, finished, placed, inTime⟩ :=
    hugeSecondPod.exists_of_follow .base (Q := fun run => run.finished ∧
        run.placements.map (·.pod.uid) = ["first"] ∧ run.timedOut.isNone)
      [.pop, .attempt {} {}, .pop, .attempt {} {}, .pop, .attempt {} {}, .pop] (by decide +kernel)
  have reported := (run_reports_unplaced_pods started reached).2 finished (isNone_iff_eq_none.mp inTime)
    (podNamed "huge" 9) (by simp [hugeSecondPod])
  exact ⟨start, run, started, reached, reported.resolve_left (by rw [placed]; decide)⟩

/-- The data cached for a pod is always that of the form it is tried in next, so
that no attempt lacks it or works with that of an earlier form. -/
theorem run_caches_current_forms (started : input.start tables = some start)
    (reached : Reaches (SolveRun.apply tables) (fun _ _ => True) start run) :
    ∀ pod, (pod ∈ run.queue.pods ∨ ∃ original, run.current = some (original, pod)) →
      ∃ resolved, run.scheduler.cachedPodData.lookup pod.uid =
        some (podDataOf tables (input.config tables) resolved pod) := by
  have synced := SolveRun.synced_of_reached tables started reached
  rintro pod (queued | ⟨original, trying⟩)
  · exact synced.config ▸ synced.queued pod queued
  · exact synced.config ▸ (synced.trying original pod trying).2

theorem requeued_pod_cached : ∃ start run pod, hugeSecondPod.start .base = some start ∧
    Reaches (SolveRun.apply .base) (fun _ _ => True) start run ∧ run.queue.pods = [pod] ∧
    pod.uid = "huge" ∧ ∃ resolved, run.scheduler.cachedPodData.lookup pod.uid =
      some (podDataOf .base (hugeSecondPod.config .base) resolved pod) := by
  obtain ⟨start, run, started, reached, queued⟩ := hugeSecondPod.exists_of_follow .base
    (Q := fun run => run.queue.pods.map (·.uid) = ["huge"])
    [.pop, .attempt {} {}, .pop, .attempt {} {}] (by decide +kernel)
  obtain ⟨pod, listed, uid⟩ := map_eq_singleton_iff.mp queued
  exact ⟨start, run, pod, started, reached, listed, uid,
    run_caches_current_forms started reached pod (.inl (by simp [listed]))⟩

end Kraftsman.Provisioning
