import Kraftsman.Provisioning.InFlight

/-!
Contract: what existing nodes take in the course of a scheduling run.

Owns: that the pods placed on a node are tolerated there, fit into what was left
of it, and mount no more volumes than its drivers allow.
Does not own: topologies, and what was left of a node at the start.
-/

namespace Kraftsman.Provisioning

open Apis Data Scheduling State List
open Kraftsman.Resources (amount requestsForPods)

variable {tables : LabelTables} {start node : ExistingNode} {pod : Pod} {podData : PodData}
variable {volumes : Volumes} {requirements : Requirements}

/-- What a node has taken since the start of a run, and what is left of it. -/
structure ExistingNode.Within (start node : ExistingNode) : Prop where
  name : node.stateNode.name = start.stateNode.name
  tolerated : ∀ pod ∈ node.pods, toleratesPod node.cachedTaints pod = []
  left : ∀ resource, amount node.remainingResources resource +
    (node.pods.map fun pod => amount (requestsForPods [pod]) resource).sum =
      amount start.remainingResources resource
  nonneg : node.pods ≠ [] → ∀ resource, 0 ≤ amount node.remainingResources resource
  mounted : node.pods ≠ [] → ∀ driver limit,
    node.stateNode.volumeUsage.limits.lookup driver = some limit →
      (node.stateNode.volumeUsage.volumes.mountedBy driver).card ≤ limit

namespace ExistingNode

theorem canAdd_checks {options : Options} {topology : Topology} {evaluation : Evaluation}
    (taken : node.canAdd tables options topology evaluation pod podData volumes = .ok requirements) :
    toleratesPod node.cachedTaints pod = [] ∧
      ¬ node.stateNode.volumeUsage.exceedsLimits volumes ∧
      Resources.fits podData.requests node.remainingResources := by
  unfold canAdd at taken
  split at taken
  · cases taken
  · next tolerated =>
      split_ifs at taken with exceeds conflicts unfit
      exact ⟨tolerated, exceeds, by simpa using unfit⟩

theorem Within.placed {options : Options} {topology : Topology} {evaluation : Evaluation}
    (within : Within start node) (requests : podData.requests = requestsForPods [pod])
    (taken : node.canAdd tables options topology evaluation pod podData volumes = .ok requirements) :
    Within start (node.placed pod podData requirements volumes) := by
  obtain ⟨tolerates, limited, fits⟩ := canAdd_checks taken
  have charged : ∀ resource, amount (node.placed pod podData requirements volumes).remainingResources
      resource = amount node.remainingResources resource - amount podData.requests resource :=
    Resources.amount_subtractFrom _ _
  refine ⟨within.name, ?_, fun resource => ?_, fun _ resource => ?_, fun _ driver limit isLimit => ?_⟩
  · exact forall_mem_append.mpr ⟨within.tolerated, forall_mem_singleton.mpr tolerates⟩
  · rw [charged, requests, ← within.left resource]
    simp [ExistingNode.placed]
  · rw [charged]
    exact sub_nonneg.mpr (Resources.amount_le_of_fits fits resource)
  · refine not_lt.mp fun above => limited ?_
    exact (VolumeUsage.exceedsLimits_iff _ _).mpr ⟨driver, limit, isLimit, above⟩

end ExistingNode

namespace SolveRun

/-- Existing nodes keep their places, and take what there was room for. -/
def NodesWithin (initial : List ExistingNode) (run : SolveRun) : Prop :=
  ∀ (index : Nat) (node : ExistingNode), run.scheduler.existingNodes[index]? = some node →
    ∃ start : ExistingNode, initial[index]? = some start ∧ start.Within node

theorem nodesWithin_of_reached {input : SolveInput} {start run : SolveRun}
    (started : input.start tables = some start)
    (reached : Reaches (SolveRun.apply tables) (fun _ _ => True) start run) :
    run.NodesWithin (input.newExistingNodes tables) := by
  refine reached.invariant_along (NodesWithin _) ?_ ?_
  · obtain ⟨topology, -, rfl⟩ := input.start_eq_some tables started
    intro index node found
    have vacant : node.pods = [] := by
      obtain ⟨stateNode, -, rfl⟩ :=
        mem_map.mp ((perm_insertionSort _ _).mem_iff.mp (mem_of_getElem? found))
      rfl
    exact ⟨node, found, rfl, by simp [vacant], by simp [vacant], absurd vacant, absurd vacant⟩
  · intro run event run' earlier within _ done
    cases transition_of_apply done with
    | idle | stop | timeOut | pop | requeue | relax => exact within
    | place _ trying cached placing =>
      cases placing with
      | inflight | fresh => exact within
      | existing taker taken =>
        intro index node found
        replace found := getElem?_set.symm.trans found
        split_ifs at found with same
        · obtain rfl := Option.some.inj found
          obtain ⟨initial, listed, before⟩ := within _ _ taker
          obtain ⟨resolved, rfl⟩ := (synced_of_reached tables started earlier).podData trying cached
          exact ⟨initial, same ▸ listed, before.placed rfl taken⟩
        · exact within index node found

end SolveRun

/-- Throughout a run, existing nodes keep their places and tolerate the pods
placed on them. If there are any, they fit into what was left of the node for
every resource, and its volumes are within the limits of their drivers. -/
theorem run_keeps_nodes_within_room {input : SolveInput} {start run : SolveRun}
    (started : input.start tables = some start)
    (reached : Reaches (SolveRun.apply tables) (fun _ _ => True) start run) {index : Nat}
    {node : ExistingNode} (found : run.scheduler.existingNodes[index]? = some node) :
    ∃ initial, (input.newExistingNodes tables)[index]? = some initial ∧
      node.stateNode.name = initial.stateNode.name ∧
      (∀ pod ∈ node.pods, toleratesPod node.cachedTaints pod = []) ∧
      (node.pods ≠ [] → (∀ resource,
          (node.pods.map fun pod => amount (requestsForPods [pod]) resource).sum ≤
            amount initial.remainingResources resource) ∧
        ∀ driver limit, node.stateNode.volumeUsage.limits.lookup driver = some limit →
          (node.stateNode.volumeUsage.volumes.mountedBy driver).card ≤ limit) := by
  obtain ⟨initial, listed, within⟩ := SolveRun.nodesWithin_of_reached started reached index node found
  refine ⟨initial, listed, within.name, within.tolerated, fun taken =>
    ⟨fun resource => ?_, within.mounted taken⟩⟩
  linarith [within.left resource, within.nonneg taken resource]

def oneNode : SolveInput :=
  let node : Node :=
    { name := "idle", providerID := "i-1", allocatable := GoMap.ofList [("cpu", 4), ("pods", 10)] }
  { twoPods with stateNodes := [{ node := some node }] }

theorem node_takes_two_pods : ∃ start run node initial, oneNode.start .base = some start ∧
    Reaches (SolveRun.apply .base) (fun _ _ => True) start run ∧
    run.scheduler.existingNodes[0]? = some node ∧ node.pods.map (·.uid) = ["first", "second"] ∧
    (oneNode.newExistingNodes .base)[0]? = some initial ∧
    (node.pods.map fun pod => amount (requestsForPods [pod]) "cpu").sum ≤
      amount initial.remainingResources "cpu" := by
  obtain ⟨start, run, started, reached, placed⟩ := oneNode.exists_of_follow .base
    (Q := fun run => run.scheduler.existingNodes[0]?.map (·.pods.map (·.uid)) =
      some ["first", "second"])
    [.pop, .attempt {} {}, .pop, .attempt {} {}] (by decide +kernel)
  obtain ⟨node, found, pods⟩ := Option.map_eq_some_iff.mp placed
  obtain ⟨initial, listed, -, -, fits⟩ := run_keeps_nodes_within_room started reached found
  refine ⟨start, run, node, initial, started, reached, found, pods, listed, (fits ?_).1 "cpu"⟩
  exact mt map_eq_nil_iff.mpr (pods ▸ cons_ne_nil _ _)

end Kraftsman.Provisioning
