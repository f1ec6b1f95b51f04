import Kraftsman.State.PodUsage

/-!
Contract: the requests and the disruption cost of a tracked node are sums over
the pods bound to it.

Owns: the three maps that a tracked node keeps by pod, and the sums over them in
consistent runs.
Does not own: what the sums are used for.
-/

namespace Kraftsman.State

open Apis Data Data.FallibleLoop Scheduling GoMap Cluster ClusterRun PodField Reaches AList Option List
open Kraftsman.Resources (amount requestsForPods)

def podRequestsField (evictionCost : Pod → ℚ) : PodField evictionCost ResourceList where
  read maps := maps.podRequests
  entry pod := some (requestsForPods [pod])
  read_empty := rfl
  read_cleanup _ _ := rfl
  read_update_ne n pod volumes key different := by
    dsimp only [StateNode.podMaps, StateNode.updateForPod]
    exact lookup_insert_ne different
  read_update n pod volumes := by
    dsimp only [StateNode.podMaps, StateNode.updateForPod]
    exact .inl (lookup_insert _)
  read_withNodeClaim _ _ := .inl rfl

def daemonSetRequestsField (evictionCost : Pod → ℚ) : PodField evictionCost ResourceList where
  read maps := maps.daemonSetRequests
  entry pod := if pod.ownedByDaemonSet then some (requestsForPods [pod]) else none
  read_empty := rfl
  read_cleanup _ _ := rfl
  read_update_ne n pod volumes key different := by
    dsimp only [StateNode.podMaps, StateNode.updateForPod]
    split_ifs
    · exact lookup_insert_ne different
    · rfl
  read_update n pod volumes := by
    dsimp only [StateNode.podMaps, StateNode.updateForPod]
    split_ifs with isDaemon
    · exact .inl (lookup_insert _)
    · refine .inr ⟨rfl, fun other same => if_neg ?_⟩
      rw [same]
      exact isDaemon
  read_withNodeClaim _ _ := .inl rfl

def disruptionCostsField (evictionCost : Pod → ℚ) : PodField evictionCost ℚ where
  read maps := maps.podDisruptionCosts
  entry pod :=
    if pod.ownedByDaemonSet then none
    else if evictionCost pod > 0 then some (evictionCost pod) else none
  read_empty := rfl
  read_cleanup _ _ := rfl
  read_update_ne n pod volumes key different := by
    dsimp only [StateNode.podMaps, StateNode.updateForPod]
    split_ifs
    · rfl
    · exact lookup_insert_ne different
    · exact lookup_erase_ne different
  read_update n pod volumes := by
    dsimp only [StateNode.podMaps, StateNode.updateForPod]
    split_ifs with isDaemon costs
    · refine .inr ⟨rfl, fun other same => if_pos ?_⟩
      rw [same]
      exact isDaemon
    · exact .inl (lookup_insert _)
    · exact .inl (lookup_erase _ _)
  read_withNodeClaim _ _ := .inr rfl

def ClusterRun.podsOn (run : ClusterRun) (n : StateNode) : List Pod :=
  run.boundPods.values.filter n.hosts

variable {evictionCost : Pod → ℚ} {run : ClusterRun} {n : StateNode}

theorem PodField.sumOver_read {V : Type} {field : PodField evictionCost V}
    (holds : field.Matches run.boundPods n) (weigh : V → ℚ) :
    sumOver (fun _ => weigh) (field.read n.podMaps) =
      ((run.podsOn n).map fun pod => (field.entry pod).elim 0 weigh).sum := by
  have byKey : sumOver (fun _ => weigh) (field.read n.podMaps) =
      sumOver (fun _ pod => if n.hosts pod then (field.entry pod).elim 0 weigh else 0)
        run.boundPods := by
    apply sumOver_eq_of_weightAt
    intro key
    unfold weightAt
    rw [holds key]
    cases run.boundPods.lookup key with
    | none => rfl
    | some pod =>
      rw [filter_some]
      dsimp only [elim_some]
      split_ifs <;> rfl
  have filtered : ∀ pods : List Pod,
      (pods.map fun pod => if n.hosts pod then (field.entry pod).elim 0 weigh else 0).sum =
        ((pods.filter n.hosts).map fun pod => (field.entry pod).elim 0 weigh).sum := by
    intro pods
    induction pods with
    | nil => rfl
    | cons pod rest ih =>
      rw [map_cons, sum_cons, ih, filter_cons]
      split_ifs <;> simp
  rw [byKey, podsOn, ← filtered, values, List.map_map]
  rfl

theorem amount_merge_values (requests : GoMap PodKey ResourceList) (resource : String) :
    amount (Resources.merge requests.values) resource =
      sumOver (fun _ list => amount list resource) requests := by
  rw [Resources.amount_merge, values, List.map_map]
  rfl

structure ClusterRun.Bookkeeping (evictionCost : Pod → ℚ) (run : ClusterRun) : Prop where
  binds : run.Binds
  named : run.cluster.Named
  memo : run.Everywhere StateNode.MemoExact
  pods : run.cluster.AllNodes ((podRequestsField evictionCost).Matches run.boundPods)
  daemonSets : run.cluster.AllNodes ((daemonSetRequestsField evictionCost).Matches run.boundPods)

theorem ClusterRun.binds_start : ClusterRun.Binds {} := by
  have unbound : ∀ key pod, (∅ : GoMap PodKey Pod).lookup key ≠ some pod := by
    intro key pod
    simp
  exact ⟨fun _ => rfl, fun key pod found => absurd found (unbound key pod),
    fun key pod found => absurd found (unbound key pod)⟩

theorem Cluster.named_start : Cluster.Named {} where
  names name id := by
    constructor
    · intro known
      cases known
    · rintro ⟨n, found, _⟩
      cases found
  unknown := rfl

theorem Cluster.allNodes_start (Property : StateNode → Prop) : Cluster.AllNodes Property {} := by
  intro id n found
  have missing : (none : Option StateNode) = some n := found
  cases missing

theorem ClusterRun.Bookkeeping.start (evictionCost : Pod → ℚ) :
    ClusterRun.Bookkeeping evictionCost {} where
  binds := binds_start
  named := named_start
  memo := ⟨allNodes_start _, fun _ member => absurd member not_mem_nil⟩
  pods := allNodes_start _
  daemonSets := allNodes_start _

theorem ClusterRun.Bookkeeping.apply {run' : ClusterRun} {event : ClusterEvent}
    (books : run.Bookkeeping evictionCost) (consistent : Consistent run event)
    (done : run.apply evictionCost event = .ok run') : run'.Bookkeeping evictionCost where
  binds := books.binds.apply done
  named := books.named.apply consistent done
  memo := books.memo.apply (stable_memoExact evictionCost) done
  pods := matches_apply books.binds books.named books.pods consistent (fun _ _ _ _ => .inl rfl) done
  daemonSets := matches_apply books.binds books.named books.daemonSets consistent
    (fun _ _ _ _ => .inl rfl) done

/-- In every run of consistent events the requests of a tracked node, memoized or
not, are those of the running pods that cluster state binds to it, and so are
those of its daemon pods. The requests of a copy are those of the pods it was
copied with and updated for. -/
theorem run_keeps_pod_requests (evictionCost : Pod → ℚ) {run : ClusterRun}
    (reached : Reaches (ClusterRun.apply evictionCost) Consistent {} run) :
    (∀ key, run.cluster.bindings.lookup key = (run.boundPods.lookup key).map (·.nodeName)) ∧
    (∀ key pod, run.boundPods.lookup key = some pod → podKey pod = key ∧ pod.isTerminal = false) ∧
    (∀ id n resource, run.cluster.nodes.lookup id = some n →
      amount n.totalPodRequests resource =
        ((run.podsOn n).map fun pod => amount (requestsForPods [pod]) resource).sum ∧
      amount n.totalDaemonSetRequests resource =
        (((run.podsOn n).filter (·.ownedByDaemonSet)).map fun pod =>
          amount (requestsForPods [pod]) resource).sum) ∧
    ∀ n ∈ run.copies, n.totalPodRequests = Resources.merge n.podRequests.values ∧
      n.totalDaemonSetRequests = Resources.merge n.daemonSetRequests.values := by
  have books : run.Bookkeeping evictionCost :=
    reached.invariant (ClusterRun.Bookkeeping evictionCost) (.start evictionCost)
      fun _ _ _ books consistent done => books.apply consistent done
  refine ⟨books.binds.bindings, fun key pod isBound =>
    ⟨books.binds.keys key pod isBound, books.binds.running key pod isBound⟩, ?_, ?_⟩
  · intro id n resource found
    have memo := books.memo.tracked id n found
    refine ⟨?_, ?_⟩
    · rw [memo.totalPodRequests, amount_merge_values]
      exact sumOver_read (books.pods id n found) (amount · resource)
    · rw [memo.totalDaemonSetRequests, amount_merge_values]
      refine (sumOver_read (books.daemonSets id n found) (amount · resource)).trans ?_
      induction run.podsOn n with
      | nil => rfl
      | cons pod rest ih =>
        rw [map_cons, sum_cons, ih, filter_cons]
        cases isDaemon : pod.ownedByDaemonSet <;> simp [daemonSetRequestsField, isDaemon]
  · intro n member
    have memo := books.memo.copied n member
    exact ⟨memo.totalPodRequests, memo.totalDaemonSetRequests⟩

def runningPod (name : String) : Pod :=
  { uid := name, name := name, nameSpace := "default", nodeName := "n", phase := .running }

def registeredNode : Node := { name := "n", providerID := "i-1" }

/-- A pod is listed, another one is bound, copies are taken and changed, and the
first pod is deleted. -/
theorem run_keeps_requests_of_remaining_pod :
    ∃ run n, Reaches (ClusterRun.apply fun _ => 1) Consistent {} run ∧
      run.cluster.nodes.lookup "i-1" = some n ∧ (run.podsOn n).map (·.name) = ["b"] ∧
      amount n.totalPodRequests "pods" =
        ((run.podsOn n).map fun pod => amount (requestsForPods [pod]) "pods").sum := by
  obtain ⟨run, n, reached, found, pods⟩ : ∃ run n, Reaches (apply fun _ => 1) Consistent {} run ∧
      run.cluster.nodes.lookup "i-1" = some n ∧ (run.podsOn n).map (·.name) = ["b"] :=
    exists_of_follow_some [.updateNode registeredNode { pods := some [(runningPod "a", some ∅)] },
      .updatePod (runningPod "b") (some ∅), .simulationCopyNodes, .updateCopy 0 (runningPod "c") ∅,
      .deletePod ("default", "a")] (by decide +kernel)
  exact ⟨run, n, reached, found, pods,
    ((run_keeps_pod_requests (fun _ => 1) reached).2.2.1 "i-1" n "pods" found).1⟩

/-- In the first run the volumes of the second pod cannot be read: the first pod
is bound, but the node keeps the requests it had. In the second the node is listed
without a pod whose deletion was not reported yet. -/
theorem relisting_loses_bound_pods :
    (∃ run n, Reaches (ClusterRun.apply fun _ => 1) (fun _ _ => True) {} run ∧
      run.cluster.nodes.lookup "i-1" = some n ∧
      run.cluster.bindings.lookup ("default", "a") = some "n" ∧
      amount n.totalPodRequests "pods" = 0 ∧
      ((run.podsOn n).map fun pod => amount (requestsForPods [pod]) "pods").sum = 1) ∧
    ∃ run n, Reaches (ClusterRun.apply fun _ => 1) (fun _ _ => True) {} run ∧
      run.cluster.nodes.lookup "i-1" = some n ∧
      run.cluster.bindings.lookup ("default", "a") = some "n" ∧
      amount n.totalPodRequests "pods" = 0 ∧
      ((run.podsOn n).map fun pod => amount (requestsForPods [pod]) "pods").sum = 1 := by
  constructor
  · exact exists_of_follow_some [.updateNode registeredNode {}, .updateNode registeredNode
      { pods := some [(runningPod "a", some ∅), (runningPod "b", none)] }] (by decide +kernel)
  · exact exists_of_follow_some [.updateNode registeredNode
      { pods := some [(runningPod "a", some ∅)] }, .updateNode registeredNode {}] (by decide +kernel)

/-- A NodeClaim is joined only while no pod on its node costs anything to evict. -/
def JoinsCostless (evictionCost : Pod → ℚ) (run : ClusterRun) : ClusterEvent → Prop
  | .updateNodeClaim nodeClaim =>
    ∀ n ∈ run.cluster.nodes.lookup nodeClaim.providerID, ∀ pod ∈ run.podsOn n,
      pod.ownedByDaemonSet = true ∨ evictionCost pod ≤ 0
  | _ => True

def ClusterRun.evictionCosts (evictionCost : Pod → ℚ) (run : ClusterRun) (n : StateNode) : ℚ :=
  (((run.podsOn n).filter fun pod => !pod.ownedByDaemonSet).map fun pod =>
    max 0 (evictionCost pod)).sum

theorem ClusterRun.mem_podsOn {key : PodKey} {pod : Pod}
    (isBound : run.boundPods.lookup key = some pod) (hosted : n.hosts pod) :
    pod ∈ run.podsOn n :=
  mem_filter.mpr ⟨mem_values_iff.mpr ⟨key, isBound⟩, hosted⟩

theorem disruptionCosts_keptBy {event : ClusterEvent}
    (costless : JoinsCostless evictionCost run event) (nodeClaim : NodeClaim)
    (isClaim : event = .updateNodeClaim nodeClaim) :
    (disruptionCostsField evictionCost).KeptBy run nodeClaim := by
  subst isClaim
  intro n found
  refine .inr fun key pod isBound hosted => ?_
  rcases costless n found pod (mem_podsOn isBound hosted) with isDaemon | free
  · exact if_pos isDaemon
  · dsimp only [disruptionCostsField]
    rw [if_neg (not_lt.mpr free), ite_self]

theorem disruptionCost_eq (holds : (disruptionCostsField evictionCost).Matches run.boundPods n) :
    n.disruptionCost = 1 + run.evictionCosts evictionCost n := by
  refine congrArg (1 + ·) ((sumOver_read holds id).trans ?_)
  unfold evictionCosts
  induction run.podsOn n with
  | nil => rfl
  | cons pod rest ih =>
    rw [map_cons, sum_cons, ih, filter_cons]
    cases isDaemon : pod.ownedByDaemonSet with
    | true => simp [disruptionCostsField, isDaemon]
    | false =>
      by_cases costs : evictionCost pod > 0
      · simp [disruptionCostsField, isDaemon, costs, max_eq_right (le_of_lt costs)]
      · simp [disruptionCostsField, isDaemon, costs, max_eq_left (not_lt.mp costs)]

/-- In every run of consistent events in which NodeClaims are joined only while
no pod on their node costs anything to evict, a tracked node costs one more to
disrupt than its pods cost to evict, and the update of a NodeClaim does not
change that. -/
theorem run_keeps_disruption_costs (evictionCost : Pod → ℚ) {run : ClusterRun}
    (reached : Reaches (ClusterRun.apply evictionCost)
      (fun run event => Consistent run event ∧ JoinsCostless evictionCost run event) {} run) :
    (∀ id n, run.cluster.nodes.lookup id = some n →
      n.disruptionCost = 1 + run.evictionCosts evictionCost n) ∧
    ∀ nodeClaim run', JoinsCostless evictionCost run (.updateNodeClaim nodeClaim) →
      run.apply evictionCost (.updateNodeClaim nodeClaim) = .ok run' →
      ∀ id n n', run.cluster.nodes.lookup id = some n → run'.cluster.nodes.lookup id = some n' →
        n'.disruptionCost = n.disruptionCost := by
  have books : run.Bookkeeping evictionCost ∧
      run.cluster.AllNodes ((disruptionCostsField evictionCost).Matches run.boundPods) :=
    reached.invariant (fun run => run.Bookkeeping evictionCost ∧
        run.cluster.AllNodes ((disruptionCostsField evictionCost).Matches run.boundPods))
      ⟨.start evictionCost, allNodes_start _⟩
      fun _ _ _ ⟨books, costs⟩ ⟨consistent, costless⟩ done =>
        ⟨books.apply consistent done, matches_apply books.binds books.named costs
          consistent (disruptionCosts_keptBy costless) done⟩
  refine ⟨fun id n found => disruptionCost_eq (books.2 id n found), ?_⟩
  intro nodeClaim run' costless done id n n' found found'
  have consistent : Consistent run (.updateNodeClaim nodeClaim) := trivial
  have costs' := matches_apply books.1.binds books.1.named books.2 consistent
    (disruptionCosts_keptBy costless) done
  obtain ⟨c', updated, rfl⟩ := map_eq_ok.mp done
  have sameNode := updateNodeClaim_nodes updated id
  have sameHosts : n'.hosts = n.hosts := by
    have nodes : n'.node = n.node := by
      rw [nodeAt, nodeAt, found] at sameNode
      rw [show c'.nodes.lookup id = some n' from found'] at sameNode
      exact sameNode
    funext pod
    unfold StateNode.hosts StateNode.isNamed
    rw [nodes]
  rw [disruptionCost_eq (costs' id n' found'), disruptionCost_eq (books.2 id n found)]
  unfold evictionCosts podsOn
  rw [sameHosts]

instance (evictionCost : Pod → ℚ) (run : ClusterRun) :
    (event : ClusterEvent) → Decidable (JoinsCostless evictionCost run event)
  | .updateNodeClaim _ => inferInstanceAs (Decidable (∀ _ ∈ _, ∀ _ ∈ _, _ ∨ _))
  | .updateNode _ _ | .deleteNode _ | .deleteNodeClaim _ | .markForDeletion _ | .unmarkForDeletion _
  | .updatePod _ _ | .deletePod _ | .simulationCopyNodes | .deepCopyNodes | .updateCopy _ _ _
  | .cleanupCopy _ _ => .isTrue trivial

def launchedClaim : NodeClaim := { name := "claim", providerID := "i-1" }

/-- A NodeClaim is joined before its node has pods. -/
theorem run_keeps_cost_of_bound_pod :
    ∃ run n, Reaches (ClusterRun.apply fun _ => 1)
        (fun run event => Consistent run event ∧ JoinsCostless (fun _ => 1) run event) {} run ∧
      run.cluster.nodes.lookup "i-1" = some n ∧ n.nodeClaim.isSome = true ∧
      run.evictionCosts (fun _ => 1) n = 1 ∧
      n.disruptionCost = 1 + run.evictionCosts (fun _ => 1) n := by
  obtain ⟨run, n, reached, found, claimed, costs⟩ : ∃ run n, Reaches (apply fun _ => 1)
      (fun run event => Consistent run event ∧ JoinsCostless (fun _ => 1) run event) {} run ∧
      run.cluster.nodes.lookup "i-1" = some n ∧ n.nodeClaim.isSome ∧
      run.evictionCosts (fun _ => 1) n = 1 :=
    exists_of_follow_some [.updateNode registeredNode {}, .updateNodeClaim launchedClaim,
      .updatePod (runningPod "a") (some ∅)] (by decide +kernel)
  exact ⟨run, n, reached, found, claimed, costs,
    (run_keeps_disruption_costs (fun _ => 1) reached).1 "i-1" n found⟩

/-- A NodeClaim is joined after a pod was bound to its node: the cost of evicting
the pod is lost. -/
theorem joining_nodeClaim_loses_costs :
    ∃ run n, Reaches (ClusterRun.apply fun _ => 1) (fun _ _ => True) {} run ∧
      run.cluster.nodes.lookup "i-1" = some n ∧ n.node.isSome = true ∧
      run.evictionCosts (fun _ => 1) n = 1 ∧ n.disruptionCost = 1 := by
  exact exists_of_follow_some [.updateNode registeredNode {},
    .updatePod (runningPod "a") (some ∅), .updateNodeClaim launchedClaim] (by decide +kernel)

end Kraftsman.State
