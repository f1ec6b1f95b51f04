import Kraftsman.State.PodTotals

/-!
Contract: the records that a node keeps of its pods agree with each other.

Owns: the pods that the maps of a node know, the volumes it counts, and its
memoized totals, in runs of arbitrary events.
Does not own: that these pods are the ones bound to the node.
-/

namespace Kraftsman.State

open Apis Data Scheduling GoMap ClusterRun Cluster Reaches AList Option List

/-- The maps of a node know the same pods, no cost is negative, and every volume
of a pod is counted. -/
structure StateNode.Recorded (n : StateNode) : Prop where
  ports : ∀ key, key ∈ n.hostPortUsage ↔ key ∈ n.podRequests
  mounts : ∀ key, key ∈ n.volumeUsage.podVolumes ↔ key ∈ n.podRequests
  daemonSets : ∀ key ∈ n.daemonSetRequests, key ∈ n.podRequests
  costs : ∀ key cost, n.podDisruptionCosts.lookup key = some cost → 0 < cost ∧ key ∈ n.podRequests
  volumes : ∀ key volumes driver, n.volumeUsage.podVolumes.lookup key = some volumes →
    volumes.mountedBy driver ⊆ n.volumeUsage.volumes.mountedBy driver

variable {evictionCost : Pod → ℚ} {n : StateNode}

theorem StateNode.Recorded.updateForPod (recorded : n.Recorded) (pod : Pod) (volumes : Volumes) :
    (n.updateForPod evictionCost pod volumes).Recorded where
  ports key := by
    refine (mem_insert _).trans (.trans ?_ (mem_insert _).symm)
    exact or_congr_right (recorded.ports key)
  mounts key := by
    refine (mem_insert _).trans (.trans ?_ (mem_insert _).symm)
    exact or_congr_right (recorded.mounts key)
  daemonSets key known := by
    refine (mem_insert _).mpr ?_
    unfold StateNode.updateForPod at known
    dsimp only at known
    split_ifs at known
    · exact ((mem_insert _).mp known).imp_right (recorded.daemonSets key)
    · exact .inr (recorded.daemonSets key known)
  costs key cost known := by
    have kept (before : n.podDisruptionCosts.lookup key = some cost) :
        0 < cost ∧ key ∈ (n.updateForPod evictionCost pod volumes).podRequests :=
      (recorded.costs key cost before).imp_right fun tracked => (mem_insert _).mpr (.inr tracked)
    unfold StateNode.updateForPod at known
    dsimp only at known
    split_ifs at known with isDaemon costs
    · exact kept known
    · rw [lookup_insert_eq] at known
      split_ifs at known with same
      · exact ⟨some.inj known ▸ costs, (mem_insert _).mpr (.inl same)⟩
      · exact kept known
    · rw [lookup_erase_eq] at known
      split_ifs at known
      exact kept known
  volumes key mounted driver known := by
    have grown : (n.updateForPod evictionCost pod volumes).volumeUsage.volumes.mountedBy driver =
        n.volumeUsage.volumes.mountedBy driver ∪ volumes.mountedBy driver :=
      Volumes.mountedBy_union _ _ driver
    rw [grown]
    have found := lookup_insert_eq n.volumeUsage.podVolumes (podKey pod) key volumes ▸ known
    split_ifs at found
    · exact some.inj found ▸ Finset.subset_union_right
    · exact (recorded.volumes key mounted driver found).trans Finset.subset_union_left

theorem StateNode.Recorded.cleanupForPod (recorded : n.Recorded) (key : PodKey) :
    (n.cleanupForPod key).Recorded where
  ports other := mem_erase.trans ((and_congr_right' (recorded.ports other)).trans mem_erase.symm)
  mounts other := mem_erase.trans ((and_congr_right' (recorded.mounts other)).trans mem_erase.symm)
  daemonSets other known :=
    mem_erase.mpr ((mem_erase.mp known).imp_right (recorded.daemonSets other))
  costs other cost known := by
    have found := lookup_erase_eq n.podDisruptionCosts key other ▸ known
    split_ifs at found with same
    exact (recorded.costs other cost found).imp_right fun before => mem_erase.mpr ⟨same, before⟩
  volumes other mounted driver known claim mounts :=
    Volumes.mem_foldl_union.mpr (.inr ⟨mounted, mem_values_iff.mpr ⟨other, known⟩, mounts⟩)

theorem stable_recorded (evictionCost : Pod → ℚ) : Stable evictionCost StateNode.Recorded where
  empty := ⟨fun _ => .rfl, fun _ => .rfl, nofun, nofun, nofun⟩
  reshaped _ _ _ _ recorded := ⟨recorded.1, recorded.2, recorded.3, recorded.4, recorded.5⟩
  withNodeClaim _ _ recorded := ⟨recorded.1, recorded.2, recorded.3, nofun, recorded.5⟩
  limited _ _ recorded := ⟨recorded.1, recorded.2, recorded.3, recorded.4, recorded.5⟩
  updated _ pod volumes recorded := recorded.updateForPod pod volumes
  cleaned _ key recorded := recorded.cleanupForPod key
  totalled _ recorded := ⟨recorded.1, recorded.2, recorded.3, recorded.4, recorded.5⟩

/-- A stable property holds of every tracked node and copy in every run. -/
theorem ClusterRun.everywhere_of_reached {Property : StateNode → Prop}
    (stable : Stable evictionCost Property) {run : ClusterRun}
    (reached : Reaches (ClusterRun.apply evictionCost) (fun _ _ => True) {} run) :
    run.Everywhere Property :=
  reached.invariant (·.Everywhere Property)
    ⟨allNodes_start _, fun _ member => absurd member not_mem_nil⟩
    fun _ _ _ everywhere _ done => everywhere.apply stable done

theorem StateNode.Recorded.one_le_disruptionCost (recorded : n.Recorded) : 1 ≤ n.disruptionCost := by
  have nonneg : 0 ≤ n.podDisruptionCosts.values.sum := by
    refine List.sum_nonneg fun cost member => ?_
    obtain ⟨key, found⟩ := mem_values_iff.mp member
    exact (recorded.costs key cost found).1.le
  exact le_add_of_nonneg_right nonneg

/-- Whatever is reported to cluster state and in whatever order, the records of a
tracked node or of a copy know the same pods. Its memoized totals are the sums of
the requests recorded, no volume of a recorded pod is missing from those counted,
and disrupting it costs at least one. -/
theorem run_keeps_pod_records (evictionCost : Pod → ℚ) {run : ClusterRun}
    (reached : Reaches (ClusterRun.apply evictionCost) (fun _ _ => True) {} run) {n : StateNode}
    (known : (∃ id, run.cluster.nodes.lookup id = some n) ∨ n ∈ run.copies) :
    (∀ key, (key ∈ n.hostPortUsage ↔ key ∈ n.podRequests) ∧
      (key ∈ n.volumeUsage.podVolumes ↔ key ∈ n.podRequests) ∧
      (key ∈ n.daemonSetRequests → key ∈ n.podRequests) ∧
      (key ∈ n.podDisruptionCosts → key ∈ n.podRequests)) ∧
    n.totalPodRequests = Resources.merge n.podRequests.values ∧
    n.totalDaemonSetRequests = Resources.merge n.daemonSetRequests.values ∧
    (∀ key volumes driver, n.volumeUsage.podVolumes.lookup key = some volumes →
      volumes.mountedBy driver ⊆ n.volumeUsage.volumes.mountedBy driver) ∧
    1 ≤ n.disruptionCost := by
  have memo := everywhere_of_reached (stable_memoExact evictionCost) reached
  have records := everywhere_of_reached (stable_recorded evictionCost) reached
  obtain ⟨memo, recorded⟩ : n.MemoExact ∧ n.Recorded := by
    rcases known with ⟨id, tracked⟩ | copied
    · exact ⟨memo.tracked id n tracked, records.tracked id n tracked⟩
    · exact ⟨memo.copied n copied, records.copied n copied⟩
  refine ⟨fun key => ⟨recorded.ports key, recorded.mounts key, recorded.daemonSets key, ?_⟩,
    memo.totalPodRequests, memo.totalDaemonSetRequests, recorded.volumes,
    recorded.one_le_disruptionCost⟩
  intro hasCost
  obtain ⟨cost, found⟩ := isSome_iff_exists.mp (lookup_isSome.mpr hasCost)
  exact (recorded.costs key cost found).2

/-- A copy is changed after the node it was taken of has lost a pod. -/
theorem run_keeps_records_of_copy :
    ∃ run n, Reaches (ClusterRun.apply fun _ => 1) (fun _ _ => True) {} run ∧
      run.copies[0]? = some n ∧ (("default", "c") ∈ n.podRequests) ∧
      (("default", "c") ∈ n.volumeUsage.podVolumes) := by
  obtain ⟨run, n, reached, copied, requested⟩ :
      ∃ run n, Reaches (apply fun _ => 1) (fun _ _ => True) {} run ∧ run.copies[0]? = some n ∧
        (("default", "c") ∈ n.podRequests) :=
    exists_of_follow_some [.updateNode registeredNode {}, .updatePod (runningPod "a") (some ∅),
      .simulationCopyNodes, .deletePod ("default", "a"), .updateCopy 0 (runningPod "c") ∅]
      (by decide +kernel)
  exact ⟨run, n, reached, copied, requested,
    ((run_keeps_pod_records _ reached (.inr (mem_of_getElem? copied))).1 _).2.1.mpr requested⟩

end Kraftsman.State
