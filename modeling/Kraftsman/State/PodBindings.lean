import Kraftsman.State.Tracking

/-!
Contract: which pods cluster state takes to be bound, and the memoized totals.

Owns: that the bindings are those of the pods bound last, that memoized totals
are exact, for tracked nodes and copies, and which node a name leads to.
Does not own: that the requests of a tracked node are those of the pods bound to
it.
-/

namespace Kraftsman.State

open Apis Data Data.FallibleLoop Scheduling GoMap Cluster Except Option List

namespace Cluster

theorem lookup_bindPod_bindings (c : Cluster) (pod : Pod) (key : PodKey) :
    (c.bindPod pod).bindings.lookup key =
      if key = podKey pod then some pod.nodeName else c.bindings.lookup key := by
  have cleaned : ∀ other, other ≠ podKey pod →
      (c.cleanupOldBindings pod).bindings.lookup other = c.bindings.lookup other := by
    intro other different
    unfold cleanupOldBindings
    split
    · rfl
    · split_ifs
      · rfl
      · split
        · rfl
        · exact (lookup_erase_eq _ _ other).trans (if_neg different)
  refine (lookup_insert_eq _ _ key _).trans ?_
  split_ifs with same
  · rfl
  · exact cleaned key same

theorem lookup_completion_bindings (c : Cluster) (key other : PodKey) :
    (c.updateNodeUsageFromPodCompletion key).bindings.lookup other =
      if other = key then none else c.bindings.lookup other := by
  unfold updateNodeUsageFromPodCompletion
  cases known : c.bindings.lookup key with
  | none =>
    split_ifs with same
    · rw [same]
      exact known
    · rfl
  | some nodeName =>
    dsimp only
    split <;> exact lookup_erase_eq _ _ other

theorem updateNodeUsageFromPod_cases (evictionCost : Pod → ℚ) (c : Cluster) (pod : Pod)
    (volumes : Option Volumes) :
    (c.updateNodeUsageFromPod evictionCost pod volumes).1 = c ∧
        ¬ (pod.nodeName ≠ "" ∧ (c.updateNodeUsageFromPod evictionCost pod volumes).2 = none) ∨
    ∃ id n used, pod.nodeName ≠ "" ∧ c.nodeByName pod.nodeName = some (id, n) ∧
      c.updateNodeUsageFromPod evictionCost pod volumes =
        ((c.setNode id (some (n.updateForPod evictionCost pod used))).bindPod pod, none) := by
  unfold updateNodeUsageFromPod
  split_ifs with unbound
  · exact .inl ⟨rfl, fun both => both.1 unbound⟩
  · split
    · exact .inl ⟨rfl, fun both => by cases both.2⟩
    · exact .inl ⟨rfl, fun both => by cases both.2⟩
    · next id n used found => exact .inr ⟨id, n, used, unbound, found, rfl⟩

end Cluster

theorem ClusterRun.apply_updatePod_cases (evictionCost : Pod → ℚ) (run : ClusterRun) (pod : Pod)
    (volumes : Option Volumes) :
    pod.isTerminal ∧ run.apply evictionCost (.updatePod pod volumes) = .ok { run with
        cluster :=
          (run.cluster.updateNodeUsageFromPodCompletion (podKey pod)).updatePodAntiAffinities pod
        boundPods := run.boundPods.erase (podKey pod) } ∨
    run.apply evictionCost (.updatePod pod volumes) = .ok { run with
        cluster := run.cluster.updatePodAntiAffinities pod } ∨
    ∃ id n used, pod.isTerminal = false ∧ run.cluster.nodeByName pod.nodeName = some (id, n) ∧
      run.apply evictionCost (.updatePod pod volumes) = .ok { run with
        cluster := ((run.cluster.setNode id
          (some (n.updateForPod evictionCost pod used))).bindPod pod).updatePodAntiAffinities pod
        boundPods := run.boundPods.insert (podKey pod) pod } := by
  simp only [ClusterRun.apply, updatePod]
  cases terminal : pod.isTerminal with
  | true => exact .inl ⟨rfl, rfl⟩
  | false =>
    rcases updateNodeUsageFromPod_cases evictionCost run.cluster pod volumes with
      ⟨same, unbound⟩ | ⟨id, n, used, isBound, found, tracked⟩
    · refine .inr (.inl ?_)
      simp only [Bool.false_eq_true, if_false, if_neg unbound, same]
      rfl
    · refine .inr (.inr ⟨id, n, used, rfl, found, ?_⟩)
      simp only [Bool.false_eq_true, if_false, tracked, and_true, if_pos isBound]
      rfl

/-- The bindings are those of the pods bound last, which are running. -/
structure ClusterRun.Binds (run : ClusterRun) : Prop where
  bindings : ∀ key, run.cluster.bindings.lookup key = (run.boundPods.lookup key).map (·.nodeName)
  keys : ∀ key pod, run.boundPods.lookup key = some pod → podKey pod = key
  running : ∀ key pod, run.boundPods.lookup key = some pod → pod.isTerminal = false

variable {c : Cluster} {bound : GoMap PodKey Pod} {run run' : ClusterRun}

variable {c' : Cluster} {pod : Pod × Volumes} {evictionCost : Pod → ℚ} {event : ClusterEvent}
variable {n : StateNode}

theorem binds_insert {pod : Pod}
    (binds : ClusterRun.Binds { run with cluster := c, boundPods := bound })
    (running : pod.isTerminal = false)
    (bindings : ∀ key, c'.bindings.lookup key =
      if key = podKey pod then some pod.nodeName else c.bindings.lookup key) :
    ClusterRun.Binds
      { run with cluster := c', boundPods := bound.insert (podKey pod) pod } where
  bindings key := by
    rw [bindings, lookup_insert_eq]
    split_ifs
    · rfl
    · exact binds.bindings key
  keys key other found := by
    rw [lookup_insert_eq] at found
    split_ifs at found with same
    · exact some.inj found ▸ same.symm
    · exact binds.keys key other found
  running key other found := by
    rw [lookup_insert_eq] at found
    split_ifs at found with same
    · exact some.inj found ▸ running
    · exact binds.running key other found

theorem binds_erase {key : PodKey}
    (binds : ClusterRun.Binds { run with cluster := c, boundPods := bound })
    (bindings : ∀ other, c'.bindings.lookup other =
      if other = key then none else c.bindings.lookup other) :
    ClusterRun.Binds { run with cluster := c', boundPods := bound.erase key } where
  bindings other := by
    rw [bindings, lookup_erase_eq]
    split_ifs
    · rfl
    · exact binds.bindings other
  keys other pod found := by
    rw [lookup_erase_eq] at found
    split_ifs at found
    exact binds.keys other pod found
  running other pod found := by
    rw [lookup_erase_eq] at found
    split_ifs at found
    exact binds.running other pod found

theorem ClusterRun.Binds.of_bindings_eq (binds : run.Binds)
    (sameBindings : run'.cluster.bindings = run.cluster.bindings)
    (samePods : run'.boundPods = run.boundPods) : run'.Binds where
  bindings key := by
    rw [sameBindings, samePods]
    exact binds.bindings key
  keys key pod found := binds.keys key pod (samePods ▸ found)
  running key pod found := binds.running key pod (samePods ▸ found)

theorem Cluster.processed_running {listing : List (Pod × Option Volumes)}
    (member : pod ∈ (processed listing).1) : pod.1.isTerminal = false := by
  induction listing with
  | nil => cases member
  | cons head rest ih =>
    obtain ⟨first, volumes⟩ := head
    unfold processed at member
    split_ifs at member with terminal
    · exact ih member
    · cases volumes with
      | none => cases member
      | some volumes =>
        rcases mem_cons.mp member with isFirst | later
        · rw [isFirst]
          exact Bool.eq_false_iff.mpr terminal
        · exact ih later

theorem podsBoundBy_running {node : Node} {reads : NodeReads}
    (member : pod ∈ podsBoundBy node reads) : pod.1.isTerminal = false := by
  unfold podsBoundBy at member
  split_ifs at member
  · cases listed : reads.pods with
    | none =>
      rw [listed] at member
      cases member
    | some listing =>
      rw [listed] at member
      exact processed_running member
  · cases member

theorem ClusterEvent.running_of_binding {pods : List (Pod × Volumes)}
    (binding : event.binding = some pods) (member : pod ∈ pods) : pod.1.isTerminal = false := by
  cases event <;> cases binding
  · exact podsBoundBy_running member
  all_goals cases member

theorem binds_bindPods (pods : List (Pod × Volumes))
    (running : ∀ pod ∈ pods, pod.1.isTerminal = false)
    (binds : ClusterRun.Binds { run with cluster := c, boundPods := bound }) :
    ClusterRun.Binds { run with cluster := c.bindPods pods, boundPods := recordPods bound pods } := by
  induction pods generalizing c bound with
  | nil => exact binds
  | cons pod rest ih =>
    exact ih (fun other member => running other (mem_cons_of_mem _ member))
      (binds_insert binds (running pod mem_cons_self) (c.lookup_bindPod_bindings pod.1))

theorem Cluster.keeps_bindings (evictionCost : Pod → ℚ) (bindings : GoMap PodKey String) :
    Cluster.Keeps evictionCost (fun _ => True) (fun c => c.bindings = bindings) where
  missing _ := trivial
  renamed same := same
  replaced same _ := .of_forall_ok fun _ done => (replaceNode_eq_ok done).2.1.trans same

theorem ClusterRun.Binds.apply (binds : run.Binds) (done : run.apply evictionCost event = .ok run') :
    run'.Binds := by
  cases binding : event.binding with
  | some pods =>
    have bound := binds_bindPods pods (fun _ => event.running_of_binding binding) binds
    obtain ⟨bindings, boundPods, -⟩ :=
      (run.apply_binding (keeps_bindings evictionCost _) binding rfl).of_ok done
    exact bound.of_bindings_eq bindings boundPods
  | none =>
  cases event with
  | updateNode _ _ | deleteNode _ | updateNodeClaim _ | deleteNodeClaim _ | markForDeletion _
  | unmarkForDeletion _ => cases binding
  | updatePod pod volumes =>
    rcases run.apply_updatePod_cases evictionCost pod volumes with
      ⟨_, completes⟩ | same | ⟨id, n, used, running, _, tracks⟩
    · obtain rfl := ok.inj (completes.symm.trans done)
      exact binds_erase binds (run.cluster.lookup_completion_bindings (podKey pod))
    · obtain rfl := ok.inj (same.symm.trans done)
      exact binds.of_bindings_eq rfl rfl
    · obtain rfl := ok.inj (tracks.symm.trans done)
      exact binds_insert binds running (lookup_bindPod_bindings _ pod)
  | deletePod key =>
    cases done
    exact binds_erase binds (lookup_completion_bindings _ key)
  | simulationCopyNodes | deepCopyNodes | updateCopy _ _ _ | cleanupCopy _ _ =>
    cases done
    exact binds.of_bindings_eq rfl rfl

/-- A property that everything cluster state does to a single node keeps. -/
structure Stable (evictionCost : Pod → ℚ) (Property : StateNode → Prop) : Prop where
  empty : Property {}
  reshaped : ∀ (n : StateNode) node nodeClaim marked, Property n →
    Property { n with node := node, nodeClaim := nodeClaim, markedForDeletion := marked }
  withNodeClaim : ∀ n nodeClaim, Property n → Property (Cluster.StateNode.withNodeClaim n nodeClaim)
  limited : ∀ (n : StateNode) limits, Property n →
    Property { n with volumeUsage := { n.volumeUsage with limits := limits } }
  updated : ∀ n pod volumes, Property n → Property (n.updateForPod evictionCost pod volumes)
  cleaned : ∀ n key, Property n → Property (n.cleanupForPod key)
  totalled : ∀ n, Property n → Property n.ensureRequestTotals

namespace Cluster

def AllNodes (Property : StateNode → Prop) (c : Cluster) : Prop :=
  ∀ id n, c.nodes.lookup id = some n → Property n

variable {Property : StateNode → Prop} {evictionCost : Pod → ℚ}

variable {c c' : Cluster}

theorem AllNodes.setNode (all : c.AllNodes Property) (id : String) {n : StateNode}
    (holds : Property n) : (c.setNode id (some n)).AllNodes Property := by
  intro other tracked found
  rw [lookup_setNode] at found
  split_ifs at found
  · exact some.inj found ▸ holds
  · exact all other tracked found

theorem AllNodes.replaceNode (all : c.AllNodes Property) {id : String} {oldNode : StateNode}
    {newNode : Option StateNode} (holds : ∀ n ∈ newNode, Property n)
    (done : c.replaceNode id oldNode newNode = .ok c') : c'.AllNodes Property := by
  intro other tracked found
  rw [lookup_replaceNode done] at found
  split_ifs at found
  · exact holds tracked found
  · exact all other tracked found

theorem AllNodes.getD (all : c.AllNodes Property) (empty : Property {}) (id : String) :
    Property ((c.nodes.lookup id).getD {}) := by
  cases found : c.nodes.lookup id with
  | none => exact empty
  | some n => exact all id n found

variable (stable : Stable evictionCost Property)
include stable

theorem AllNodes.bindPod (all : c.AllNodes Property) (pod : Pod) :
    (c.bindPod pod).AllNodes Property := by
  have cleaned : (c.cleanupOldBindings pod).AllNodes Property := by
    unfold cleanupOldBindings
    split
    · exact all
    · split_ifs
      · exact all
      · split
        · exact all
        · next id n found =>
            exact all.setNode id (stable.cleaned n (podKey pod) (all id n (nodeByName_eq_some found).2))
  exact cleaned

theorem AllNodes.bindPods (all : c.AllNodes Property) (pods : List (Pod × Volumes)) :
    (c.bindPods pods).AllNodes Property := by
  induction pods generalizing c with
  | nil => exact all
  | cons pod rest ih => exact ih (all.bindPod stable pod.1)

theorem AllNodes.completion (all : c.AllNodes Property) (key : PodKey) :
    (c.updateNodeUsageFromPodCompletion key).AllNodes Property := by
  unfold updateNodeUsageFromPodCompletion
  split
  · exact all
  · dsimp only
    split
    · exact all
    · next id n found =>
        have tracked := (nodeByName_eq_some found).2
        exact AllNodes.setNode (c := { c with bindings := c.bindings.erase key }) all id
          (stable.cleaned n key (all id n tracked))

theorem AllNodes.keeps : Keeps evictionCost (fun _ => True) (AllNodes Property) where
  missing _ := trivial
  renamed all := all
  replaced := by
    intro c id n _ all replacement
    refine .of_forall_ok fun c' done => all.replaceNode (fun tracked isNew => ?_) done
    cases replacement with
    | forgetNode found =>
      obtain ⟨_, _, rfl⟩ := map_eq_some_iff.mp isNew
      exact stable.reshaped n none n.nodeClaim n.markedForDeletion (all id n found)
    | forgetNodeClaim found =>
      obtain ⟨_, _, rfl⟩ := map_eq_some_iff.mp isNew
      exact stable.reshaped n n.node none n.markedForDeletion (all id n found)
    | mark found marked =>
      cases isNew
      exact stable.reshaped n n.node n.nodeClaim marked (all id n found)
    | joinNode isOld node pods limits =>
      cases isNew
      refine stable.limited _ limits ?_
      exact foldlRecOn pods _
        (stable.reshaped {} (some node) n.nodeClaim n.markedForDeletion stable.empty)
        fun n holds pod _ => stable.updated n pod.1 pod.2 holds
    | joinNodeClaim isOld nodeClaim =>
      cases isNew
      subst isOld
      exact stable.withNodeClaim _ nodeClaim (all.getD stable.empty _)

end Cluster

/-- A property of every tracked node and of every copy. -/
structure ClusterRun.Everywhere (Property : StateNode → Prop) (run : ClusterRun) : Prop where
  tracked : run.cluster.AllNodes Property
  copied : ∀ n ∈ run.copies, Property n

theorem mem_modify {A : Type} {items : List A} {index : Nat} {change : A → A} {item : A}
    (member : item ∈ items.modify index change) :
    item ∈ items ∨ ∃ old ∈ items, item = change old := by
  induction items generalizing index with
  | nil => simp at member
  | cons head rest ih =>
    cases index with
    | zero =>
      rcases mem_cons.mp member with isHead | inRest
      · exact .inr ⟨head, mem_cons_self, isHead⟩
      · exact .inl (mem_cons_of_mem _ inRest)
    | succ index =>
      rcases mem_cons.mp member with isHead | inRest
      · exact .inl (isHead ▸ mem_cons_self)
      · rcases ih inRest with same | ⟨old, inOld, changed⟩
        · exact .inl (mem_cons_of_mem _ same)
        · exact .inr ⟨old, mem_cons_of_mem _ inOld, changed⟩

theorem ClusterRun.Everywhere.apply {Property : StateNode → Prop}
    (stable : Stable evictionCost Property) (everywhere : run.Everywhere Property)
    (done : run.apply evictionCost event = .ok run') :
    run'.Everywhere Property := by
  obtain ⟨all, copied⟩ := everywhere
  cases binding : event.binding with
  | some pods =>
    obtain ⟨kept, -, copies⟩ := (run.apply_binding (AllNodes.keeps stable) binding
      (all.bindPods stable pods)).of_ok done
    exact ⟨kept, copies ▸ copied⟩
  | none =>
  cases event with
  | updateNode _ _ | deleteNode _ | updateNodeClaim _ | deleteNodeClaim _ | markForDeletion _
  | unmarkForDeletion _ => cases binding
  | updatePod pod volumes =>
    rcases run.apply_updatePod_cases evictionCost pod volumes with
      ⟨_, completes⟩ | same | ⟨id, n, used, _, found, tracks⟩
    · obtain rfl := ok.inj (completes.symm.trans done)
      exact ⟨all.completion stable (podKey pod), copied⟩
    · obtain rfl := ok.inj (same.symm.trans done)
      exact ⟨all, copied⟩
    · obtain rfl := ok.inj (tracks.symm.trans done)
      have isTracked := (nodeByName_eq_some found).2
      have updated := all.setNode id (stable.updated n pod used (all id n isTracked))
      exact ⟨updated.bindPod stable pod, copied⟩
  | deletePod key =>
    cases done
    exact ⟨Cluster.AllNodes.completion stable (c := { run.cluster with
      antiAffinityPods := run.cluster.antiAffinityPods.erase key }) all key, copied⟩
  | simulationCopyNodes =>
    cases done
    have totalled : run.cluster.simulationCopyNodes.1.AllNodes Property := by
      intro id n found
      unfold simulationCopyNodes at found
      rw [lookup_mapValues] at found
      obtain ⟨before, tracked, rfl⟩ := map_eq_some_iff.mp found
      exact stable.totalled before (all id before tracked)
    refine ⟨totalled, fun n member => ?_⟩
    rcases mem_append.mp member with earlier | isCopy
    · exact copied n earlier
    · obtain ⟨original, inNodes, rfl⟩ := mem_map.mp isCopy
      obtain ⟨id, found⟩ := mem_values_iff.mp inNodes
      exact stable.totalled original (totalled id original found)
  | deepCopyNodes =>
    cases done
    refine ⟨all, fun n member => ?_⟩
    rcases mem_append.mp member with earlier | isCopy
    · exact copied n earlier
    · obtain ⟨id, found⟩ := mem_values_iff.mp isCopy
      exact all id n found
  | updateCopy index pod volumes =>
    cases done
    refine ⟨all, fun n member => ?_⟩
    rcases mem_modify member with same | ⟨old, inOld, rfl⟩
    · exact copied n same
    · exact stable.updated old pod volumes (copied old inOld)
  | cleanupCopy index key =>
    cases done
    refine ⟨all, fun n member => ?_⟩
    rcases mem_modify member with same | ⟨old, inOld, rfl⟩
    · exact copied n same
    · exact stable.cleaned old key (copied old inOld)

/-- A memoized total is the sum of the requests that are tracked. -/
structure StateNode.MemoExact (n : StateNode) : Prop where
  pods : ∀ total ∈ n.podRequestsTotal, total = Resources.merge n.podRequests.values
  daemonSets : ∀ total ∈ n.daemonSetRequestsTotal, total = Resources.merge n.daemonSetRequests.values

theorem StateNode.MemoExact.totalPodRequests (memo : n.MemoExact) :
    n.totalPodRequests = Resources.merge n.podRequests.values := by
  unfold StateNode.totalPodRequests
  cases total : n.podRequestsTotal with
  | none => rfl
  | some total' => exact memo.pods total' total

theorem StateNode.MemoExact.totalDaemonSetRequests (memo : n.MemoExact) :
    n.totalDaemonSetRequests = Resources.merge n.daemonSetRequests.values := by
  unfold StateNode.totalDaemonSetRequests
  cases total : n.daemonSetRequestsTotal with
  | none => rfl
  | some total' => exact memo.daemonSets total' total

theorem stable_memoExact (evictionCost : Pod → ℚ) : Stable evictionCost StateNode.MemoExact where
  empty := ⟨nofun, nofun⟩
  reshaped _ _ _ _ memo := ⟨memo.pods, memo.daemonSets⟩
  withNodeClaim _ _ memo := ⟨memo.pods, memo.daemonSets⟩
  limited _ _ memo := ⟨memo.pods, memo.daemonSets⟩
  updated n pod volumes memo := by
    refine ⟨nofun, fun total isTotal => ?_⟩
    unfold StateNode.updateForPod at isTotal ⊢
    dsimp only at isTotal ⊢
    split_ifs at isTotal with isDaemon
    · cases isTotal
    · rw [if_neg isDaemon]
      exact memo.daemonSets total isTotal
  cleaned _ _ _ := ⟨nofun, nofun⟩
  totalled n memo := by
    refine ⟨fun total isTotal => ?_, fun total isTotal => ?_⟩
    · rw [← some.inj isTotal]
      exact memo.totalPodRequests
    · rw [← some.inj isTotal]
      exact memo.totalDaemonSetRequests

end Kraftsman.State
