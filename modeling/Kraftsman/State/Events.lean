import Kraftsman.Data.FallibleLoop
import Kraftsman.Data.Runs
import Kraftsman.State.Cluster

/-!
Contract: runs of cluster state, and what each event does to the tracked objects.

A run keeps what the events reported: the nodes and NodeClaims that were updated
and not deleted since, the pods as they were when bound, and the copies handed
out.

Owns: the events, and an inversion lemma for each handler of a node or NodeClaim.
Does not own: any invariant.
-/

namespace Kraftsman.State

open Apis Data Data.FallibleLoop Scheduling Cluster Except

/-- What cluster state is told, the copies it is asked for, and what is done to them. -/
inductive ClusterEvent where
  | updateNode (node : Node) (reads : NodeReads)
  | deleteNode (name : String)
  | updateNodeClaim (nodeClaim : NodeClaim)
  | deleteNodeClaim (name : String)
  | markForDeletion (ids : List String)
  | unmarkForDeletion (ids : List String)
  | updatePod (pod : Pod) (volumes : Option Volumes)
  | deletePod (key : PodKey)
  | simulationCopyNodes
  | deepCopyNodes
  | updateCopy (index : Nat) (pod : Pod) (volumes : Volumes)
  | cleanupCopy (index : Nat) (key : PodKey)

structure ClusterRun where
  cluster : Cluster := {}
  liveNodes : GoMap String Node := ∅
  liveNodeClaims : GoMap String NodeClaim := ∅
  boundPods : GoMap PodKey Pod := ∅
  copies : List StateNode := []

def podsBoundBy (node : Node) (reads : NodeReads) : List (Pod × Volumes) :=
  if Cluster.accepts node then reads.pods.elim [] fun listing => (Cluster.processed listing).1
  else []

def NodeReads.succeed (reads : NodeReads) : Bool :=
  (reads.pods.any fun listing => (Cluster.processed listing).2) && reads.volumeLimits.isSome

def recordPods (bound : GoMap PodKey Pod) (pods : List (Pod × Volumes)) : GoMap PodKey Pod :=
  pods.foldl (fun bound pod => bound.insert (podKey pod.1) pod.1) bound

namespace ClusterRun

variable (evictionCost : Pod → ℚ)

def apply (run : ClusterRun) : ClusterEvent → Except ClusterPanic ClusterRun
  | .updateNode node reads => do
    let (cluster, failure) ← run.cluster.updateNode evictionCost node reads
    return { run with
      cluster := cluster
      liveNodes :=
        if Cluster.accepts node && failure.isNone then
          run.liveNodes.insert node.name (Cluster.identified node)
        else run.liveNodes
      boundPods := recordPods run.boundPods (podsBoundBy node reads) }
  | .deleteNode name => do
    let cluster ← run.cluster.cleanupNode name
    return { run with cluster := cluster, liveNodes := run.liveNodes.erase name }
  | .updateNodeClaim nodeClaim => do
    let cluster ← run.cluster.updateNodeClaim nodeClaim
    return { run with
      cluster := cluster
      liveNodeClaims := run.liveNodeClaims.insert nodeClaim.name nodeClaim }
  | .deleteNodeClaim name => do
    let cluster ← run.cluster.cleanupNodeClaim name
    return { run with cluster := cluster, liveNodeClaims := run.liveNodeClaims.erase name }
  | .markForDeletion ids => do
    let cluster ← run.cluster.markForDeletion ids
    return { run with cluster := cluster }
  | .unmarkForDeletion ids => do
    let cluster ← run.cluster.unmarkForDeletion ids
    return { run with cluster := cluster }
  | .updatePod pod volumes =>
    let (cluster, failure) := run.cluster.updatePod evictionCost pod volumes
    return { run with
      cluster := cluster
      boundPods :=
        if pod.isTerminal then run.boundPods.erase (podKey pod)
        else if pod.nodeName ≠ "" ∧ failure = none then run.boundPods.insert (podKey pod) pod
        else run.boundPods }
  | .deletePod key =>
    return { run with
      cluster := run.cluster.deletePod key
      boundPods := run.boundPods.erase key }
  | .simulationCopyNodes =>
    let (cluster, copies) := run.cluster.simulationCopyNodes
    return { run with cluster := cluster, copies := run.copies ++ copies }
  | .deepCopyNodes =>
    return { run with copies := run.copies ++ run.cluster.nodes.values }
  | .updateCopy index pod volumes =>
    return { run with
      copies := run.copies.modify index (·.updateForPod evictionCost pod volumes) }
  | .cleanupCopy index key =>
    return { run with copies := run.copies.modify index (·.cleanupForPod key) }

end ClusterRun

/-- The part of a tracked node that its pods have no share in. -/
def StateNode.objects (n : StateNode) : Option Node × Option NodeClaim × Bool :=
  (n.node, n.nodeClaim, n.markedForDeletion)

@[simp] theorem objects_updateForPod (n : StateNode) (evictionCost : Pod → ℚ) (pod : Pod)
    (volumes : Volumes) : (n.updateForPod evictionCost pod volumes).objects = n.objects := rfl

@[simp] theorem objects_cleanupForPod (n : StateNode) (key : PodKey) :
    (n.cleanupForPod key).objects = n.objects := rfl

@[simp] theorem objects_rebuiltNode (evictionCost : Pod → ℚ) (oldNode : StateNode) (node : Node)
    (pods : List (Pod × Volumes)) (limits : GoMap String Nat) :
    (rebuiltNode evictionCost oldNode node pods limits).objects =
      (some node, oldNode.nodeClaim, oldNode.markedForDeletion) := by
  have folded : ∀ (pods : List (Pod × Volumes)) (n : StateNode),
      (pods.foldl (fun n pod => n.updateForPod evictionCost pod.1 pod.2) n).objects = n.objects := by
    intro pods
    induction pods with
    | nil => exact fun _ => rfl
    | cons pod rest ih =>
      intro n
      rw [List.foldl_cons, ih, objects_updateForPod]
  exact folded pods _

namespace Cluster

/-- Two states that track the same objects under the same names. -/
structure SameObjects (c c' : Cluster) : Prop where
  objects : ∀ id, (c'.nodes.lookup id).map (·.objects) = (c.nodes.lookup id).map (·.objects)
  nodeNames : c'.nodeNameToProviderID = c.nodeNameToProviderID
  nodeClaimNames : c'.nodeClaimNameToProviderID = c.nodeClaimNameToProviderID
  totals : c'.nodePoolResources = c.nodePoolResources

theorem SameObjects.refl (c : Cluster) : c.SameObjects c := ⟨fun _ => rfl, rfl, rfl, rfl⟩

theorem SameObjects.trans {c₁ c₂ c₃ : Cluster} (first : c₁.SameObjects c₂)
    (second : c₂.SameObjects c₃) : c₁.SameObjects c₃ :=
  ⟨fun id => (second.objects id).trans (first.objects id),
    second.nodeNames.trans first.nodeNames, second.nodeClaimNames.trans first.nodeClaimNames,
    second.totals.trans first.totals⟩

theorem SameObjects.getD {c c' : Cluster} (same : c.SameObjects c') (id : String) :
    ((c.nodes.lookup id).getD {}).objects = ((c'.nodes.lookup id).getD {}).objects := by
  have objects := same.objects id
  cases before : c.nodes.lookup id <;> cases after : c'.nodes.lookup id <;> simp_all

theorem lookup_setNode (c : Cluster) (id other : String) (n : Option StateNode) :
    (c.setNode id n).nodes.lookup other = if other = id then n else c.nodes.lookup other :=
  GoMap.lookup_alter c.nodes id other _

variable {c c' : Cluster} {id name : String} {oldNode : StateNode} {newNode : Option StateNode}

theorem sameObjects_setNode {n n' : StateNode} (found : c.nodes.lookup id = some n)
    (same : n'.objects = n.objects) :
    c.SameObjects (c.setNode id (some n')) := by
  refine ⟨fun other => ?_, rfl, rfl, rfl⟩
  rw [lookup_setNode]
  split_ifs with isId
  · rw [isId, found]
    simp [same]
  · rfl

theorem nodeByName_eq_some {n : StateNode} (found : c.nodeByName name = some (id, n)) :
    id = (c.nodeNameToProviderID.lookup name).getD "" ∧ c.nodes.lookup id = some n := by
  obtain ⟨tracked, lookedUp, same⟩ := Option.map_eq_some_iff.mp found
  obtain ⟨rfl, rfl⟩ := Prod.mk.inj same
  exact ⟨rfl, lookedUp⟩

theorem sameObjects_cleanupOldBindings (c : Cluster) (pod : Pod) :
    c.SameObjects (c.cleanupOldBindings pod) := by
  unfold cleanupOldBindings
  split
  · exact .refl c
  · split_ifs
    · exact .refl c
    · split
      · exact .refl c
      · next id n found =>
          have same := sameObjects_setNode (nodeByName_eq_some found).2
            (objects_cleanupForPod n (podKey pod))
          exact ⟨same.objects, same.nodeNames, same.nodeClaimNames, same.totals⟩

theorem sameObjects_bindPod (c : Cluster) (pod : Pod) : c.SameObjects (c.bindPod pod) := by
  have cleaned := sameObjects_cleanupOldBindings c pod
  exact ⟨cleaned.objects, cleaned.nodeNames, cleaned.nodeClaimNames, cleaned.totals⟩

theorem sameObjects_bindPods (pods : List (Pod × Volumes)) (c : Cluster) :
    c.SameObjects (c.bindPods pods) := by
  induction pods generalizing c with
  | nil => exact .refl c
  | cons pod rest ih =>
    exact (sameObjects_bindPod c pod.1).trans (ih _)

theorem sameObjects_updateNodeUsageFromPodCompletion (c : Cluster) (key : PodKey) :
    c.SameObjects (c.updateNodeUsageFromPodCompletion key) := by
  unfold updateNodeUsageFromPodCompletion
  split
  · exact .refl c
  · dsimp only
    split
    · exact ⟨fun _ => rfl, rfl, rfl, rfl⟩
    · next id n found =>
        have same := sameObjects_setNode (nodeByName_eq_some found).2 (objects_cleanupForPod n key)
        exact ⟨same.objects, same.nodeNames, same.nodeClaimNames, same.totals⟩

variable (evictionCost : Pod → ℚ)

theorem sameObjects_updateNodeUsageFromPod (c : Cluster) (pod : Pod) (volumes : Option Volumes) :
    c.SameObjects (c.updateNodeUsageFromPod evictionCost pod volumes).1 := by
  unfold updateNodeUsageFromPod
  split_ifs
  · exact .refl c
  · split
    · exact .refl c
    · exact .refl c
    · next id n volumes found =>
        have tracked := sameObjects_setNode (nodeByName_eq_some found).2
          (objects_updateForPod n evictionCost pod volumes)
        exact tracked.trans (sameObjects_bindPod _ pod)

theorem sameObjects_updatePod (c : Cluster) (pod : Pod) (volumes : Option Volumes) :
    c.SameObjects (c.updatePod evictionCost pod volumes).1 := by
  unfold updatePod
  split_ifs
  · have same := sameObjects_updateNodeUsageFromPodCompletion c (podKey pod)
    exact ⟨same.objects, same.nodeNames, same.nodeClaimNames, same.totals⟩
  · have same := sameObjects_updateNodeUsageFromPod evictionCost c pod volumes
    exact ⟨same.objects, same.nodeNames, same.nodeClaimNames, same.totals⟩

theorem sameObjects_deletePod (c : Cluster) (key : PodKey) : c.SameObjects (c.deletePod key) := by
  have same := sameObjects_updateNodeUsageFromPodCompletion
    { c with antiAffinityPods := c.antiAffinityPods.erase key } key
  exact ⟨same.objects, same.nodeNames, same.nodeClaimNames, same.totals⟩

theorem sameObjects_simulationCopyNodes (c : Cluster) : c.SameObjects c.simulationCopyNodes.1 := by
  refine ⟨fun id => ?_, rfl, rfl, rfl⟩
  unfold simulationCopyNodes
  rw [GoMap.lookup_mapValues, Option.map_map]
  rfl

theorem replaceNode_eq_ok (done : c.replaceNode id oldNode newNode = .ok c') :
    c'.nodes = c.nodes.alter id (fun _ => newNode) ∧
      c'.bindings = c.bindings ∧ c'.nodeNameToProviderID = c.nodeNameToProviderID ∧
      c'.nodeClaimNameToProviderID = c.nodeClaimNameToProviderID := by
  obtain ⟨paid, updated, rfl⟩ := map_eq_ok.mp done
  obtain ⟨totals, _, rfl⟩ := map_eq_ok.mp updated
  exact ⟨rfl, rfl, rfl, rfl⟩

theorem lookup_replaceNode (done : c.replaceNode id oldNode newNode = .ok c') (other : String) :
    c'.nodes.lookup other = if other = id then newNode else c.nodes.lookup other := by
  rw [(replaceNode_eq_ok done).1, GoMap.lookup_alter]

theorem replaceNode_eq_error {panic : ClusterPanic}
    (failed : c.replaceNode id oldNode newNode = .error panic) :
    c.updateNodePoolResources (some oldNode) newNode = .error panic := by
  exact map_eq_error.mp failed

theorem updateNodePoolResources_eq_error {oldNode : Option StateNode} {panic : ClusterPanic}
    (failed : c.updateNodePoolResources oldNode newNode = .error panic) :
    ∃ nodePool, panic = .nilNodePoolResources nodePool := by
  have inside := map_eq_error.mp failed
  unfold subtractResources at inside
  split_ifs at inside
  split at inside
  · exact ⟨_, (error.inj inside).symm⟩
  · cases inside

section

variable (c name)

theorem cleanupNode_cases :
    (c.nodeNameToProviderID.lookup name).getD "" = "" ∧ c.cleanupNode name = .ok c ∨
    ∃ id, id ≠ "" ∧ c.nodeNameToProviderID.lookup name = some id ∧
      (c.nodes.lookup id = none ∧ c.cleanupNode name = .error (.missingStateNode id) ∨
       ∃ n, c.nodes.lookup id = some n ∧ c.cleanupNode name = (do
          let c ← c.replaceNode id n (n.nodeClaim.map fun _ => { n with node := none })
          return { c with nodeNameToProviderID := c.nodeNameToProviderID.erase name })) := by
  unfold cleanupNode
  cases found : c.nodeNameToProviderID.lookup name with
  | none => exact .inl ⟨rfl, rfl⟩
  | some id =>
    by_cases empty : id = ""
    · exact .inl ⟨empty, by rw [Option.getD_some, if_pos empty]⟩
    · refine .inr ⟨id, empty, rfl, ?_⟩
      rw [Option.getD_some, if_neg empty]
      cases tracked : c.nodes.lookup id with
      | none => exact .inl ⟨rfl, rfl⟩
      | some n => exact .inr ⟨n, rfl, rfl⟩

theorem cleanupNodeClaim_cases : (c.nodeClaimNameToProviderID.lookup name).getD "" = "" ∧
        c.cleanupNodeClaim name = .ok { c with
          nodeClaimNameToProviderID := c.nodeClaimNameToProviderID.erase name } ∨
    ∃ id, id ≠ "" ∧ c.nodeClaimNameToProviderID.lookup name = some id ∧
      (c.nodes.lookup id = none ∧ c.cleanupNodeClaim name = .error (.missingStateNode id) ∨
       ∃ n, c.nodes.lookup id = some n ∧ c.cleanupNodeClaim name = (do
          let c ← c.replaceNode id n (n.node.map fun _ => { n with nodeClaim := none })
          return { c with
            nodeClaimNameToProviderID := c.nodeClaimNameToProviderID.erase name })) := by
  unfold cleanupNodeClaim
  cases found : c.nodeClaimNameToProviderID.lookup name with
  | none => exact .inl ⟨rfl, rfl⟩
  | some id =>
    by_cases empty : id = ""
    · exact .inl ⟨empty, by rw [Option.getD_some, if_pos empty]⟩
    · refine .inr ⟨id, empty, rfl, ?_⟩
      rw [Option.getD_some, if_neg empty]
      cases tracked : c.nodes.lookup id with
      | none => exact .inl ⟨rfl, rfl⟩
      | some n => exact .inr ⟨n, rfl, rfl⟩

theorem cleanupMovedNode_cases (id : String) :
    (∀ oldID, c.nodeNameToProviderID.lookup name = some oldID → oldID = id) ∧
        c.cleanupMovedNode name id = .ok c ∨
    ∃ oldID, c.nodeNameToProviderID.lookup name = some oldID ∧ oldID ≠ id ∧
      c.cleanupMovedNode name id = c.cleanupNode name := by
  unfold cleanupMovedNode
  cases found : c.nodeNameToProviderID.lookup name with
  | none => exact .inl ⟨nofun, rfl⟩
  | some oldID =>
    by_cases same : oldID = id
    · exact .inl ⟨fun _ isOld => Option.some.inj isOld ▸ same, if_pos same⟩
    · exact .inr ⟨oldID, rfl, same, if_neg same⟩

theorem cleanupMovedNodeClaim_cases (id : String) :
    (∀ oldID, c.nodeClaimNameToProviderID.lookup name = some oldID → oldID = id) ∧
        c.cleanupMovedNodeClaim name id = .ok c ∨
    ∃ oldID, c.nodeClaimNameToProviderID.lookup name = some oldID ∧ oldID ≠ id ∧
      c.cleanupMovedNodeClaim name id = c.cleanupNodeClaim name := by
  unfold cleanupMovedNodeClaim
  cases found : c.nodeClaimNameToProviderID.lookup name with
  | none => exact .inl ⟨nofun, rfl⟩
  | some oldID =>
    by_cases same : oldID = id
    · exact .inl ⟨fun _ isOld => Option.some.inj isOld ▸ same, if_pos same⟩
    · exact .inr ⟨oldID, rfl, same, if_neg same⟩

end

theorem lookup_cleanupMovedNode (done : c.cleanupMovedNode name id = .ok c') :
    c'.nodes.lookup id = c.nodes.lookup id := by
  rcases c.cleanupMovedNode_cases name id with ⟨_, stays⟩ | ⟨oldID, known, moved, moves⟩
  · rw [ok.inj (stays.symm.trans done)]
  rcases c.cleanupNode_cases name with ⟨_, same⟩ | ⟨old, _, named, ⟨_, failed⟩ | ⟨n, _, replaces⟩⟩
  · rw [ok.inj (same.symm.trans (moves.symm.trans done))]
  · cases failed.symm.trans (moves.symm.trans done)
  · obtain ⟨middle, replaced, rfl⟩ := map_eq_ok.mp (replaces.symm.trans (moves.symm.trans done))
    obtain rfl := Option.some.inj (known.symm.trans named)
    exact (lookup_replaceNode replaced id).trans (if_neg moved.symm)

theorem lookup_cleanupMovedNodeClaim (done : c.cleanupMovedNodeClaim name id = .ok c') :
    c'.nodes.lookup id = c.nodes.lookup id := by
  rcases c.cleanupMovedNodeClaim_cases name id with ⟨_, stays⟩ | ⟨oldID, known, moved, moves⟩
  · rw [ok.inj (stays.symm.trans done)]
  rcases c.cleanupNodeClaim_cases name with
    ⟨_, same⟩ | ⟨old, _, named, ⟨_, failed⟩ | ⟨n, _, replaces⟩⟩
  · rw [← ok.inj (same.symm.trans (moves.symm.trans done))]
  · cases failed.symm.trans (moves.symm.trans done)
  · obtain ⟨middle, replaced, rfl⟩ := map_eq_ok.mp (replaces.symm.trans (moves.symm.trans done))
    obtain rfl := Option.some.inj (known.symm.trans named)
    exact (lookup_replaceNode replaced id).trans (if_neg moved.symm)

theorem joinNode_eq_ok {evictionCost : Pod → ℚ} {node : Node} {pods : List (Pod × Volumes)}
    {limits : GoMap String Nat} (done : c.joinNode evictionCost oldNode node pods limits = .ok c') :
    ∃ c₁ c₂, c.cleanupMovedNode node.name node.providerID = .ok c₁ ∧
      c₁.replaceNode node.providerID oldNode
        (some (rebuiltNode evictionCost oldNode node pods limits)) = .ok c₂ ∧
      c' = { c₂ with
        nodeNameToProviderID := c₂.nodeNameToProviderID.insert node.name node.providerID } := by
  obtain ⟨c₁, moved, rest⟩ := bind_eq_ok.mp done
  obtain ⟨c₂, replaced, same⟩ := map_eq_ok.mp rest
  exact ⟨c₁, c₂, moved, replaced, same.symm⟩

theorem updateNodeClaim_eq_ok {nodeClaim : NodeClaim} (done : c.updateNodeClaim nodeClaim = .ok c') :
    ∃ c₂, c' = { c₂ with
        nodeClaimNameToProviderID :=
          c₂.nodeClaimNameToProviderID.insert nodeClaim.name nodeClaim.providerID } ∧
      (nodeClaim.providerID = "" ∧ c₂ = c ∨ nodeClaim.providerID ≠ "" ∧ ∃ c₁,
        c.cleanupMovedNodeClaim nodeClaim.name nodeClaim.providerID = .ok c₁ ∧
        c₁.replaceNode nodeClaim.providerID ((c.nodes.lookup nodeClaim.providerID).getD {})
          (some (StateNode.withNodeClaim ((c.nodes.lookup nodeClaim.providerID).getD {})
            nodeClaim)) = .ok c₂) := by
  unfold updateNodeClaim at done
  by_cases unlaunched : nodeClaim.providerID = ""
  · rw [if_pos unlaunched] at done
    exact ⟨c, (ok.inj done).symm, .inl ⟨unlaunched, rfl⟩⟩
  · rw [if_neg unlaunched] at done
    obtain ⟨c₂, joined, rfl⟩ := map_eq_ok.mp done
    obtain ⟨c₁, moved, replaced⟩ := bind_eq_ok.mp joined
    exact ⟨c₂, rfl, .inr ⟨unlaunched, c₁, moved, replaced⟩⟩

/-- The pods listed are bound. The node itself is joined only if it is accepted
and nothing failed. -/
theorem updateNode_cases (c : Cluster) (node : Node) (reads : NodeReads) :
    (∃ failure, (accepts node && reads.succeed) = false ∧ (accepts node && failure.isNone) = false ∧
      c.updateNode evictionCost node reads = .ok (c.bindPods (podsBoundBy node reads), failure)) ∨
    ∃ listing limits, accepts node ∧ reads.pods = some listing ∧
      (processed listing).2 ∧ reads.volumeLimits = some limits ∧
      c.updateNode evictionCost node reads = (do
        let c ← (c.bindPods (podsBoundBy node reads)).joinNode evictionCost
          ((c.nodes.lookup (identified node).providerID).getD {}) (identified node)
          (podsBoundBy node reads) limits
        return (c, none)) := by
  unfold updateNode
  cases accepted : accepts node with
  | false =>
    have bound : podsBoundBy node reads = [] := by simp [podsBoundBy, accepted]
    exact .inl ⟨none, rfl, rfl, by rw [bound]; rfl⟩
  | true =>
    cases listed : reads.pods with
    | none =>
      have bound : podsBoundBy node reads = [] := by simp [podsBoundBy, accepted, listed]
      exact .inl ⟨some .listingPods, by simp [NodeReads.succeed, listed], rfl, by rw [bound]; rfl⟩
    | some listing =>
      have bound : podsBoundBy node reads = (processed listing).1 := by
        simp [podsBoundBy, accepted, listed]
      rw [bound]
      cases complete : (processed listing).2 with
      | false =>
        exact .inl ⟨some .trackingVolumes, by simp [NodeReads.succeed, listed, complete], rfl,
          by simp [complete]⟩
      | true =>
        cases limited : reads.volumeLimits with
        | none =>
          exact .inl ⟨some .volumeLimits, by simp [NodeReads.succeed, limited], rfl,
            by simp [complete]⟩
        | some limits => exact .inr ⟨listing, limits, rfl, rfl, complete, rfl, by simp [complete]⟩

theorem setMarkedForDeletion_ensures (marked : Bool) {Fails : ClusterPanic → Prop}
    (Invariant : Cluster → Prop)
    (step : ∀ (c : Cluster) id n, Invariant c → c.nodes.lookup id = some n → Ensures Fails Invariant
        (c.replaceNode id n (some { n with markedForDeletion := marked })))
    {c : Cluster} (start : Invariant c) (ids : List String) :
    Ensures Fails Invariant (c.setMarkedForDeletion marked ids) := by
  refine Ensures.foldlM Invariant ?_ start
  intro c id holds
  cases found : c.nodes.lookup id with
  | none => exact holds
  | some n => exact step c id n holds found

/-- What the handlers put in the place of the state at a provider id. -/
inductive Replacement (c : Cluster) (id : String) : StateNode → Option StateNode → Prop where
  | forgetNode {n : StateNode} (found : c.nodes.lookup id = some n) :
      Replacement c id n (n.nodeClaim.map fun _ => { n with node := none })
  | forgetNodeClaim {n : StateNode} (found : c.nodes.lookup id = some n) :
      Replacement c id n (n.node.map fun _ => { n with nodeClaim := none })
  | mark {n : StateNode} (found : c.nodes.lookup id = some n) (marked : Bool) :
      Replacement c id n (some { n with markedForDeletion := marked })
  | joinNode {oldNode : StateNode} (isOld : oldNode.objects = ((c.nodes.lookup id).getD {}).objects)
      (node : Node) (pods : List (Pod × Volumes)) (limits : GoMap String Nat) :
      Replacement c id oldNode (some (rebuiltNode evictionCost oldNode node pods limits))
  | joinNodeClaim {oldNode : StateNode} (isOld : oldNode = (c.nodes.lookup id).getD {})
      (nodeClaim : NodeClaim) :
      Replacement c id oldNode (some (StateNode.withNodeClaim oldNode nodeClaim))

/-- An invariant that every replacement and every change of a name keeps. -/
structure Keeps (Fails : ClusterPanic → Prop) (Invariant : Cluster → Prop) : Prop where
  missing : ∀ id, Fails (.missingStateNode id)
  renamed : ∀ {c : Cluster} {names claimNames}, Invariant c → Invariant { c with
    nodeNameToProviderID := names, nodeClaimNameToProviderID := claimNames }
  replaced : ∀ {c : Cluster} {id oldNode newNode}, Invariant c →
    Replacement evictionCost c id oldNode newNode →
      Ensures Fails Invariant (c.replaceNode id oldNode newNode)

namespace Keeps

variable {evictionCost} {Fails : ClusterPanic → Prop} {Invariant : Cluster → Prop}
variable (keeps : Keeps evictionCost Fails Invariant) (holds : Invariant c)
include keeps holds

theorem cleanupNode (name : String) : Ensures Fails Invariant (c.cleanupNode name) := by
  rcases c.cleanupNode_cases name with ⟨_, done⟩ | ⟨id, _, _, ⟨_, done⟩ | ⟨n, found, done⟩⟩ <;>
    rw [done]
  · exact holds
  · exact keeps.missing id
  · exact (keeps.replaced holds (.forgetNode found)).map fun _ _ kept => keeps.renamed kept

theorem cleanupNodeClaim (name : String) : Ensures Fails Invariant (c.cleanupNodeClaim name) := by
  rcases c.cleanupNodeClaim_cases name with ⟨_, done⟩ | ⟨id, _, _, ⟨_, done⟩ | ⟨n, found, done⟩⟩ <;>
    rw [done]
  · exact keeps.renamed holds
  · exact keeps.missing id
  · exact (keeps.replaced holds (.forgetNodeClaim found)).map fun _ _ kept => keeps.renamed kept

theorem joinNode {node : Node} {pods : List (Pod × Volumes)} {limits : GoMap String Nat}
    (isOld : oldNode.objects = ((c.nodes.lookup node.providerID).getD {}).objects) :
    Ensures Fails Invariant (c.joinNode evictionCost oldNode node pods limits) := by
  have cleaned : Ensures Fails Invariant (c.cleanupMovedNode node.name node.providerID) := by
    rcases c.cleanupMovedNode_cases node.name node.providerID with ⟨_, stays⟩ | ⟨_, _, _, moves⟩
    · exact stays ▸ holds
    · exact moves ▸ keeps.cleanupNode holds node.name
  refine cleaned.bind fun c₁ moved kept => ?_
  rw [← lookup_cleanupMovedNode moved] at isOld
  exact (keeps.replaced kept (.joinNode isOld node pods limits)).map fun _ _ kept => keeps.renamed kept

theorem updateNodeClaim (nodeClaim : NodeClaim) :
    Ensures Fails Invariant (c.updateNodeClaim nodeClaim) := by
  have cleaned : Ensures Fails Invariant
      (c.cleanupMovedNodeClaim nodeClaim.name nodeClaim.providerID) := by
    rcases c.cleanupMovedNodeClaim_cases nodeClaim.name nodeClaim.providerID with
      ⟨_, stays⟩ | ⟨_, _, _, moves⟩
    · exact stays ▸ holds
    · exact moves ▸ keeps.cleanupNodeClaim holds nodeClaim.name
  unfold Cluster.updateNodeClaim
  by_cases unlaunched : nodeClaim.providerID = ""
  · rw [if_pos unlaunched]
    exact keeps.renamed holds
  · rw [if_neg unlaunched]
    have joined : Ensures Fails Invariant (c.joinNodeClaim nodeClaim) := by
      refine cleaned.bind fun c₁ moved kept => keeps.replaced kept (.joinNodeClaim ?_ nodeClaim)
      rw [lookup_cleanupMovedNodeClaim moved]
    exact joined.map fun _ _ kept => keeps.renamed kept

theorem setMarkedForDeletion (marked : Bool) (ids : List String) :
    Ensures Fails Invariant (c.setMarkedForDeletion marked ids) :=
  setMarkedForDeletion_ensures marked Invariant
    (fun _ _ _ kept found => keeps.replaced kept (.mark found marked)) holds ids

end Keeps

end Cluster

theorem ClusterRun.apply_updateNode_cases (evictionCost : Pod → ℚ) (run : ClusterRun) (node : Node)
    (reads : NodeReads) :
    (accepts node && reads.succeed) = false ∧
        run.apply evictionCost (.updateNode node reads) = .ok { run with
          cluster := run.cluster.bindPods (podsBoundBy node reads)
          boundPods := recordPods run.boundPods (podsBoundBy node reads) } ∨
    ∃ listing limits, accepts node ∧ reads.pods = some listing ∧
      (processed listing).2 ∧ reads.volumeLimits = some limits ∧
      run.apply evictionCost (.updateNode node reads) = (do
        let cluster ← (run.cluster.bindPods (podsBoundBy node reads)).joinNode evictionCost
          ((run.cluster.nodes.lookup (identified node).providerID).getD {})
          (identified node) (podsBoundBy node reads) limits
        return { run with
          cluster := cluster
          liveNodes := run.liveNodes.insert node.name (identified node)
          boundPods := recordPods run.boundPods (podsBoundBy node reads) }) := by
  rcases updateNode_cases evictionCost run.cluster node reads with
    ⟨failure, fails, notJoined, done⟩ | ⟨listing, limits, accepted, listed, complete, limited, joins⟩
  · refine .inl ⟨fails, ?_⟩
    simp only [ClusterRun.apply, done]
    change ok _ = _
    simp only [notJoined, Bool.false_eq_true, if_false]
  · refine .inr ⟨listing, limits, accepted, listed, complete, limited, ?_⟩
    simp only [ClusterRun.apply, joins, bind_assoc, pure_bind, accepted, Option.isNone_none,
      Bool.and_self, if_true]

def ClusterEvent.binding : ClusterEvent → Option (List (Pod × Volumes))
  | .updateNode node reads => some (podsBoundBy node reads)
  | .deleteNode _ | .updateNodeClaim _ | .deleteNodeClaim _ | .markForDeletion _
  | .unmarkForDeletion _ => some []
  | _ => none

theorem ClusterRun.apply_binding {evictionCost : Pod → ℚ} {Fails : ClusterPanic → Prop}
    {Invariant : Cluster → Prop} (keeps : Keeps evictionCost Fails Invariant) (run : ClusterRun)
    {event : ClusterEvent} {pods : List (Pod × Volumes)} (binding : event.binding = some pods)
    (bound : Invariant (run.cluster.bindPods pods)) :
    Ensures Fails (fun run' => Invariant run'.cluster ∧
        run'.boundPods = recordPods run.boundPods pods ∧ run'.copies = run.copies)
      (run.apply evictionCost event) := by
  cases event with
  | updateNode node reads =>
    cases binding
    have isOld := (sameObjects_bindPods (podsBoundBy node reads) run.cluster).getD
    rcases run.apply_updateNode_cases evictionCost node reads with
      ⟨_, done⟩ | ⟨_, _, _, _, _, _, joins⟩
    · rw [done]
      exact ⟨bound, rfl, rfl⟩
    · rw [joins]
      exact (keeps.joinNode bound (isOld _)).map fun _ _ kept => ⟨kept, rfl, rfl⟩
  | deleteNode name =>
    cases binding
    exact (keeps.cleanupNode bound name).map fun _ _ kept => ⟨kept, rfl, rfl⟩
  | updateNodeClaim nodeClaim =>
    cases binding
    exact (keeps.updateNodeClaim bound nodeClaim).map fun _ _ kept => ⟨kept, rfl, rfl⟩
  | deleteNodeClaim name =>
    cases binding
    exact (keeps.cleanupNodeClaim bound name).map fun _ _ kept => ⟨kept, rfl, rfl⟩
  | markForDeletion ids | unmarkForDeletion ids =>
    cases binding
    exact (keeps.setMarkedForDeletion bound _ ids).map fun _ _ kept => ⟨kept, rfl, rfl⟩
  | updatePod _ _ | deletePod _ | simulationCopyNodes | deepCopyNodes | updateCopy _ _ _
  | cleanupCopy _ _ => cases binding

end Kraftsman.State
