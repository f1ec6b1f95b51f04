import Kraftsman.State.StateNode

/-!
Contract: cluster state, kept up to date by the events of nodes, NodeClaims and
pods.

Owns: the tracked nodes by provider id, the names that lead to them, the node
each pod is bound to, and the resources of each NodePool.
Does not own: what the API server answers while an event is handled.
-/

namespace Kraftsman.State

open Apis Data Scheduling

inductive ClusterPanic where
  | missingStateNode (providerID : String)
  | nilNodePoolResources (nodePool : String)
  deriving DecidableEq, Repr

inductive UpdateError where
  | listingPods
  | trackingVolumes
  | volumeLimits
  | nodeNotFound (name : String)
  deriving DecidableEq, Repr

structure Cluster where
  nodes : GoMap String StateNode := ∅
  bindings : GoMap PodKey String := ∅
  nodeNameToProviderID : GoMap String String := ∅
  nodeClaimNameToProviderID : GoMap String String := ∅
  nodePoolResources : GoMap String ResourceList := ∅
  antiAffinityPods : GoMap PodKey Pod := ∅

/-- The pods on a node with their volumes, and the volume limits. Each read can fail. -/
structure NodeReads where
  pods : Option (List (Pod × Option Volumes)) := some []
  volumeLimits : Option (GoMap String Nat) := some ∅

/-- The NodePool of a node and what it adds, nothing if marked for deletion. -/
def contribution : Option StateNode → String × ResourceList
  | none => ("", ∅)
  | some n =>
    if n.node.isNone && n.nodeClaim.isNone then ("", ∅)
    else
      let resources := if n.isMarkedForDeletion then ∅ else n.capacity
      (labelValue n.labels nodePoolLabelKey,
        if resources.entries.isEmpty then resources else resources.insert Resources.node 1)

variable (totals : GoMap String ResourceList) (nodePool : String)

def addNodePool : GoMap String ResourceList :=
  if nodePool ≠ "" ∧ nodePool ∉ totals then totals.insert nodePool ∅ else totals

def subtractResources (resources : ResourceList) :
    Except ClusterPanic (GoMap String ResourceList) :=
  if nodePool = "" ∨ resources.entries = [] then .ok totals
  else
    match totals.lookup nodePool with
    | none => .error (.nilNodePoolResources nodePool)
    | some current => .ok (totals.insert nodePool (Resources.subtractFrom current resources))

def addResources (resources : ResourceList) : GoMap String ResourceList :=
  if nodePool = "" then totals
  else totals.insert nodePool
    (Resources.mergeInto ((totals.lookup nodePool).getD ∅) resources)

def collectGarbage : GoMap String ResourceList :=
  if ((totals.lookup nodePool).getD ∅).entries.all fun entry => entry.2 = 0 then
    totals.erase nodePool
  else totals

namespace Cluster

variable (c : Cluster)

def updateNodePoolResources (oldNode newNode : Option StateNode) : Except ClusterPanic Cluster := do
  let old := contribution oldNode
  let new := contribution newNode
  let totals ← subtractResources (addNodePool c.nodePoolResources new.1) old.1 old.2
  return { c with
    nodePoolResources :=
      collectGarbage (collectGarbage (addResources totals new.1 new.2) old.1) new.1 }

def nodeByName (name : String) : Option (String × StateNode) :=
  let id := (c.nodeNameToProviderID.lookup name).getD ""
  (c.nodes.lookup id).map fun n => (id, n)

def setNode (id : String) (n : Option StateNode) : Cluster :=
  { c with nodes := c.nodes.alter id fun _ => n }

def replaceNode (id : String) (oldNode : StateNode) (newNode : Option StateNode) :
    Except ClusterPanic Cluster := do
  let c ← c.updateNodePoolResources (some oldNode) newNode
  return c.setNode id newNode

def cleanupNodeClaim (name : String) : Except ClusterPanic Cluster :=
  let id := (c.nodeClaimNameToProviderID.lookup name).getD ""
  let forget (c : Cluster) : Cluster :=
    { c with nodeClaimNameToProviderID := c.nodeClaimNameToProviderID.erase name }
  if id = "" then .ok (forget c)
  else
    match c.nodes.lookup id with
    | none => .error (.missingStateNode id)
    | some n => do
      let c ← c.replaceNode id n (n.node.map fun _ => { n with nodeClaim := none })
      return forget c

def cleanupNode (name : String) : Except ClusterPanic Cluster :=
  let id := (c.nodeNameToProviderID.lookup name).getD ""
  if id = "" then .ok c
  else
    match c.nodes.lookup id with
    | none => .error (.missingStateNode id)
    | some n => do
      let c ← c.replaceNode id n (n.nodeClaim.map fun _ => { n with node := none })
      return { c with nodeNameToProviderID := c.nodeNameToProviderID.erase name }

/-- Forget a NodeClaim under the provider id it had before. -/
def cleanupMovedNodeClaim (name id : String) : Except ClusterPanic Cluster :=
  match c.nodeClaimNameToProviderID.lookup name with
  | some oldID => if oldID = id then .ok c else c.cleanupNodeClaim name
  | none => .ok c

def cleanupMovedNode (name id : String) : Except ClusterPanic Cluster :=
  match c.nodeNameToProviderID.lookup name with
  | some oldID => if oldID = id then .ok c else c.cleanupNode name
  | none => .ok c

/-- Take a pod off the node it was bound to before. -/
def cleanupOldBindings (pod : Pod) : Cluster :=
  match c.bindings.lookup (podKey pod) with
  | none => c
  | some oldNodeName =>
    if oldNodeName = pod.nodeName then c
    else
      match c.nodeByName oldNodeName with
      | none => c
      | some (id, oldNode) =>
        { c.setNode id (some (oldNode.cleanupForPod (podKey pod))) with
          bindings := c.bindings.erase (podKey pod) }

def bindPod (pod : Pod) : Cluster :=
  let c := c.cleanupOldBindings pod
  { c with bindings := c.bindings.insert (podKey pod) pod.nodeName }

variable (evictionCost : Pod → ℚ) (c : Cluster)

def updateNodeUsageFromPod (pod : Pod) (volumes : Option Volumes) : Cluster × Option UpdateError :=
  if pod.nodeName = "" then (c, none)
  else
    match c.nodeByName pod.nodeName, volumes with
    | none, _ => (c, some (.nodeNotFound pod.nodeName))
    | some _, none => (c, some .trackingVolumes)
    | some (id, n), some volumes =>
      ((c.setNode id (some (n.updateForPod evictionCost pod volumes))).bindPod pod, none)

/-- Stop tracking a pod that has completed or is gone. -/
def updateNodeUsageFromPodCompletion (key : PodKey) : Cluster :=
  match c.bindings.lookup key with
  | none => c
  | some nodeName =>
    let c := { c with bindings := c.bindings.erase key }
    match c.nodeByName nodeName with
    | none => c
    | some (id, n) => c.setNode id (some (n.cleanupForPod key))

def updatePodAntiAffinities (pod : Pod) : Cluster :=
  { c with
    antiAffinityPods :=
      if pod.hasRequiredPodAntiAffinity then c.antiAffinityPods.insert (podKey pod) pod
      else c.antiAffinityPods.erase (podKey pod) }

def updatePod (pod : Pod) (volumes : Option Volumes) : Cluster × Option UpdateError :=
  if pod.isTerminal then
    ((c.updateNodeUsageFromPodCompletion (podKey pod)).updatePodAntiAffinities pod, none)
  else
    let (c, failure) := c.updateNodeUsageFromPod evictionCost pod volumes
    (c.updatePodAntiAffinities pod, failure)

def deletePod (key : PodKey) : Cluster :=
  { c with antiAffinityPods := c.antiAffinityPods.erase key }.updateNodeUsageFromPodCompletion key

/-- The pods tracked before the first failure, and whether there was none.
Terminal pods are skipped. -/
def processed : List (Pod × Option Volumes) → List (Pod × Volumes) × Bool
  | [] => ([], true)
  | (pod, volumes) :: rest =>
    if pod.isTerminal then processed rest
    else
      match volumes with
      | none => ([], false)
      | some volumes => ((pod, volumes) :: (processed rest).1, (processed rest).2)

/-- The state of a node joined with a NodeClaim. Disruption costs are not carried over. -/
def StateNode.withNodeClaim (oldNode : StateNode) (nodeClaim : NodeClaim) : StateNode :=
  { oldNode with nodeClaim := some nodeClaim, podDisruptionCosts := ∅ }

def rebuiltNode (evictionCost : Pod → ℚ) (oldNode : StateNode) (node : Node)
    (pods : List (Pod × Volumes)) (limits : GoMap String Nat) : StateNode :=
  let empty : StateNode :=
    { node := some node, nodeClaim := oldNode.nodeClaim,
      markedForDeletion := oldNode.markedForDeletion }
  let n := pods.foldl (fun n pod => n.updateForPod evictionCost pod.1 pod.2) empty
  { n with volumeUsage := { n.volumeUsage with limits := limits } }

def joinNodeClaim (nodeClaim : NodeClaim) : Except ClusterPanic Cluster := do
  let id := nodeClaim.providerID
  let oldNode := (c.nodes.lookup id).getD {}
  let c ← c.cleanupMovedNodeClaim nodeClaim.name id
  c.replaceNode id oldNode (some (StateNode.withNodeClaim oldNode nodeClaim))

/-- Track a NodeClaim, and its instance once that is known. -/
def updateNodeClaim (nodeClaim : NodeClaim) : Except ClusterPanic Cluster := do
  let c ← if nodeClaim.providerID = "" then .ok c else c.joinNodeClaim nodeClaim
  return { c with
    nodeClaimNameToProviderID :=
      c.nodeClaimNameToProviderID.insert nodeClaim.name nodeClaim.providerID }

/-- A managed node must have a provider id, and its instance type unless it is initialized. -/
def accepts (node : Node) : Bool :=
  let managed := labelValue node.labels nodePoolLabelKey ≠ ""
  !(managed && (node.providerID = "" ||
    (labelValue node.labels labelInstanceTypeStable = "" &&
      labelValue node.labels nodeInitializedLabelKey = "")))

def identified (node : Node) : Node :=
  if node.providerID = "" then { node with providerID := node.name } else node

def joinNode (oldNode : StateNode) (node : Node) (pods : List (Pod × Volumes))
    (limits : GoMap String Nat) : Except ClusterPanic Cluster := do
  let c ← c.cleanupMovedNode node.name node.providerID
  let c ← c.replaceNode node.providerID oldNode
    (some (rebuiltNode evictionCost oldNode node pods limits))
  return { c with
    nodeNameToProviderID := c.nodeNameToProviderID.insert node.name node.providerID }

def bindPods (pods : List (Pod × Volumes)) : Cluster :=
  pods.foldl (fun c pod => c.bindPod pod.1) c

def updateNode (node : Node) (reads : NodeReads) :
    Except ClusterPanic (Cluster × Option UpdateError) :=
  if !accepts node then .ok (c, none)
  else
    let node := identified node
    let oldNode := (c.nodes.lookup node.providerID).getD {}
    match reads.pods with
    | none => .ok (c, some .listingPods)
    | some listing =>
      let c := c.bindPods (processed listing).1
      if !(processed listing).2 then .ok (c, some .trackingVolumes)
      else
        match reads.volumeLimits with
        | none => .ok (c, some .volumeLimits)
        | some limits => do
          let c ← c.joinNode evictionCost oldNode node (processed listing).1 limits
          return (c, none)

def setMarkedForDeletion (marked : Bool) (c : Cluster) (ids : List String) :
    Except ClusterPanic Cluster :=
  ids.foldlM (fun c id =>
    match c.nodes.lookup id with
    | none => pure c
    | some n => c.replaceNode id n (some { n with markedForDeletion := marked })) c

def markForDeletion (ids : List String) : Except ClusterPanic Cluster :=
  c.setMarkedForDeletion true ids

def unmarkForDeletion (ids : List String) : Except ClusterPanic Cluster :=
  c.setMarkedForDeletion false ids

/-- Copies for a simulation. The totals of the tracked nodes are computed first. -/
def simulationCopyNodes : Cluster × List StateNode :=
  let c := { c with nodes := GoMap.mapValues StateNode.ensureRequestTotals c.nodes }
  (c, c.nodes.values.map (·.simulationCopy))

end Cluster

end Kraftsman.State
