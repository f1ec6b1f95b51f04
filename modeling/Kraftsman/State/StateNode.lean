import Kraftsman.Scheduling.Usage
import Kraftsman.Utils.Resources

/-!
Contract: a node as cluster state tracks it, joined from a node and a NodeClaim.

Owns: which of the two decides a property, the requests and costs of the pods
with their memoized totals, and copies.
Does not own: which objects and pods belong to which tracked node.
-/

namespace Kraftsman.State

open Apis Data Scheduling

abbrev PodKey := String × String

def podKey (pod : Pod) : PodKey := (pod.nameSpace, pod.name)

/-- A tracked node. Totals are memoized sums, absent unless computed since the last change. -/
structure StateNode where
  node : Option Node := none
  nodeClaim : Option NodeClaim := none
  daemonSetRequests : GoMap PodKey ResourceList := ∅
  podRequests : GoMap PodKey ResourceList := ∅
  podDisruptionCosts : GoMap PodKey ℚ := ∅
  podRequestsTotal : Option ResourceList := none
  daemonSetRequestsTotal : Option ResourceList := none
  hostPortUsage : HostPortUsage := ∅
  volumeUsage : VolumeUsage := {}
  markedForDeletion : Bool := false

namespace StateNode

variable (n : StateNode)

def managed : Bool := n.nodeClaim.isSome

def registered : Bool :=
  !n.managed || n.node.any fun node => labelValue node.labels nodeRegisteredLabelKey = "true"

/-- Whether the node is ready for pods; unmanaged ones always are. -/
def initialized : Bool :=
  !n.managed || n.node.any fun node => labelValue node.labels nodeInitializedLabelKey = "true"

/-- The name of the node once registered, until then that of its NodeClaim. -/
def name : String :=
  match n.node, n.nodeClaim with
  | none, claim => claim.elim "" (·.name)
  | some node, none => node.name
  | some node, some claim => if n.registered then node.name else claim.name

def labels : GoMap String String :=
  match n.node, n.nodeClaim with
  | none, claim => claim.elim ∅ (·.labels)
  | some node, none => node.labels
  | some node, some claim => if n.registered then node.labels else claim.labels

def providerID : String :=
  match n.node with
  | none => n.nodeClaim.elim "" (·.providerID)
  | some node => node.providerID

def hostName : String :=
  let label := labelValue n.labels labelHostname
  if label = "" then n.name else label

/-- The taints that stay: those of startup do not count until a managed node is initialized. -/
def taints : List Taint :=
  let claimed := n.nodeClaim.elim [] (·.taints)
  let taints := if !n.registered && n.managed then claimed else n.node.elim claimed (·.taints)
  if !n.initialized && n.managed then
    taints.filter fun taint => !(isKnownEphemeralTaint taint ||
      (n.nodeClaim.elim [] (·.startupTaints)).any (·.matchTaint taint))
  else taints

/-- The NodeClaim fills in for what is missing or zero. -/
def fillZeros (reported claimed : ResourceList) : ResourceList :=
  GoMap.rangeAlter (fun _ quantity current =>
    some (if current.getD 0 = 0 then quantity else current.getD 0)) claimed reported

/-- Until the node is initialized, the lists of node and NodeClaim are merged. -/
def joined (ofNode : Node → ResourceList) (ofClaim : NodeClaim → ResourceList) : ResourceList :=
  match n.nodeClaim, n.node with
  | some claim, some node =>
    if n.initialized then ofNode node else fillZeros (ofNode node) (ofClaim claim)
  | some claim, none => ofClaim claim
  | none, node => node.elim ∅ ofNode

def capacity : ResourceList := (n.joined (·.capacity) (·.capacity)).insert Resources.node 1

def allocatable : ResourceList := n.joined (·.allocatable) (·.allocatable)

/-- Whether the object that owns the instance is going away. -/
def deleted : Bool :=
  match n.nodeClaim with
  | some claim => claim.deleting || claim.instanceTerminating
  | none => n.node.any (·.deleting)

def isMarkedForDeletion : Bool := n.markedForDeletion || n.deleted

def totalPodRequests : ResourceList :=
  n.podRequestsTotal.getD (Resources.merge n.podRequests.values)

def totalDaemonSetRequests : ResourceList :=
  n.daemonSetRequestsTotal.getD (Resources.merge n.daemonSetRequests.values)

def available : ResourceList := Resources.subtract n.allocatable n.totalPodRequests

def disruptionCost : ℚ := 1 + n.podDisruptionCosts.values.sum

/-- Track a pod. Daemon pods are tracked twice; others count for the disruption
cost if evicting them costs anything. -/
def updateForPod (evictionCost : Pod → ℚ) (pod : Pod) (volumes : Volumes) : StateNode :=
  let key := podKey pod
  let requests := Resources.requestsForPods [pod]
  { n with
    podRequests := n.podRequests.insert key requests
    podRequestsTotal := none
    daemonSetRequests :=
      if pod.ownedByDaemonSet then n.daemonSetRequests.insert key requests
      else n.daemonSetRequests
    daemonSetRequestsTotal := if pod.ownedByDaemonSet then none else n.daemonSetRequestsTotal
    podDisruptionCosts :=
      if pod.ownedByDaemonSet then n.podDisruptionCosts
      else if evictionCost pod > 0 then n.podDisruptionCosts.insert key (evictionCost pod)
      else n.podDisruptionCosts.erase key
    hostPortUsage := n.hostPortUsage.add pod (getHostPorts pod)
    volumeUsage := n.volumeUsage.addFor key volumes }

def cleanupForPod (key : PodKey) : StateNode :=
  { n with
    hostPortUsage := n.hostPortUsage.erase key
    volumeUsage := n.volumeUsage.deletePod key
    podRequests := n.podRequests.erase key
    daemonSetRequests := n.daemonSetRequests.erase key
    podDisruptionCosts := n.podDisruptionCosts.erase key
    podRequestsTotal := none
    daemonSetRequestsTotal := none }

def ensureRequestTotals : StateNode :=
  { n with
    podRequestsTotal := some n.totalPodRequests
    daemonSetRequestsTotal := some n.totalDaemonSetRequests }

/-- A copy for a simulation, with its own maps and computed totals. -/
def simulationCopy : StateNode :=
  { n with
    podRequestsTotal := some n.totalPodRequests
    daemonSetRequestsTotal := some n.totalDaemonSetRequests }

end StateNode

end Kraftsman.State
