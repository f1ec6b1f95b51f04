import Kraftsman.Provisioning.NodeClaim

/-!
Contract: nodes that exist when a scheduling run starts.

Owns: what is left on a node, when it takes one more pod, and what that changes.
Does not own: which node a pod is tried on.
-/

namespace Kraftsman.Provisioning

open Apis Data Scheduling State

structure ExistingNode where
  stateNode : StateNode
  cachedTaints : List Taint
  pods : List Pod := []
  remainingResources : ResourceList
  requirements : Requirements
  isUnderConsolidateAfter : Bool := false

variable (tables : LabelTables)

def existingNodeRequirements (node : StateNode) : Requirements :=
  (Requirements.newRequirements tables
      (Requirements.newLabelRequirements tables node.labels).values).add tables
    [.newRequirement tables labelHostname .opIn [node.hostName]]

def isDaemonPodCompatibleWithNode (pod : Pod) (taints : List Taint) (requirements : Requirements) :
    Bool :=
  (toleratesPod taints pod).isEmpty &&
    requirements.isCompatible tables (.newStrictPodRequirements tables pod) ∅

def getCompatibleDaemonPods (options : Options) (node : StateNode) (daemonSetPods : List Pod) :
    List Pod :=
  daemonSetPods.filter fun pod => !(pod.hasDRARequirements && options.ignoreDRARequests) &&
    isDaemonPodCompatibleWithNode tables pod node.taints (.newLabelRequirements tables node.labels)

/-- What is left once missing daemon pods have come. Unexpected ones are not counted twice. -/
def existingNodeResources (node : StateNode) (daemonResources : ResourceList) : ResourceList :=
  let missing := (Resources.subtractFrom daemonResources node.totalDaemonSetRequests).mapValues
    fun quantity => max quantity 0
  Resources.subtract node.available missing

def newExistingNode (options : Options) (daemonSetPods : List Pod) (underConsolidateAfter : Bool)
    (node : StateNode) : ExistingNode where
  stateNode := node
  cachedTaints := node.taints
  remainingResources := existingNodeResources node
    (Resources.requestsForPods (getCompatibleDaemonPods tables options node daemonSetPods))
  requirements := existingNodeRequirements tables node
  isUnderConsolidateAfter := underConsolidateAfter

namespace ExistingNode

variable (node : ExistingNode)

/-- Add requirements that must be compatible with the node's, which has all its labels. -/
def addCompatible (reject : Requirements.CompatibilityError → Rejection)
    (requirements added : Requirements) : Except Rejection Requirements :=
  match requirements.compatible tables added ∅ with
  | .error reason => .error (reject reason)
  | .ok _ => .ok (requirements.add tables added.values)

def tryVolumeAlternative (topology : Topology) (groupOrder : RangeOrder TopologyGroup)
    (domainOrder : Nat → RangeOrder String) (pod : Pod) (podData : PodData)
    (baseRequirements volumeRequirements : Requirements) : Except Rejection Requirements := do
  let requirements ← addCompatible tables .volumes baseRequirements volumeRequirements
  match topology.addRequirements tables groupOrder domainOrder pod node.cachedTaints
      podData.strictRequirements requirements with
  | .error reason => .error (.topology reason)
  | .ok topologyRequirements =>
    addCompatible tables .topologyRequirements requirements topologyRequirements

/-- The first alternative with devices, or the last error. Unresolved claims end the search. -/
def tryAlternatives (options : Options) (podData : PodData) (allocate : Nat → Option Allocation)
    (attempt : Nat → Requirements → Except Rejection Requirements) :
    Nat → List Requirements → Rejection → Except Rejection Requirements
  | _, [], last => .error last
  | index, volumeRequirements :: rest, _ =>
    match attempt index volumeRequirements with
    | .error reason => tryAlternatives options podData allocate attempt (index + 1) rest reason
    | .ok requirements =>
      if podData.hasResourceClaimRequests && options.allocator then
        if podData.resourceClaimError then .error .resourceClaims
        else
          match allocate index with
          | none =>
            tryAlternatives options podData allocate attempt (index + 1) rest .allocation
          | some _ => .ok requirements
      else .ok requirements

def canAdd (options : Options) (topology : Topology) (evaluation : Evaluation) (pod : Pod)
    (podData : PodData) (volumes : Volumes) : Except Rejection Requirements :=
  match toleratesPod node.cachedTaints pod with
  | taint :: rest => .error (.untolerated (taint :: rest))
  | [] =>
    if node.stateNode.volumeUsage.exceedsLimits volumes then .error .volumeLimits
    else if node.stateNode.hostPortUsage.conflicts pod (getHostPorts pod) then .error .hostPorts
    else if !Resources.fits podData.requests node.remainingResources then .error .resources
    else
      match node.requirements.compatible tables podData.requirements ∅ with
      | .error reason => .error (.requirements reason)
      | .ok _ =>
        let base := (Requirements.newRequirements tables node.requirements.values).add tables
          podData.requirements.values
        tryAlternatives options podData evaluation.allocate
          (fun alternative volumeRequirements =>
            node.tryVolumeAlternative tables topology (evaluation.groupOrder alternative)
              (evaluation.domainOrder alternative) pod podData base volumeRequirements)
          0 (NodeClaim.volumeAlternatives podData) .resources

def placed (pod : Pod) (podData : PodData) (requirements : Requirements) (volumes : Volumes) :
    ExistingNode :=
  { node with
    pods := node.pods ++ [pod]
    remainingResources := Resources.subtractFrom node.remainingResources podData.requests
    requirements := requirements
    stateNode := { node.stateNode with
      hostPortUsage := node.stateNode.hostPortUsage.add pod (getHostPorts pod)
      volumeUsage := node.stateNode.volumeUsage.addFor (podKey pod) volumes } }

/-- Initialized nodes first, then by name. -/
def precedes (left right : ExistingNode) : Bool :=
  if left.stateNode.initialized = right.stateNode.initialized then
    left.stateNode.name ≤ right.stateNode.name
  else left.stateNode.initialized

end ExistingNode

end Kraftsman.Provisioning
