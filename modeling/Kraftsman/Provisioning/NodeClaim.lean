import Kraftsman.Provisioning.Preferences
import Kraftsman.Provisioning.Reservations
import Kraftsman.Provisioning.Topology

/-!
Contract: NodeClaims in flight, the nodes that a scheduling run means to launch.

Owns: templates, which instance types are left for a set of pods, when a
NodeClaim takes one more pod, and what that changes.
Does not own: which NodeClaim a pod is tried on, and the limits of NodePools.
-/

namespace Kraftsman.Provisioning

open Apis CloudProvider Data Data.Strconv Scheduling State

/-- Without reserved capacity left: give up, or launch without it. -/
inductive ReservedOfferingMode where
  | fallback
  | strict
  deriving DecidableEq, Repr

/-- The settings of a scheduler. `allocator`: devices are allocated. -/
structure Options where
  reservedCapacity : Bool := true
  reservedOfferingMode : ReservedOfferingMode := .fallback
  preferencePolicy : PreferencePolicy := .respect
  bestEffortMinValues : Bool := false
  ignoreDRARequests : Bool := false
  allocator : Bool := false

/-- What is computed for the current form of a pod. `resourceClaimError`: its
claims could not be resolved. -/
structure PodData where
  requests : ResourceList
  requirements : Requirements
  strictRequirements : Requirements
  hasResourceClaimRequests : Bool
  volumeRequirements : List Requirements
  resourceClaimError : Bool

/-- The requirements of simulated devices and the names of the instance types that have them. -/
structure Allocation where
  requirements : Requirements
  instanceTypes : List String

/-- The choices made while one pod is tried, by volume alternative: orders of
range loops and device allocation. -/
structure Evaluation where
  groupOrder : Nat → RangeOrder TopologyGroup := fun _ => .listed
  domainOrder : Nat → Nat → RangeOrder String := fun _ _ => .listed
  allocate : Nat → Option Allocation := fun _ => none

structure InstanceTypeFilterError where
  requirementsMet : Bool
  fits : Bool
  hasOffering : Bool
  requirementsAndFits : Bool
  requirementsAndOffering : Bool
  fitsAndOffering : Bool
  minValuesIncompatible : GoMap String Nat
  requirements : Requirements
  podRequests : ResourceList

inductive Rejection where
  | untolerated (taints : List Taint)
  | volumeLimits
  | hostPorts
  | resources
  | requirements (reason : Requirements.CompatibilityError)
  | volumes (reason : Requirements.CompatibilityError)
  | resourceClaims
  | allocation
  | allocatedRequirements (reason : Requirements.CompatibilityError)
  | topology (reason : TopologyError)
  | topologyRequirements (reason : Requirements.CompatibilityError)
  | instanceTypes (reason : InstanceTypeFilterError)
  | allocatedInstanceTypes
  | reservationsUnavailable
  | reservationsLost
  | limits (nodePool : String)

/-- Why a NodePool does not take a pod. An incompatibility follows from these two alone. -/
structure SchedulingError where
  incompatible : Bool := false
  cause : Rejection

/-- Whether the pod was refused to keep reserved capacity for it. -/
def SchedulingError.isReservedOfferingError (error : SchedulingError) : Bool :=
  match error.cause with
  | .reservationsUnavailable | .reservationsLost => true
  | _ => false

structure DaemonOverheadGroup where
  instanceTypes : List InstanceType
  daemonOverhead : ResourceList := ∅
  hostPortUsage : HostPortUsage := ∅

variable (tables : LabelTables)

/-- Whether an instance type meets the requirements, as far as both are defined. -/
def compatible (it : InstanceType) (requirements : Requirements) : Bool :=
  (it.requirements.intersects tables requirements).isEmpty

def launchableGroups (it : InstanceType) (requirements : Requirements) :
    List AllocatableOfferings :=
  it.allocatableOfferingsList.filter fun group => group.offerings.any (·.compatible tables requirements)

/-- Whether the requests fit in an offering that is allowed, and whether there is
such an offering. -/
def fits (it : InstanceType) (requests : ResourceList) (requirements : Requirements) : Bool × Bool :=
  let launchable := launchableGroups tables it requirements
  (launchable.any fun group => Resources.fits requests group.allocatable, !launchable.isEmpty)

/-- How an instance type meets each of the three criteria. -/
structure Criteria where
  instanceType : InstanceType
  compatible : Bool
  fits : Bool
  hasOffering : Bool

def Criteria.met (criteria : Criteria) : Bool :=
  criteria.compatible && criteria.fits && criteria.hasOffering

def DaemonOverheadGroup.totalRequests (group : DaemonOverheadGroup) (requests : ResourceList) :
    ResourceList :=
  if group.daemonOverhead.entries.isEmpty then requests
  else Resources.merge [requests, group.daemonOverhead]

variable (instanceTypes : List InstanceType) (requirements : Requirements)

/-- Judge the eligible instance types of groups that leave the pod's host ports free. -/
def judge (pod : Pod) (groups : List DaemonOverheadGroup) (totalRequests : ResourceList) :
    List Criteria :=
  (groups.filter fun group => !group.hostPortUsage.conflicts pod (getHostPorts pod)).flatMap
    fun group => (group.instanceTypes.filter (· ∈ instanceTypes)).map fun it =>
      let fitting := fits tables it (group.totalRequests totalRequests) requirements
      { instanceType := it, compatible := compatible tables it requirements,
        fits := fitting.1, hasOffering := fitting.2 }

/-- The instance types that are left, the keys for which they list too few values,
and what was lacking. None is left if there are such keys and this cannot be
relaxed. -/
def filterInstanceTypesByRequirements (pod : Pod) (podRequests : ResourceList)
    (groups : List DaemonOverheadGroup) (totalRequests : ResourceList) (relaxMinValues : Bool) :
    List InstanceType × GoMap String Nat × InstanceTypeFilterError :=
  let judged := judge tables instanceTypes requirements pod groups totalRequests
  let remaining := (judged.filter (·.met)).map (·.instanceType)
  let unsatisfiable :=
    if requirements.hasMinValues then (satisfiesMinValues tables remaining requirements).2 else ∅
  let violated := !relaxMinValues && !unsatisfiable.entries.isEmpty
  let error : InstanceTypeFilterError :=
    { requirementsMet := judged.any (·.compatible)
      fits := judged.any (·.fits)
      hasOffering := judged.any (·.hasOffering)
      requirementsAndFits := judged.any fun one => one.compatible && one.fits && !one.hasOffering
      requirementsAndOffering := judged.any fun one => one.compatible && one.hasOffering && !one.fits
      fitsAndOffering := judged.any fun one => one.fits && one.hasOffering && !one.compatible
      minValuesIncompatible := if violated then unsatisfiable else ∅
      requirements := requirements
      podRequests := podRequests }
  (if violated then [] else remaining, unsatisfiable, error)

/-- Ask for no more values than instance types list. -/
def relaxMinValuesTo (unsatisfiable : GoMap String Nat) (requirements : Requirements) :
    Requirements :=
  unsatisfiable.entries.foldl (fun requirements entry =>
    match requirements.lookup entry.1 with
    | none => requirements
    | some requirement =>
      requirements.insert entry.1 { requirement with minValues := some entry.2 }) requirements

structure NodeClaimTemplate where
  nodePoolName : String
  requirements : Requirements
  taints : List Taint := []
  instanceTypeOptions : List InstanceType
  packingPolicy : PackingPolicy := .binpack
  daemonOverheadGroups : List DaemonOverheadGroup

/-- A NodePool's expressions and labels, and the labels of ready nodes. -/
def templateRequirements (nodePool : NodePool) : Requirements :=
  let labels := nodePool.template.labels.insert nodePoolLabelKey nodePool.name
  let labels := nodePool.template.nodeClassRef.elim labels fun ref => labels.insert ref.1 ref.2
  let expressions :=
    Requirements.newNodeSelectorRequirementsWithMinValues tables nodePool.template.requirements
  (((Requirements.newRequirements tables expressions.values).add tables
      (Requirements.newLabelRequirements tables labels).values).add tables
    [.newRequirement tables nodeRegisteredLabelKey .opIn ["true"]]).add tables
    [.newRequirement tables nodeInitializedLabelKey .opIn ["true"]]

/-- The instance types with an offering below a positive price, and those without offerings. -/
def instanceTypesBelowPrice (limit : ℚ) : List InstanceType :=
  if limit ≤ 0 then instanceTypes
  else instanceTypes.filter fun it => it.offerings.isEmpty ||
    (compatibleOfferings tables (availableOfferings it.offerings) requirements).any (·.price < limit)

def emptyPod : Pod := {}

/-- The template of a NodePool without daemon overhead; none if no instance type is left. -/
def nodeClaimTemplateForNodePool (options : Options) (priceLimit : ℚ) (nodePool : NodePool)
    (instanceTypes : List InstanceType) : Option NodeClaimTemplate :=
  let requirements := templateRequirements tables nodePool
  let priced := instanceTypesBelowPrice tables instanceTypes requirements priceLimit
  let (remaining, _, _) := filterInstanceTypesByRequirements tables priced requirements emptyPod ∅
    [{ instanceTypes := priced }] ∅ options.bestEffortMinValues
  if remaining.isEmpty then none
  else
    some
      { nodePoolName := nodePool.name
        requirements := requirements
        taints := nodePool.template.taints
        instanceTypeOptions := remaining
        packingPolicy := packingPolicyForNodePool nodePool.packingPolicyAnnotation
        daemonOverheadGroups := [] }

/-- The forms of a pod as it gives up required node affinity terms. -/
def requiredForms (pod : Pod) : List Pod :=
  match pod.nodeAffinity with
  | some affinity =>
    match affinity.required with
    | some (term :: rest) =>
      ((term :: rest).tails.filter (!·.isEmpty)).map fun terms =>
        { pod with nodeAffinity := some { affinity with required := some terms } }
    | _ => [pod]
  | none => [pod]

/-- The requirements of the forms of a daemon pod that are compatible with the
template. Daemon pods tolerate mere preferences. -/
def daemonPodTemplateRequirements (template : NodeClaimTemplate) (pod : Pod) : List Requirements :=
  let pod := (toleratePreferNoScheduleTaints pod).getD pod
  if !(toleratesPod template.taints pod).isEmpty then []
  else
    ((requiredForms pod).map (Requirements.newStrictPodRequirements tables)).filter fun requirements =>
      template.requirements.isCompatible tables requirements tables.wellKnownLabels

def compatibleDaemonPods (options : Options) (template : NodeClaimTemplate) (daemonSetPods : List Pod)
    (it : InstanceType) : List Pod :=
  daemonSetPods.filter fun pod => !(pod.hasDRARequirements && options.ignoreDRARequests) &&
    (daemonPodTemplateRequirements tables template pod).any fun requirements =>
      (it.requirements.intersects tables requirements).isEmpty

def insertByOverhead (daemons : List Pod) (overhead : ResourceList) (it : InstanceType) :
    List (List Pod × DaemonOverheadGroup) → List (List Pod × DaemonOverheadGroup)
  | [] =>
    [(daemons,
      { instanceTypes := [it]
        daemonOverhead := overhead
        hostPortUsage := daemons.foldl (fun usage pod => usage.add pod (getHostPorts pod)) ∅ })]
  | (grouped, group) :: rest =>
    if decide ((grouped.map podKey).Perm (daemons.map podKey)) &&
        sameResources group.daemonOverhead overhead then
      (grouped, { group with instanceTypes := group.instanceTypes ++ [it] }) :: rest
    else (grouped, group) :: insertByOverhead daemons overhead it rest

def buildDaemonOverheadGroupsForTemplate (options : Options)
    (computeOverhead : NodeClaimTemplate → InstanceType → List Pod → ResourceList)
    (template : NodeClaimTemplate) (daemonSetPods : List Pod) : List DaemonOverheadGroup :=
  (template.instanceTypeOptions.foldl (fun groups it =>
    let daemons := compatibleDaemonPods tables options template daemonSetPods it
    insertByOverhead daemons (computeOverhead template it daemons) it groups) []).map (·.2)

/-- A NodeClaim in flight. `instanceTypesBeforeLimits` is set if limits have removed some. -/
structure NodeClaim where
  nodePoolName : String
  requirements : Requirements
  taints : List Taint
  instanceTypeOptions : List InstanceType
  packingPolicy : PackingPolicy
  requests : ResourceList
  pods : List Pod
  daemonOverheadGroups : List DaemonOverheadGroup
  hostname : String
  reservedOfferings : List Offering
  instanceTypesBeforeLimits : Option (List InstanceType)

/-- The name until the launch, with at least four digits. -/
def placeholder (nodeID : Nat) : String :=
  let digits := formatDigits nodeID
  "hostname-placeholder-" ++ String.ofList (List.replicate (4 - digits.length) '0' ++ digits)

def newNodeClaim (template : NodeClaimTemplate) (instanceTypes : List InstanceType) (nodeID : Nat) :
    NodeClaim where
  nodePoolName := template.nodePoolName
  requirements :=
    (Requirements.newRequirements tables template.requirements.values).add tables
      [.newRequirement tables labelHostname .opIn [placeholder nodeID]]
  taints := template.taints
  instanceTypeOptions := instanceTypes
  packingPolicy := template.packingPolicy
  requests := ∅
  pods := []
  daemonOverheadGroups := template.daemonOverheadGroups
  hostname := placeholder nodeID
  reservedOfferings := []
  instanceTypesBeforeLimits :=
    if instanceTypes.length = template.instanceTypeOptions.length then none
    else some template.instanceTypeOptions

structure Placement where
  requirements : Requirements
  instanceTypes : List InstanceType
  offeringsToReserve : List Offering

def narrowable (topology : Topology) (pod : Pod) (podData : PodData) : Bool :=
  !podData.volumeRequirements.isEmpty || podData.hasResourceClaimRequests || topology.constrains pod

/-- Why a NodePool could not take a pod even without limits; none if it can, or if
that depends on the run. -/
def incompatibleIgnoringLimits (requirements : Requirements) (taints : List Taint)
    (topology : Topology) (groups : List DaemonOverheadGroup) (instanceTypes : List InstanceType)
    (pod : Pod) (podData : PodData) (relaxMinValues : Bool) : Option Rejection :=
  match toleratesPod taints pod with
  | taint :: rest => some (.untolerated (taint :: rest))
  | [] =>
    match requirements.compatible tables podData.requirements tables.wellKnownLabels with
    | .error reason => some (.requirements reason)
    | .ok _ =>
      if narrowable topology pod podData then none
      else
        let combined := (Requirements.newRequirements tables requirements.values).add tables
          podData.requirements.values
        let (remaining, _, error) := filterInstanceTypesByRequirements tables instanceTypes
          combined pod podData.requests groups podData.requests relaxMinValues
        if remaining.isEmpty then some (.instanceTypes error) else none

namespace NodeClaim

variable (claim : NodeClaim)

def addCompatible (reject : Requirements.CompatibilityError → Rejection)
    (requirements added : Requirements) : Except SchedulingError Requirements :=
  match requirements.compatible tables added tables.wellKnownLabels with
  | .error reason => .error { cause := reject reason }
  | .ok _ => .ok (requirements.add tables added.values)

variable (topology : Topology)

variable (pod : Pod) (podData : PodData)

/-- Whether the pod can never join, given that no instance type was left. -/
def instanceTypeFilterFailureIsInvariant (relaxMinValues : Bool) : Bool :=
  !narrowable topology pod podData &&
    match claim.instanceTypesBeforeLimits with
    | none => true
    | some instanceTypes =>
      (incompatibleIgnoringLimits tables claim.requirements claim.taints topology
        claim.daemonOverheadGroups instanceTypes pod podData relaxMinValues).isSome

def narrowByDevices (options : Options) (podData : PodData) (allocate : Option Allocation)
    (requirements : Requirements) : Except SchedulingError (Requirements × Option Allocation) :=
  if podData.hasResourceClaimRequests && options.allocator then
    if podData.resourceClaimError then .error { cause := .resourceClaims }
    else
      match allocate with
      | none => .error { cause := .allocation }
      | some allocation =>
        (addCompatible tables .allocatedRequirements requirements allocation.requirements).map
          fun narrowed => (narrowed, some allocation)
  else .ok (requirements, none)

def narrowByTopology (groupOrder : RangeOrder TopologyGroup) (domainOrder : Nat → RangeOrder String)
    (pod : Pod) (podData : PodData) (requirements : Requirements) :
    Except SchedulingError Requirements :=
  match topology.addRequirements tables groupOrder domainOrder pod claim.taints
      podData.strictRequirements requirements with
  | .error reason => .error { cause := .topology reason }
  | .ok topologyRequirements =>
    addCompatible tables .topologyRequirements requirements topologyRequirements

/-- The instance types left once the pod joins, among those with the allocated
devices. Requirements may come back with lower minimum numbers of values. -/
def narrowInstanceTypes (relaxMinValues : Bool) (allocation : Option Allocation)
    (requirements : Requirements) :
    Except SchedulingError (Requirements × List InstanceType) :=
  let requests := Resources.merge [claim.requests, podData.requests]
  let (remaining, unsatisfiable, error) := filterInstanceTypesByRequirements tables
    claim.instanceTypeOptions requirements pod podData.requests claim.daemonOverheadGroups requests
    relaxMinValues
  let requirements :=
    if relaxMinValues then relaxMinValuesTo unsatisfiable requirements else requirements
  if remaining.isEmpty then
    .error
      { incompatible :=
          claim.instanceTypeFilterFailureIsInvariant tables topology pod podData relaxMinValues
        cause := .instanceTypes error }
  else
    match allocation with
    | none => .ok (requirements, remaining)
    | some allocation =>
      let supported := remaining.filter fun it => allocation.instanceTypes.contains it.name
      if supported.isEmpty then .error { cause := .allocatedInstanceTypes }
      else .ok (requirements, supported)

variable (options : Options) (topology : Topology)

/-- What a pod narrows the NodeClaim to: by volumes, devices and topology in turn,
and then the instance types. -/
def narrow (evaluation : Evaluation) (alternative : Nat) (pod : Pod) (podData : PodData)
    (baseRequirements volumeRequirements : Requirements) (relaxMinValues : Bool) :
    Except SchedulingError (Requirements × List InstanceType) := do
  let requirements ← addCompatible tables .volumes baseRequirements volumeRequirements
  let (requirements, allocation) ←
    narrowByDevices tables options podData (evaluation.allocate alternative) requirements
  let requirements ← claim.narrowByTopology tables topology (evaluation.groupOrder alternative)
    (evaluation.domainOrder alternative) pod podData requirements
  claim.narrowInstanceTypes tables topology pod podData relaxMinValues allocation requirements

def reservedCandidates : List Offering :=
  (instanceTypes.flatMap (·.offerings)).filter fun offering =>
    offering.capacityType tables = capacityTypeReserved && offering.available &&
      offering.compatible tables requirements

def reservable (manager : ReservationManager) (hostname : String) :
    List Offering → Except ReservationPanic (List Offering)
  | [] => .ok []
  | offering :: rest => do
    let can ← manager.canReserve tables hostname offering
    let others ← reservable manager hostname rest
    return if can then offering :: others else others

/-- The reserved offerings it would hold. Without fallback, it has to get some if
it could launch from reserved capacity, and to keep some if it has any. -/
def offeringsToReserve (options : Options) (manager : ReservationManager)
    (instanceTypes : List InstanceType) (requirements : Requirements) :
    Except ReservationPanic (Except SchedulingError (List Offering)) :=
  if !options.reservedCapacity then .ok (.ok [])
  else do
    let candidates := reservedCandidates tables instanceTypes requirements
    let reserved ← reservable tables manager claim.hostname candidates
    if options.reservedOfferingMode = .strict then
      if !candidates.isEmpty && reserved.isEmpty then
        return .error { cause := .reservationsUnavailable }
      else if !claim.reservedOfferings.isEmpty && reserved.isEmpty then
        return .error { cause := .reservationsLost }
      else return .ok reserved
    else return .ok reserved

variable (manager : ReservationManager)

def tryVolumeAlternative (evaluation : Evaluation) (pod : Pod) (podData : PodData)
    (baseRequirements : Requirements) (relaxMinValues : Bool) (alternative : Nat)
    (volumeRequirements : Requirements) :
    Except ReservationPanic (Except SchedulingError Placement) :=
  match claim.narrow tables options topology evaluation alternative pod podData baseRequirements
      volumeRequirements relaxMinValues with
  | .error error => .ok (.error error)
  | .ok (requirements, instanceTypes) =>
    (claim.offeringsToReserve tables options manager instanceTypes requirements).map fun offerings =>
      offerings.map fun offerings =>
        { requirements := requirements, instanceTypes := instanceTypes,
          offeringsToReserve := offerings }

def tryAlternatives
    (attempt : Nat → Requirements → Except ReservationPanic (Except SchedulingError Placement)) :
    Nat → List Requirements → Except ReservationPanic (Except (List SchedulingError) Placement)
  | _, [] => .ok (.error [])
  | index, volumeRequirements :: rest =>
    match attempt index volumeRequirements with
    | .error panic => .error panic
    | .ok (.ok placement) => .ok (.ok placement)
    | .ok (.error error) =>
      (tryAlternatives attempt (index + 1) rest).map fun outcome =>
        outcome.mapError (error :: ·)

/-- The error of the last alternative, an incompatibility only if all are. -/
def alternativesError (errors : List SchedulingError) : SchedulingError :=
  let last := errors.getLastD { cause := .resources }
  { last with incompatible := last.incompatible && errors.all (·.incompatible) }

/-- The volume alternatives of a pod, by default one without requirements. -/
def volumeAlternatives (podData : PodData) : List Requirements :=
  if podData.volumeRequirements.isEmpty then [∅] else podData.volumeRequirements

def canAdd (evaluation : Evaluation) (pod : Pod) (podData : PodData) (relaxMinValues : Bool) :
    Except ReservationPanic (Except SchedulingError Placement) :=
  match toleratesPod claim.taints pod with
  | taint :: rest =>
    .ok (.error { incompatible := true, cause := .untolerated (taint :: rest) })
  | [] =>
    match claim.requirements.compatible tables podData.requirements tables.wellKnownLabels with
    | .error reason => .ok (.error { incompatible := true, cause := .requirements reason })
    | .ok _ =>
      let base := (Requirements.newRequirements tables claim.requirements.values).add tables
        podData.requirements.values
      (tryAlternatives (claim.tryVolumeAlternative tables options topology manager evaluation pod
        podData base relaxMinValues) 0 (volumeAlternatives podData)).map fun outcome =>
          outcome.mapError alternativesError

def releaseReservedOfferings (updated : List Offering) : ReservationManager :=
  (claim.reservedOfferings.filter fun offering =>
      offering.reservationID tables ∉ updated.map (·.reservationID tables)).foldl
    (fun manager offering => manager.release tables claim.hostname offering) manager

def placed (placement : Placement) : NodeClaim :=
  { claim with
    pods := claim.pods ++ [pod]
    instanceTypeOptions := placement.instanceTypes
    requests := Resources.merge [claim.requests, podData.requests]
    requirements := placement.requirements
    daemonOverheadGroups := claim.daemonOverheadGroups.map fun group =>
      { group with hostPortUsage := group.hostPortUsage.add pod (getHostPorts pod) }
    reservedOfferings := placement.offeringsToReserve }

def recordIn (pod : Pod) (placement : Placement) : Topology :=
  (topology.register labelHostname claim.hostname).record tables pod claim.taints
    placement.requirements

/-- Put the pod on the NodeClaim: count it, reserve what is launched from, and
release what is given up. -/
def add (pod : Pod) (podData : PodData) (placement : Placement) :
    Except ReservationPanic (NodeClaim × Topology × ReservationManager) := do
  let manager ← manager.reserve tables claim.hostname placement.offeringsToReserve
  return (claim.placed pod podData placement, claim.recordIn tables topology pod placement,
    claim.releaseReservedOfferings tables manager placement.offeringsToReserve)

end NodeClaim

end Kraftsman.Provisioning
