import Kraftsman.DynamicResources.Search

/-!
Contract: allocating the claims of a pod on a NodeClaim.

Owns: the classification of claims, the search over instance types, commits and
releases.
Does not own: which pods are tried on which NodeClaims.
-/

namespace Kraftsman.DynamicResources

open Apis Data Scheduling

/-! ### State -/

structure DeviceAllocationResult where
  deviceID : DeviceID
  consumedCapacity : Option Capacities

/-- The allocation of a claim in this loop, by instance type of its NodeClaim. -/
structure ResourceClaimAllocationMetadata where
  nodeClaimID : NodeClaimID
  contributedRequirements : GoMap InstanceTypeID Requirements := ∅
  /-- The contributed requirements of all instance types. -/
  totalRequirements : Requirements := ∅
  /-- Template devices bind the claim to its NodeClaim. -/
  usedTemplateDevices : Bool := false
  devices : GoMap InstanceTypeID (List DeviceAllocationResult) := ∅

/-- A successful allocation that is not committed yet. -/
structure Allocation extends TrackedAllocation where
  claimMetadata : GoMap ResourceClaimID ResourceClaimAllocationMetadata
  filteredPools : List Pool

/-- The result for a pod. There is nothing to commit if all claims were allocated. -/
structure AllocationResult where
  instanceTypes : List InstanceTypeID
  requirements : Requirements
  allocation : Option Allocation := none

/-- The state the pods of a scheduling loop share. -/
structure Allocator where
  allocationTracker : AllocationTracker
  /-- The pools last seen from each NodeClaim. -/
  poolCache : GoMap NodeClaimID (List Pool) := ∅
  claimAllocationMetadata : GoMap ResourceClaimID ResourceClaimAllocationMetadata := ∅

/-- The order pools are gathered in and when the deadline passes. -/
structure Oracle where
  poolOrder : List Pool → List Pool
  poolOrder_perm : ∀ pools, (poolOrder pools).Perm pools
  polls : Nat

inductive AllocateError where
  | inClusterTopology (claim : ResourceClaimID)
  | boundToOtherNodeClaim (claim : ResourceClaimID)
  | inMemoryTopology (claim : ResourceClaimID)
  | validatingClaim (claim : ResourceClaimID) (error : ClaimError)
  | deadlineExceeded
  | noInstanceType
  deriving DecidableEq

def AllocateError.message : AllocateError → String
  | .inClusterTopology _ =>
    "in-cluster allocation topology is incompatible with NodeClaim requirements"
  | .boundToOtherNodeClaim _ => "claim is bound to a different in-flight NodeClaim"
  | .inMemoryTopology _ =>
    "in-memory allocation topology is incompatible with NodeClaim requirements"
  | .validatingClaim claim error => s!"validating claim \"{claim.name}\": {error.message claim.name}"
  | .deadlineExceeded => "context deadline exceeded"
  | .noInstanceType => "no instance type can satisfy the allocation"

variable (env : Environment)

/-- An allocator that gives every pool its counter budget. -/
def newAllocator (allocatedState : AllocatedDeviceState) : Allocator where
  allocationTracker := (newAllocationTracker allocatedState).initPools
    (gatherPools env.tables env.inClusterSlices ∅ "")

/-! ### Classification -/

/-- Whether a claim has consumers, all of them pods going away. -/
def claimReservedEntirelyByDeletingPods (claim : ResourceClaim) : Bool :=
  !claim.reservedFor.isEmpty && claim.reservedFor.all fun ref =>
    ref.resource = "pods" && ref.apiGroup = "" && decide (ref.uid ∈ env.deletingPodUIDs)

structure ClassificationResult where
  unallocatedClaims : List ResourceClaim
  requirements : Requirements

/-- Migrating, allocated on the API server, allocated in this loop, or
unallocated, in this order. -/
def classifyClaim (allocator : Allocator) (nodeClaim : NodeClaim) (result : ClassificationResult)
    (claim : ResourceClaim) :
    Except AllocateError ClassificationResult :=
  let tighten := fun (requirements : Requirements) (error : AllocateError) =>
    if result.requirements.isCompatible env.tables requirements env.tables.wellKnownLabels then
      .ok { result with
        requirements := result.requirements.add env.tables requirements.values }
    else .error error
  match claim.allocation with
  | some nodeSelector =>
    if claimReservedEntirelyByDeletingPods env claim then
      .ok { result with unallocatedClaims := result.unallocatedClaims ++ [claim] }
    else
      match nodeSelector with
      | none => .ok result
      | some terms =>
        tighten (nodeSelectorsToRequirements env.tables terms) (.inClusterTopology claim.id)
  | none =>
    match allocator.claimAllocationMetadata.lookup claim.id with
    | none => .ok { result with unallocatedClaims := result.unallocatedClaims ++ [claim] }
    | some metadata =>
      if metadata.usedTemplateDevices then
        if metadata.nodeClaimID ≠ nodeClaim.id then .error (.boundToOtherNodeClaim claim.id)
        else .ok result
      else if metadata.totalRequirements.entries.isEmpty then .ok result
      else tighten metadata.totalRequirements (.inMemoryTopology claim.id)

/-- Classify claims against requirements that tighten on the way. -/
def classifyClaims (allocator : Allocator) (nodeClaim : NodeClaim) (claims : List ResourceClaim) :
    Except AllocateError ClassificationResult :=
  claims.foldlM (classifyClaim env allocator nodeClaim)
    { unallocatedClaims := []
      requirements := copyRequirements env.tables nodeClaim.requirements }

/-! ### Template devices -/

def templateSliceDevices (slices : List ResourceSlice) : List DeviceWithID :=
  slices.flatMap fun slice => slice.devices.map fun device =>
    { device := device
      id := { driver := slice.driver, pool := slice.pool, device := device.name, template := true } }

def templateDevicesByIT (nodeClaim : NodeClaim) : GoMap InstanceTypeID (List DeviceWithID) :=
  GoMap.rangeAlter (fun _ slices _ =>
    if (templateSliceDevices slices).isEmpty then none else some (templateSliceDevices slices))
    nodeClaim.resourceSlices ∅

def computeTemplateTotals (slices : List ResourceSlice) : Option PoolCounters :=
  slices.foldl (fun totals slice =>
    match slice.sharedCounters with
    | none | some [] => totals
    | some sharedCounters =>
      let totals := totals.getD ∅
      let counterSets := sharedCounters.foldl (fun counterSets set =>
        counterSets.insert set.name (GoMap.rangeAlter (fun _ counter _ => some counter)
          set.counters ((counterSets.lookup set.name).getD ∅)))
        ((totals.lookup slice.poolKey).getD ∅)
      some (totals.insert slice.poolKey counterSets)) none

variable (tracker : AllocationTracker) (nodeClaim : NodeClaim)

/-- The template budgets of an instance type: what is left of them, or the totals of its slices. -/
def buildTemplateCounters (itID : InstanceTypeID) : Option PoolCounters :=
  match tracker.templateRemainingForIT nodeClaim.id itID with
  | some remaining => some remaining
  | none => (nodeClaim.resourceSlices.lookup itID).bind computeTemplateTotals

/-! ### Allocation -/

/-- What the instance types evaluated so far have led to. -/
structure InstanceTypeResults where
  survivingITs : List InstanceTypeID := []
  tracked : TrackedAllocation
  claimMetadata : List ResourceClaimAllocationMetadata
  requirements : Requirements
  deviceMatchesRequest : GoMap MatchKey Bool := ∅
  tested : List (InstanceTypeID × MatchKey) := []
  pollsLeft : Nat

def addTopology (tables : LabelTables) (requirements : Requirements) (dw : DeviceWithID) :
    Requirements :=
  match dw.topologyRequirements with
  | none => requirements
  | some topology => requirements.add tables topology.values

def recordDevice (tables : LabelTables) (itID : InstanceTypeID)
    (taken : DeviceAllocationMetadata) (metadata : ResourceClaimAllocationMetadata) :
    ResourceClaimAllocationMetadata :=
  { metadata with
    contributedRequirements :=
      match taken.deviceWithID.topologyRequirements with
      | none => metadata.contributedRequirements
      | some topology => metadata.contributedRequirements.alter itID fun contributed =>
        some ((contributed.getD ∅).add tables topology.values)
    usedTemplateDevices := metadata.usedTemplateDevices || taken.deviceWithID.id.template
    devices := metadata.devices.alter itID fun devices => some (devices.getD [] ++
      [{ deviceID := taken.deviceWithID.id, consumedCapacity := taken.consumedCapacity }]) }

def searchContext (itID : InstanceTypeID) : SearchContext where
  env := env
  tracker := tracker
  nodeClaim := nodeClaim
  itID := itID
  templateDevices := ((templateDevicesByIT nodeClaim).lookup itID).getD []
  templateRemainingCounters := buildTemplateCounters tracker nodeClaim itID

def freshConstraints (nodeClaim : NodeClaim) (itID : InstanceTypeID) (claimData : List ClaimData) :
    List (List MatchAttributeConstraint) :=
  claimData.map fun cd => cd.constraints.map fun constraint =>
    { constraint.reset with
      attributeBindingFallback := some {
        bindings := env.attributeBindings
        nodePool := nodeClaim.nodePoolID
        instanceTypeID := itID } }

def recordInstanceType (ctx : SearchContext) (results : InstanceTypeResults) (found : Search) :
    InstanceTypeResults :=
  let metadata := found.allocatedDevicesMetadata
  let tracked := results.tracked
  { results with
    survivingITs := results.survivingITs ++ [ctx.itID]
    tracked := { tracked with
      deviceIDsByIT := tracked.deviceIDsByIT.insert ctx.itID
        (metadata.map fun taken => taken.deviceWithID.id)
      counterConsumptionByIT :=
        tracked.counterConsumptionByIT.insert ctx.itID found.allocatingCounters
      templateCounterConsumptionByIT :=
        tracked.templateCounterConsumptionByIT.insert ctx.itID found.templateAllocatingCounters
      capacityConsumptionByIT :=
        tracked.capacityConsumptionByIT.insert ctx.itID found.allocatingCapacity
      templateCapacityConsumptionByIT :=
        tracked.templateCapacityConsumptionByIT.insert ctx.itID found.templateAllocatingCapacity
      templateCounterTotalsByIT :=
        match ctx.templateRemainingCounters,
            ctx.tracker.templateRemainingForIT ctx.nodeClaim.id ctx.itID with
        | some totals, none => tracked.templateCounterTotalsByIT.insert ctx.itID totals
        | _, _ => tracked.templateCounterTotalsByIT }
    claimMetadata := metadata.foldl (fun claims taken =>
      claims.modify taken.claimIndex (recordDevice ctx.env.tables ctx.itID taken))
      results.claimMetadata
    requirements := found.requirements.add ctx.env.tables
      (metadata.foldl (fun requirements taken =>
        addTopology ctx.env.tables requirements taken.deviceWithID) ∅).values
    deviceMatchesRequest := found.deviceMatchesRequest
    tested := found.tested
    pollsLeft := found.pollsLeft }

/-- Search on one instance type. Requirements accumulate, so that instance types
agree on the topology. -/
def allocateInstanceType (claimData : List ClaimData) (initialPools : List Pool)
    (results : InstanceTypeResults) (itID : InstanceTypeID) :
    Except AllocateError InstanceTypeResults :=
  match results.pollsLeft with
  | 0 => .error .deadlineExceeded
  | pollsLeft + 1 =>
    let ctx := searchContext env tracker nodeClaim itID
    if !countersFeasible ctx claimData then .ok { results with pollsLeft := pollsLeft }
    else
      let start : Search := {
        requirements := results.requirements
        pools := initialPools
        constraints := freshConstraints env nodeClaim itID claimData
        deviceMatchesRequest := results.deviceMatchesRequest
        tested := results.tested
        pollsLeft := pollsLeft }
      match Search.dfs ctx claimData.zipIdx start with
      | (true, found) => .ok (recordInstanceType ctx results found)
      | (false, failed) => .ok { results with
          requirements := failed.requirements
          deviceMatchesRequest := failed.deviceMatchesRequest
          tested := failed.tested
          pollsLeft := failed.pollsLeft }

def sumContributed (tables : LabelTables) (start : Requirements)
    (metadata : ResourceClaimAllocationMetadata) : Requirements :=
  metadata.contributedRequirements.values.foldl (fun requirements contributed =>
    requirements.add tables contributed.values) start

def finishAllocation (nodeClaim : NodeClaim) (claimData : List ClaimData) (initialPools : List Pool)
    (results : InstanceTypeResults) :
    Except AllocateError AllocationResult :=
  if results.survivingITs.isEmpty then .error .noInstanceType
  else
    let claimMetadata := results.claimMetadata.map fun metadata =>
      { metadata with totalRequirements := sumContributed env.tables ∅ metadata }
    .ok {
      instanceTypes := results.survivingITs
      requirements := claimMetadata.foldl (sumContributed env.tables) ∅
      allocation := some {
        results.tracked with
        claimMetadata := (claimData.zip claimMetadata).foldl (fun byClaim claim =>
          byClaim.insert claim.1.id claim.2) ∅
        filteredPools :=
          filterPools env.tables initialPools results.requirements nodeClaim.nodeName } }

/-- The pools a NodeClaim sees, narrowed from those it saw last. -/
def visiblePools (allocator : Allocator) (oracle : Oracle) (nodeClaim : NodeClaim)
    (requirements : Requirements) : List Pool :=
  match allocator.poolCache.lookup nodeClaim.id with
  | some cached => filterPools env.tables cached requirements nodeClaim.nodeName
  | none => oracle.poolOrder
      (gatherPools env.tables env.inClusterSlices requirements nodeClaim.nodeName)

def validateClaims (env : Environment) (pools : List Pool) (nodeClaim : NodeClaim) :
    List ResourceClaim → Except AllocateError (List ClaimData)
  | [] => .ok []
  | claim :: rest =>
    match validateClaimRequest env claim pools (templateDevicesByIT nodeClaim) with
    | .error error => .error (.validatingClaim claim.id error)
    | .ok data => do
      let others ← validateClaims env pools nodeClaim rest
      return data :: others

def allocate (allocator : Allocator) (oracle : Oracle) (nodeClaim : NodeClaim)
    (claims : List ResourceClaim) : Except AllocateError AllocationResult :=
  if claims.isEmpty then .ok { instanceTypes := nodeClaim.instanceTypes, requirements := ∅ }
  else do
    let classified ← classifyClaims env allocator nodeClaim claims
    if classified.unallocatedClaims.isEmpty then
      return { instanceTypes := nodeClaim.instanceTypes, requirements := classified.requirements }
    let pools := visiblePools env allocator oracle nodeClaim classified.requirements
    let claimData ← validateClaims env pools nodeClaim classified.unallocatedClaims
    let start : InstanceTypeResults := {
      tracked := { nodeClaimID := nodeClaim.id }
      claimMetadata := claimData.map fun _ => { nodeClaimID := nodeClaim.id }
      requirements := classified.requirements
      pollsLeft := oracle.polls }
    let results ← nodeClaim.instanceTypes.foldlM
      (allocateInstanceType env allocator.allocationTracker nodeClaim claimData pools) start
    finishAllocation env nodeClaim claimData pools results

/-! ### Commits and releases -/

/-- Record the metadata of claims, none of which may have any yet. -/
def commitClaims (known claims : GoMap ResourceClaimID ResourceClaimAllocationMetadata) :
    Except Panic (GoMap ResourceClaimID ResourceClaimAllocationMetadata) :=
  claims.entries.foldlM (fun known entry =>
    if entry.1 ∈ known then .error .claimAlreadyAllocated
    else .ok (known.insert entry.1 entry.2)) known

namespace Allocator

def commit (allocator : Allocator) (allocation : Allocation) : Except Panic Allocator := do
  let tracker ← allocator.allocationTracker.commit allocation.toTrackedAllocation
  let claims ← commitClaims allocator.claimAllocationMetadata allocation.claimMetadata
  return {
    allocationTracker := tracker
    poolCache := allocator.poolCache.insert allocation.nodeClaimID allocation.filteredPools
    claimAllocationMetadata := claims }

def releaseMetadata (nodeClaimID : NodeClaimID) (instanceTypes : List InstanceTypeID)
    (metadata : ResourceClaimAllocationMetadata) :
    ResourceClaimAllocationMetadata :=
  if metadata.nodeClaimID ≠ nodeClaimID then metadata
  else
    let kept := { metadata with
      contributedRequirements := metadata.contributedRequirements.eraseAll instanceTypes
      devices := metadata.devices.eraseAll instanceTypes }
    if instanceTypes.any fun it =>
        match metadata.contributedRequirements.lookup it with
        | none => false
        | some contributed => !contributed.entries.isEmpty
    then { kept with totalRequirements := sumContributed env.tables ∅ kept }
    else kept

def releaseInstanceType (allocator : Allocator) (nodeClaimID : NodeClaimID)
    (instanceTypes : List InstanceTypeID) : Except Panic Allocator := do
  let tracker ← allocator.allocationTracker.releaseInstanceTypes nodeClaimID instanceTypes
  return { allocator with
    allocationTracker := tracker
    claimAllocationMetadata := GoMap.rangeAlter (fun _ metadata _ =>
      some (releaseMetadata env nodeClaimID instanceTypes metadata))
      allocator.claimAllocationMetadata allocator.claimAllocationMetadata }

end Allocator

end Kraftsman.DynamicResources
