import Kraftsman.DynamicResources.Capacity
import Kraftsman.Data.FallibleLoop

/-!
Contract: committing an allocation to the tracker and releasing instance types.

Owns: the two updates with their panics, the availability query, and which fields
an update can touch.
Does not own: where allocations come from.
-/

namespace Kraftsman.DynamicResources

open Data FallibleLoop

inductive Panic where
  | allocatedForDifferentNodeClaim
  | allocatedForInstanceType
  | missingReferenceCount
  | missingInstanceTypeReference
  | claimAlreadyAllocated
  deriving DecidableEq, Repr

def Panic.message : Panic → String
  | .allocatedForDifferentNodeClaim => "device is already allocated for a different nodeclaim"
  | .allocatedForInstanceType => "device is already allocated for instance type"
  | .missingReferenceCount => "missing reference count for device ID"
  | .missingInstanceTypeReference =>
    "inflight allocation metadata for device is missing instance type reference"
  | .claimAlreadyAllocated => "attempted to commit claim which was already allocated"

def devicesFor (allocations : DevicesByNodeClaim) (nodeClaimID : NodeClaimID)
    (it : InstanceTypeID) : GoMap DeviceID Unit :=
  match allocations.lookup nodeClaimID with
  | none => ∅
  | some nodeClaimAllocs => (nodeClaimAllocs.lookup it).getD ∅

def insertAllocation (allocations : DevicesByNodeClaim) (deviceID : DeviceID)
    (nodeClaimID : NodeClaimID) (it : InstanceTypeID) : Except Panic DevicesByNodeClaim :=
  let nodeClaimAllocs := (allocations.lookup nodeClaimID).getD ∅
  let itAllocs := (nodeClaimAllocs.lookup it).getD ∅
  if deviceID ∈ itAllocs then .error .allocatedForInstanceType
  else .ok (allocations.insert nodeClaimID
    (nodeClaimAllocs.insert it (itAllocs.insert deviceID ())))

def addReference (metadata : Option InflightAllocationMetadata) (nodeClaimID : NodeClaimID)
    (it : InstanceTypeID) : Except Panic InflightAllocationMetadata :=
  match metadata with
  | none => .ok { nodeClaimID := nodeClaimID, instanceTypes := {it} }
  | some held =>
    if held.nodeClaimID ≠ nodeClaimID then .error .allocatedForDifferentNodeClaim
    else if it ∈ held.instanceTypes then .error .allocatedForInstanceType
    else .ok { held with instanceTypes := insert it held.instanceTypes }

def hasCapacityEntry (byIT : GoMap InstanceTypeID DeviceCapacities) (it : InstanceTypeID)
    (id : DeviceID) : Bool :=
  match byIT.lookup it with
  | none => false
  | some itCapacity => decide (id ∈ itCapacity)

variable (tracker : AllocationTracker)

namespace AllocationTracker

variable (alloc : TrackedAllocation)

/-- Commit one device. Multi-allocatable devices are tracked by their capacity instead. -/
def commitDevice (it : InstanceTypeID) (tracker : AllocationTracker) (id : DeviceID) :
    Except Panic AllocationTracker :=
  if id.template then
    if hasCapacityEntry alloc.templateCapacityConsumptionByIT it id then .ok tracker
    else do
      let allocations ←
        insertAllocation tracker.inflightTemplateAllocations id alloc.nodeClaimID it
      return { tracker with inflightTemplateAllocations := allocations }
  else if hasCapacityEntry alloc.capacityConsumptionByIT it id then .ok tracker
  else do
    let allocations ←
      insertAllocation tracker.inflightClusterAllocationsByNodeClaim id alloc.nodeClaimID it
    let held ← addReference (tracker.inflightClusterAllocations.lookup id) alloc.nodeClaimID it
    return { tracker with
      inflightClusterAllocationsByNodeClaim := allocations
      inflightClusterAllocations := tracker.inflightClusterAllocations.insert id held }

def commitDevices : Except Panic AllocationTracker :=
  alloc.deviceIDsByIT.entries.foldlM (fun tracker entry =>
    entry.2.foldlM (commitDevice alloc entry.1) tracker) tracker

def initTemplateTotals : AllocationTracker :=
  alloc.templateCounterTotalsByIT.entries.foldl (fun tracker entry =>
    tracker.initTemplateRemainingCounters alloc.nodeClaimID entry.1 entry.2) tracker

def commitBudgets : AllocationTracker :=
  let tracker := tracker.commitCounters alloc.nodeClaimID alloc.counterConsumptionByIT
  let tracker := tracker.initTemplateTotals alloc
  let tracker := tracker.commitTemplateCounters alloc.nodeClaimID alloc.templateCounterConsumptionByIT
  let tracker := tracker.commitCapacity alloc.nodeClaimID alloc.capacityConsumptionByIT
  tracker.commitTemplateCapacity alloc.nodeClaimID alloc.templateCapacityConsumptionByIT

def commit : Except Panic AllocationTracker := do
  let tracker ← tracker.commitDevices alloc
  return tracker.commitBudgets alloc

def releaseDevice (it : InstanceTypeID) (tracker : AllocationTracker) (id : DeviceID) :
    Except Panic AllocationTracker :=
  match tracker.inflightClusterAllocations.lookup id with
  | none => .error .missingReferenceCount
  | some held =>
    if it ∉ held.instanceTypes then .error .missingInstanceTypeReference
    else
      let kept := held.instanceTypes.erase it
      .ok { tracker with
        inflightClusterAllocations :=
          if kept = ∅ then tracker.inflightClusterAllocations.erase id
          else tracker.inflightClusterAllocations.insert id { held with instanceTypes := kept } }

def releaseDevices (nodeClaim : NodeClaimID) (tracker : AllocationTracker) (it : InstanceTypeID) :
    Except Panic AllocationTracker := do
  let devices := devicesFor tracker.inflightClusterAllocationsByNodeClaim nodeClaim it
  let tracker := { tracker with
    inflightClusterAllocationsByNodeClaim :=
      tracker.inflightClusterAllocationsByNodeClaim.alter nodeClaim fun allocs =>
        allocs.map fun allocs => allocs.erase it }
  let tracker ← devices.keys.foldlM (releaseDevice it) tracker
  return { tracker with
    inflightTemplateAllocations := tracker.inflightTemplateAllocations.alter nodeClaim fun allocs =>
      allocs.map fun allocs => allocs.erase it }

def releaseBudgets (nodeClaim : NodeClaimID) (instanceTypes : List InstanceTypeID) :
    AllocationTracker :=
  let tracker := tracker.releaseCounters nodeClaim instanceTypes
  let tracker := tracker.releaseTemplateCounters nodeClaim instanceTypes
  let tracker := tracker.releaseCapacity nodeClaim instanceTypes
  tracker.releaseTemplateCapacity nodeClaim instanceTypes

def releaseInstanceTypes (nodeClaim : NodeClaimID) (instanceTypes : List InstanceTypeID) :
    Except Panic AllocationTracker := do
  let tracker ← instanceTypes.foldlM (releaseDevices nodeClaim) tracker
  return tracker.releaseBudgets nodeClaim instanceTypes

/-- Whether a device is taken. One held for other instance types of the NodeClaim is not. -/
def isAllocated (deviceID : DeviceID) (nodeClaim : NodeClaimID) (it : InstanceTypeID) : Bool :=
  if deviceID.template then
    decide (deviceID ∈ devicesFor tracker.inflightTemplateAllocations nodeClaim it)
  else if deviceID ∈ tracker.preallocatedDevices then true
  else
    match tracker.inflightClusterAllocations.lookup deviceID with
    | none => false
    | some held => decide (held.nodeClaimID ≠ nodeClaim) || decide (it ∈ held.instanceTypes)

end AllocationTracker

/-- The part of a tracker that says which devices are taken. -/
structure DeviceIndexes where
  preallocatedDevices : Finset DeviceID
  inflightClusterAllocations : GoMap DeviceID InflightAllocationMetadata
  inflightClusterAllocationsByNodeClaim : DevicesByNodeClaim
  inflightTemplateAllocations : DevicesByNodeClaim

/-- The part of a tracker that says what is taken of shared budgets. -/
structure Budgets where
  preallocatedConsumedCapacity : DeviceCapacities
  inflightConsumedCapacity : DeviceCapacities
  consumedCapacityByNodeClaimIT : GoMap NodeClaimID (GoMap InstanceTypeID DeviceCapacities)
  templateConsumedCapacity : GoMap NodeClaimID (GoMap InstanceTypeID DeviceCapacities)
  remainingCounters : PoolCounters
  countersByNodeClaimIT : GoMap NodeClaimID (GoMap InstanceTypeID PoolCounters)
  templateRemainingCounters : GoMap NodeClaimID (GoMap InstanceTypeID PoolCounters)

namespace AllocationTracker

def indexes : DeviceIndexes where
  preallocatedDevices := tracker.preallocatedDevices
  inflightClusterAllocations := tracker.inflightClusterAllocations
  inflightClusterAllocationsByNodeClaim := tracker.inflightClusterAllocationsByNodeClaim
  inflightTemplateAllocations := tracker.inflightTemplateAllocations

def budgets : Budgets where
  preallocatedConsumedCapacity := tracker.preallocatedConsumedCapacity
  inflightConsumedCapacity := tracker.inflightConsumedCapacity
  consumedCapacityByNodeClaimIT := tracker.consumedCapacityByNodeClaimIT
  templateConsumedCapacity := tracker.templateConsumedCapacity
  remainingCounters := tracker.remainingCounters
  countersByNodeClaimIT := tracker.countersByNodeClaimIT
  templateRemainingCounters := tracker.templateRemainingCounters

variable {it : InstanceTypeID} {tracker tracker' : AllocationTracker}

variable {alloc : TrackedAllocation} {id : DeviceID}

theorem commitDevice_budgets (done : commitDevice alloc it tracker id = .ok tracker') :
    tracker'.budgets = tracker.budgets := by
  unfold commitDevice at done
  split_ifs at done
  · exact Except.ok.inj done ▸ rfl
  · obtain ⟨allocations, -, rfl⟩ := map_eq_ok.mp done
    rfl
  · exact Except.ok.inj done ▸ rfl
  · obtain ⟨allocations, -, rest⟩ := bind_eq_ok.mp done
    obtain ⟨held, -, rfl⟩ := map_eq_ok.mp rest
    rfl

theorem commitDevices_budgets (done : tracker.commitDevices alloc = .ok tracker') :
    tracker'.budgets = tracker.budgets :=
  foldlM_frame budgets (fun _ _ _ inner =>
    foldlM_frame budgets (fun _ _ _ => commitDevice_budgets) inner) done

theorem releaseDevice_budgets (done : releaseDevice it tracker id = .ok tracker') :
    tracker'.budgets = tracker.budgets := by
  unfold releaseDevice at done
  split at done
  · cases done
  · split_ifs at done
    exact Except.ok.inj done ▸ rfl

theorem releaseDevices_budgets {nodeClaim : NodeClaimID}
    (done : releaseDevices nodeClaim tracker it = .ok tracker') :
    tracker'.budgets = tracker.budgets := by
  obtain ⟨middle, released, rfl⟩ := map_eq_ok.mp done
  have kept := foldlM_frame budgets (fun _ _ _ => releaseDevice_budgets) released
  exact kept

section

variable (tracker)

private theorem initTemplateTotals_with (alloc : TrackedAllocation) (remaining : PoolCounters)
    (stored : GoMap NodeClaimID (GoMap InstanceTypeID PoolCounters)) :
    ({ tracker with remainingCounters := remaining, countersByNodeClaimIT := stored } :
        AllocationTracker).initTemplateTotals alloc =
      { tracker with
        remainingCounters := remaining
        countersByNodeClaimIT := stored
        templateRemainingCounters := (tracker.initTemplateTotals alloc).templateRemainingCounters } := by
  unfold initTemplateTotals
  induction alloc.templateCounterTotalsByIT.entries generalizing tracker with
  | nil => rfl
  | cons entry rest ih =>
    exact ih (tracker.initTemplateRemainingCounters alloc.nodeClaimID entry.1 entry.2)

theorem commitBudgets_eq (alloc : TrackedAllocation) : tracker.commitBudgets alloc =
      let counters := tracker.commitCounters alloc.nodeClaimID alloc.counterConsumptionByIT
      let templateCounters := (tracker.initTemplateTotals alloc).commitTemplateCounters
        alloc.nodeClaimID alloc.templateCounterConsumptionByIT
      let capacity := tracker.commitCapacity alloc.nodeClaimID alloc.capacityConsumptionByIT
      let templateCapacity :=
        tracker.commitTemplateCapacity alloc.nodeClaimID alloc.templateCapacityConsumptionByIT
      { tracker with
        remainingCounters := counters.remainingCounters
        countersByNodeClaimIT := counters.countersByNodeClaimIT
        templateRemainingCounters := templateCounters.templateRemainingCounters
        inflightConsumedCapacity := capacity.inflightConsumedCapacity
        consumedCapacityByNodeClaimIT := capacity.consumedCapacityByNodeClaimIT
        templateConsumedCapacity := templateCapacity.templateConsumedCapacity } := by
  have countersOnly : tracker.commitCounters alloc.nodeClaimID alloc.counterConsumptionByIT =
      { tracker with
        remainingCounters := (tracker.commitCounters alloc.nodeClaimID
          alloc.counterConsumptionByIT).remainingCounters
        countersByNodeClaimIT := (tracker.commitCounters alloc.nodeClaimID
          alloc.counterConsumptionByIT).countersByNodeClaimIT } := by
    unfold commitCounters
    split_ifs <;> rfl
  unfold commitBudgets
  dsimp only
  rw [countersOnly, initTemplateTotals_with]
  unfold commitTemplateCounters commitCapacity commitTemplateCapacity
  split_ifs <;> first | rfl | (dsimp only; split <;> rfl)

theorem releaseBudgets_eq (nodeClaim : NodeClaimID) (instanceTypes : List InstanceTypeID) :
    tracker.releaseBudgets nodeClaim instanceTypes =
      let counters := tracker.releaseCounters nodeClaim instanceTypes
      let templateCounters := tracker.releaseTemplateCounters nodeClaim instanceTypes
      let capacity := tracker.releaseCapacity nodeClaim instanceTypes
      let templateCapacity := tracker.releaseTemplateCapacity nodeClaim instanceTypes
      { tracker with
        remainingCounters := counters.remainingCounters
        countersByNodeClaimIT := counters.countersByNodeClaimIT
        templateRemainingCounters := templateCounters.templateRemainingCounters
        inflightConsumedCapacity := capacity.inflightConsumedCapacity
        consumedCapacityByNodeClaimIT := capacity.consumedCapacityByNodeClaimIT
        templateConsumedCapacity := templateCapacity.templateConsumedCapacity } := by
  unfold releaseBudgets releaseCounters releaseTemplateCounters releaseCapacity
    releaseTemplateCapacity
  cases tracker.countersByNodeClaimIT.lookup nodeClaim <;> dsimp only <;>
    cases tracker.templateRemainingCounters.lookup nodeClaim <;> dsimp only <;>
      cases tracker.consumedCapacityByNodeClaimIT.lookup nodeClaim <;> dsimp only <;>
        cases tracker.templateConsumedCapacity.lookup nodeClaim <;> rfl

theorem commitBudgets_indexes (alloc : TrackedAllocation) :
    (tracker.commitBudgets alloc).indexes = tracker.indexes := by
  rw [commitBudgets_eq]
  rfl

theorem releaseBudgets_indexes (nodeClaim : NodeClaimID) (instanceTypes : List InstanceTypeID) :
    (tracker.releaseBudgets nodeClaim instanceTypes).indexes = tracker.indexes := by
  rw [releaseBudgets_eq]
  rfl

end

end AllocationTracker

end Kraftsman.DynamicResources
