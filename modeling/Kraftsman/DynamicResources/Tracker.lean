import Kraftsman.DynamicResources.Types

/-!
Contract: the allocation state shared by all pods of a scheduling loop.

Owns: the tracker's fields, the allocation a successful search hands to it, and
the initial tracker.
Does not own: the updates of the individual fields.
-/

namespace Kraftsman.DynamicResources

open Data

/-- The NodeClaim of a device and its instance types that need it. -/
structure InflightAllocationMetadata where
  nodeClaimID : NodeClaimID
  instanceTypes : Finset InstanceTypeID
  deriving DecidableEq

abbrev DevicesByNodeClaim := GoMap NodeClaimID (GoMap InstanceTypeID (GoMap DeviceID Unit))

/-- The allocation status of devices, by NodeClaim and instance type, since a
NodeClaim collapses to one. -/
structure AllocationTracker where
  /-- Devices exclusively allocated on the API server. -/
  preallocatedDevices : Finset DeviceID
  preallocatedConsumedCapacity : DeviceCapacities
  inflightClusterAllocations : GoMap DeviceID InflightAllocationMetadata
  /-- The inverse of `inflightClusterAllocations`. -/
  inflightClusterAllocationsByNodeClaim : DevicesByNodeClaim
  inflightTemplateAllocations : DevicesByNodeClaim
  /-- What earlier pods consume of multi-allocatable devices. -/
  inflightConsumedCapacity : DeviceCapacities
  consumedCapacityByNodeClaimIT : GoMap NodeClaimID (GoMap InstanceTypeID DeviceCapacities)
  templateConsumedCapacity : GoMap NodeClaimID (GoMap InstanceTypeID DeviceCapacities)
  /-- Counter budgets left in each pool. -/
  remainingCounters : PoolCounters
  countersByNodeClaimIT : GoMap NodeClaimID (GoMap InstanceTypeID PoolCounters)
  templateRemainingCounters : GoMap NodeClaimID (GoMap InstanceTypeID PoolCounters)

/-- What the API server's allocations hold. -/
structure AllocatedDeviceState where
  exclusiveDevices : List CloudDeviceID := []
  consumedCapacity : GoMap CloudDeviceID Capacities := ∅

def CloudDeviceID.published (id : CloudDeviceID) : DeviceID := { id with template := false }

def newAllocationTracker (allocatedState : AllocatedDeviceState) : AllocationTracker where
  preallocatedDevices := (allocatedState.exclusiveDevices.map CloudDeviceID.published).toFinset
  preallocatedConsumedCapacity := GoMap.ofList
    (allocatedState.consumedCapacity.entries.map fun entry => (entry.1.published, entry.2))
  inflightClusterAllocations := ∅
  inflightClusterAllocationsByNodeClaim := ∅
  inflightTemplateAllocations := ∅
  inflightConsumedCapacity := ∅
  consumedCapacityByNodeClaimIT := ∅
  templateConsumedCapacity := ∅
  remainingCounters := ∅
  countersByNodeClaimIT := ∅
  templateRemainingCounters := ∅

/-- The part of an allocation that the tracker commits. -/
structure TrackedAllocation where
  nodeClaimID : NodeClaimID
  deviceIDsByIT : GoMap InstanceTypeID (List DeviceID) := ∅
  counterConsumptionByIT : GoMap InstanceTypeID PoolCounters := ∅
  templateCounterConsumptionByIT : GoMap InstanceTypeID PoolCounters := ∅
  capacityConsumptionByIT : GoMap InstanceTypeID DeviceCapacities := ∅
  templateCapacityConsumptionByIT : GoMap InstanceTypeID DeviceCapacities := ∅
  templateCounterTotalsByIT : GoMap InstanceTypeID PoolCounters := ∅

end Kraftsman.DynamicResources
