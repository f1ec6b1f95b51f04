import Kraftsman.Scheduling.Requirements

/-!
Contract: the data the device allocator works on.

Owns: devices, slices, pools, NodeClaims and ResourceClaims as the allocator
reads them.
Does not own: how pools are gathered, allocation state, or the search.
-/

namespace Kraftsman.DynamicResources

open Apis Data Scheduling

abbrev DriverID := String
abbrev PoolID := String
abbrev InstanceTypeID := String
abbrev NodeClaimID := String
abbrev NodePoolID := String
abbrev QualifiedName := String

structure ResourceClaimID where
  nameSpace : String
  name : String
  deriving DecidableEq, Repr

/-- A device as a cloud provider names it. -/
structure CloudDeviceID where
  driver : DriverID
  pool : PoolID
  device : String
  deriving DecidableEq, Repr

/-- A device's name. Template devices are only promised by a cloud provider. -/
structure DeviceID extends CloudDeviceID where
  template : Bool := false
  deriving DecidableEq, Repr

/-- A pool is identified by its driver and name. -/
structure PoolKey where
  driver : DriverID
  pool : PoolID
  deriving DecidableEq, Repr

def DeviceID.poolKey (id : DeviceID) : PoolKey := { driver := id.driver, pool := id.pool }

abbrev CounterSets := GoMap String (GoMap String Quantity)

abbrev PoolCounters := GoMap PoolKey CounterSets

abbrev Capacities := GoMap QualifiedName Quantity

abbrev DeviceCapacities := GoMap DeviceID Capacities

/-- A device attribute, exactly one value of one type. -/
inductive DeviceAttribute where
  | stringValue (value : String)
  | intValue (value : Int)
  | boolValue (value : Bool)
  | versionValue (value : String)
  deriving DecidableEq, Repr

/-- The valid range. API validation requires the minimum and a positive step. -/
structure CapacityRequestPolicyRange where
  min : Quantity
  max : Option Quantity := none
  step : Option { step : Quantity // 0 < step } := none
  deriving DecidableEq

structure CapacityRequestPolicy where
  default : Option Quantity := none
  validValues : List Quantity := []
  validRange : Option CapacityRequestPolicyRange := none
  deriving DecidableEq

structure DeviceCapacity where
  value : Quantity
  requestPolicy : Option CapacityRequestPolicy := none
  deriving DecidableEq

structure DeviceCounterConsumption where
  counterSet : String
  counters : GoMap String Quantity
  deriving DecidableEq

/-- A device. The API allows a single consumption entry per counter set. -/
structure Device where
  name : String
  attributes : GoMap QualifiedName DeviceAttribute := ∅
  capacity : GoMap QualifiedName DeviceCapacity := ∅
  allowMultipleAllocations : Bool := false
  consumesCounters : List DeviceCounterConsumption := []
  counterSets_nodup : (consumesCounters.map fun entry => entry.counterSet).Nodup := by
    first | exact List.nodup_nil | decide
  deriving DecidableEq

structure DeviceWithID where
  device : Device
  id : DeviceID
  topologyRequirements : Option Requirements := none

structure CounterSet where
  name : String
  counters : GoMap String Quantity
  deriving DecidableEq

/-- A published slice or a cloud provider's template of one. -/
structure ResourceSlice where
  driver : DriverID
  pool : PoolID
  devices : List Device := []
  nodeName : String := ""
  nodeSelector : Option (List NodeSelectorTerm) := none
  allNodes : Bool := false
  generation : Int := 0
  resourceSliceCount : Int := 1
  sharedCounters : Option (List CounterSet) := none
  deriving DecidableEq

def ResourceSlice.poolKey (slice : ResourceSlice) : PoolKey :=
  { driver := slice.driver, pool := slice.pool }

/-- A group of devices that share a driver and a pool name. -/
structure Pool where
  key : PoolKey
  slices : List ResourceSlice := []
  devices : List DeviceWithID := []
  /-- Counter-consuming devices of slices that do not match. -/
  nonTargetingDevices : List DeviceWithID := []
  counterSets : CounterSets := ∅
  incomplete : Bool := false
  invalid : Bool := false

/-- A node, existing or in flight, as the allocator sees it. -/
structure NodeClaim where
  id : NodeClaimID
  nodeName : String := ""
  nodePoolID : NodePoolID := ""
  requirements : Requirements := ∅
  instanceTypes : List InstanceTypeID
  resourceSlices : GoMap InstanceTypeID (List ResourceSlice) := ∅

/-- How many devices a request asks for. -/
inductive DeviceAllocationMode where
  | exactCount
  | all
  deriving DecidableEq, Repr

/-- A device selector; only CEL expressions are supported. -/
structure DeviceSelector where
  cel : Option String
  deriving DecidableEq, Repr

structure ExactDeviceRequest where
  deviceClassName : String
  selectors : List DeviceSelector := []
  allocationMode : DeviceAllocationMode := .exactCount
  count : Nat := 1
  capacity : Option Capacities := none

/-- A request; `exactly` is absent for prioritized alternatives. -/
structure DeviceRequest where
  name : String
  exactly : Option ExactDeviceRequest

/-- A constraint over the devices of some requests. -/
structure DeviceConstraint where
  requests : List String := []
  matchAttribute : Option QualifiedName := none
  distinctAttribute : Option QualifiedName := none

structure ResourceClaimConsumerReference where
  apiGroup : String := ""
  resource : String
  uid : String
  deriving DecidableEq, Repr

structure ResourceClaim where
  id : ResourceClaimID
  constraints : List DeviceConstraint := []
  requests : List DeviceRequest := []
  allocation : Option (Option (List NodeSelectorTerm)) := none
  reservedFor : List ResourceClaimConsumerReference := []

end Kraftsman.DynamicResources
