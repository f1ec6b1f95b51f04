import Kraftsman.DynamicResources.Request
import Kraftsman.DynamicResources.Commit

/-!
Contract: the depth-first search for the devices of a pod's claims.

Owns: the tentative allocation, the checks of a device, taking and giving it
back, and the search over claims, requests and slots.
Does not own: which instance types are searched, and what happens to a result.
-/

namespace Kraftsman.DynamicResources

open Apis Data Scheduling

structure DeviceAllocationMetadata where
  claimIndex : Nat
  deviceWithID : DeviceWithID
  /-- Absent for an exclusive device. -/
  consumedCapacity : Option Capacities

/-- What is tentatively taken. Template devices are kept apart, since pools can share a key. -/
structure Tentative where
  allocatedDevices : Finset DeviceID := ∅
  allocatedDevicesMetadata : List DeviceAllocationMetadata := []
  allocatingCounters : PoolCounters := ∅
  templateAllocatingCounters : PoolCounters := ∅
  allocatingCapacity : DeviceCapacities := ∅
  templateAllocatingCapacity : DeviceCapacities := ∅

/-- Selector verdicts are cached by device, claim and request. -/
structure MatchKey where
  deviceID : DeviceID
  claimIndex : Nat
  requestIndex : Nat
  deriving DecidableEq

structure Search extends Tentative where
  requirements : Requirements
  pools : List Pool
  /-- The constraints of each claim. -/
  constraints : List (List MatchAttributeConstraint)
  deviceMatchesRequest : GoMap MatchKey Bool := ∅
  /-- The verdicts asked for so far, which nothing in the search reads. -/
  tested : List (InstanceTypeID × MatchKey) := []
  /-- How often the deadline can still be looked at. -/
  pollsLeft : Nat

/-- The committed state, the NodeClaim, and the instance type with its template
devices and budgets. -/
structure SearchContext where
  env : Environment
  tracker : AllocationTracker
  nodeClaim : NodeClaim
  itID : InstanceTypeID
  templateDevices : List DeviceWithID
  templateRemainingCounters : Option PoolCounters

/-- Part of a search: whether it succeeded, and the state it leaves. -/
abbrev SearchM := Search → Bool × Search

variable (ctx : SearchContext)

def SearchContext.remainingCounterSets (id : DeviceID) : Option CounterSets :=
  if id.template then ctx.templateRemainingCounters.bind fun pools => pools.lookup id.poolKey
  else ctx.tracker.remainingCounters.lookup id.poolKey

variable (tentative : Tentative)

def Tentative.counters (template : Bool) : PoolCounters :=
  if template then tentative.templateAllocatingCounters else tentative.allocatingCounters

def poolCountersExhausted (pool : Pool) : Bool :=
  if pool.counterSets.entries.isEmpty then false
  else
    match ctx.tracker.remainingCounters.lookup pool.key,
        tentative.allocatingCounters.lookup pool.key with
    | some remaining, some allocating =>
      allocating.entries.any fun set => set.2.entries.any fun counter =>
        match getSetCounter remaining set.1 counter.1 with
        | none => false
        | some remainingCounter =>
          decide (remainingCounter.value - Quantity.value counter.2 ≤ 0)
    | _, _ => false

/-- Whether the remaining budgets cover a device, in whole numbers. -/
def checkCounters (dw : DeviceWithID) : Bool :=
  if dw.device.consumesCounters.isEmpty then true
  else
    match ctx.remainingCounterSets dw.id with
    | none => false
    | some remaining => dw.device.consumesCounters.all fun consumption =>
      decide (consumption.counterSet ∈ remaining) && consumption.counters.entries.all fun counter =>
        match getSetCounter remaining consumption.counterSet counter.1 with
        | none => false
        | some remainingCounter =>
          let allocatingVal := Quantity.value (counterAt (tentative.counters dw.id.template)
            (dw.id.poolKey, consumption.counterSet, counter.1))
          decide (Quantity.value counter.2 ≤ remainingCounter.value - allocatingVal)

def deductAllocatingCounters (counters : PoolCounters) (device : Device) (poolKey : PoolKey) :
    PoolCounters :=
  if device.consumesCounters.isEmpty then counters
  else
    counters.insert poolKey (device.consumesCounters.foldl (fun sets consumption =>
      sets.insert consumption.counterSet
        (addCounters ((sets.lookup consumption.counterSet).getD ∅) consumption.counters))
      ((counters.lookup poolKey).getD ∅))

def restoreAllocatingCounters (counters : PoolCounters) (device : Device) (poolKey : PoolKey) :
    PoolCounters :=
  if device.consumesCounters.isEmpty then counters
  else counters.alter poolKey fun sets => sets.map fun sets => deductFromCounters sets device

/-- Subtract consumption from budgets that have to cover it. -/
def takeCounters (remaining : CounterSets) (consumptions : List DeviceCounterConsumption) :
    Option CounterSets :=
  consumptions.foldlM (fun remaining consumption => do
    let counters ← remaining.lookup consumption.counterSet
    let counters ← consumption.counters.entries.foldlM (fun counters counter => do
      let available ← counters.lookup counter.1
      if available - counter.2 < 0 then none
      else some (counters.insert counter.1 (available - counter.2))) counters
    some (remaining.insert consumption.counterSet counters)) remaining

/-- Whether budgets cover all devices of a request. Pools without one are left to the search. -/
def allModeCountersFeasible (ctx : SearchContext) :
    List DeviceWithID → PoolCounters → PoolCounters → Bool
  | [], _, _ => true
  | dw :: rest, inClusterShadow, templateShadow =>
    if dw.device.consumesCounters.isEmpty then
      allModeCountersFeasible ctx rest inClusterShadow templateShadow
    else
      let shadow := if dw.id.template then templateShadow else inClusterShadow
      match (shadow.lookup dw.id.poolKey).or (ctx.remainingCounterSets dw.id) with
      | none => true
      | some poolShadow =>
        match takeCounters poolShadow dw.device.consumesCounters with
        | none => false
        | some poolShadow =>
          let shadow := shadow.insert dw.id.poolKey poolShadow
          if dw.id.template then allModeCountersFeasible ctx rest inClusterShadow shadow
          else allModeCountersFeasible ctx rest shadow templateShadow

variable (rd : RequestData)

def allModeDevices : List DeviceWithID :=
  rd.allDevices ++ (rd.allTemplateDevicesByIT.lookup ctx.itID).getD []

/-- Whether budgets can possibly cover the All-mode requests. -/
def countersFeasible (claimData : List ClaimData) : Bool :=
  claimData.all fun cd => cd.requests.all fun rd =>
    match rd.allocationMode with
    | .exactCount => true
    | .all => allModeCountersFeasible ctx (allModeDevices ctx rd) ∅ ∅

def Tentative.capacities (template : Bool) : DeviceCapacities :=
  if template then tentative.templateAllocatingCapacity else tentative.allocatingCapacity

/-- The committed capacity of a device for the instance type. -/
def SearchContext.committedCapacity (id : DeviceID) (name : QualifiedName) : Quantity :=
  if id.template then
    match ctx.tracker.templateConsumedCapacityForIT ctx.nodeClaim.id ctx.itID with
    | none => 0
    | some devices => capacityAt devices (id, name)
  else
    capacityAt ctx.tracker.preallocatedConsumedCapacity (id, name) +
      capacityAt ctx.tracker.inflightConsumedCapacity (id, name)

/-- What a request consumes of a multi-allocatable device, if enough is left; no
map without dimensions. -/
def checkCapacity (dw : DeviceWithID) : Option (Option Capacities) :=
  if requestsContainNonExistCapacity rd.capacityRequests dw.device.capacity then none
  else
    match computeConsumedCapacity rd.capacityRequests dw.device.capacity with
    | none => none
    | some none => some none
    | some (some consumed) =>
      if consumed.entries.all fun entry =>
        match dw.device.capacity.lookup entry.1 with
        | none => false
        | some capacity => decide (ctx.committedCapacity dw.id entry.1 +
            capacityAt (tentative.capacities dw.id.template) (dw.id, entry.1) + entry.2 ≤
              capacity.value)
      then some (some consumed)
      else none

variable (capacities : DeviceCapacities)

def deductAllocatingCapacity (consumed : Option Capacities) (id : DeviceID) : DeviceCapacities :=
  match consumed with
  | none => capacities
  | some consumed =>
    if consumed.entries.isEmpty then capacities
    else capacities.insert id (addCounters ((capacities.lookup id).getD ∅) consumed)

def restoreAllocatingCapacity (consumed : Option Capacities) (id : DeviceID) : DeviceCapacities :=
  match consumed with
  | none => capacities
  | some consumed =>
    if consumed.entries.isEmpty then capacities
    else capacities.insert id (GoMap.rangeAlter (fun _ quantity existing =>
      some (existing.getD 0 - quantity)) consumed ((capacities.lookup id).getD ∅))

def Tentative.mapCapacities (template : Bool) (change : DeviceCapacities → DeviceCapacities) :
    Tentative :=
  if template then
    { tentative with
      templateAllocatingCapacity := change tentative.templateAllocatingCapacity }
  else { tentative with allocatingCapacity := change tentative.allocatingCapacity }

/-- Update the counters taken, of published or of template devices. -/
def Tentative.mapCounters (template : Bool) (change : PoolCounters → PoolCounters) : Tentative :=
  if template then
    { tentative with
      templateAllocatingCounters := change tentative.templateAllocatingCounters }
  else { tentative with allocatingCounters := change tentative.allocatingCounters }

/-- Give a multi-allocatable device an entry, by which a commit recognises it. -/
def Tentative.withEntry (dw : DeviceWithID) : DeviceCapacities :=
  if dw.device.allowMultipleAllocations && decide (dw.id ∉ capacities) then capacities.insert dw.id ∅
  else capacities

def Tentative.record (taken : DeviceAllocationMetadata) : Tentative :=
  let dw := taken.deviceWithID
  let tentative := { tentative with
    allocatedDevices := insert dw.id tentative.allocatedDevices
    allocatedDevicesMetadata := tentative.allocatedDevicesMetadata ++ [taken] }
  let tentative := tentative.mapCapacities dw.id.template fun capacities =>
    deductAllocatingCapacity (withEntry capacities dw) taken.consumedCapacity dw.id
  tentative.mapCounters dw.id.template fun counters =>
    deductAllocatingCounters counters dw.device dw.id.poolKey

def Tentative.undo (taken : DeviceAllocationMetadata) : Tentative :=
  let dw := taken.deviceWithID
  let tentative := tentative.mapCapacities dw.id.template fun capacities =>
    restoreAllocatingCapacity capacities taken.consumedCapacity dw.id
  let tentative := tentative.mapCounters dw.id.template fun counters =>
    restoreAllocatingCounters counters dw.device dw.id.poolKey
  { tentative with
    allocatedDevices := tentative.allocatedDevices.erase dw.id
    allocatedDevicesMetadata := tentative.allocatedDevicesMetadata.dropLast }

/-- Whether a device is available and what it would consume: capacity decides for
multi-allocatable devices, the indexes for exclusive ones. -/
def available (dw : DeviceWithID) : Option (Option Capacities) :=
  if dw.device.allowMultipleAllocations then checkCapacity ctx tentative rd dw
  else if ctx.tracker.isAllocated dw.id ctx.nodeClaim.id ctx.itID then none
  else if dw.id ∈ tentative.allocatedDevices then none
  else some none

/-- Whether counters allow a device. A published one also needs its pool to be current. -/
def countersAllow (search : Search) (dw : DeviceWithID) : Bool :=
  if dw.device.consumesCounters.isEmpty then true
  else (dw.id.template || search.pools.any fun pool => pool.key = dw.id.poolKey) &&
    checkCounters ctx search.toTentative dw

def copyRequirements (tables : LabelTables) (requirements : Requirements) : Requirements :=
  Requirements.newRequirements tables requirements.values

namespace Search

/-- Look at the deadline before going on. -/
def polled (next : SearchM) : SearchM := fun search =>
  match search.pollsLeft with
  | 0 => (false, search)
  | left + 1 => next { search with pollsLeft := left }

/-- Whether a device matches, which fails on an evaluation error or a passed
deadline. Only verdicts are cached. -/
def selectorsMatch (key : MatchKey) (rd : RequestData) (dw : DeviceWithID) :
    SearchM := fun asked =>
  let search := { asked with tested := (ctx.itID, key) :: asked.tested }
  match search.deviceMatchesRequest.lookup key with
  | some verdict => (verdict, search)
  | none =>
    polled (fun search =>
      match deviceMatchesSelectors ctx.env dw rd.selectors with
      | .error _ => (false, search)
      | .ok verdict => (verdict, { search with
          deviceMatchesRequest := search.deviceMatchesRequest.insert key verdict })) search

variable (search : Search) (claimIdx : Nat)

def claimConstraints : List MatchAttributeConstraint :=
  (search.constraints[claimIdx]?).getD []

def setConstraints (constraints : List MatchAttributeConstraint) : Search :=
  { search with constraints := search.constraints.set claimIdx constraints }

/-- Take a device back from all constraints of a claim. -/
def removeConstraints (requestName : String) : Search :=
  search.setConstraints claimIdx
    ((search.claimConstraints claimIdx).map fun constraint => constraint.remove requestName)

def tighten (dw : DeviceWithID) (search : Search) : Option Search :=
  match dw.topologyRequirements with
  | none => some search
  | some topology =>
    if search.requirements.isCompatible ctx.env.tables topology ctx.env.tables.wellKnownLabels then
      let requirements := search.requirements.add ctx.env.tables topology.values
      some { search with
        requirements := requirements
        pools := filterPools ctx.env.tables search.pools requirements ctx.nodeClaim.nodeName }
    else none

def relax (dw : DeviceWithID) (snapshot search : Search) : Search :=
  match dw.topologyRequirements with
  | none => search
  | some _ => { search with
      requirements := copyRequirements ctx.env.tables snapshot.requirements
      pools := snapshot.pools }

/-- Try a device for a slot: it is taken, and given back if the rest fails. -/
def tryDevice (claimIdx reqIdx : Nat) (rd : RequestData) (next : SearchM) (dw : DeviceWithID) :
    SearchM := fun search =>
  match available ctx search.toTentative rd dw with
  | none => (false, search)
  | some consumed =>
    if !countersAllow ctx search dw then (false, search)
    else
      match selectorsMatch ctx ⟨dw.id, claimIdx, reqIdx⟩ rd dw search with
      | (false, search) => (false, search)
      | (true, search) =>
        match addConstraints rd.name dw.device dw.id (search.claimConstraints claimIdx) with
        | (false, constraints) => (false, search.setConstraints claimIdx constraints)
        | (true, constraints) =>
          let constrained := search.setConstraints claimIdx constraints
          match tighten ctx dw constrained with
          | none => (false, constrained.removeConstraints claimIdx rd.name)
          | some tightened =>
            let taken := { claimIndex := claimIdx, deviceWithID := dw,
                           consumedCapacity := consumed : DeviceAllocationMetadata }
            match next { tightened with
                toTentative := tightened.toTentative.record taken } with
            | (true, found) => (true, found)
            | (false, failed) =>
              let undone := { failed with toTentative := failed.toTentative.undo taken }
              (false, (relax ctx dw constrained undone).removeConstraints claimIdx rd.name)

/-- Try alternatives in order until one succeeds. -/
def firstSuccess : List SearchM → SearchM
  | [], search => (false, search)
  | attempt :: rest, search =>
    match attempt search with
    | (true, found) => (true, found)
    | (false, search) => firstSuccess rest search

/-- Try the devices of pools. Incomplete pools are skipped, and so are devices of
a pool whose counters are used up. -/
def tryPools (ctx : SearchContext) (attempt : DeviceWithID → SearchM) : List Pool → SearchM
  | [], search => (false, search)
  | pool :: rest, search =>
    if pool.incomplete then tryPools ctx attempt rest search
    else
      let exhausted := poolCountersExhausted ctx search.toTentative pool
      let candidates := pool.devices.filter fun dw =>
        !(exhausted && !dw.device.consumesCounters.isEmpty)
      match firstSuccess (candidates.map attempt) search with
      | (true, found) => (true, found)
      | (false, search) => tryPools ctx attempt rest search

def dfsExactCount (attempt : DeviceWithID → SearchM) : SearchM := fun search =>
  match tryPools ctx attempt search.pools search with
  | (true, found) => (true, found)
  | (false, search) => firstSuccess (ctx.templateDevices.map attempt) search

def dfsAllMode (slotIdx : Nat) (attempt : DeviceWithID → SearchM) : SearchM := fun search =>
  match (allModeDevices ctx rd)[slotIdx]? with
  | none => (false, search)
  | some dw => attempt dw search

def numSlots : Nat :=
  match rd.allocationMode with
  | .all => (allModeDevices ctx rd).length
  | .exactCount => rd.numDevices

def dfsSlots (ctx : SearchContext) (claimIdx reqIdx : Nat) (rd : RequestData) (next : SearchM) :
    Nat → SearchM
  | 0 => polled next
  | left + 1 =>
    let attempt := tryDevice ctx claimIdx reqIdx rd (dfsSlots ctx claimIdx reqIdx rd next left)
    polled (match rd.allocationMode with
      | .all => dfsAllMode ctx rd (numSlots ctx rd - (left + 1)) attempt
      | .exactCount => dfsExactCount ctx attempt)

def dfsRequests (ctx : SearchContext) (claimIdx : Nat) (next : SearchM) :
    List (RequestData × Nat) → SearchM
  | [] => polled next
  | (rd, reqIdx) :: rest =>
    dfsSlots ctx claimIdx reqIdx rd (dfsRequests ctx claimIdx next rest) (numSlots ctx rd)

/-- Satisfy the claims that are left. -/
def dfs (ctx : SearchContext) : List (ClaimData × Nat) → SearchM
  | [] => polled fun search => (true, search)
  | (cd, claimIdx) :: rest => dfsRequests ctx claimIdx (dfs ctx rest) cd.requests.zipIdx

end Search

end Kraftsman.DynamicResources
