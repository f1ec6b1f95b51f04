import Kraftsman.Data.Runs
import Kraftsman.DynamicResources.Conservation
import Kraftsman.DynamicResources.Provenance

/-!
Contract: the scheduling loop as the allocator sees it: allocations, commits and
releases in any order.

Owns: the loop's state and events, that devices are held exclusively and no
device-level panic is reached, and the invariant rule for shared budgets.
Does not own: how far the shared budgets are used up.
-/

namespace Kraftsman.DynamicResources

open Apis Data FallibleLoop AllocationTracker TrackedAllocation Except List

def exclusiveDevice (slices : List ResourceSlice) (id : DeviceID) : Bool :=
  !id.template && (currentSlices slices).all fun slice => slice.devices.all fun device =>
    !(device.allowMultipleAllocations &&
      id = { driver := slice.driver, pool := slice.pool, device := device.name })

structure Holding where
  nodeClaim : NodeClaimID
  instanceType : InstanceTypeID
  device : DeviceID
  deriving DecidableEq

variable (env : Environment)

def Allocation.holdings (allocation : Allocation) : List Holding :=
  (allocation.devices.filter fun pair => exclusiveDevice env.inClusterSlices pair.2).map fun pair =>
    { nodeClaim := allocation.nodeClaimID, instanceType := pair.1, device := pair.2 }

/-- The allocator, the allocations computed so far with the tracker of each, and
the exclusive devices held. -/
structure Loop where
  allocator : Allocator
  computed : List (AllocationTracker × Allocation) := []
  held : List Holding := []

inductive LoopEvent where
  | allocate (oracle : Oracle) (nodeClaim : NodeClaim) (claims : List ResourceClaim)
  | commit (allocation : Allocation)
  | release (nodeClaimID : NodeClaimID) (instanceTypes : List InstanceTypeID)

namespace Loop

def start (allocatedState : AllocatedDeviceState) : Loop where
  allocator := newAllocator env allocatedState

def apply (loop : Loop) : LoopEvent → Except Panic Loop
  | .allocate oracle nodeClaim claims =>
    match allocate env loop.allocator oracle nodeClaim claims with
    | .error _ => .ok loop
    | .ok result => .ok { loop with
        computed := loop.computed ++ result.allocation.toList.map fun allocation =>
          (loop.allocator.allocationTracker, allocation) }
  | .commit allocation => do
    let allocator ← loop.allocator.commit allocation
    return { loop with
      allocator := allocator
      held := loop.held ++ allocation.holdings env }
  | .release nodeClaimID instanceTypes => do
    let allocator ← loop.allocator.releaseInstanceType env nodeClaimID instanceTypes
    return { loop with
      allocator := allocator
      held := loop.held.filter fun holding =>
        !(holding.nodeClaim = nodeClaimID && instanceTypes.contains holding.instanceType) }

abbrev tracker (loop : Loop) : AllocationTracker := loop.allocator.allocationTracker

/-- Claims that meet a condition are allocated, and an allocation is only
committed if it was computed against the current tracker. -/
def Enabled (Input : AllocationTracker → NodeClaim → List ResourceClaim → Prop) (loop : Loop) :
    LoopEvent → Prop
  | .allocate _ nodeClaim claims => Input loop.tracker nodeClaim claims
  | .commit allocation => (loop.tracker, allocation) ∈ loop.computed
  | .release _ _ => True

abbrev AnyInput : AllocationTracker → NodeClaim → List ResourceClaim → Prop := fun _ _ _ => True

/-- A pod's turn: allocate its claims and commit what was found. -/
def schedule (loop : Loop) (oracle : Oracle) (nodeClaim : NodeClaim) (claims : List ResourceClaim) :
    Except Panic Loop :=
  match allocate env loop.allocator oracle nodeClaim claims with
  | .error _ => .ok loop
  | .ok result =>
    match result.allocation with
    | none => .ok loop
    | some allocation => do
      let loop ← loop.apply env (.allocate oracle nodeClaim claims)
      loop.apply env (.commit allocation)

end Loop

section Committing

variable {env} {tracker : AllocationTracker} {nodeClaim : NodeClaim}
variable {claims : List ResourceClaim} {alloc : TrackedAllocation}

variable {id : DeviceID} {it : InstanceTypeID}

theorem exclusiveDevice_iff {slices : List ResourceSlice} :
    exclusiveDevice slices id ↔ id.template = false ∧
      ∀ dw, Published slices dw → dw.id = id → dw.device.allowMultipleAllocations = false := by
  unfold exclusiveDevice
  rw [Bool.and_eq_true_iff, all_eq_true, Bool.not_eq_true']
  apply and_congr_right
  intro _
  constructor
  · rintro single dw ⟨slice, current, inSlice, isID⟩ rfl
    have checked := all_eq_true.mp (single slice current) dw.device inSlice
    simpa [← isID] using checked
  · intro single slice current
    rw [all_eq_true]
    intro device inSlice
    by_contra multi
    simp only [Bool.not_eq_true', Bool.not_eq_false, Bool.and_eq_true, decide_eq_true_eq] at multi
    have exclusive := single ⟨device, id, none⟩ ⟨slice, current, inSlice, multi.2⟩ rfl
    exact absurd multi.1 (Bool.eq_false_iff.mp exclusive)

variable {ctx : SearchContext} {tentative : Tentative} {ids : List DeviceID}

theorem Tentative.Sound.checked {Requested : RequestData → Prop}
    (sound : tentative.Sound ctx Requested) {taken : DeviceAllocationMetadata}
    (member : taken ∈ tentative.allocatedDevicesMetadata) :
    ∃ earlier, Admissible ctx Requested earlier taken := by
  obtain ⟨earlier, later, split⟩ := append_of_mem member
  exact ⟨earlier, sound.admissible earlier taken ⟨later, by simp [split]⟩⟩

theorem TrackedAllocation.Explained.found (explained : alloc.Explained env tracker nodeClaim claims)
    (listed : alloc.deviceIDsByIT.lookup it = some ids) :
    ∃ tentative : Tentative, tentative.Sound (searchContext env tracker nodeClaim it)
        (RequestData.Asked claims) ∧
      alloc.share it = tentative.share (searchContext env tracker nodeClaim it) ∧
      ids = tentative.allocatedDevicesMetadata.map fun taken => taken.id := by
  rcases explained.shares it with nothing | ⟨tentative, sound, found⟩
  · have absent := congrArg Share.deviceIDs nothing
    exact absurd (listed.symm.trans absent) (by simp)
  · have same := congrArg Share.deviceIDs found
    exact ⟨tentative, sound, found, Option.some.inj (listed.symm.trans same)⟩

theorem exclusive_iff_of_share (found : alloc.share it = tentative.share ctx) (id : DeviceID) :
    alloc.exclusive it id ↔ id ∉ tentative.capacities id.template := by
  have capacity : alloc.capacityConsumptionByIT.lookup it = some tentative.allocatingCapacity :=
    congrArg Share.capacity found
  have templateCapacity : alloc.templateCapacityConsumptionByIT.lookup it =
      some tentative.templateAllocatingCapacity := congrArg Share.templateCapacity found
  unfold exclusive hasCapacityEntry Tentative.capacities
  cases id.template <;> simp [capacity, templateCapacity]

theorem mem_devices :
    (it, id) ∈ alloc.devices ↔ ∃ ids, alloc.deviceIDsByIT.lookup it = some ids ∧ id ∈ ids := by
  unfold devices
  simp only [mem_flatMap, mem_map, Prod.mk.injEq]
  constructor
  · rintro ⟨⟨key, ids⟩, inEntries, other, inIDs, rfl, rfl⟩
    exact ⟨ids, GoMap.mem_entries_iff.mp inEntries, inIDs⟩
  · rintro ⟨ids, found, inIDs⟩
    exact ⟨⟨it, ids⟩, GoMap.mem_entries_iff.mpr found, id, inIDs, rfl, rfl⟩

section

variable (explained : alloc.Explained env tracker nodeClaim claims)
include explained

theorem TrackedAllocation.Explained.free (member : (it, id) ∈ alloc.devices)
    (exclusive : alloc.exclusive it id) :
    tracker.isAllocated id alloc.nodeClaimID it = false := by
  obtain ⟨ids, listed, inIDs⟩ := mem_devices.mp member
  obtain ⟨tentative, sound, found, rfl⟩ := explained.found listed
  obtain ⟨taken, inMetadata, rfl⟩ := mem_map.mp inIDs
  obtain ⟨earlier, checked⟩ := sound.checked inMetadata
  rw [explained.nodeClaimID]
  apply checked.free
  by_contra multi
  exact (exclusive_iff_of_share found taken.id).mp exclusive
    (sound.multi_present taken inMetadata (by simpa using multi))

theorem TrackedAllocation.Explained.once (listed : alloc.deviceIDsByIT.lookup it = some ids) :
    (ids.filter fun id => alloc.exclusive it id).Nodup := by
  obtain ⟨tentative, sound, found, rfl⟩ := explained.found listed
  rw [nodup_iff_count_le_one]
  intro id
  by_cases exclusive : alloc.exclusive it id
  · rw [count_filter exclusive, count_eq_countP, countP_map, countP_eq_length_filter]
    have single := sound.once id ((exclusive_iff_of_share found id).mp exclusive)
    have same : (fun taken : DeviceAllocationMetadata => decide (taken.id = id)) =
        (fun other => other == id) ∘ fun taken : DeviceAllocationMetadata => taken.id := by
      funext taken
      rfl
    rw [← same, single]
    split_ifs <;> simp
  · have absent : id ∉ (tentative.allocatedDevicesMetadata.map fun taken => taken.id).filter
        fun id => alloc.exclusive it id := by simp [exclusive]
    rw [count_eq_zero.mpr absent]
    exact Nat.zero_le 1

theorem TrackedAllocation.Explained.committable : alloc.Committable tracker where
  free pair member exclusive := explained.free member exclusive
  once := by
    unfold devices
    rw [filter_flatMap, nodup_flatMap]
    constructor
    · rintro ⟨it, ids⟩ inEntries
      rw [filter_map]
      exact (explained.once (GoMap.mem_entries_iff.mp inEntries)).map fun _ _ same =>
        congrArg Prod.snd same
    · -- entries have different instance types
      have keys : alloc.deviceIDsByIT.entries.Pairwise fun left right => left.1 ≠ right.1 :=
        pairwise_map.mp alloc.deviceIDsByIT.nodupKeys
      refine keys.imp ?_
      intro left right different pair inLeft inRight
      obtain ⟨_, -, rfl⟩ := mem_map.mp (mem_of_mem_filter inLeft)
      obtain ⟨_, -, same⟩ := mem_map.mp (mem_of_mem_filter inRight)
      exact different (congrArg Prod.fst same).symm

end

end Committing

namespace Loop

variable {env} {loop loop' : Loop}
variable {Input : AllocationTracker → NodeClaim → List ResourceClaim → Prop}

/-- Pools are published, and allocations were found against their tracker. -/
structure Grounded (env : Environment)
    (Input : AllocationTracker → NodeClaim → List ResourceClaim → Prop) (loop : Loop) : Prop where
  cache : loop.allocator.CachePublished env
  computed : ∀ entry ∈ loop.computed, PublishedPools env entry.2.filteredPools ∧
    ∃ nodeClaim claims, Input entry.1 nodeClaim claims ∧
      entry.2.toTrackedAllocation.Explained env entry.1 nodeClaim claims

/-- The device indexes are exact and agree with what is held. -/
structure Exclusive (env : Environment) (loop : Loop) : Prop where
  exact : loop.tracker.indexes.Exact
  held_iff : ∀ holding, holding ∈ loop.held ↔
    exclusiveDevice env.inClusterSlices holding.device = true ∧
      holds loop.tracker.inflightClusterAllocations holding.device holding.nodeClaim
        holding.instanceType
  nodup : loop.held.Nodup
  unallocated : ∀ holding ∈ loop.held, holding.device ∉ loop.tracker.preallocatedDevices

variable {event : LoopEvent} {nodeClaim : NodeClaim} {claims : List ResourceClaim}
variable {allocatedState : AllocatedDeviceState}

theorem apply_grounded (grounded : loop.Grounded env Input) (enabled : loop.Enabled Input event)
    (done : loop.apply env event = .ok loop') :
    loop'.Grounded env Input := by
  cases event with
  | allocate oracle nodeClaim claims =>
    rw [apply] at done
    split at done
    · cases done
      exact grounded
    · next result isResult =>
        cases done
        refine ⟨grounded.cache, ?_⟩
        intro entry member
        rcases mem_append.mp member with old | new
        · exact grounded.computed entry old
        · obtain ⟨allocation, found, rfl⟩ := mem_map.mp new
          have allocated := allocate_allocated grounded.cache isResult (Option.mem_toList.mp found)
          exact ⟨allocated.pools, nodeClaim, claims, enabled, allocated.explained⟩
  | commit allocation =>
    obtain ⟨allocator, committed, rfl⟩ := map_eq_ok.mp done
    refine ⟨?_, grounded.computed⟩
    obtain ⟨tracker, -, rest⟩ := bind_eq_ok.mp committed
    obtain ⟨claims, -, rfl⟩ := map_eq_ok.mp rest
    intro nodeClaim pools found
    rw [GoMap.lookup_insert_eq] at found
    split_ifs at found
    · cases found
      exact (grounded.computed _ enabled).1
    · exact grounded.cache nodeClaim pools found
  | release nodeClaimID instanceTypes =>
    obtain ⟨allocator, released, rfl⟩ := map_eq_ok.mp done
    refine ⟨?_, grounded.computed⟩
    obtain ⟨tracker, -, rfl⟩ := map_eq_ok.mp released
    exact grounded.cache

variable {allocation : Allocation} {panic : Panic}

theorem mem_holdings {holding : Holding} :
    holding ∈ allocation.holdings env ↔ holding.nodeClaim = allocation.nodeClaimID ∧
      (holding.instanceType, holding.device) ∈ allocation.devices ∧
      exclusiveDevice env.inClusterSlices holding.device := by
  unfold Allocation.holdings
  rw [mem_map]
  constructor
  · rintro ⟨pair, member, rfl⟩
    obtain ⟨inDevices, exclusive⟩ := mem_filter.mp member
    exact ⟨rfl, inDevices, exclusive⟩
  · rintro ⟨sameNodeClaim, inDevices, exclusive⟩
    refine ⟨_, mem_filter.mpr ⟨inDevices, exclusive⟩, ?_⟩
    rw [← sameNodeClaim]

theorem exclusive_of_exclusiveDevice {tracker : AllocationTracker} {alloc : TrackedAllocation}
    (explained : alloc.Explained env tracker nodeClaim claims) {it : InstanceTypeID} {id : DeviceID}
    (member : (it, id) ∈ alloc.devices) (exclusive : exclusiveDevice env.inClusterSlices id) :
    alloc.exclusive it id := by
  obtain ⟨published, single⟩ := exclusiveDevice_iff.mp exclusive
  obtain ⟨ids, listed, -⟩ := mem_devices.mp member
  obtain ⟨tentative, sound, found, -⟩ := explained.found listed
  rw [exclusive_iff_of_share found]
  intro present
  obtain ⟨-, dw, candidate, rfl, multi⟩ := sound.present_multi _ id present
  rcases candidate with inCluster | template
  · exact absurd multi (by simp [single dw inCluster rfl])
  · exact absurd (template_of_mem_templateDevices template) (by simp [published])

theorem commit_exclusive (grounded : loop.Grounded env Input) (exclusive : loop.Exclusive env)
    (enabled : loop.Enabled Input (.commit allocation))
    (done : loop.apply env (.commit allocation) = .ok loop') : loop'.Exclusive env := by
  obtain ⟨-, nodeClaim, asked, -, explained⟩ := grounded.computed _ enabled
  obtain ⟨allocator, committed, rfl⟩ := map_eq_ok.mp done
  obtain ⟨tracker', trackerDone, rest⟩ := bind_eq_ok.mp committed
  obtain ⟨claims, -, rfl⟩ := map_eq_ok.mp rest
  obtain ⟨_, again, exact', added⟩ := commit_succeeds exclusive.exact explained.committable
  obtain rfl := ok.inj (trackerDone.symm.trans again)
  have free : ∀ holding ∈ allocation.holdings env,
      holding.device ∉ loop.tracker.preallocatedDevices ∧ holding ∉ loop.held := by
    intro holding member
    obtain ⟨sameNodeClaim, inDevices, single⟩ := mem_holdings.mp member
    have unallocated := explained.free inDevices
      (exclusive_of_exclusiveDevice explained inDevices single)
    rw [isAllocated_cluster (exclusiveDevice_iff.mp single).1] at unallocated
    refine ⟨unallocated.1, fun already => ?_⟩
    obtain ⟨held, found, -, references⟩ := ((exclusive.held_iff holding).mp already).2
    exact (unallocated.2 held found).2 references
  refine ⟨exact', ?_, ?_, ?_⟩
  · intro holding
    rw [mem_append, mem_holdings, exclusive.held_iff]
    rw [added]
    constructor
    · rintro (⟨single, old⟩ | ⟨sameNodeClaim, inDevices, single⟩)
      · exact ⟨single, .inr old⟩
      · exact ⟨single, .inl ⟨sameNodeClaim, inDevices,
          exclusive_of_exclusiveDevice explained inDevices single, (exclusiveDevice_iff.mp single).1⟩⟩
    · rintro ⟨single, ⟨sameNodeClaim, inDevices, -⟩ | old⟩
      · exact .inr ⟨sameNodeClaim, inDevices, single⟩
      · exact .inl ⟨single, old⟩
  · have once : (allocation.holdings env).Nodup := by
      have among : allocation.devices.filter (fun pair => exclusiveDevice env.inClusterSlices pair.2) =
          (allocation.devices.filter fun pair =>
            allocation.toTrackedAllocation.exclusive pair.1 pair.2).filter
              fun pair => exclusiveDevice env.inClusterSlices pair.2 := by
        rw [filter_filter]
        apply filter_congr
        intro pair inDevices
        cases single : exclusiveDevice env.inClusterSlices pair.2 with
        | false => rfl
        | true => simp [exclusive_of_exclusiveDevice explained inDevices single]
      unfold Allocation.holdings
      rw [among]
      refine (explained.committable.once.filter _).map ?_
      intro left right same
      exact Prod.ext (congrArg Holding.instanceType same) (congrArg Holding.device same)
    exact nodup_append.mpr ⟨exclusive.nodup, once,
      fun old inHeld new inNew same => (free new inNew).2 (same ▸ inHeld)⟩
  · intro holding member
    rw [commit_preallocated trackerDone]
    rcases mem_append.mp member with old | new
    · exact exclusive.unallocated holding old
    · exact (free holding new).1

theorem release_exclusive {nodeClaimID : NodeClaimID} {instanceTypes : List InstanceTypeID}
    (exclusive : loop.Exclusive env)
    (done : loop.apply env (.release nodeClaimID instanceTypes) = .ok loop') :
    loop'.Exclusive env := by
  obtain ⟨allocator, released, rfl⟩ := map_eq_ok.mp done
  obtain ⟨tracker', trackerDone, rfl⟩ := map_eq_ok.mp released
  obtain ⟨_, again, exact', dropped⟩ := releaseInstanceTypes_succeeds
    exclusive.exact nodeClaimID instanceTypes
  obtain rfl := ok.inj (trackerDone.symm.trans again)
  refine ⟨exact', ?_, exclusive.nodup.filter _, ?_⟩
  · intro holding
    rw [mem_filter, exclusive.held_iff]
    rw [dropped]
    simp [and_assoc, imp_iff_not_or]
  · intro holding member
    rw [releaseInstanceTypes_preallocated trackerDone]
    exact exclusive.unallocated holding (mem_of_mem_filter member)

theorem start_exclusive (allocatedState : AllocatedDeviceState) :
    (start env allocatedState).Exclusive env := by
  have indexes : (start env allocatedState).tracker.indexes =
      (newAllocationTracker allocatedState).indexes := by
    unfold start newAllocator Loop.tracker
    rw [initPools_eq]
    rfl
  have nothing : (start env allocatedState).tracker.inflightClusterAllocations = ∅ :=
    congrArg DeviceIndexes.inflightClusterAllocations indexes
  refine ⟨indexes ▸ newAllocationTracker_exact allocatedState, ?_, nodup_nil, ?_⟩
  · intro holding
    rw [nothing]
    simp [start, holds]
  · intro holding member
    cases member

theorem start_grounded (allocatedState : AllocatedDeviceState) :
    (start env allocatedState).Grounded env Input where
  cache nodeClaim pools found := by simp [start, newAllocator] at found
  computed entry member := by cases member

theorem commitClaims_panics {known claims : GoMap ResourceClaimID ResourceClaimAllocationMetadata}
    (failed : commitClaims known claims = .error panic) :
    panic = .claimAlreadyAllocated := by
  refine foldlM_error (fun panic => panic = .claimAlreadyAllocated) ?_ failed
  intro known entry failure failed
  split_ifs at failed
  exact (error.inj failed).symm

theorem commit_fails_at_claims (grounded : loop.Grounded env Input) (exclusive : loop.Exclusive env)
    (enabled : loop.Enabled Input (.commit allocation))
    (failed : loop.apply env (.commit allocation) = .error panic) :
    commitClaims loop.allocator.claimAllocationMetadata allocation.claimMetadata = .error panic := by
  obtain ⟨-, nodeClaim, asked, -, explained⟩ := grounded.computed _ enabled
  obtain ⟨tracker', trackerDone, -⟩ := commit_succeeds exclusive.exact explained.committable
  rw [apply, map_eq_error, Allocator.commit, bind_eq_error] at failed
  rcases failed with tracked | ⟨tracker, -, claimed⟩
  · rw [trackerDone] at tracked
    cases tracked
  · exact map_eq_error.mp claimed

theorem apply_panics (grounded : loop.Grounded env Input) (exclusive : loop.Exclusive env)
    (enabled : loop.Enabled Input event) (failed : loop.apply env event = .error panic) :
    panic = .claimAlreadyAllocated := by
  cases event with
  | allocate oracle nodeClaim claims =>
    rw [apply] at failed
    split at failed <;> cases failed
  | commit allocation =>
    exact commitClaims_panics (commit_fails_at_claims grounded exclusive enabled failed)
  | release nodeClaimID instanceTypes =>
    obtain ⟨tracker', trackerDone, -⟩ := releaseInstanceTypes_succeeds
      exclusive.exact nodeClaimID instanceTypes
    rw [apply, map_eq_error, Allocator.releaseInstanceType, map_eq_error, trackerDone] at failed
    cases failed

theorem reaches_schedule {initial : Loop} {oracle : Oracle}
    (input : Input loop.tracker nodeClaim claims)
    (reached : Reaches (apply env) (Enabled Input) initial loop)
    (done : loop.schedule env oracle nodeClaim claims = .ok loop') :
    Reaches (apply env) (Enabled Input) initial loop' := by
  unfold schedule at done
  split at done
  · exact ok.inj done ▸ reached
  next result isResult =>
  split at done
  · exact ok.inj done ▸ reached
  next allocation found =>
  rw [bind_eq_ok] at done
  obtain ⟨computed, allocated, committed⟩ := done
  have enabled : loop.Enabled Input (.allocate oracle nodeClaim claims) := input
  refine .step (.step reached enabled allocated) ?_ committed
  rw [apply, isResult] at allocated
  cases allocated
  simp [Enabled, found]

theorem reaches_exclusive
    (reached : Reaches (apply env) (Enabled Input) (start env allocatedState) loop) :
    loop.Grounded env Input ∧ loop.Exclusive env := by
  refine reached.invariant (fun loop => loop.Grounded env Input ∧ loop.Exclusive env)
    ⟨start_grounded allocatedState, start_exclusive allocatedState⟩ ?_
  rintro state event state' ⟨grounded, exclusive⟩ enabled done
  refine ⟨apply_grounded grounded enabled done, ?_⟩
  cases event with
  | allocate oracle nodeClaim claims =>
    rw [apply] at done
    split at done
    · exact ok.inj done ▸ exclusive
    · cases done
      exact ⟨exclusive.exact, exclusive.held_iff, exclusive.nodup, exclusive.unallocated⟩
  | commit allocation =>
    exact commit_exclusive grounded exclusive enabled done
  | release nodeClaimID instanceTypes => exact release_exclusive exclusive done

theorem reaches_budgets (Good : Budgets → Prop)
    (initial : Good (start env allocatedState).tracker.budgets)
    (commits : ∀ (tracker middle : AllocationTracker) nodeClaim claims alloc, Good tracker.budgets →
      middle.budgets = tracker.budgets → Input tracker nodeClaim claims →
        alloc.Explained env tracker nodeClaim claims → Good (middle.commitBudgets alloc).budgets)
    (releases : ∀ (tracker : AllocationTracker) nodeClaim instanceTypes, Good tracker.budgets →
      Good (tracker.releaseBudgets nodeClaim instanceTypes).budgets)
    (reached : Reaches (apply env) (Enabled Input) (start env allocatedState) loop) :
    Good loop.tracker.budgets := by
  refine (reached.invariant (fun loop => loop.Grounded env Input ∧ Good loop.tracker.budgets)
    ⟨start_grounded allocatedState, initial⟩ ?_).2
  rintro state event state' ⟨grounded, good⟩ enabled done
  refine ⟨apply_grounded grounded enabled done, ?_⟩
  cases event with
  | allocate oracle nodeClaim claims =>
    rw [apply] at done
    split at done
    · exact ok.inj done ▸ good
    · cases done
      exact good
  | commit allocation =>
    obtain ⟨-, nodeClaim, claims, input, explained⟩ := grounded.computed _ enabled
    obtain ⟨allocator, committed, rfl⟩ := map_eq_ok.mp done
    obtain ⟨tracker, trackerDone, rest⟩ := bind_eq_ok.mp committed
    obtain ⟨metadata, -, rfl⟩ := map_eq_ok.mp rest
    obtain ⟨middle, same, rfl⟩ := commit_budgets trackerDone
    exact commits state.tracker middle nodeClaim claims _ good same input explained
  | release nodeClaimID instanceTypes =>
    obtain ⟨allocator, released, rfl⟩ := map_eq_ok.mp done
    obtain ⟨tracker, trackerDone, rfl⟩ := map_eq_ok.mp released
    obtain ⟨middle, same, rfl⟩ := releaseInstanceTypes_budgets trackerDone
    exact releases middle nodeClaimID instanceTypes (same ▸ good)

end Loop

/-- In every run of allocations, commits of current ones and releases, the
in-cluster indexes are inverses, no exclusive device is held for two NodeClaims,
committed twice for an instance type or allocated on the API server, and no
device-level panic is reached. -/
theorem run_keeps_devices_exclusive (env : Environment) (allocatedState : AllocatedDeviceState)
    (loop : Loop)
    (reached : Reaches (Loop.apply env) (Loop.Enabled Loop.AnyInput) (Loop.start env allocatedState)
      loop) :
    loop.tracker.indexes.Exact ∧
      loop.held.Nodup ∧
      (∀ first ∈ loop.held, ∀ second ∈ loop.held,
        first.device = second.device → first.nodeClaim = second.nodeClaim) ∧
      (∀ holding ∈ loop.held, holding.device ∉ loop.tracker.preallocatedDevices) ∧
      (∀ holding, holding ∈ loop.held ↔
        exclusiveDevice env.inClusterSlices holding.device = true ∧
          holds loop.tracker.inflightClusterAllocations holding.device holding.nodeClaim
            holding.instanceType) ∧
      ∀ event panic, loop.Enabled Loop.AnyInput event → loop.apply env event = .error panic →
        panic = .claimAlreadyAllocated := by
  obtain ⟨grounded, exclusive⟩ := Loop.reaches_exclusive reached
  refine ⟨exclusive.exact, exclusive.nodup, ?_, exclusive.unallocated, exclusive.held_iff,
    fun event panic => Loop.apply_panics grounded exclusive⟩
  intro first inFirst second inSecond same
  obtain ⟨-, firstHeld, foundFirst, ofFirst, -⟩ := (exclusive.held_iff first).mp inFirst
  obtain ⟨-, secondHeld, foundSecond, ofSecond, -⟩ := (exclusive.held_iff second).mp inSecond
  rw [same, foundSecond] at foundFirst
  rw [← ofFirst, ← ofSecond, Option.some.inj foundFirst]

def gpuEnvironment : Environment where
  tables := .base
  deviceClass _ := some []
  compiles _ := true
  deviceMatches _ _ _ := some true
  inClusterSlices := [{ driver := "gpu.example.com", pool := "rack", allNodes := true,
                        devices := [{ name := "gpu-0" }] }]
  attributeBindings := ∅
  deletingPodUIDs := ∅

def gpuNodeClaim : NodeClaim where
  id := "default-1"
  instanceTypes := ["small", "large"]

def gpuClaim : ResourceClaim where
  id := { nameSpace := "default", name := "gpu" }
  requests := [{ name := "gpu", exactly := some { deviceClassName := "gpu" } }]

/-- Keep the order of the pools and let the search finish. -/
def patientOracle : Oracle where
  poolOrder := id
  poolOrder_perm _ := .rfl
  polls := 100

def gpuDevice : DeviceID :=
  { driver := "gpu.example.com", pool := "rack", device := "gpu-0" }

def numaSlice (pool : PoolID) (numa : Int) (zones : Option (List NodeSelectorTerm)) :
    ResourceSlice where
  driver := "gpu.example.com"
  pool := pool
  devices := [{ name := "gpu-0", attributes := .ofList [("numa", .intValue numa)] }]
  nodeSelector := zones

def inZones (first second : String) : List NodeSelectorTerm :=
  [{ matchExpressions := [⟨labelTopologyZone, .opIn, [first, second], rfl⟩] }]

/-- Devices of two NUMA nodes, each reached from two of three zones. -/
def numaEnvironment : Environment :=
  { gpuEnvironment with
    inClusterSlices := [numaSlice "near" 1 (some (inZones "a" "b")),
      numaSlice "far" 2 (some (inZones "b" "c"))] }

/-- Each instance type promises a device of another NUMA node. -/
def numaNodeClaim : NodeClaim :=
  { gpuNodeClaim with
    resourceSlices := .ofList [("small", [numaSlice "node" 1 none]),
      ("large", [numaSlice "node" 2 none])] }

/-- Two devices of the same NUMA node. -/
def numaClaim : ResourceClaim where
  id := { nameSpace := "default", name := "pair" }
  requests := [{ name := "pair", exactly := some { deviceClassName := "gpu", count := 2 } }]
  constraints := [{ matchAttribute := some "numa" }]

/-- A pod takes the device for both instance types, then one is released. -/
def gpuRun : Except Panic Loop := do
  let loop ← (Loop.start gpuEnvironment {}).schedule gpuEnvironment patientOracle gpuNodeClaim
    [gpuClaim]
  loop.apply gpuEnvironment (.release "default-1" ["small"])

theorem gpuRun_keeps_devices_exclusive : ∃ loop, gpuRun = .ok loop ∧
    loop.held = [⟨"default-1", "large", gpuDevice⟩] ∧
    loop.tracker.indexes.Exact ∧ loop.held.Nodup ∧
    (∀ first ∈ loop.held, ∀ second ∈ loop.held,
      first.device = second.device → first.nodeClaim = second.nodeClaim) ∧
    (∀ holding ∈ loop.held, holding.device ∉ loop.tracker.preallocatedDevices) ∧
    (∀ holding, holding ∈ loop.held ↔
      exclusiveDevice gpuEnvironment.inClusterSlices holding.device = true ∧
        holds loop.tracker.inflightClusterAllocations holding.device holding.nodeClaim
          holding.instanceType) ∧
    ∀ event panic, loop.Enabled Loop.AnyInput event → loop.apply gpuEnvironment event = .error panic →
      panic = .claimAlreadyAllocated := by
  obtain ⟨loop, finished, held⟩ : ∃ loop, gpuRun = .ok loop ∧
      loop.held = [⟨"default-1", "large", gpuDevice⟩] := exists_ok (by decide +kernel)
  obtain ⟨middle, scheduled, released⟩ := bind_eq_ok.mp finished
  have enabled : middle.Enabled Loop.AnyInput (.release "default-1" ["small"]) := trivial
  have reached : Reaches (Loop.apply gpuEnvironment) (Loop.Enabled Loop.AnyInput)
      (Loop.start gpuEnvironment {}) loop :=
    .step (Loop.reaches_schedule trivial .start scheduled) enabled released
  exact ⟨loop, finished, held, run_keeps_devices_exclusive gpuEnvironment {} loop reached⟩

end Kraftsman.DynamicResources
