import Kraftsman.DynamicResources.Indexes

/-!
Contract: commits and releases conserve the shared budgets.

Owns: the ledgers behind counters and inflight capacity, that every update keeps
them balanced, and what a whole run leaves of a budget.
Does not own: whether an allocation fits its budget.
-/

namespace Kraftsman.DynamicResources

open Apis Data PeakLedger FallibleLoop AllocationTracker GoMap List

/-- Each NodeClaim owes its peak, and counters started from some budget. -/
structure Budgets.CountersBalanced (initial : PoolCounters) (budgets : Budgets) : Prop where
  nonneg : ∀ nodeClaim, NonnegByIT (owned budgets.countersByNodeClaimIT nodeClaim)
  remaining : ∀ pool set name budget, getCounter initial pool set name = some budget →
    getCounter budgets.remainingCounters pool set name =
      some (budget - total counterAt budgets.countersByNodeClaimIT (pool, set, name))

structure Budgets.CapacityBalanced (budgets : Budgets) : Prop where
  nonneg : ∀ nodeClaim,
    NonnegCapacityByIT (owned budgets.consumedCapacityByNodeClaimIT nodeClaim)
  inflight : ∀ key, capacityAt budgets.inflightConsumedCapacity key =
    total capacityAt budgets.consumedCapacityByNodeClaimIT key

theorem Budgets.CapacityBalanced.peak_le_inflight {budgets : Budgets}
    (balanced : budgets.CapacityBalanced) (nodeClaim : NodeClaimID) (key : CapacityKey) :
    peak capacityAt (owned budgets.consumedCapacityByNodeClaimIT nodeClaim)
      key ≤ capacityAt budgets.inflightConsumedCapacity key := by
  rw [balanced.inflight]
  exact peak_owned_le_total nodeClaim _ key

structure Budgets.Balanced (initial : PoolCounters) (budgets : Budgets) : Prop where
  counters : budgets.CountersBalanced initial
  capacity : budgets.CapacityBalanced

structure TrackedAllocation.Nonneg (alloc : TrackedAllocation) : Prop where
  counters : NonnegByIT alloc.counterConsumptionByIT
  capacity : NonnegCapacityByIT alloc.capacityConsumptionByIT

namespace AllocationTracker

variable {initial : PoolCounters} {tracker tracker' : AllocationTracker}
variable {alloc : TrackedAllocation}

theorem commitBudgets_counters (balanced : tracker.budgets.CountersBalanced initial)
    (nonneg : NonnegByIT alloc.counterConsumptionByIT) :
    (tracker.commitBudgets alloc).budgets.CountersBalanced initial := by
  rw [commitBudgets_eq]
  constructor
  · exact forall_of_update NonnegByIT storedCounters_commitCounters
      (nonneg.mergeCounters (balanced.nonneg alloc.nodeClaimID)) balanced.nonneg
  · intro pool set name budget found
    have before := balanced.remaining pool set name budget found
    have after := getCounter_commitCounters (balanced.nonneg alloc.nodeClaimID) before nonneg
    dsimp only [budgets] at after ⊢
    rw [after, commitCounters_stored, total_insert_unless, sub_sub]
    · rfl
    · exact merge_of_entries_nil

theorem commitBudgets_capacity (balanced : tracker.budgets.CapacityBalanced)
    (nonneg : NonnegCapacityByIT alloc.capacityConsumptionByIT) :
    (tracker.commitBudgets alloc).budgets.CapacityBalanced := by
  rw [commitBudgets_eq]
  constructor
  · exact forall_of_update NonnegCapacityByIT storedCapacity_commitCapacity
      (nonneg.mergeCapacity (balanced.nonneg alloc.nodeClaimID)) balanced.nonneg
  · intro key
    have before := balanced.inflight key
    have after := capacityAt_commitCapacity nonneg (balanced.nonneg alloc.nodeClaimID) key
    dsimp only [budgets] at before ⊢
    rw [after, commitCapacity_stored, total_insert_unless, before]
    · rfl
    · exact merge_of_entries_nil

theorem releaseBudgets_counters (balanced : tracker.budgets.CountersBalanced initial)
    (nodeClaim : NodeClaimID) (instanceTypes : List InstanceTypeID) :
    (tracker.releaseBudgets nodeClaim instanceTypes).budgets.CountersBalanced initial := by
  rw [releaseBudgets_eq]
  constructor
  · exact forall_of_update NonnegByIT storedCounters_releaseCounters
      ((balanced.nonneg nodeClaim).eraseAll instanceTypes) balanced.nonneg
  · intro pool set name budget found
    have before := balanced.remaining pool set name budget found
    have after : getCounter (tracker.releaseCounters nodeClaim instanceTypes).remainingCounters
        pool set name = _ := getCounter_releaseCounters (balanced.nonneg nodeClaim) before
    dsimp only [budgets] at after ⊢
    rw [after, releaseCounters_stored, total_forget, sub_add]
    rfl

theorem releaseBudgets_capacity (balanced : tracker.budgets.CapacityBalanced)
    (nodeClaim : NodeClaimID) (instanceTypes : List InstanceTypeID) :
    (tracker.releaseBudgets nodeClaim instanceTypes).budgets.CapacityBalanced := by
  rw [releaseBudgets_eq]
  constructor
  · exact forall_of_update NonnegCapacityByIT storedCapacity_releaseCapacity
      ((balanced.nonneg nodeClaim).eraseAll instanceTypes) balanced.nonneg
  · intro key
    have before := balanced.inflight key
    dsimp only [budgets] at before
    have after : capacityAt
        (tracker.releaseCapacity nodeClaim instanceTypes).inflightConsumedCapacity key = _ :=
      capacityAt_releaseCapacity (balanced.nonneg nodeClaim) key
        (balanced.peak_le_inflight nodeClaim key)
    dsimp only [budgets]
    rw [after, releaseCapacity_stored, total_forget, before]
    rfl

theorem commit_budgets (done : tracker.commit alloc = .ok tracker') :
    ∃ middle : AllocationTracker, middle.budgets = tracker.budgets ∧ tracker' = middle.commitBudgets alloc := by
  obtain ⟨middle, devices, rfl⟩ := map_eq_ok.mp done
  exact ⟨middle, commitDevices_budgets devices, rfl⟩

variable {nodeClaim : NodeClaimID} {instanceTypes : List InstanceTypeID}

theorem releaseInstanceTypes_budgets
    (done : tracker.releaseInstanceTypes nodeClaim instanceTypes = .ok tracker') :
    ∃ middle : AllocationTracker, middle.budgets = tracker.budgets ∧
      tracker' = middle.releaseBudgets nodeClaim instanceTypes := by
  obtain ⟨middle, devices, rfl⟩ := map_eq_ok.mp done
  exact ⟨middle, foldlM_frame budgets (fun _ _ _ => releaseDevices_budgets) devices, rfl⟩

theorem commit_balanced (balanced : tracker.budgets.Balanced initial) (nonneg : alloc.Nonneg)
    (done : tracker.commit alloc = .ok tracker') : tracker'.budgets.Balanced initial := by
  obtain ⟨middle, same, rfl⟩ := commit_budgets done
  rw [← same] at balanced
  exact ⟨commitBudgets_counters balanced.counters nonneg.counters,
    commitBudgets_capacity balanced.capacity nonneg.capacity⟩

theorem releaseInstanceTypes_balanced (balanced : tracker.budgets.Balanced initial)
    (done : tracker.releaseInstanceTypes nodeClaim instanceTypes = .ok tracker') :
    tracker'.budgets.Balanced initial := by
  obtain ⟨middle, same, rfl⟩ := releaseInstanceTypes_budgets done
  rw [← same] at balanced
  exact ⟨releaseBudgets_counters balanced.counters _ _,
    releaseBudgets_capacity balanced.capacity _ _⟩

end AllocationTracker

inductive TrackerEvent where
  | commit (alloc : TrackedAllocation)
  | release (nodeClaim : NodeClaimID) (instanceTypes : List InstanceTypeID)

def TrackerEvent.apply (tracker : AllocationTracker) : TrackerEvent → Except Panic AllocationTracker
  | .commit alloc => tracker.commit alloc
  | .release nodeClaim instanceTypes => tracker.releaseInstanceTypes nodeClaim instanceTypes

def TrackerEvent.Nonneg : TrackerEvent → Prop
  | .commit alloc => alloc.Nonneg
  | .release _ _ => True

/-- What an instance type has accumulated since it was last released. -/
def accumulated (amount : TrackedAllocation → Quantity) (nodeClaim : NodeClaimID)
    (it : InstanceTypeID) (events : List TrackerEvent) : Quantity :=
  events.foldl (fun sum event => match event with
    | .commit alloc => if alloc.nodeClaimID = nodeClaim then sum + amount alloc else sum
    | .release released instanceTypes =>
      if released = nodeClaim ∧ it ∈ instanceTypes then 0 else sum) 0

/-- What a tracker stores is what its history has accumulated. -/
structure Budgets.Records (events : List TrackerEvent) (budgets : Budgets) : Prop where
  counters : ∀ nodeClaim it key,
    charge counterAt (owned budgets.countersByNodeClaimIT nodeClaim) it key =
      accumulated (fun alloc => charge counterAt alloc.counterConsumptionByIT it key)
        nodeClaim it events
  capacity : ∀ nodeClaim it key,
    charge capacityAt
        (owned budgets.consumedCapacityByNodeClaimIT nodeClaim) it key =
      accumulated (fun alloc => charge capacityAt alloc.capacityConsumptionByIT it key)
        nodeClaim it events

variable {instanceTypes : List InstanceTypeID}

section Charges

variable {Charge Resource : Type} {read : Charge → Resource → Quantity}
variable {amount : TrackedAllocation → Quantity} {events : List TrackerEvent}
variable {before after : GoMap InstanceTypeID Charge} {nodeClaim : NodeClaimID}
variable {it : InstanceTypeID} {resource : Resource}

private theorem charge_after_commit {combine : Charge → Charge → Charge}
    (adds : ∀ stored charge resource,
      read (combine stored charge) resource = read stored resource + read charge resource)
    {alloc : TrackedAllocation} {new stored : GoMap InstanceTypeID Charge}
    (committed : after = if nodeClaim = alloc.nodeClaimID then merge combine new stored
      else before)
    (own : nodeClaim = alloc.nodeClaimID → stored = before)
    (consumed : amount alloc = charge read new it resource)
    (recorded : charge read before it resource = accumulated amount nodeClaim it events) :
    charge read after it resource =
      accumulated amount nodeClaim it (events ++ [.commit alloc]) := by
  rw [committed, accumulated, foldl_append, foldl_cons, foldl_nil, ← accumulated, ← recorded]
  by_cases same : nodeClaim = alloc.nodeClaimID
  · simp only [same, if_true, consumed]
    rw [charge_merge _ _ _ _ adds, own same]
  · simp only [same, if_false, Ne.symm same]

private theorem charge_after_release {released : NodeClaimID} {stored : GoMap InstanceTypeID Charge}
    (kept : after = if nodeClaim = released then stored.eraseAll instanceTypes else before)
    (own : nodeClaim = released → stored = before)
    (recorded : charge read before it resource = accumulated amount nodeClaim it events) :
    charge read after it resource =
      accumulated amount nodeClaim it (events ++ [.release released instanceTypes]) := by
  rw [kept, accumulated, foldl_append, foldl_cons, foldl_nil, ← accumulated, ← recorded]
  by_cases same : nodeClaim = released
  · simp only [same, if_true, true_and]
    rw [charge_eraseAll, own same]
  · simp only [same, Ne.symm same, false_and, if_false]

end Charges

namespace AllocationTracker

variable {events : List TrackerEvent} {tracker tracker' : AllocationTracker}

theorem commitBudgets_records {alloc : TrackedAllocation} (records : tracker.budgets.Records events) :
    (tracker.commitBudgets alloc).budgets.Records (events ++ [.commit alloc]) := by
  rw [commitBudgets_eq]
  constructor
  · intro nodeClaim it key
    exact charge_after_commit counterAt_mergePools (storedCounters_commitCounters nodeClaim)
      (fun same => same ▸ rfl) rfl (records.counters nodeClaim it key)
  · intro nodeClaim it key
    exact charge_after_commit capacityAt_mergeDevices (storedCapacity_commitCapacity nodeClaim)
      (fun same => same ▸ rfl) rfl (records.capacity nodeClaim it key)

theorem releaseBudgets_records {nodeClaim : NodeClaimID} (records : tracker.budgets.Records events) :
    (tracker.releaseBudgets nodeClaim instanceTypes).budgets.Records
      (events ++ [.release nodeClaim instanceTypes]) := by
  rw [releaseBudgets_eq]
  constructor
  · intro other it key
    exact charge_after_release (storedCounters_releaseCounters other)
      (fun same => same ▸ rfl) (records.counters other it key)
  · intro other it key
    exact charge_after_release (storedCapacity_releaseCapacity other)
      (fun same => same ▸ rfl) (records.capacity other it key)

end AllocationTracker

/-- Indexes are exact, books balance, and what the history has accumulated is stored. -/
structure AllocationTracker.Accounts (initial : PoolCounters) (events : List TrackerEvent)
    (tracker : AllocationTracker) : Prop where
  exact : tracker.indexes.Exact
  balanced : tracker.budgets.Balanced initial
  records : tracker.budgets.Records events

namespace AllocationTracker

theorem initPools_balanced (allocatedState : AllocatedDeviceState) (pools : List Pool) :
    ((newAllocationTracker allocatedState).initPools pools).budgets.Balanced
      ((newAllocationTracker allocatedState).initPools pools).remainingCounters := by
  have unchanged := initPools_eq (newAllocationTracker allocatedState) pools
  constructor
  · constructor
    · intro nodeClaim it pools found
      rw [unchanged] at found
      simp [budgets, newAllocationTracker] at found
    · intro pool set name budget found
      have nothingStored : ((newAllocationTracker allocatedState).initPools
          pools).countersByNodeClaimIT = ∅ := by
        rw [unchanged]
        rfl
      dsimp only [budgets]
      rw [nothingStored, total_empty, sub_zero, found]
  · constructor
    · intro nodeClaim it devices found
      rw [unchanged] at found
      simp [budgets, newAllocationTracker] at found
    · intro key
      rw [unchanged]
      rfl

theorem initPools_accounts (allocatedState : AllocatedDeviceState) (pools : List Pool) :
    ((newAllocationTracker allocatedState).initPools pools).Accounts
      ((newAllocationTracker allocatedState).initPools pools).remainingCounters [] := by
  have unchanged := initPools_eq (newAllocationTracker allocatedState) pools
  constructor
  · rw [unchanged]
    exact ⟨(newAllocationTracker_exact allocatedState).inverse,
      (newAllocationTracker_exact allocatedState).nonempty⟩
  · exact initPools_balanced allocatedState pools
  · rw [unchanged]
    exact ⟨fun _ _ _ => rfl, fun _ _ _ => rfl⟩

variable {initial : PoolCounters} {events : List TrackerEvent}
variable {tracker tracker' : AllocationTracker}

theorem apply_accounts {event : TrackerEvent} (accounts : tracker.Accounts initial events)
    (nonneg : event.Nonneg) (done : event.apply tracker = .ok tracker') :
    tracker'.Accounts initial (events ++ [event]) := by
  cases event with
  | commit alloc =>
    refine ⟨commit_exact accounts.exact done, commit_balanced accounts.balanced nonneg done, ?_⟩
    obtain ⟨middle, devices, rfl⟩ := map_eq_ok.mp done
    apply commitBudgets_records
    rw [commitDevices_budgets devices]
    exact accounts.records
  | release nodeClaim instanceTypes =>
    obtain ⟨released, succeeded, exact, -⟩ :=
      releaseInstanceTypes_succeeds accounts.exact nodeClaim instanceTypes
    have same : released = tracker' := Except.ok.inj (succeeded.symm.trans done)
    refine ⟨same ▸ exact, releaseInstanceTypes_balanced accounts.balanced done, ?_⟩
    obtain ⟨middle, devices, rfl⟩ := map_eq_ok.mp done
    apply releaseBudgets_records
    rw [foldlM_frame budgets (fun _ _ _ => releaseDevices_budgets) devices]
    exact accounts.records

theorem run_accounts (accounts : tracker.Accounts initial [])
    (nonneg : ∀ event ∈ events, event.Nonneg)
    (run : events.foldlM TrackerEvent.apply tracker = .ok tracker') :
    tracker'.Accounts initial events := by
  let sofar : List TrackerEvent → AllocationTracker → Prop := fun rest middle =>
    ∃ history, history ++ rest = events ∧ middle.Accounts initial history
  have step : ∀ event rest middle middle', sofar (event :: rest) middle →
      event.apply middle = .ok middle' → sofar rest middle' := by
    rintro event rest middle middle' ⟨history, split, kept⟩ done
    refine ⟨history ++ [event], by simp [split], ?_⟩
    exact apply_accounts kept (nonneg event (split ▸ by simp)) done
  obtain ⟨history, complete, kept⟩ := foldlM_preserves sofar step ⟨[], rfl, accounts⟩ run
  rw [append_nil] at complete
  exact complete ▸ kept

theorem releaseInstanceTypes_stored {nodeClaim : NodeClaimID}
    (done : tracker.releaseInstanceTypes nodeClaim instanceTypes = .ok tracker')
    (other : NodeClaimID) :
    tracker'.storedCounters other =
        (if other = nodeClaim then (tracker.storedCounters nodeClaim).eraseAll instanceTypes
          else tracker.storedCounters other) ∧
      tracker'.storedCapacity other =
        (if other = nodeClaim then (tracker.storedCapacity nodeClaim).eraseAll instanceTypes
          else tracker.storedCapacity other) := by
  obtain ⟨middle, devices, rfl⟩ := map_eq_ok.mp done
  have same := foldlM_frame budgets (fun _ _ _ => releaseDevices_budgets) devices
  have counters : middle.storedCounters = tracker.storedCounters :=
    congrArg (fun budgets => owned (Budgets.countersByNodeClaimIT budgets)) same
  have capacity : middle.storedCapacity = tracker.storedCapacity :=
    congrArg (fun budgets => owned (Budgets.consumedCapacityByNodeClaimIT budgets)) same
  rw [releaseBudgets_eq, ← counters, ← capacity]
  exact ⟨storedCounters_releaseCounters other, storedCapacity_releaseCapacity other⟩

def ReleasesAll (releases : List (NodeClaimID × List InstanceTypeID))
    (tracker : AllocationTracker) : Prop :=
  ∀ nodeClaim it, (it ∈ tracker.storedCounters nodeClaim ∨ it ∈ tracker.storedCapacity nodeClaim) →
    ∃ release ∈ releases, release.1 = nodeClaim ∧ it ∈ release.2

theorem releaseAll_empty (accounts : tracker.Accounts initial events)
    {releases : List (NodeClaimID × List InstanceTypeID)} (all : ReleasesAll releases tracker) :
    ∃ tracker', releases.foldlM (fun tracker release =>
        tracker.releaseInstanceTypes release.1 release.2) tracker = .ok tracker' ∧
      tracker'.budgets.Balanced initial ∧ ReleasesAll [] tracker' := by
  let pending : List (NodeClaimID × List InstanceTypeID) → AllocationTracker → Prop :=
    fun rest middle => middle.indexes.Exact ∧ middle.budgets.Balanced initial ∧
      ReleasesAll rest middle
  have step : ∀ release rest middle, pending (release :: rest) middle →
      ∃ middle', middle.releaseInstanceTypes release.1 release.2 = .ok middle' ∧
        pending rest middle' := by
    rintro release rest middle ⟨exact, balanced, covered⟩
    obtain ⟨middle', done, exact', -⟩ := releaseInstanceTypes_succeeds exact release.1 release.2
    refine ⟨middle', done, exact', releaseInstanceTypes_balanced balanced done, ?_⟩
    intro nodeClaim it stored
    obtain ⟨counters, capacity⟩ := releaseInstanceTypes_stored done nodeClaim
    rw [counters, capacity] at stored
    split_ifs at stored with same
    · simp only [mem_eraseAll, ← or_and_right] at stored
      obtain ⟨next, member, isNext⟩ := covered release.1 it stored.1
      rcases mem_cons.mp member with rfl | inRest
      · exact absurd isNext.2 stored.2
      · exact ⟨next, inRest, same ▸ isNext⟩
    · obtain ⟨next, member, isNext⟩ := covered nodeClaim it stored
      rcases mem_cons.mp member with rfl | inRest
      · exact absurd isNext.1.symm same
      · exact ⟨next, inRest, isNext⟩
  obtain ⟨tracker', done, -, balanced, nothing⟩ := foldlM_succeeds pending step
    ⟨accounts.exact, accounts.balanced, all⟩
  exact ⟨tracker', done, balanced, nothing⟩

end AllocationTracker

/-- After any commits and releases, a shared counter is its initial budget less
the sum of the NodeClaims' peaks, the inflight capacity is the sum of the peaks,
the peaks are those of the accumulated consumption, and releasing everything
restores the initial budgets. -/
theorem run_conserves_budgets (allocatedState : AllocatedDeviceState) (pools : List Pool)
    (distinct : (pools.map fun pool => pool.key).Nodup) (events : List TrackerEvent)
    (nonneg : ∀ event ∈ events, event.Nonneg) (tracker : AllocationTracker)
    (run : events.foldlM TrackerEvent.apply
      ((newAllocationTracker allocatedState).initPools pools) = .ok tracker) :
    (∀ pool ∈ pools, ∀ set name total, getSetCounter pool.counterSets set name = some total →
      getCounter tracker.remainingCounters pool.key set name =
        some (total - preallocatedConsumption (newAllocationTracker allocatedState) pool set name -
          PeakLedger.total counterAt tracker.countersByNodeClaimIT (pool.key, set, name))) ∧
    (∀ device name, (getCapacity tracker.inflightConsumedCapacity device name).getD 0 =
      total capacityAt tracker.consumedCapacityByNodeClaimIT (device, name)) ∧
    tracker.budgets.Records events ∧
    ∀ releases, AllocationTracker.ReleasesAll releases tracker →
      ∃ tracker', releases.foldlM (fun tracker release =>
          AllocationTracker.releaseInstanceTypes tracker release.1 release.2) tracker = .ok tracker' ∧
        (∀ pool ∈ pools, ∀ set name total, getSetCounter pool.counterSets set name = some total →
          getCounter tracker'.remainingCounters pool.key set name =
            some (total -
              preallocatedConsumption (newAllocationTracker allocatedState) pool set name)) ∧
        ∀ device name, (getCapacity tracker'.inflightConsumedCapacity device name).getD 0 = 0 := by
  have budget : ∀ pool ∈ pools, ∀ set name total,
      getSetCounter pool.counterSets set name = some total →
        getCounter ((newAllocationTracker allocatedState).initPools pools).remainingCounters
          pool.key set name =
          some (total - preallocatedConsumption (newAllocationTracker allocatedState) pool set name) := by
    intro pool member set name total found
    rw [getCounter_initPools (fun _ _ => AList.notMem_empty _) distinct member, found]
    rfl
  have accounts := run_accounts (initPools_accounts allocatedState pools) nonneg run
  refine ⟨?_, ?_, accounts.records, ?_⟩
  · intro pool member set name total found
    exact accounts.balanced.counters.remaining _ _ _ _ (budget pool member set name total found)
  · intro device name
    exact accounts.balanced.capacity.inflight (device, name)
  · intro releases all
    obtain ⟨tracker', done, balanced, nothing⟩ := releaseAll_empty accounts all
    have noCounters : ∀ nodeClaim it, it ∉ tracker'.storedCounters nodeClaim := by
      intro nodeClaim it stored
      obtain ⟨release, member, -⟩ := nothing nodeClaim it (.inl stored)
      cases member
    have noCapacity : ∀ nodeClaim it, it ∉ tracker'.storedCapacity nodeClaim := by
      intro nodeClaim it stored
      obtain ⟨release, member, -⟩ := nothing nodeClaim it (.inr stored)
      cases member
    refine ⟨tracker', done, ?_, ?_⟩
    · intro pool member set name total found
      have left := balanced.counters.remaining _ _ _ _ (budget pool member set name total found)
      dsimp only [budgets] at left
      rw [total_eq_zero noCounters, sub_zero] at left
      exact left
    · intro device name
      have left := balanced.capacity.inflight (device, name)
      dsimp only [budgets] at left
      rw [total_eq_zero noCapacity] at left
      exact left

def memoryPool : Pool where
  key := { driver := "gpu.example.com", pool := "shared" }
  counterSets := ofList [("memory", ofList [("gb", 10)])]

/-- Three or two of the counter are taken, by instance type, and the larger one is released. -/
def memoryHistory : List TrackerEvent :=
  let takes : Quantity → PoolCounters := fun quantity =>
    ofList [(memoryPool.key, ofList [("memory", ofList [("gb", quantity)])])]
  [.commit { nodeClaimID := "default-1",
             counterConsumptionByIT := ofList [("large", takes 3), ("small", takes 2)] },
    .release "default-1" ["large"]]

theorem run_conserves_memoryPool : ∃ tracker,
    memoryHistory.foldlM TrackerEvent.apply ((newAllocationTracker {}).initPools [memoryPool]) =
      .ok tracker ∧
    getCounter tracker.remainingCounters memoryPool.key "memory" "gb" =
      some (10 - preallocatedConsumption (newAllocationTracker {}) memoryPool "memory" "gb" -
        total counterAt tracker.countersByNodeClaimIT
          (memoryPool.key, "memory", "gb")) := by
  refine ⟨_, rfl, ?_⟩
  have nonneg : ∀ event ∈ memoryHistory, event.Nonneg := by
    intro event member
    simp only [memoryHistory, mem_cons, not_mem_nil, or_false] at member
    rcases member with rfl | rfl
    · exact ⟨.of_values (by decide), fun it devices found => by simp at found⟩
    · trivial
  exact (run_conserves_budgets {} [memoryPool] (by decide) memoryHistory nonneg _ rfl).1
    memoryPool (by simp) "memory" "gb" 10 (by decide)

end Kraftsman.DynamicResources
