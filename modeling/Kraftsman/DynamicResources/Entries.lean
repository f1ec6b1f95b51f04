import Kraftsman.DynamicResources.CounterLimits

/-!
Contract: for which instance types of a NodeClaim the tracker has entries.

Owns: the entries of all indexes, what commits add and releases remove, and that
an allocation has entries for surviving instance types only.
Does not own: which instance types a NodeClaim still has.
-/

namespace Kraftsman.DynamicResources

open Data Data.PeakLedger FallibleLoop AllocationTracker AList List

/-! ### Entries -/

def DeviceIndexes.Tracks (indexes : DeviceIndexes) (nodeClaim : NodeClaimID) (it : InstanceTypeID) :
    Prop :=
  (∃ id, holds indexes.inflightClusterAllocations id nodeClaim it) ∨
    it ∈ owned indexes.inflightClusterAllocationsByNodeClaim nodeClaim ∨
    it ∈ owned indexes.inflightTemplateAllocations nodeClaim

def Budgets.Tracks (budgets : Budgets) (nodeClaim : NodeClaimID) (it : InstanceTypeID) : Prop :=
  it ∈ owned budgets.countersByNodeClaimIT nodeClaim ∨
    it ∈ owned budgets.templateRemainingCounters nodeClaim ∨
    it ∈ owned budgets.consumedCapacityByNodeClaimIT nodeClaim ∨
    it ∈ owned budgets.templateConsumedCapacity nodeClaim

def AllocationTracker.Tracks (tracker : AllocationTracker) (nodeClaim : NodeClaimID)
    (it : InstanceTypeID) : Prop :=
  tracker.indexes.Tracks nodeClaim it ∨ tracker.budgets.Tracks nodeClaim it

def TrackedAllocation.Lists (alloc : TrackedAllocation) (it : InstanceTypeID) : Prop :=
  alloc.share it ≠ {}

/-! ### Growth -/

/-- A fact stays true, and only becomes true for a reason. -/
structure Grows (before after reason : Prop) : Prop where
  kept : before → after
  known : after → before ∨ reason

namespace Grows

variable {before after before' after' reason last : Prop}

theorem unchanged : Grows before before reason := ⟨id, .inl⟩

theorem of_iff {cause : Prop} (step : after ↔ before ∨ cause) (implied : cause → reason) :
    Grows before after reason :=
  ⟨fun was => step.mpr (.inl was), fun isNow => (step.mp isNow).imp_right implied⟩

theorem trans (first : Grows before after reason) (second : Grows after last reason) :
    Grows before last reason :=
  ⟨second.kept ∘ first.kept, fun isNow => (second.known isNow).elim first.known .inr⟩

theorem or (left : Grows before after reason) (right : Grows before' after' reason) :
    Grows (before ∨ before') (after ∨ after') reason := by
  refine ⟨Or.imp left.kept right.kept, ?_⟩
  rintro (isLeft | isRight)
  · exact (left.known isLeft).imp_left .inl
  · exact (right.known isRight).imp_left .inr

end Grows

/-! ### Ledgers -/

section Ledgers

variable {V : Type} {ledger ledger' : GoMap NodeClaimID (GoMap InstanceTypeID V)}
variable {nodeClaim other : NodeClaimID} {it : InstanceTypeID}

theorem mem_owned_eraseAll {released : List InstanceTypeID} (left : owned ledger' other =
      if other = nodeClaim then (owned ledger nodeClaim).eraseAll released else owned ledger other) :
    it ∈ owned ledger' other ↔ it ∈ owned ledger other ∧ ¬ (other = nodeClaim ∧ it ∈ released) := by
  rw [left]
  split_ifs with same
  · rw [GoMap.mem_eraseAll]
    simp [same]
  · simp [same]

theorem mem_owned_merge {combine : V → V → V} {new : GoMap InstanceTypeID V}
    (committed : owned ledger' other =
      if other = nodeClaim then GoMap.merge combine new (owned ledger nodeClaim)
      else owned ledger other) :
    it ∈ owned ledger' other ↔ it ∈ owned ledger other ∨ (other = nodeClaim ∧ it ∈ new) := by
  rw [committed]
  split_ifs with same
  · rw [GoMap.mem_merge]
    simp [same, or_comm]
  · simp [same]

theorem mem_owned_insertAllocation {allocations allocations' : DevicesByNodeClaim} {id : DeviceID}
    {it' : InstanceTypeID} (done : insertAllocation allocations id nodeClaim it = .ok allocations') :
    it' ∈ owned allocations' other ↔
      it' ∈ owned allocations other ∨ (other = nodeClaim ∧ it' = it) := by
  rw [insertAllocation_eq] at done
  split_ifs at done
  cases done
  rw [owned_insert]
  split_ifs with same
  · rw [mem_insert, same, or_comm]
    simp [owned]
  · simp [same]

theorem mem_owned_alter_erase {allocations : DevicesByNodeClaim} {it' : InstanceTypeID} :
    it' ∈ owned (allocations.alter nodeClaim fun allocs => allocs.map fun allocs => allocs.erase it)
        other ↔
      it' ∈ owned allocations other ∧ ¬ (other = nodeClaim ∧ it' = it) := by
  unfold owned
  rw [GoMap.lookup_alter]
  split_ifs with same
  · subst same
    cases allocations.lookup other with
    | none => simp
    | some allocs => simp [and_comm]
  · simp [same]

end Ledgers

/-! ### Commits -/

section Commits

variable {tracker tracker' : AllocationTracker} {alloc : TrackedAllocation}
variable {nodeClaim : NodeClaimID} {it : InstanceTypeID}

theorem TrackedAllocation.lists_of_mem_devices {id : DeviceID} (member : (it, id) ∈ alloc.devices) :
    alloc.Lists it := by
  obtain ⟨ids, found, -⟩ := mem_devices.mp member
  intro nothing
  cases found.symm.trans (congrArg Share.deviceIDs nothing)

theorem lists_of_mem {V : Type} {consumption : GoMap InstanceTypeID V}
    (read : Share → Option V) (isRead : read (alloc.share it) = consumption.lookup it)
    (empty : read {} = none) (member : it ∈ consumption) : alloc.Lists it := by
  intro nothing
  rw [nothing, empty] at isRead
  exact lookup_eq_none.mp isRead.symm member

theorem commitDevice_tracks {device : DeviceID} {committed : InstanceTypeID}
    (done : commitDevice alloc committed tracker device = .ok tracker') :
    Grows (tracker.indexes.Tracks nodeClaim it) (tracker'.indexes.Tracks nodeClaim it)
      (nodeClaim = alloc.nodeClaimID ∧ it = committed) := by
  have references : Grows (∃ other, holds tracker.inflightClusterAllocations other nodeClaim it)
      (∃ other, holds tracker'.inflightClusterAllocations other nodeClaim it)
      (nodeClaim = alloc.nodeClaimID ∧ it = committed) := by
    have held := fun other => commitDevice_holds done other nodeClaim it
    constructor
    · rintro ⟨other, known⟩
      exact ⟨other, (held other).mpr (.inr known)⟩
    · rintro ⟨other, known⟩
      rcases (held other).mp known with ⟨isNodeClaim, isDevice, -⟩ | before
      · exact .inr ⟨isNodeClaim, congrArg Prod.fst isDevice⟩
      · exact .inl ⟨other, before⟩
  refine references.or ?_
  rcases commitDevice_cases done with
    ⟨-, rfl⟩ | ⟨-, -, allocations, inserted, rfl⟩ | ⟨-, -, allocations, reference, inserted, -, rfl⟩
  · exact .unchanged
  · exact .or .unchanged (.of_iff (mem_owned_insertAllocation inserted) id)
  · exact .or (.of_iff (mem_owned_insertAllocation inserted) id) .unchanged

theorem commitDevices_tracks (done : tracker.commitDevices alloc = .ok tracker') :
    Grows (tracker.indexes.Tracks nodeClaim it) (tracker'.indexes.Tracks nodeClaim it)
      (nodeClaim = alloc.nodeClaimID ∧ alloc.Lists it) := by
  rw [commitDevices_eq] at done
  -- every device that is left belongs to an instance type the allocation lists
  let Inv : List (InstanceTypeID × DeviceID) → AllocationTracker → Prop := fun rest middle =>
    (∀ pair ∈ rest, alloc.Lists pair.1) ∧
      Grows (tracker.indexes.Tracks nodeClaim it) (middle.indexes.Tracks nodeClaim it)
        (nodeClaim = alloc.nodeClaimID ∧ alloc.Lists it)
  have step : ∀ pair rest middle middle', Inv (pair :: rest) middle →
      commitDevice alloc pair.1 middle pair.2 = .ok middle' → Inv rest middle' := by
    rintro pair rest middle middle' ⟨listed, grown⟩ one
    refine ⟨fun other inRest => listed other (mem_cons_of_mem _ inRest), grown.trans ?_⟩
    have grows := @commitDevice_tracks _ _ _ nodeClaim it _ _ one
    refine ⟨grows.kept, fun tracks => (grows.known tracks).imp_right ?_⟩
    rintro ⟨isNodeClaim, rfl⟩
    exact ⟨isNodeClaim, listed pair mem_cons_self⟩
  have start : Inv alloc.devices tracker :=
    ⟨fun _ member => TrackedAllocation.lists_of_mem_devices member, .unchanged⟩
  exact (foldlM_preserves Inv step start done).2

theorem mem_owned_commitTemplates :
    it ∈ owned ((tracker.initTemplateTotals alloc).commitTemplateCounters alloc.nodeClaimID
        alloc.templateCounterConsumptionByIT).templateRemainingCounters nodeClaim ↔
      it ∈ owned tracker.templateRemainingCounters nodeClaim ∨
        (nodeClaim = alloc.nodeClaimID ∧ it ∈ alloc.templateCounterTotalsByIT) := by
  rw [← lookup_isSome, ← lookup_isSome, ← lookup_isSome,
    lookup_commitTemplateCounters, lookup_initTemplateTotals]
  by_cases same : nodeClaim = alloc.nodeClaimID <;> simp [same]

theorem commitBudgets_tracks : Grows (tracker.budgets.Tracks nodeClaim it)
      ((tracker.commitBudgets alloc).budgets.Tracks nodeClaim it)
      (nodeClaim = alloc.nodeClaimID ∧ alloc.Lists it) := by
  rw [commitBudgets_eq]
  refine .or ?_ (.or ?_ (.or ?_ ?_))
  · exact .of_iff (mem_owned_merge (storedCounters_commitCounters nodeClaim))
      (And.imp_right (lists_of_mem Share.counters rfl rfl))
  · exact .of_iff mem_owned_commitTemplates
      (And.imp_right (lists_of_mem Share.templateTotals rfl rfl))
  · exact .of_iff (mem_owned_merge (storedCapacity_commitCapacity nodeClaim))
      (And.imp_right (lists_of_mem Share.capacity rfl rfl))
  · exact .of_iff (mem_owned_merge (owned_commitTemplateCapacity tracker _ nodeClaim _))
      (And.imp_right (lists_of_mem Share.templateCapacity rfl rfl))

theorem commit_tracks (done : tracker.commit alloc = .ok tracker') :
    Grows (tracker.Tracks nodeClaim it) (tracker'.Tracks nodeClaim it)
      (nodeClaim = alloc.nodeClaimID ∧ alloc.Lists it) := by
  obtain ⟨middle, devices, rfl⟩ := map_eq_ok.mp done
  unfold AllocationTracker.Tracks
  rw [commitBudgets_indexes, ← commitDevices_budgets devices]
  exact (commitDevices_tracks devices).or commitBudgets_tracks

end Commits

/-! ### Releases -/

section Releases

variable {tracker tracker' : AllocationTracker}
variable {nodeClaim other : NodeClaimID} {released : List InstanceTypeID} {it : InstanceTypeID}

theorem releaseDevices_owned
    (done : released.foldlM (releaseDevices nodeClaim) tracker = .ok tracker') :
    (it ∈ owned tracker'.inflightClusterAllocationsByNodeClaim other ↔
        it ∈ owned tracker.inflightClusterAllocationsByNodeClaim other ∧
          ¬ (other = nodeClaim ∧ it ∈ released)) ∧
      (it ∈ owned tracker'.inflightTemplateAllocations other ↔
        it ∈ owned tracker.inflightTemplateAllocations other ∧
          ¬ (other = nodeClaim ∧ it ∈ released)) := by
  -- what is left to release makes up the difference to the final indexes
  let pending : List InstanceTypeID → AllocationTracker → Prop := fun rest middle =>
    ((it ∈ owned middle.inflightClusterAllocationsByNodeClaim other ∧
          ¬ (other = nodeClaim ∧ it ∈ rest)) ↔
        (it ∈ owned tracker.inflightClusterAllocationsByNodeClaim other ∧
          ¬ (other = nodeClaim ∧ it ∈ released))) ∧
      ((it ∈ owned middle.inflightTemplateAllocations other ∧ ¬ (other = nodeClaim ∧ it ∈ rest)) ↔
        (it ∈ owned tracker.inflightTemplateAllocations other ∧
          ¬ (other = nodeClaim ∧ it ∈ released)))
  have step : ∀ first rest middle middle', pending (first :: rest) middle →
      releaseDevices nodeClaim middle first = .ok middle' → pending rest middle' := by
    rintro first rest middle middle' ⟨cluster, templates⟩ one
    obtain ⟨dropped, references, rfl⟩ := map_eq_ok.mp one
    have sameCluster := foldlM_frame inflightClusterAllocationsByNodeClaim
      (fun _ _ _ reference => by rw [releaseDevice_eq reference]) references
    have sameTemplates := foldlM_frame inflightTemplateAllocations
      (fun _ _ _ reference => by rw [releaseDevice_eq reference]) references
    have split : ∀ listed : Prop, ((listed ∧ ¬ (other = nodeClaim ∧ it = first)) ∧
        ¬ (other = nodeClaim ∧ it ∈ rest)) ↔
          (listed ∧ ¬ (other = nodeClaim ∧ it ∈ first :: rest)) := by
      intro listed
      rw [mem_cons, and_or_left, not_or, and_assoc]
    constructor
    · rw [← cluster, sameCluster, mem_owned_alter_erase, split]
    · rw [← templates, mem_owned_alter_erase, sameTemplates, split]
  have finished := foldlM_preserves pending step ⟨Iff.rfl, Iff.rfl⟩ done
  simpa [pending] using finished

theorem releaseBudgets_tracks :
    (tracker.releaseBudgets nodeClaim released).budgets.Tracks other it ↔
      tracker.budgets.Tracks other it ∧ ¬ (other = nodeClaim ∧ it ∈ released) := by
  have templates : it ∈ owned
      (tracker.releaseTemplateCounters nodeClaim released).templateRemainingCounters other ↔
        it ∈ owned tracker.templateRemainingCounters other ∧
          ¬ (other = nodeClaim ∧ it ∈ released) := by
    rw [← lookup_isSome, lookup_releaseTemplateCounters, ← lookup_isSome]
    split_ifs with gone <;> simp [gone]
  unfold Budgets.Tracks
  rw [releaseBudgets_eq, or_and_right, or_and_right, or_and_right]
  exact or_congr (mem_owned_eraseAll (storedCounters_releaseCounters other)) (or_congr templates
      (or_congr (mem_owned_eraseAll (storedCapacity_releaseCapacity other))
        (mem_owned_eraseAll (owned_releaseTemplateCapacity tracker nodeClaim other released))))

theorem releaseInstanceTypes_tracks (exact : tracker.indexes.Exact)
    (done : tracker.releaseInstanceTypes nodeClaim released = .ok tracker') :
    tracker'.Tracks other it ↔ tracker.Tracks other it ∧ ¬ (other = nodeClaim ∧ it ∈ released) := by
  obtain ⟨final, again, -, held⟩ := releaseInstanceTypes_succeeds exact nodeClaim released
  obtain rfl := Except.ok.inj (again.symm.trans done)
  obtain ⟨middle, devices, rfl⟩ := map_eq_ok.mp done
  have indexes := middle.releaseBudgets_indexes nodeClaim released
  have sameBudgets : middle.budgets = tracker.budgets := foldlM_frame budgets
      (fun _ _ _ => releaseDevices_budgets) devices
  obtain ⟨cluster, templates⟩ := @releaseDevices_owned _ _ _ other _ it devices
  have references : (∃ id, holds middle.inflightClusterAllocations id other it) ↔
      (∃ id, holds tracker.inflightClusterAllocations id other it) ∧
        ¬ (other = nodeClaim ∧ it ∈ released) := by
    have sameCluster : (middle.releaseBudgets nodeClaim released).inflightClusterAllocations =
        middle.inflightClusterAllocations :=
      congrArg DeviceIndexes.inflightClusterAllocations indexes
    rw [← sameCluster]
    simp only [held, exists_and_right]
  unfold AllocationTracker.Tracks DeviceIndexes.Tracks
  rw [indexes, releaseBudgets_tracks, sameBudgets, or_and_right, or_and_right, or_and_right]
  exact or_congr (or_congr references (or_congr cluster templates)) Iff.rfl

end Releases

/-! ### Allocations -/

theorem not_tracks_start (env : Environment) (allocatedState : AllocatedDeviceState)
    (nodeClaim : NodeClaimID) (it : InstanceTypeID) :
    ¬ (newAllocator env allocatedState).allocationTracker.Tracks nodeClaim it := by
  unfold newAllocator
  rw [initPools_eq]
  rintro ((⟨id, held⟩ | impossible | impossible) | impossible | impossible | impossible | impossible)
  · exact not_holds_of_lookup_none rfl nodeClaim it held
  all_goals exact notMem_empty _ impossible

theorem lists_of_allocate {env : Environment} {allocator : Allocator} {oracle : Oracle}
    {nodeClaim : NodeClaim} {claims : List ResourceClaim} {result : AllocationResult}
    {allocation : Allocation} (done : allocate env allocator oracle nodeClaim claims = .ok result)
    (found : result.allocation = some allocation) :
    allocation.nodeClaimID = nodeClaim.id ∧
      ∀ it, allocation.toTrackedAllocation.Lists it → it ∈ result.instanceTypes := by
  rcases allocate_eq_ok done with
    ⟨-, rfl⟩ | ⟨classified, -, ⟨-, rfl⟩ | ⟨-, claimData, results, evaluated⟩⟩
  · cases found
  · cases found
  let Inv : List InstanceTypeID → InstanceTypeResults → Prop := fun _ results =>
    results.tracked.nodeClaimID = nodeClaim.id ∧
      ∀ it, results.tracked.Lists it → it ∈ results.survivingITs
  have step : ∀ it rest before after, Inv (it :: rest) before →
      allocateInstanceType env allocator.allocationTracker nodeClaim claimData
        (visiblePools env allocator oracle nodeClaim classified.requirements) before it = .ok after →
          Inv rest after := by
    rintro it rest before after ⟨isNodeClaim, survived⟩ one
    obtain ⟨pollsLeft, rfl | ⟨search, -, rfl⟩ | ⟨failed, -, rfl⟩⟩ := allocateInstanceType_eq_ok one
    · exact ⟨isNodeClaim, survived⟩
    · refine ⟨isNodeClaim, fun other listed => ?_⟩
      by_cases same : other = it
      · exact mem_append_right _ (mem_singleton.mpr same)
      · unfold TrackedAllocation.Lists at listed
        rw [share_recordInstanceType_ne _ _ _ same] at listed
        exact mem_append_left _ (survived other listed)
    · exact ⟨isNodeClaim, survived⟩
  have start : Inv nodeClaim.instanceTypes ⟨[], { nodeClaimID := nodeClaim.id },
      claimData.map fun _ => { nodeClaimID := nodeClaim.id }, classified.requirements, ∅, [],
      oracle.polls⟩ := ⟨rfl, fun _ listed => absurd rfl listed⟩
  have finished := foldlM_preserves Inv step start evaluated.evaluated
  have isResult := evaluated.finished
  unfold finishAllocation at isResult
  split_ifs at isResult
  cases isResult
  cases found
  exact finished

end Kraftsman.DynamicResources
