import Kraftsman.DynamicResources.Commit

/-!
Contract: the indexes of taken devices agree with each other.

Owns: the invariant of the two in-cluster indexes, that commits keep it, and
that under it a release cannot panic and keeps it.
Does not own: when the search may take a device.
-/

namespace Kraftsman.DynamicResources

open Data FallibleLoop GoMap Except

/-! ### The index by NodeClaim -/

section ByNodeClaim

variable {allocations allocations' : DevicesByNodeClaim} {deviceID : DeviceID}
variable {nodeClaimID : NodeClaimID} {it : InstanceTypeID}

section

variable (allocations)

theorem devicesFor_eq (nodeClaimID : NodeClaimID) (it : InstanceTypeID) :
    devicesFor allocations nodeClaimID it =
      (((allocations.lookup nodeClaimID).getD ∅).lookup it).getD ∅ := by
  unfold devicesFor
  cases allocations.lookup nodeClaimID <;> rfl

theorem insertAllocation_eq (deviceID : DeviceID) (nodeClaimID : NodeClaimID) (it : InstanceTypeID) :
    insertAllocation allocations deviceID nodeClaimID it =
      if deviceID ∈ devicesFor allocations nodeClaimID it then
        .error .allocatedForInstanceType
      else .ok (allocations.insert nodeClaimID (((allocations.lookup nodeClaimID).getD ∅).insert it
        ((devicesFor allocations nodeClaimID it).insert deviceID ()))) := by
  rw [devicesFor_eq]
  rfl

theorem devicesFor_insert (nodeClaimID nodeClaim : NodeClaimID) (it instanceType : InstanceTypeID)
    (devices : GoMap DeviceID Unit) :
    devicesFor (allocations.insert nodeClaimID
        (((allocations.lookup nodeClaimID).getD ∅).insert it devices)) nodeClaim instanceType =
      if nodeClaim = nodeClaimID ∧ instanceType = it then devices
      else devicesFor allocations nodeClaim instanceType := by
  simp only [devicesFor_eq, lookup_insert_eq]
  by_cases sameNodeClaim : nodeClaim = nodeClaimID
  · subst sameNodeClaim
    by_cases sameType : instanceType = it <;> simp [lookup_insert_eq, sameType]
  · simp [sameNodeClaim]

end

theorem mem_devicesFor_insertAllocation
    (done : insertAllocation allocations deviceID nodeClaimID it = .ok allocations')
    (id : DeviceID) (nodeClaim : NodeClaimID) (instanceType : InstanceTypeID) :
    id ∈ devicesFor allocations' nodeClaim instanceType ↔
      (id = deviceID ∧ nodeClaim = nodeClaimID ∧ instanceType = it) ∨
        id ∈ devicesFor allocations nodeClaim instanceType := by
  rw [insertAllocation_eq] at done
  split_ifs at done
  rw [← ok.inj done, devicesFor_insert]
  split_ifs with same
  · obtain ⟨rfl, rfl⟩ := same
    simp
  · simp [same]

theorem devicesFor_forget (allocations : DevicesByNodeClaim) (nodeClaimID nodeClaim : NodeClaimID)
    (it instanceType : InstanceTypeID) :
    devicesFor (allocations.alter nodeClaimID fun allocs => allocs.map fun allocs => allocs.erase it)
        nodeClaim instanceType =
      if nodeClaim = nodeClaimID ∧ instanceType = it then ∅
      else devicesFor allocations nodeClaim instanceType := by
  unfold devicesFor
  rw [lookup_alter]
  by_cases sameNodeClaim : nodeClaim = nodeClaimID
  · subst sameNodeClaim
    cases allocations.lookup nodeClaim with
    | none => simp
    | some allocs =>
      by_cases sameType : instanceType = it <;> simp [sameType, lookup_erase_eq]
  · simp [sameNodeClaim]

end ByNodeClaim

/-! ### Exact inverses -/

/-- Whether the metadata names a NodeClaim and its instance type. -/
def holds (cluster : GoMap DeviceID InflightAllocationMetadata) (id : DeviceID)
    (nodeClaim : NodeClaimID) (it : InstanceTypeID) : Prop :=
  ∃ held, cluster.lookup id = some held ∧ held.nodeClaimID = nodeClaim ∧ it ∈ held.instanceTypes

/-- The in-cluster indexes are inverses, and listed devices are held. -/
structure DeviceIndexes.Exact (indexes : DeviceIndexes) : Prop where
  inverse : ∀ id nodeClaim it,
    id ∈ devicesFor indexes.inflightClusterAllocationsByNodeClaim nodeClaim it ↔
      holds indexes.inflightClusterAllocations id nodeClaim it
  nonempty : ∀ id held,
    indexes.inflightClusterAllocations.lookup id = some held → held.instanceTypes ≠ ∅

theorem newAllocationTracker_exact (allocatedState : AllocatedDeviceState) :
    (newAllocationTracker allocatedState).indexes.Exact where
  inverse := by
    intro id nodeClaim it
    constructor
    · intro listed
      exact absurd listed (AList.notMem_empty id)
    · rintro ⟨held, found, -⟩
      simp [newAllocationTracker, AllocationTracker.indexes] at found
  nonempty := by
    intro id held found
    simp [newAllocationTracker, AllocationTracker.indexes] at found

section

variable (cluster : GoMap DeviceID InflightAllocationMetadata) (deviceID id : DeviceID)

theorem holds_insert (metadata : InflightAllocationMetadata) (nodeClaim : NodeClaimID)
    (it : InstanceTypeID) :
    holds (cluster.insert deviceID metadata) id nodeClaim it ↔
      if id = deviceID then metadata.nodeClaimID = nodeClaim ∧ it ∈ metadata.instanceTypes
      else holds cluster id nodeClaim it := by
  unfold holds
  rw [lookup_insert_eq]
  split_ifs with same
  · simp
  · rfl

theorem holds_erase (nodeClaim : NodeClaimID) (it : InstanceTypeID) :
    holds (cluster.erase deviceID) id nodeClaim it ↔ id ≠ deviceID ∧ holds cluster id nodeClaim it := by
  unfold holds
  rw [lookup_erase_eq]
  split_ifs with same <;> simp [same]

end

variable {cluster : GoMap DeviceID InflightAllocationMetadata} {id : DeviceID}
variable {held : InflightAllocationMetadata}

theorem holds_of_lookup (found : cluster.lookup id = some held) (nodeClaim : NodeClaimID)
    (it : InstanceTypeID) :
    holds cluster id nodeClaim it ↔ held.nodeClaimID = nodeClaim ∧ it ∈ held.instanceTypes := by
  simp [holds, found]

theorem not_holds_of_lookup_none (absent : cluster.lookup id = none) (nodeClaim : NodeClaimID)
    (it : InstanceTypeID) : ¬ holds cluster id nodeClaim it := by
  simp [holds, absent]

/-! ### Commits -/

variable {nodeClaimID : NodeClaimID} {it : InstanceTypeID}

theorem addReference_spec (done : addReference (cluster.lookup id) nodeClaimID it = .ok held)
    (nodeClaim : NodeClaimID) (instanceType : InstanceTypeID) :
    (held.nodeClaimID = nodeClaim ∧ instanceType ∈ held.instanceTypes) ↔
      (nodeClaim = nodeClaimID ∧ instanceType = it) ∨ holds cluster id nodeClaim instanceType := by
  unfold addReference at done
  cases found : cluster.lookup id with
  | none =>
    rw [found] at done
    have new := ok.inj done
    simp [← new, not_holds_of_lookup_none found, eq_comm]
  | some old =>
    rw [found] at done
    dsimp only at done
    split_ifs at done with otherNodeClaim listed
    have new := ok.inj done
    have sameNodeClaim : old.nodeClaimID = nodeClaimID := not_not.mp otherNodeClaim
    rw [holds_of_lookup found, ← new]
    grind

theorem addReference_nonempty {metadata : Option InflightAllocationMetadata}
    (done : addReference metadata nodeClaimID it = .ok held) : held.instanceTypes ≠ ∅ := by
  have listed : it ∈ held.instanceTypes := by
    unfold addReference at done
    split at done
    · simp [← ok.inj done]
    · split_ifs at done
      simp [← ok.inj done]
  exact Finset.ne_empty_of_mem listed

def TrackedAllocation.exclusive (alloc : TrackedAllocation) (it : InstanceTypeID) (id : DeviceID) :
    Bool :=
  !hasCapacityEntry
    (if id.template then alloc.templateCapacityConsumptionByIT else alloc.capacityConsumptionByIT)
    it id

def TrackedAllocation.devices (alloc : TrackedAllocation) : List (InstanceTypeID × DeviceID) :=
  alloc.deviceIDsByIT.entries.flatMap fun entry => entry.2.map fun id => (entry.1, id)

namespace AllocationTracker

variable {alloc : TrackedAllocation} {it : InstanceTypeID} {tracker tracker' : AllocationTracker}
variable {id : DeviceID}

theorem commitDevice_cases (done : commitDevice alloc it tracker id = .ok tracker') :
    (alloc.exclusive it id = false ∧ tracker' = tracker) ∨
    (alloc.exclusive it id ∧ id.template ∧ ∃ allocations,
      insertAllocation tracker.inflightTemplateAllocations id alloc.nodeClaimID it = .ok allocations ∧
      tracker' = { tracker with inflightTemplateAllocations := allocations }) ∨
    (alloc.exclusive it id ∧ id.template = false ∧ ∃ allocations held,
      insertAllocation tracker.inflightClusterAllocationsByNodeClaim id alloc.nodeClaimID it =
        .ok allocations ∧
      addReference (tracker.inflightClusterAllocations.lookup id) alloc.nodeClaimID it = .ok held ∧
      tracker' = { tracker with
        inflightClusterAllocationsByNodeClaim := allocations
        inflightClusterAllocations := tracker.inflightClusterAllocations.insert id held }) := by
  unfold commitDevice at done
  unfold TrackedAllocation.exclusive
  split_ifs at done with template byCapacity byCapacity
  · exact .inl ⟨by simp [template, byCapacity], (ok.inj done).symm⟩
  · obtain ⟨allocations, inserted, rfl⟩ := map_eq_ok.mp done
    exact .inr (.inl ⟨by simp [template, byCapacity], template, allocations, inserted, rfl⟩)
  · exact .inl ⟨by simp [template, byCapacity], (ok.inj done).symm⟩
  · obtain ⟨allocations, inserted, rest⟩ := bind_eq_ok.mp done
    obtain ⟨held, added, rfl⟩ := map_eq_ok.mp rest
    exact .inr (.inr ⟨by simp [template, byCapacity], by simpa using template, allocations, held,
      inserted, added, rfl⟩)

theorem commitDevice_exact (exact : tracker.indexes.Exact)
    (done : commitDevice alloc it tracker id = .ok tracker') : tracker'.indexes.Exact := by
  rcases commitDevice_cases done with ⟨-, rfl⟩ | ⟨-, -, allocations, -, rfl⟩ |
    ⟨-, -, allocations, held, inserted, added, rfl⟩
  · exact exact
  · exact ⟨exact.inverse, exact.nonempty⟩
  · constructor
    · intro other nodeClaim instanceType
      have listed := mem_devicesFor_insertAllocation inserted other nodeClaim instanceType
      have before := exact.inverse other nodeClaim instanceType
      have reference := addReference_spec added nodeClaim instanceType
      dsimp only [indexes] at before ⊢
      rw [listed, before, holds_insert]
      split_ifs with same
      · subst same
        simp [reference]
      · simp [same]
    · intro other metadata found
      dsimp only [indexes] at found
      rw [lookup_insert_eq] at found
      split_ifs at found with same
      · exact Option.some.inj found ▸ addReference_nonempty added
      · exact exact.nonempty other metadata found

theorem commitDevices_eq (tracker : AllocationTracker) (alloc : TrackedAllocation) :
    tracker.commitDevices alloc =
      alloc.devices.foldlM (fun tracker pair => commitDevice alloc pair.1 tracker pair.2) tracker :=
  foldlM_nested (fun entry : Sigma fun _ : InstanceTypeID => List DeviceID => entry.1)
    (fun entry => entry.2) (fun tracker pair => commitDevice alloc pair.1 tracker pair.2)
    alloc.deviceIDsByIT.entries tracker

theorem commitDevices_exact (exact : tracker.indexes.Exact)
    (done : tracker.commitDevices alloc = .ok tracker') : tracker'.indexes.Exact := by
  rw [commitDevices_eq] at done
  exact foldlM_preserves (fun _ tracker => tracker.indexes.Exact)
    (fun _ _ _ _ => commitDevice_exact) exact done

theorem isAllocated_template {nodeClaim : NodeClaimID} (template : id.template) :
    tracker.isAllocated id nodeClaim it = false ↔
      id ∉ devicesFor tracker.inflightTemplateAllocations nodeClaim it := by
  simp [isAllocated, template]

theorem isAllocated_cluster {nodeClaim : NodeClaimID} (published : id.template = false) :
    tracker.isAllocated id nodeClaim it = false ↔ id ∉ tracker.preallocatedDevices ∧ ∀ held,
        tracker.inflightClusterAllocations.lookup id = some held →
          held.nodeClaimID = nodeClaim ∧ it ∉ held.instanceTypes := by
  unfold isAllocated
  rw [if_neg (by simp [published])]
  by_cases preallocated : id ∈ tracker.preallocatedDevices
  · simp [preallocated]
  · cases found : tracker.inflightClusterAllocations.lookup id with
    | none | some _ => simp [preallocated]

theorem commitDevice_succeeds (exact : tracker.indexes.Exact)
    (free : alloc.exclusive it id → tracker.isAllocated id alloc.nodeClaimID it = false) :
    ∃ tracker', commitDevice alloc it tracker id = .ok tracker' := by
  unfold commitDevice
  unfold TrackedAllocation.exclusive at free
  split_ifs with template byCapacity byCapacity
  · exact ⟨tracker, rfl⟩
  · have unlisted := (isAllocated_template template).mp (free (by simp [template, byCapacity]))
    rw [insertAllocation_eq, if_neg unlisted]
    exact ⟨_, rfl⟩
  · exact ⟨tracker, rfl⟩
  · have available := (isAllocated_cluster (by simpa using template)).mp
      (free (by simp [template, byCapacity]))
    have unlisted : id ∉ devicesFor tracker.inflightClusterAllocationsByNodeClaim
        alloc.nodeClaimID it := by
      intro listed
      obtain ⟨held, found, -, member⟩ := (exact.inverse id alloc.nodeClaimID it).mp listed
      exact (available.2 held found).2 member
    rw [insertAllocation_eq, if_neg unlisted]
    unfold addReference
    cases found : tracker.inflightClusterAllocations.lookup id with
    | none => exact ⟨_, rfl⟩
    | some held =>
      obtain ⟨sameNodeClaim, unheld⟩ := available.2 held found
      simp only [sameNodeClaim, unheld, ne_eq, not_true, if_false]
      exact ⟨_, rfl⟩

theorem commitDevice_isAllocated (done : commitDevice alloc it tracker id = .ok tracker')
    {other : DeviceID} {instanceType : InstanceTypeID}
    (different : (instanceType, other) ≠ (it, id))
    (free : tracker.isAllocated other alloc.nodeClaimID instanceType = false) :
    tracker'.isAllocated other alloc.nodeClaimID instanceType = false := by
  cases template : other.template with
  | true =>
    rw [isAllocated_template template] at free ⊢
    rcases commitDevice_cases done with ⟨-, rfl⟩ | ⟨-, -, allocations, inserted, rfl⟩ |
      ⟨-, -, allocations, held, -, -, rfl⟩
    · exact free
    · rw [mem_devicesFor_insertAllocation inserted]
      grind
    · exact free
  | false =>
    rw [isAllocated_cluster template] at free ⊢
    rcases commitDevice_cases done with ⟨-, rfl⟩ | ⟨-, -, allocations, inserted, rfl⟩ |
      ⟨-, -, allocations, held, -, added, rfl⟩
    · exact free
    · exact free
    · refine ⟨free.1, ?_⟩
      intro metadata found
      rw [lookup_insert_eq] at found
      split_ifs at found with same
      · subst same
        have isHeld : held = metadata := Option.some.inj found
        subst isHeld
        have onlyIt : instanceType ≠ it := by
          intro sameType
          exact different (by rw [sameType])
        have reference := addReference_spec added
        have sameNodeClaim := ((reference alloc.nodeClaimID it).mpr (.inl ⟨rfl, rfl⟩)).1
        refine ⟨sameNodeClaim, ?_⟩
        intro member
        rcases (reference alloc.nodeClaimID instanceType).mp ⟨sameNodeClaim, member⟩ with
          ⟨-, isIt⟩ | ⟨old, found, -, oldMember⟩
        · exact onlyIt isIt
        · exact (free.2 old found).2 oldMember
      · exact free.2 metadata found

theorem commitDevice_holds (done : commitDevice alloc it tracker id = .ok tracker')
    (other : DeviceID) (nodeClaim : NodeClaimID) (instanceType : InstanceTypeID) :
    holds tracker'.inflightClusterAllocations other nodeClaim instanceType ↔
      (nodeClaim = alloc.nodeClaimID ∧ (instanceType, other) = (it, id) ∧
        alloc.exclusive it id ∧ id.template = false) ∨
        holds tracker.inflightClusterAllocations other nodeClaim instanceType := by
  rcases commitDevice_cases done with ⟨byCapacity, rfl⟩ | ⟨-, template, allocations, -, rfl⟩ |
    ⟨exclusive, published, allocations, held, -, added, rfl⟩
  · simp [byCapacity]
  · simp [template]
  · rw [holds_insert]
    split_ifs with same
    · subst same
      rw [addReference_spec added]
      simp [exclusive, published]
    · simp [same]

end AllocationTracker

/-- Exclusive devices are free and listed once for each instance type. -/
structure TrackedAllocation.Committable (alloc : TrackedAllocation)
    (tracker : AllocationTracker) : Prop where
  free : ∀ pair ∈ alloc.devices, alloc.exclusive pair.1 pair.2 = true →
    tracker.isAllocated pair.2 alloc.nodeClaimID pair.1 = false
  once : (alloc.devices.filter fun pair => alloc.exclusive pair.1 pair.2).Nodup

namespace AllocationTracker

variable {alloc : TrackedAllocation} {tracker tracker' : AllocationTracker}

theorem commitDevices_succeeds (exact : tracker.indexes.Exact)
    (committable : alloc.Committable tracker) :
    ∃ tracker', tracker.commitDevices alloc = .ok tracker' := by
  rw [commitDevices_eq]
  let ready : List (InstanceTypeID × DeviceID) → AllocationTracker → Prop := fun rest tracker =>
    tracker.indexes.Exact ∧ (∀ pair ∈ rest, alloc.exclusive pair.1 pair.2 →
        tracker.isAllocated pair.2 alloc.nodeClaimID pair.1 = false) ∧
      (rest.filter fun pair => alloc.exclusive pair.1 pair.2).Nodup
  have step : ∀ pair rest middle, ready (pair :: rest) middle →
      ∃ middle', commitDevice alloc pair.1 middle pair.2 = .ok middle' ∧ ready rest middle' := by
    rintro pair rest middle ⟨exact, free, once⟩
    obtain ⟨middle', done⟩ := commitDevice_succeeds exact (free pair (by simp))
    refine ⟨middle', done, commitDevice_exact exact done, ?_, ?_⟩
    · intro other member exclusive
      apply commitDevice_isAllocated done
      · intro equal
        have same : other = pair := equal
        subst same
        simp only [List.filter_cons, exclusive, if_true] at once
        exact (List.nodup_cons.mp once).1 (List.mem_filter.mpr ⟨member, exclusive⟩)
      · exact free other (by simp [member]) exclusive
    · exact once.sublist (List.Sublist.filter _ (List.sublist_cons_self pair rest))
  obtain ⟨tracker', done, -⟩ := foldlM_succeeds ready step
    ⟨exact, committable.free, committable.once⟩
  exact ⟨tracker', done⟩

theorem commitDevices_holds (done : tracker.commitDevices alloc = .ok tracker')
    (id : DeviceID) (nodeClaim : NodeClaimID) (it : InstanceTypeID) :
    holds tracker'.inflightClusterAllocations id nodeClaim it ↔
      (nodeClaim = alloc.nodeClaimID ∧ (it, id) ∈ alloc.devices ∧
        alloc.exclusive it id ∧ id.template = false) ∨
        holds tracker.inflightClusterAllocations id nodeClaim it := by
  rw [commitDevices_eq] at done
  -- what is still to be committed makes up the difference to the final indexes
  let pending : List (InstanceTypeID × DeviceID) → AllocationTracker → Prop := fun rest middle =>
    ((nodeClaim = alloc.nodeClaimID ∧ (it, id) ∈ rest ∧
        alloc.exclusive it id ∧ id.template = false) ∨
        holds middle.inflightClusterAllocations id nodeClaim it) ↔
      ((nodeClaim = alloc.nodeClaimID ∧ (it, id) ∈ alloc.devices ∧
        alloc.exclusive it id ∧ id.template = false) ∨
        holds tracker.inflightClusterAllocations id nodeClaim it)
  have step : ∀ pair rest middle middle', pending (pair :: rest) middle →
      commitDevice alloc pair.1 middle pair.2 = .ok middle' → pending rest middle' := by
    intro pair rest middle middle' before done
    have held := commitDevice_holds done id nodeClaim it
    grind
  have finished := foldlM_preserves pending step Iff.rfl done
  simpa [pending] using finished

/-! ### Releases -/

/-- The indexes agree up to references to an instance type that is being released. -/
structure Releasing (nodeClaim : NodeClaimID) (it : InstanceTypeID) (rest : List DeviceID)
    (tracker : AllocationTracker) : Prop where
  inverse : ∀ id other instanceType,
    holds tracker.inflightClusterAllocations id other instanceType ↔
      (other = nodeClaim ∧ instanceType = it ∧ id ∈ rest) ∨
        id ∈ devicesFor tracker.inflightClusterAllocationsByNodeClaim other instanceType
  released : devicesFor tracker.inflightClusterAllocationsByNodeClaim nodeClaim it = ∅
  nonempty : ∀ id held,
    tracker.inflightClusterAllocations.lookup id = some held → held.instanceTypes ≠ ∅
  nodup : rest.Nodup

variable {nodeClaim : NodeClaimID} {it : InstanceTypeID}

theorem releaseDevice_succeeds {id : DeviceID} {rest : List DeviceID}
    (releasing : Releasing nodeClaim it (id :: rest) tracker) :
    ∃ tracker', releaseDevice it tracker id = .ok tracker' ∧ Releasing nodeClaim it rest tracker' := by
  obtain ⟨fresh, nodup⟩ := List.nodup_cons.mp releasing.nodup
  obtain ⟨held, found, sameNodeClaim, member⟩ :=
    (releasing.inverse id nodeClaim it).mpr (.inl ⟨rfl, rfl, by simp⟩)
  have heldBy := holds_of_lookup found
  unfold releaseDevice
  simp only [found, member, not_true, if_false]
  refine ⟨_, rfl, ?_⟩
  constructor
  · intro other claim instanceType
    have before := releasing.inverse other claim instanceType
    -- the device keeps exactly its references to other instance types
    have kept : holds (if held.instanceTypes.erase it = ∅ then
          tracker.inflightClusterAllocations.erase id
        else tracker.inflightClusterAllocations.insert id
          { held with instanceTypes := held.instanceTypes.erase it }) other claim instanceType ↔
        if other = id then held.nodeClaimID = claim ∧ instanceType ∈ held.instanceTypes.erase it
        else holds tracker.inflightClusterAllocations other claim instanceType := by
      split_ifs with none same same
      · rw [holds_erase, none]
        simp [same]
      · simp [holds_erase, same]
      · rw [holds_insert]
        simp [same]
      · simp [holds_insert, same]
    dsimp only
    rw [kept]
    split_ifs with same
    · subst same
      have unlisted : other ∉ devicesFor tracker.inflightClusterAllocationsByNodeClaim nodeClaim it := by
        rw [releasing.released]
        exact AList.notMem_empty other
      grind
    · rw [before]
      simp [same]
  · exact releasing.released
  · intro other metadata lookedUp
    split_ifs at lookedUp with none
    · rw [lookup_erase_eq] at lookedUp
      split_ifs at lookedUp
      exact releasing.nonempty other metadata lookedUp
    · rw [lookup_insert_eq] at lookedUp
      split_ifs at lookedUp
      · exact Option.some.inj lookedUp ▸ none
      · exact releasing.nonempty other metadata lookedUp
  · exact nodup

theorem releaseDevice_eq {id : DeviceID} (done : releaseDevice it tracker id = .ok tracker') :
    tracker' = { tracker with inflightClusterAllocations := tracker'.inflightClusterAllocations } := by
  unfold releaseDevice at done
  split at done
  · cases done
  · split_ifs at done
    rw [← ok.inj done]

theorem releaseDevices_succeeds (exact : tracker.indexes.Exact) (nodeClaim : NodeClaimID)
    (it : InstanceTypeID) :
    ∃ tracker', releaseDevices nodeClaim tracker it = .ok tracker' ∧ tracker'.indexes.Exact ∧
      ∀ id other instanceType, holds tracker'.inflightClusterAllocations id other instanceType ↔
          holds tracker.inflightClusterAllocations id other instanceType ∧
            ¬ (other = nodeClaim ∧ instanceType = it) := by
  let forgotten : AllocationTracker := { tracker with
    inflightClusterAllocationsByNodeClaim :=
      tracker.inflightClusterAllocationsByNodeClaim.alter nodeClaim fun allocs =>
        allocs.map fun allocs => allocs.erase it }
  have listed : ∀ id, id ∈ (devicesFor tracker.inflightClusterAllocationsByNodeClaim
      nodeClaim it).keys ↔
      id ∈ devicesFor tracker.inflightClusterAllocationsByNodeClaim nodeClaim it :=
    fun _ => Iff.rfl
  have start : Releasing nodeClaim it
      (devicesFor tracker.inflightClusterAllocationsByNodeClaim nodeClaim it).keys forgotten := by
    constructor
    · intro id other instanceType
      have before := exact.inverse id other instanceType
      dsimp only [indexes] at before
      rw [devicesFor_forget, ← before, listed]
      split_ifs with same
      · simp [same]
      · grind
    · simp [forgotten, devicesFor_forget]
    · exact exact.nonempty
    · exact AList.keys_nodup _
  obtain ⟨middle, done, finished⟩ := foldlM_succeeds (Releasing nodeClaim it)
    (fun _ _ _ => releaseDevice_succeeds) start
  have unchanged : middle.inflightClusterAllocationsByNodeClaim =
      forgotten.inflightClusterAllocationsByNodeClaim :=
    foldlM_frame inflightClusterAllocationsByNodeClaim
      (fun _ _ _ dropped => by rw [releaseDevice_eq dropped]) done
  have kept : ∀ id other instanceType,
      holds middle.inflightClusterAllocations id other instanceType ↔
        id ∈ devicesFor middle.inflightClusterAllocationsByNodeClaim other instanceType := by
    intro id other instanceType
    simpa using finished.inverse id other instanceType
  refine ⟨_, map_eq_ok.mpr ⟨middle, done, rfl⟩, ?_, ?_⟩
  · exact ⟨fun id other instanceType => (kept id other instanceType).symm, finished.nonempty⟩
  · intro id other instanceType
    have before := exact.inverse id other instanceType
    dsimp only [indexes] at before
    rw [kept, unchanged]
    rw [devicesFor_forget, ← before]
    split_ifs with same
    · simp [same]
    · simp [same]

theorem releaseInstanceTypes_succeeds (exact : tracker.indexes.Exact) (nodeClaim : NodeClaimID)
    (instanceTypes : List InstanceTypeID) :
    ∃ tracker', tracker.releaseInstanceTypes nodeClaim instanceTypes = .ok tracker' ∧
      tracker'.indexes.Exact ∧ ∀ id other instanceType,
        holds tracker'.inflightClusterAllocations id other instanceType ↔
          holds tracker.inflightClusterAllocations id other instanceType ∧
            ¬ (other = nodeClaim ∧ instanceType ∈ instanceTypes) := by
  -- the references of the instance types that are left are still to be dropped
  let pending : List InstanceTypeID → AllocationTracker → Prop := fun rest middle =>
    middle.indexes.Exact ∧ ∀ id other instanceType,
      (holds middle.inflightClusterAllocations id other instanceType ∧
        ¬ (other = nodeClaim ∧ instanceType ∈ rest)) ↔
      (holds tracker.inflightClusterAllocations id other instanceType ∧
        ¬ (other = nodeClaim ∧ instanceType ∈ instanceTypes))
  have step : ∀ it rest middle, pending (it :: rest) middle →
      ∃ middle', releaseDevices nodeClaim middle it = .ok middle' ∧ pending rest middle' := by
    rintro it rest middle ⟨middleExact, before⟩
    obtain ⟨middle', done, exact', dropped⟩ := releaseDevices_succeeds middleExact nodeClaim it
    refine ⟨middle', done, exact', ?_⟩
    intro id other instanceType
    grind
  obtain ⟨middle, done, middleExact, finished⟩ := foldlM_succeeds pending step
    ⟨exact, fun _ _ _ => Iff.rfl⟩
  have indexes := middle.releaseBudgets_indexes nodeClaim instanceTypes
  refine ⟨_, map_eq_ok.mpr ⟨middle, done, rfl⟩, indexes ▸ middleExact, ?_⟩
  intro id other instanceType
  have cluster : (middle.releaseBudgets nodeClaim instanceTypes).inflightClusterAllocations =
      middle.inflightClusterAllocations := congrArg DeviceIndexes.inflightClusterAllocations indexes
  rw [cluster]
  simpa using finished id other instanceType

/-! ### Whole commits -/

theorem commit_preallocated (done : tracker.commit alloc = .ok tracker') :
    tracker'.preallocatedDevices = tracker.preallocatedDevices := by
  obtain ⟨middle, devicesDone, rfl⟩ := map_eq_ok.mp done
  rw [commitDevices_eq] at devicesDone
  have kept := foldlM_frame preallocatedDevices (fun _ _ _ committed => by
    rcases commitDevice_cases committed with ⟨-, rfl⟩ | ⟨-, -, _, -, rfl⟩ | ⟨-, -, _, _, -, -, rfl⟩ <;>
      rfl) devicesDone
  rw [commitBudgets_eq]
  exact kept

theorem releaseInstanceTypes_preallocated {instanceTypes : List InstanceTypeID}
    (done : tracker.releaseInstanceTypes nodeClaim instanceTypes = .ok tracker') :
    tracker'.preallocatedDevices = tracker.preallocatedDevices := by
  obtain ⟨middle, devicesDone, rfl⟩ := map_eq_ok.mp done
  have kept := foldlM_frame preallocatedDevices (fun _ _ _ released => by
    obtain ⟨_, dropped, rfl⟩ := map_eq_ok.mp released
    have inner := foldlM_frame preallocatedDevices
      (fun _ _ _ droppedOne => by rw [releaseDevice_eq droppedOne]) dropped
    exact inner) devicesDone
  rw [releaseBudgets_eq]
  exact kept

theorem commit_exact (exact : tracker.indexes.Exact) (done : tracker.commit alloc = .ok tracker') :
    tracker'.indexes.Exact := by
  obtain ⟨middle, devices, rfl⟩ := map_eq_ok.mp done
  exact middle.commitBudgets_indexes alloc ▸ commitDevices_exact exact devices

theorem commit_succeeds (exact : tracker.indexes.Exact) (committable : alloc.Committable tracker) :
    ∃ tracker', tracker.commit alloc = .ok tracker' ∧ tracker'.indexes.Exact ∧
      ∀ id nodeClaim it, holds tracker'.inflightClusterAllocations id nodeClaim it ↔
        (nodeClaim = alloc.nodeClaimID ∧ (it, id) ∈ alloc.devices ∧
          alloc.exclusive it id ∧ id.template = false) ∨
          holds tracker.inflightClusterAllocations id nodeClaim it := by
  obtain ⟨middle, done⟩ := commitDevices_succeeds exact committable
  have indexes := middle.commitBudgets_indexes alloc
  refine ⟨_, map_eq_ok.mpr ⟨middle, done, rfl⟩, indexes ▸ commitDevices_exact exact done, ?_⟩
  intro id nodeClaim it
  have cluster : (middle.commitBudgets alloc).inflightClusterAllocations =
      middle.inflightClusterAllocations := congrArg DeviceIndexes.inflightClusterAllocations indexes
  rw [cluster]
  exact commitDevices_holds done id nodeClaim it

end AllocationTracker

end Kraftsman.DynamicResources
