import Kraftsman.DynamicResources.Types

/-!
Contract: gathering published slices into pools and narrowing the pools.

Owns: which slices a NodeClaim can reach, the pool builder with its generations
and validation, filtering, and where the devices of a pool come from.
Does not own: the order in which pools are gathered.
-/

namespace Kraftsman.DynamicResources

open Apis Data Scheduling List

variable (slices : List ResourceSlice)

section Definitions

variable (tables : LabelTables)

def nodeSelectorsToRequirements (terms : List NodeSelectorTerm) : Requirements :=
  terms.foldl (fun requirements term => requirements.add tables
    (Requirements.newNodeSelectorRequirements tables term.matchExpressions).values) ∅

def nodeSelectorsMatch (terms : List NodeSelectorTerm) (requirements : Requirements) : Bool :=
  terms.any fun term => requirements.isCompatible tables
    (Requirements.newNodeSelectorRequirements tables term.matchExpressions) tables.wellKnownLabels

/-- Whether a NodeClaim reaches a slice. Counter sets are reachable from everywhere. -/
def sliceMatchesRequirements (slice : ResourceSlice) (requirements : Requirements)
    (nodeName : String) : Bool :=
  if slice.allNodes then true
  else if slice.sharedCounters.isSome then true
  else if slice.nodeName ≠ "" then nodeName ≠ "" && slice.nodeName = nodeName
  else
    match slice.nodeSelector with
    | none => false
    | some terms => nodeSelectorsMatch tables terms requirements

def sliceTopologyRequirements (slice : ResourceSlice) : Option Requirements :=
  if slice.allNodes then none
  else slice.nodeSelector.map (nodeSelectorsToRequirements tables)

def newDeviceWithID (key : PoolKey) (device : Device) (topoReqs : Option Requirements) :
    DeviceWithID where
  device := device
  id := { driver := key.driver, pool := key.pool, device := device.name }
  topologyRequirements := topoReqs

def sliceDevices (key : PoolKey) (slice : ResourceSlice) : List DeviceWithID :=
  slice.devices.map fun device =>
    newDeviceWithID key device (sliceTopologyRequirements tables slice)

def counterConsumers (key : PoolKey) (slice : ResourceSlice) : List DeviceWithID :=
  (slice.devices.filter fun device => !device.consumesCounters.isEmpty).map fun device =>
    newDeviceWithID key device none

/-- The slices of the newest generation, each with whether it is reached. -/
structure PoolBuilder where
  entries : List (ResourceSlice × Bool) := []
  generation : Int := 0
  resourceSliceCount : Int := 0

/-- Add a slice: older generations are discarded, a newer one replaces them. -/
def PoolBuilder.addSlice (builder : PoolBuilder) (slice : ResourceSlice) (isMatched : Bool) :
    PoolBuilder :=
  if builder.entries.isEmpty || builder.generation < slice.generation then
    { entries := [(slice, isMatched)]
      generation := slice.generation
      resourceSliceCount := slice.resourceSliceCount }
  else if slice.generation < builder.generation then builder
  else { builder with entries := builder.entries ++ [(slice, isMatched)] }

def getAndValidateCounterSets : CounterSets × Bool :=
  let sets := slices.flatMap fun slice => slice.sharedCounters.getD []
  (sets.foldl (fun counterSets set => counterSets.insert set.name set.counters) ∅,
    decide ((sets.map fun set => set.name).Nodup))

def validateDeviceCounterConsumption (counterSets : CounterSets) (slices : List ResourceSlice) :
    Bool :=
  slices.all fun slice => slice.devices.all fun device => device.consumesCounters.all
    fun consumption =>
      match counterSets.lookup consumption.counterSet with
      | none => false
      | some counterSet => consumption.counters.keys.all fun name => name ∈ counterSet

/-- Build the pool. Completeness is judged by all slices; only reachable ones contribute devices. -/
def PoolBuilder.build (builder : PoolBuilder) (key : PoolKey) : Option Pool :=
  let counterSetSlices := (builder.entries.filter fun entry =>
    entry.1.sharedCounters.isSome).map fun entry => entry.1
  let deviceEntries := builder.entries.filter fun entry => entry.1.sharedCounters.isNone
  let slices := (deviceEntries.filter fun entry => entry.2).map fun entry => entry.1
  let nonTargetingDeviceSlices :=
    (deviceEntries.filter fun entry => !entry.2).map fun entry => entry.1
  let nonTargetingDevices := nonTargetingDeviceSlices.flatMap (counterConsumers key)
  let devices : List DeviceWithID := slices.flatMap (sliceDevices tables key)
  let counterSets := getAndValidateCounterSets counterSetSlices
  let incomplete := decide ((builder.entries.length : Int) ≠ builder.resourceSliceCount)
  let names : List String := devices.map fun device => device.device.name
  let valid : Bool := decide names.Nodup && counterSets.2 &&
    validateDeviceCounterConsumption counterSets.1 slices &&
    validateDeviceCounterConsumption counterSets.1 nonTargetingDeviceSlices
  if !valid then
    some {
      key := key
      nonTargetingDevices := nonTargetingDevices ++
        devices.filter fun device => !device.device.consumesCounters.isEmpty
      counterSets := counterSets.1
      incomplete := incomplete
      invalid := true }
  else if slices.isEmpty && devices.isEmpty && nonTargetingDevices.isEmpty then none
  else
    some {
      key := key
      slices := slices
      devices := devices
      nonTargetingDevices := nonTargetingDevices
      counterSets := counterSets.1
      incomplete := incomplete }

/-- The pools of published slices, in the order of the map. The source ranges over it
in any order, and what depends on that takes the order as a parameter. -/
def gatherPools (inClusterSlices : List ResourceSlice) (requirements : Requirements)
    (nodeName : String) : List Pool :=
  let builders := inClusterSlices.foldl (fun builders slice =>
    builders.alter slice.poolKey fun builder => some ((builder.getD {}).addSlice slice
      (sliceMatchesRequirements tables slice requirements nodeName))) (∅ : GoMap PoolKey PoolBuilder)
  builders.entries.filterMap fun entry => entry.2.build tables entry.1

/-- Narrow a pool to the reachable slices. Others' devices that consume counters
are kept for the books, and so is an invalid pool. -/
def filterPool (requirements : Requirements) (nodeName : String) (pool : Pool) : Option Pool :=
  let reachable := fun slice => sliceMatchesRequirements tables slice requirements nodeName
  let slices := pool.slices.filter reachable
  let devices := slices.flatMap (sliceDevices tables pool.key)
  let nonTargetingDevices := pool.nonTargetingDevices ++
    (pool.slices.filter fun slice => !reachable slice).flatMap (counterConsumers pool.key)
  if !pool.invalid && slices.isEmpty && devices.isEmpty && nonTargetingDevices.isEmpty then none
  else
    some { pool with
      slices := slices
      devices := devices
      nonTargetingDevices := nonTargetingDevices }

def filterPools (pools : List Pool) (requirements : Requirements) (nodeName : String) : List Pool :=
  pools.filterMap (filterPool tables requirements nodeName)

end Definitions

def currentSlices : List ResourceSlice :=
  slices.filter fun slice => slices.all fun other =>
    other.poolKey ≠ slice.poolKey || other.generation ≤ slice.generation

def Published (device : DeviceWithID) : Prop :=
  ∃ slice ∈ currentSlices slices, device.device ∈ slice.devices ∧
    device.id = { driver := slice.driver, pool := slice.pool, device := device.device.name }

structure Pool.From (slices : List ResourceSlice) (pool : Pool) : Prop where
  slices_published : ∀ slice ∈ pool.slices, slice ∈ currentSlices slices ∧ slice.poolKey = pool.key
  devices_published : ∀ device ∈ pool.devices, Published slices device

variable {tables : LabelTables} {slices : List ResourceSlice}

variable {slice : ResourceSlice} {key : PoolKey} {builder : PoolBuilder} {pool : Pool}

theorem published_of_mem_sliceDevices {device : DeviceWithID}
    (published : slice ∈ currentSlices slices) (own : slice.poolKey = key)
    (member : device ∈ sliceDevices tables key slice) : Published slices device := by
  obtain ⟨bare, inSlice, rfl⟩ := mem_map.mp member
  refine ⟨slice, published, inSlice, ?_⟩
  rw [← own]
  rfl

/-- A builder with slices of the newest generation seen. -/
structure PoolBuilder.Newest (seen : List ResourceSlice) (key : PoolKey) (builder : PoolBuilder) :
    Prop where
  owned : ∀ entry ∈ builder.entries, entry.1 ∈ seen ∧ entry.1.poolKey = key ∧
    entry.1.generation = builder.generation
  newest : ∀ slice ∈ seen, slice.poolKey = key →
    builder.entries ≠ [] ∧ slice.generation ≤ builder.generation

variable {seen : List ResourceSlice} {requirements : Requirements} {nodeName : String}

theorem PoolBuilder.Newest.addSlice (isNewest : builder.Newest seen slice.poolKey)
    (isMatched : Bool) :
    (builder.addSlice slice isMatched).Newest (seen ++ [slice]) slice.poolKey := by
  unfold PoolBuilder.addSlice
  split_ifs with replaces older
  · constructor
    · simp
    · intro other member own
      refine ⟨by simp, ?_⟩
      rcases List.mem_append.mp member with old | isSlice
      · have known := isNewest.newest other old own
        simp only [Bool.or_eq_true, List.isEmpty_iff, known.1, false_or, decide_eq_true_eq]
          at replaces
        exact known.2.trans replaces.le
      · rw [List.mem_singleton.mp isSlice]
  · constructor
    · intro entry member
      obtain ⟨inSeen, own⟩ := isNewest.owned entry member
      exact ⟨by simp [inSeen], own⟩
    · intro other member own
      rcases List.mem_append.mp member with old | isSlice
      · exact isNewest.newest other old own
      · rw [List.mem_singleton.mp isSlice]
        refine ⟨fun empty => replaces (by simp [empty]), older.le⟩
  · have same : slice.generation = builder.generation := by
      simp only [Bool.or_eq_true, decide_eq_true_eq, not_or, not_lt] at replaces older
      omega
    constructor
    · intro entry member
      rcases List.mem_append.mp member with old | isNew
      · obtain ⟨inSeen, own⟩ := isNewest.owned entry old
        exact ⟨by simp [inSeen], own⟩
      · rw [List.mem_singleton.mp isNew]
        exact ⟨by simp, rfl, same⟩
    · intro other member own
      refine ⟨by simp, ?_⟩
      rcases List.mem_append.mp member with old | isSlice
      · exact (isNewest.newest other old own).2
      · rw [List.mem_singleton.mp isSlice]
        exact same.le

theorem PoolBuilder.Newest.skip (isNewest : builder.Newest seen key) (other : slice.poolKey ≠ key) :
    builder.Newest (seen ++ [slice]) key where
  owned entry member := by
    obtain ⟨inSeen, own⟩ := isNewest.owned entry member
    exact ⟨by simp [inSeen], own⟩
  newest old member own := by
    rcases List.mem_append.mp member with inSeen | isSlice
    · exact isNewest.newest old inSeen own
    · rw [List.mem_singleton.mp isSlice] at own
      exact absurd own other

theorem PoolBuilder.build_from
    (own : ∀ entry ∈ builder.entries, entry.1 ∈ currentSlices slices ∧ entry.1.poolKey = key)
    (built : builder.build tables key = some pool) : pool.From slices := by
  unfold build at built
  dsimp only at built
  split_ifs at built
  · cases built
    exact ⟨fun slice member => absurd member (not_mem_nil), fun device member =>
      absurd member (not_mem_nil)⟩
  · cases built
    have reached : ∀ slice ∈ ((builder.entries.filter fun entry =>
        entry.1.sharedCounters.isNone).filter fun entry => entry.2).map fun entry => entry.1,
        slice ∈ currentSlices slices ∧ slice.poolKey = key := by
      intro slice member
      obtain ⟨entry, inEntries, rfl⟩ := mem_map.mp member
      exact own entry (mem_of_mem_filter (mem_of_mem_filter inEntries))
    refine ⟨reached, ?_⟩
    intro device member
    obtain ⟨slice, inSlices, inDevices⟩ := mem_flatMap.mp member
    exact published_of_mem_sliceDevices (reached slice inSlices).1 (reached slice inSlices).2 inDevices

theorem gatherPools_from (member : pool ∈ gatherPools tables slices requirements nodeName) :
    pool.From slices := by
  -- every builder holds the newest slices of its own key
  have current : ∀ (todo seen : List ResourceSlice) (builders : GoMap PoolKey PoolBuilder),
      (∀ key, ((builders.lookup key).getD {}).Newest seen key) →
      ∀ key, (((todo.foldl (fun builders slice =>
        builders.alter slice.poolKey fun builder => some ((builder.getD {}).addSlice slice
          (sliceMatchesRequirements tables slice requirements nodeName))) builders).lookup
            key).getD {}).Newest (seen ++ todo) key := by
    intro todo
    induction todo with
    | nil =>
      intro seen builders isNewest
      simpa using isNewest
    | cons slice rest ih =>
      intro seen builders isNewest
      rw [append_cons]
      apply ih
      intro key
      rw [GoMap.lookup_alter]
      split_ifs with same
      · subst same
        exact (isNewest slice.poolKey).addSlice _
      · exact (isNewest key).skip (Ne.symm same)
  obtain ⟨⟨key, builder⟩, inEntries, built⟩ := mem_filterMap.mp member
  have isNewest := current slices [] ∅ (fun key => ⟨by simp, by simp⟩) key
  rw [GoMap.mem_entries_iff.mp inEntries] at isNewest
  apply PoolBuilder.build_from _ built
  intro entry inBuilder
  obtain ⟨seen, own, generation⟩ := isNewest.owned entry inBuilder
  refine ⟨mem_filter.mpr ⟨by simpa using seen, all_eq_true.mpr ?_⟩, own⟩
  intro other published
  by_cases sameKey : other.poolKey = entry.1.poolKey
  · have newest := (isNewest.newest other (by simpa using published) (sameKey.trans own)).2
    rw [← generation] at newest
    simp [newest]
  · simp [sameKey]

theorem filterPools_from {pools : List Pool} (published : ∀ pool ∈ pools, pool.From slices)
    (member : pool ∈ filterPools tables pools requirements nodeName) : pool.From slices := by
  obtain ⟨old, inPools, filtered⟩ := mem_filterMap.mp member
  unfold filterPool at filtered
  dsimp only at filtered
  split_ifs at filtered
  cases filtered
  have kept : ∀ slice ∈ old.slices.filter fun slice =>
      sliceMatchesRequirements tables slice requirements nodeName,
      slice ∈ currentSlices slices ∧ slice.poolKey = old.key :=
    fun slice inSlices => (published old inPools).slices_published slice
      (mem_of_mem_filter inSlices)
  refine ⟨kept, ?_⟩
  intro device inDevices
  obtain ⟨slice, inSlices, inSlice⟩ := mem_flatMap.mp inDevices
  exact published_of_mem_sliceDevices (kept slice inSlices).1 (kept slice inSlices).2 inSlice

end Kraftsman.DynamicResources
