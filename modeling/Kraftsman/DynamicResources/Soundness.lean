import Kraftsman.DynamicResources.Allocator

/-!
Contract: what a successful search has checked.

Owns: the tentative state as a function of the devices taken, the checks each
passed against those before it, and that the search keeps both.
Does not own: what a commit of the result does to the tracker.
-/

namespace Kraftsman.DynamicResources

open Apis Data Scheduling GoMap Tentative AList List

section Counters

private theorem getSetCounter_addConsumption (sets : CounterSets)
    (consumption : DeviceCounterConsumption) (set name : String) :
    getSetCounter (sets.insert consumption.counterSet
        (addCounters ((sets.lookup consumption.counterSet).getD ∅) consumption.counters))
        set name =
      match if consumption.counterSet = set then consumption.counters.lookup name else none with
      | none => getSetCounter sets set name
      | some counter => some ((getSetCounter sets set name).getD 0 + counter) := by
  unfold getSetCounter
  rw [lookup_insert_eq]
  by_cases same : consumption.counterSet = set
  · subst same
    simp only [if_true, addCounters]
    rw [lookup_rangeAlter]
    cases sets.lookup consumption.counterSet with
    | none | some _ => cases consumption.counters.lookup name <;> simp
  · rw [if_neg fun equal => same equal.symm, if_neg same]

private theorem getSetCounter_addConsumptions (consumptions : List DeviceCounterConsumption)
    (sets : CounterSets) (set name : String) :
    let added := getSetCounter (consumptions.foldl (fun sets consumption =>
      sets.insert consumption.counterSet
        (addCounters ((sets.lookup consumption.counterSet).getD ∅) consumption.counters)) sets)
      set name
    let amount := (consumptions.map fun consumption =>
      if consumption.counterSet = set then (consumption.counters.lookup name).getD 0 else 0).sum
    added.getD 0 = (getSetCounter sets set name).getD 0 + amount ∧
      ((getSetCounter sets set name).isSome ∨ amount ≠ 0 → added.isSome) := by
  induction consumptions generalizing sets with
  | nil => simp
  | cons consumption rest ih =>
    obtain ⟨amountEq, present⟩ := ih (sets.insert consumption.counterSet
      (addCounters ((sets.lookup consumption.counterSet).getD ∅) consumption.counters))
    have first := getSetCounter_addConsumption sets consumption set name
    simp only [foldl_cons, map_cons, sum_cons]
    rw [first] at amountEq present
    by_cases same : consumption.counterSet = set
    · rw [if_pos same] at *
      cases found : consumption.counters.lookup name with
      | none =>
        simp only [found] at amountEq present ⊢
        simpa using ⟨amountEq, present⟩
      | some counter =>
        simp only [found] at amountEq present ⊢
        refine ⟨?_, fun _ => present (.inl rfl)⟩
        rw [amountEq]
        simp [add_assoc]
    · rw [if_neg same] at *
      simpa using ⟨amountEq, present⟩

variable (counters : PoolCounters) (device : Device) (poolKey : PoolKey)

theorem counterAt_deductAllocatingCounters (key : CounterKey) :
    counterAt (deductAllocatingCounters counters device poolKey) key =
      counterAt counters key + if key.1 = poolKey then device.consumes key.2.1 key.2.2 else 0 := by
  unfold deductAllocatingCounters
  split_ifs with none same same
  · simp [Device.consumes, isEmpty_iff.mp none]
  · simp
  · have added := (getSetCounter_addConsumptions device.consumesCounters
      ((counters.lookup poolKey).getD ∅) key.2.1 key.2.2).1
    simp only [counterAt, getCounter_eq, same, lookup_insert]
    rw [added]
    cases counters.lookup poolKey <;> rfl
  · simp [counterAt, getCounter_eq, same]

theorem isSome_deductAllocatingCounters (set name : String)
    (present : (getCounter counters poolKey set name).isSome ∨ device.consumes set name ≠ 0) :
    (getCounter (deductAllocatingCounters counters device poolKey) poolKey set name).isSome := by
  unfold deductAllocatingCounters
  split_ifs with none
  · simpa [Device.consumes, isEmpty_iff.mp none] using present
  · have added := (getSetCounter_addConsumptions device.consumesCounters
      ((counters.lookup poolKey).getD ∅) set name).2
    simp only [getCounter_eq, lookup_insert] at present ⊢
    apply added
    cases known : counters.lookup poolKey with
    | none => simpa [known, getSetCounter, Device.consumes] using present
    | some sets => simpa [known, Device.consumes] using present

theorem getCounter_deductAllocatingCounters_of_ne {other : PoolKey} (different : other ≠ poolKey)
    (set name : String) :
    getCounter (deductAllocatingCounters counters device poolKey) other set name =
      getCounter counters other set name := by
  unfold deductAllocatingCounters
  split_ifs
  · rfl
  · simp [getCounter_eq, different]

theorem getCounter_restoreAllocatingCounters (key : PoolKey) (set name : String) :
    getCounter (restoreAllocatingCounters counters device poolKey) key set name =
      (getCounter counters key set name).map fun counter =>
        counter - if key = poolKey then device.consumes set name else 0 := by
  unfold restoreAllocatingCounters
  split_ifs with none same same
  · simp [Device.consumes, isEmpty_iff.mp none]
  · simp
  · subst same
    simp only [getCounter_eq, lookup_alter, if_true]
    cases counters.lookup key with
    | none => rfl
    | some sets => exact getSetCounter_deductFromCounters sets device set name
  · simp [getCounter_eq, lookup_alter, same]

theorem counterAt_restoreAllocatingCounters {key : CounterKey}
    (present : key.1 = poolKey → device.consumes key.2.1 key.2.2 ≠ 0 →
      (getCounter counters key.1 key.2.1 key.2.2).isSome) :
    counterAt (restoreAllocatingCounters counters device poolKey) key =
      counterAt counters key - if key.1 = poolKey then device.consumes key.2.1 key.2.2 else 0 := by
  unfold counterAt
  rw [getCounter_restoreAllocatingCounters]
  cases found : getCounter counters key.1 key.2.1 key.2.2 with
  | some counter => rfl
  | none =>
    -- without an entry there is nothing to give back
    have nothing : (if key.1 = poolKey then device.consumes key.2.1 key.2.2 else 0) = 0 := by
      split_ifs with own
      · by_contra consumes
        have impossible := present own consumes
        rw [found] at impossible
        cases impossible
      · rfl
    rw [nothing, sub_zero]
    rfl

end Counters

section Capacity

def consumedAmount (consumed : Option Capacities) (name : QualifiedName) : Quantity :=
  ((consumed.getD ∅).lookup name).getD 0

variable (capacities : DeviceCapacities) (consumed : Option Capacities) (id : DeviceID)

theorem capacityAt_allocatingCapacity (key : CapacityKey) :
    let amount := if key.1 = id then consumedAmount consumed key.2 else 0
    capacityAt (deductAllocatingCapacity capacities consumed id) key =
        capacityAt capacities key + amount ∧
      capacityAt (restoreAllocatingCapacity capacities consumed id) key =
        capacityAt capacities key - amount := by
  unfold deductAllocatingCapacity restoreAllocatingCapacity
  cases consumed with
  | none => simp [consumedAmount]
  | some consumed =>
    dsimp only
    split_ifs with empty same same
    · have nothing : consumed = ∅ := ext (isEmpty_iff.mp empty)
      simp [nothing, consumedAmount]
    · simp
    · subst same
      simp only [capacityAt, getCapacity, lookup_insert, addCounters, consumedAmount,
        Option.getD_some, lookup_rangeAlter]
      cases capacities.lookup key.1 <;> cases consumed.lookup key.2 <;> simp
    · simp [capacityAt, getCapacity, lookup_insert_ne same]

theorem mem_deductAllocatingCapacity {other : DeviceID} :
    other ∈ deductAllocatingCapacity capacities consumed id ↔
      other ∈ capacities ∨ (other = id ∧ ∃ amounts, consumed = some amounts ∧ amounts.entries ≠ []) := by
  unfold deductAllocatingCapacity
  cases consumed with
  | none => simp
  | some consumed =>
    dsimp only
    split_ifs with empty
    · simp [isEmpty_iff.mp empty]
    · have some : consumed.entries ≠ [] := fun nothing => empty (by simp [nothing])
      simp [some, or_comm]

theorem mem_restoreAllocatingCapacity {other : DeviceID} (present : id ∈ capacities) :
    other ∈ restoreAllocatingCapacity capacities consumed id ↔ other ∈ capacities := by
  unfold restoreAllocatingCapacity
  cases consumed with
  | none => rfl
  | some consumed =>
    dsimp only
    split_ifs
    · rfl
    · rw [mem_insert]
      constructor
      · rintro (rfl | member)
        · exact present
        · exact member
      · exact .inr

end Capacity

abbrev DeviceAllocationMetadata.id (taken : DeviceAllocationMetadata) : DeviceID :=
  taken.deviceWithID.id

abbrev DeviceAllocationMetadata.device (taken : DeviceAllocationMetadata) : Device :=
  taken.deviceWithID.device

namespace Tentative

variable (tentative : Tentative) (taken : DeviceAllocationMetadata) (template : Bool)

theorem record_counters : (tentative.record taken).counters template =
      if template = taken.id.template then
        deductAllocatingCounters (tentative.counters template) taken.device taken.id.poolKey
      else tentative.counters template := by
  unfold record mapCounters mapCapacities counters
  dsimp only
  cases taken.id.template <;> cases template <;> rfl

theorem record_capacities : (tentative.record taken).capacities template =
      if template = taken.id.template then
        deductAllocatingCapacity (withEntry (tentative.capacities template) taken.deviceWithID)
          taken.consumedCapacity taken.id
      else tentative.capacities template := by
  unfold record mapCounters mapCapacities capacities
  dsimp only
  cases taken.id.template <;> cases template <;> rfl

theorem record_metadata : (tentative.record taken).allocatedDevicesMetadata =
      tentative.allocatedDevicesMetadata ++ [taken] := by
  unfold record mapCounters mapCapacities
  dsimp only
  cases taken.id.template <;> rfl

theorem record_allocatedDevices :
    (tentative.record taken).allocatedDevices = insert taken.id tentative.allocatedDevices := by
  unfold record mapCounters mapCapacities
  dsimp only
  cases taken.id.template <;> rfl

theorem undo_counters : (tentative.undo taken).counters template =
      if template = taken.id.template then
        restoreAllocatingCounters (tentative.counters template) taken.device taken.id.poolKey
      else tentative.counters template := by
  unfold undo mapCounters mapCapacities counters
  dsimp only
  cases taken.id.template <;> cases template <;> rfl

theorem undo_capacities : (tentative.undo taken).capacities template =
      if template = taken.id.template then
        restoreAllocatingCapacity (tentative.capacities template) taken.consumedCapacity taken.id
      else tentative.capacities template := by
  unfold undo mapCounters mapCapacities capacities
  dsimp only
  cases taken.id.template <;> cases template <;> rfl

theorem undo_metadata : (tentative.undo taken).allocatedDevicesMetadata =
      tentative.allocatedDevicesMetadata.dropLast := by
  unfold undo mapCounters mapCapacities
  dsimp only
  cases taken.id.template <;> rfl

theorem undo_allocatedDevices :
    (tentative.undo taken).allocatedDevices = tentative.allocatedDevices.erase taken.id := by
  unfold undo mapCounters mapCapacities
  dsimp only
  cases taken.id.template <;> rfl

end Tentative

theorem capacityAt_withEntry (capacities : DeviceCapacities) (dw : DeviceWithID)
    (key : CapacityKey) :
    capacityAt (withEntry capacities dw) key = capacityAt capacities key := by
  unfold withEntry
  split_ifs with fresh
  · have absent : dw.id ∉ capacities := by simpa using (Bool.and_eq_true_iff.mp fresh).2
    unfold capacityAt getCapacity
    rw [lookup_insert_eq]
    split_ifs with same
    · rw [same, lookup_eq_none.mpr absent]
      simp
    · rfl
  · rfl

theorem mem_withEntry {capacities : DeviceCapacities} {dw : DeviceWithID} {id : DeviceID} :
    id ∈ withEntry capacities dw ↔
      id ∈ capacities ∨ (id = dw.id ∧ dw.device.allowMultipleAllocations) := by
  unfold withEntry
  split_ifs with fresh
  · have multi := (Bool.and_eq_true_iff.mp fresh).1
    simp [multi, or_comm]
  · constructor
    · exact .inl
    · rintro (member | ⟨rfl, multi⟩)
      · exact member
      · by_contra absent
        exact fresh (by simp [multi, absent])

def takenCounter (template : Bool) (metadata : List DeviceAllocationMetadata) (key : CounterKey) :
    Quantity :=
  (metadata.map fun taken =>
    if taken.id.template = template ∧ key.1 = taken.id.poolKey then
      taken.device.consumes key.2.1 key.2.2
    else 0).sum

def takenCapacity (metadata : List DeviceAllocationMetadata) (key : CapacityKey) : Quantity :=
  (metadata.map fun taken =>
    if key.1 = taken.id then consumedAmount taken.consumedCapacity key.2 else 0).sum

/-- Published devices and the instance type's templates. -/
def SearchContext.Candidate (ctx : SearchContext) (dw : DeviceWithID) : Prop :=
  Published ctx.env.inClusterSlices dw ∨ dw ∈ ctx.templateDevices

/-- The tentative state accounts for the devices taken, each at most once unless
it has a capacity entry. -/
structure Tentative.Reflects (ctx : SearchContext) (tentative : Tentative) : Prop where
  counters : ∀ template key, counterAt (tentative.counters template) key =
    takenCounter template tentative.allocatedDevicesMetadata key
  counters_present : ∀ taken ∈ tentative.allocatedDevicesMetadata, ∀ set name,
    taken.device.consumes set name ≠ 0 →
      (getCounter (tentative.counters taken.id.template) taken.id.poolKey set name).isSome
  capacities : ∀ key : CapacityKey, capacityAt (tentative.capacities key.1.template) key =
    takenCapacity tentative.allocatedDevicesMetadata key
  multi_present : ∀ taken ∈ tentative.allocatedDevicesMetadata,
    taken.device.allowMultipleAllocations = true → taken.id ∈ tentative.capacities taken.id.template
  present_multi : ∀ template id, id ∈ tentative.capacities template → id.template = template ∧
    ∃ dw, ctx.Candidate dw ∧ dw.id = id ∧ dw.device.allowMultipleAllocations = true
  once : ∀ id, id ∉ tentative.capacities id.template →
    (tentative.allocatedDevicesMetadata.filter fun taken => taken.id = id).length =
      if id ∈ tentative.allocatedDevices then 1 else 0

/-- The checks a device passed against those taken before it. -/
structure Admissible (ctx : SearchContext) (Requested : RequestData → Prop)
    (earlier : List DeviceAllocationMetadata) (taken : DeviceAllocationMetadata) : Prop where
  candidate : ctx.Candidate taken.deviceWithID
  free : taken.device.allowMultipleAllocations = false →
    ctx.tracker.isAllocated taken.id ctx.nodeClaim.id ctx.itID = false
  exclusive : taken.device.allowMultipleAllocations = false → taken.consumedCapacity = none
  counters : ∀ consumption ∈ taken.device.consumesCounters, ∀ name amount,
    consumption.counters.lookup name = some amount →
      ∃ sets budget, ctx.remainingCounterSets taken.id = some sets ∧
        getSetCounter sets consumption.counterSet name = some budget ∧
        amount.value ≤ budget.value - Quantity.value (takenCounter taken.id.template earlier
          (taken.id.poolKey, consumption.counterSet, name))
  capacity : ∀ consumed name amount, taken.consumedCapacity = some consumed →
    consumed.lookup name = some amount →
      ∃ capacity, taken.device.capacity.lookup name = some capacity ∧
        ctx.committedCapacity taken.id name + takenCapacity earlier (taken.id, name) + amount ≤
          capacity.value
  requested : ∃ rd, Requested rd ∧ (taken.device.allowMultipleAllocations = true →
    computeConsumedCapacity rd.capacityRequests taken.device.capacity = some taken.consumedCapacity)

/-- A tentative state in which every device passed its checks. -/
structure Tentative.Sound (ctx : SearchContext) (Requested : RequestData → Prop)
    (tentative : Tentative) : Prop extends tentative.Reflects ctx where
  admissible : ∀ earlier taken, earlier ++ [taken] <+: tentative.allocatedDevicesMetadata →
    Admissible ctx Requested earlier taken

theorem takenCounter_append (template : Bool) (metadata : List DeviceAllocationMetadata)
    (taken : DeviceAllocationMetadata) (key : CounterKey) :
    takenCounter template (metadata ++ [taken]) key = takenCounter template metadata key +
      if taken.id.template = template ∧ key.1 = taken.id.poolKey then
        taken.device.consumes key.2.1 key.2.2
      else 0 := by
  simp [takenCounter]

theorem takenCapacity_append (metadata : List DeviceAllocationMetadata)
    (taken : DeviceAllocationMetadata) (key : CapacityKey) :
    takenCapacity (metadata ++ [taken]) key = takenCapacity metadata key +
      if key.1 = taken.id then consumedAmount taken.consumedCapacity key.2 else 0 := by
  simp [takenCapacity]

theorem Tentative.sound_empty (ctx : SearchContext) (Requested : RequestData → Prop) :
    ({} : Tentative).Sound ctx Requested where
  counters := by
    intro template key
    cases template <;> rfl
  counters_present := by
    intro taken member
    cases member
  capacities := by
    intro key
    unfold capacities
    split <;> rfl
  multi_present := by
    intro taken member
    cases member
  present_multi := by
    intro template id member
    unfold capacities at member
    split at member <;> exact absurd member (notMem_empty id)
  once := by
    intro id _
    rfl
  admissible := by
    intro earlier taken isPrefix
    have impossible := prefix_nil.mp isPrefix
    simp at impossible

section Taking

variable {ctx : SearchContext} {Requested : RequestData → Prop}
variable {tentative : Tentative} {taken : DeviceAllocationMetadata}

theorem Tentative.isSome_record {template : Bool} {pool : PoolKey} {set name : String}
    (present : (getCounter (tentative.counters template) pool set name).isSome) :
    (getCounter ((tentative.record taken).counters template) pool set name).isSome := by
  rw [record_counters]
  split_ifs
  · by_cases own : pool = taken.id.poolKey
    · subst own
      exact isSome_deductAllocatingCounters _ _ _ _ _ (.inl present)
    · rw [getCounter_deductAllocatingCounters_of_ne _ _ _ own]
      exact present
  · exact present

theorem mem_record_capacities
    (exclusive : taken.device.allowMultipleAllocations = false → taken.consumedCapacity = none)
    (template : Bool) (id : DeviceID) :
    id ∈ (tentative.record taken).capacities template ↔ id ∈ tentative.capacities template ∨
        (template = taken.id.template ∧ id = taken.id ∧ taken.device.allowMultipleAllocations) := by
  rw [record_capacities]
  split_ifs with same
  · rw [mem_deductAllocatingCapacity, mem_withEntry]
    cases multi : taken.device.allowMultipleAllocations with
    | false => simp [exclusive multi]
    | true =>
      grind
  · simp [same]

theorem Tentative.Sound.record (sound : tentative.Sound ctx Requested)
    (admissible : Admissible ctx Requested tentative.allocatedDevicesMetadata taken)
    (fresh : taken.device.allowMultipleAllocations = false → taken.id ∉ tentative.allocatedDevices) :
    (tentative.record taken).Sound ctx Requested := by
  have entries := @mem_record_capacities tentative taken admissible.exclusive
  constructor
  · constructor
    · intro template key
      rw [record_counters, record_metadata, takenCounter_append, ← sound.counters]
      split_ifs with same own own
      · rw [counterAt_deductAllocatingCounters, if_pos own.2]
      · rw [counterAt_deductAllocatingCounters, if_neg fun pool => own ⟨same.symm, pool⟩]
      · exact absurd own.1.symm same
      · rw [add_zero]
    · intro other member set name consumes
      rw [record_metadata, mem_append, mem_singleton] at member
      rcases member with old | rfl
      · exact isSome_record (sound.counters_present other old set name consumes)
      · rw [record_counters, if_pos rfl]
        exact isSome_deductAllocatingCounters _ _ _ _ _ (.inr consumes)
    · intro key
      rw [record_capacities, record_metadata, takenCapacity_append, ← sound.capacities]
      split_ifs with same own own
      · rw [(capacityAt_allocatingCapacity ..).1, capacityAt_withEntry, if_pos own]
      · rw [(capacityAt_allocatingCapacity ..).1, capacityAt_withEntry, if_neg own]
      · exact absurd (congrArg DeviceID.template own) same
      · rw [add_zero]
    · intro other member multi
      rw [record_metadata, mem_append, mem_singleton] at member
      rcases member with old | rfl
      · exact (entries _ other.id).mpr (.inl (sound.multi_present other old multi))
      · exact (entries _ other.id).mpr (.inr ⟨rfl, rfl, multi⟩)
    · intro template id member
      rcases (entries template id).mp member with old | ⟨rfl, rfl, multi⟩
      · exact sound.present_multi template id old
      · exact ⟨rfl, taken.deviceWithID, admissible.candidate, rfl, multi⟩
    · intro id untracked
      rw [entries, not_or] at untracked
      have before := sound.once id untracked.1
      rw [record_metadata, record_allocatedDevices, filter_append, length_append, before]
      by_cases own : taken.id = id
      · have exclusive : taken.device.allowMultipleAllocations = false := by
          simpa [own.symm] using untracked.2
        have absent : id ∉ tentative.allocatedDevices := own ▸ fresh exclusive
        simp [own, absent]
      · simp [own, Ne.symm own]
  · intro earlier other isPrefix
    rw [record_metadata, prefix_concat_iff] at isPrefix
    rcases isPrefix with whole | inside
    · obtain ⟨rfl, last⟩ := append_inj' whole rfl
      obtain rfl : other = taken := by simpa using last
      exact admissible
    · exact sound.admissible earlier other inside

end Taking

end Kraftsman.DynamicResources
