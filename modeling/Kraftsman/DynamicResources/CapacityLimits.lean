import Kraftsman.DynamicResources.Loop
import Kraftsman.DynamicResources.Rounding

/-!
Contract: how much of a multi-allocatable device the loop hands out.

Owns: when rounding cannot overflow, the bound a search keeps, and that a loop of
such requests keeps every device within its capacity.
Does not own: what is stored for which NodeClaim.
-/

namespace Kraftsman.DynamicResources

open Apis Data Data.Strconv PeakLedger AllocationTracker Option List

/-! ### Requests that round without overflow -/

/-- Amounts are not negative, and rounding to the policy's steps does not overflow. -/
structure SafeRequest (requested : Option Quantity) (capacity : DeviceCapacity) : Prop where
  value_nonneg : 0 ≤ capacity.value
  default_nonneg : ∀ policy ∈ capacity.requestPolicy, ∀ amount ∈ policy.default, 0 ≤ amount
  requested_nonneg : ∀ amount ∈ requested, 0 ≤ amount
  range_nonneg : ∀ policy ∈ capacity.requestPolicy, ∀ range ∈ policy.validRange, 0 ≤ range.min
  rounds : ∀ amount ∈ requested, ∀ policy ∈ capacity.requestPolicy, ∀ range ∈ policy.validRange,
    ∀ step ∈ range.step, amount.value + Quantity.value step ≤ 2 ^ 63

theorem roundUpRange_nonneg {requested : Quantity} {range : CapacityRequestPolicyRange}
    (min_nonneg : 0 ≤ range.min)
    (rounds : ∀ step ∈ range.step, requested.value + Quantity.value step ≤ 2 ^ 63) :
    0 ≤ roundUpRange requested range := by
  rcases lt_or_ge requested range.min with below | above
  · rw [roundUpRange, if_pos below]
    exact min_nonneg
  cases isStep : range.step with
  | none =>
    rw [roundUpRange, if_neg (not_lt.mpr above), isStep]
    exact min_nonneg.trans above
  | some step =>
    have fits := rounds step isStep
    have positive := Quantity.value_pos step.2
    obtain ⟨count, rounded, -, within⟩ := roundUpRange_of_step isStep min_nonneg above (by omega)
    have nonneg := add_nonneg (Quantity.value_nonneg min_nonneg)
      (mul_nonneg positive.le (Int.natCast_nonneg count))
    rw [rounded, wrapInt64_of_nonneg nonneg (by omega)]
    exact_mod_cast nonneg

variable {capacity : DeviceCapacity}

theorem calculateConsumedCapacity_nonneg {requested : Option Quantity}
    (safe : SafeRequest requested capacity) : 0 ≤ calculateConsumedCapacity requested capacity := by
  unfold calculateConsumedCapacity
  split
  · unfold fillEmptyRequest
    cases isDefault : capacity.requestPolicy.bind fun policy => policy.default with
    | none => exact safe.value_nonneg
    | some amount =>
      obtain ⟨policy, isPolicy, isAmount⟩ := bind_eq_some_iff.mp isDefault
      exact safe.default_nonneg policy isPolicy amount isAmount
  next amount =>
  have requested_nonneg := safe.requested_nonneg amount rfl
  split
  · exact requested_nonneg
  next policy isPolicy =>
  split
  · next range isRange =>
      exact roundUpRange_nonneg (safe.range_nonneg policy isPolicy range isRange)
        (safe.rounds amount rfl policy isPolicy range isRange)
  · unfold roundUpValidValues
    cases found : policy.validValues.find? fun validValue => decide (amount ≤ validValue) with
    | none => exact requested_nonneg
    | some validValue =>
      have covers : amount ≤ validValue := by simpa using find?_some found
      exact requested_nonneg.trans covers

/-! ### What a search takes of a device -/

section Searches

variable {ctx : SearchContext} {Requested : RequestData → Prop} {tentative : Tentative}

theorem Tentative.Sound.takenCapacity_fits (sound : tentative.Sound ctx Requested)
    (key : CapacityKey) {done : List DeviceAllocationMetadata}
    (isPrefix : done <+: tentative.allocatedDevicesMetadata) :
    takenCapacity done key ≤ 0 ∨ ∃ dw capacity, ctx.Candidate dw ∧ dw.id = key.1 ∧
      dw.device.capacity.lookup key.2 = some capacity ∧
      ctx.committedCapacity key.1 key.2 + takenCapacity done key ≤ capacity.value := by
  -- only the last device with this dimension was checked against the whole sum
  induction done using reverseRecOn with
  | nil => exact .inl (le_refl 0)
  | append_singleton earlier taken ih =>
    have before := ih ((prefix_append earlier [taken]).trans isPrefix)
    have checked := sound.admissible earlier taken isPrefix
    rw [takenCapacity_append]
    by_cases own : key.1 = taken.id
    · cases consumes : (taken.consumedCapacity.getD ∅).lookup key.2 with
      | none => simpa [own, consumedAmount, consumes] using before
      | some amount =>
        cases isConsumed : taken.consumedCapacity with
        | none => simp [isConsumed] at consumes
        | some consumed =>
          rw [isConsumed, getD_some] at consumes
          obtain ⟨capacity, found, fits⟩ :=
            checked.capacity consumed key.2 amount isConsumed consumes
          refine .inr ⟨taken.deviceWithID, capacity, checked.candidate, own.symm, found, ?_⟩
          have sameKey : (taken.id, key.2) = key := by rw [← own]
          rw [sameKey] at fits
          simpa [own, consumedAmount, consumes, add_assoc] using fits
    · simpa [own] using before

def SafeRequests (ctx : SearchContext) (Requested : RequestData → Prop) : Prop :=
  ∀ rd, Requested rd → ∀ dw, ctx.Candidate dw → dw.device.allowMultipleAllocations = true →
    ∀ name capacity, dw.device.capacity.lookup name = some capacity →
      SafeRequest (rd.capacityRequests.lookup name) capacity

section

variable (sound : tentative.Sound ctx Requested) (safe : SafeRequests ctx Requested)
include sound safe

theorem Tentative.Sound.consumed_nonneg {taken : DeviceAllocationMetadata}
    (member : taken ∈ tentative.allocatedDevicesMetadata) (name : QualifiedName) :
    0 ≤ consumedAmount taken.consumedCapacity name := by
  obtain ⟨earlier, checked⟩ := sound.checked member
  cases multi : taken.device.allowMultipleAllocations with
  | false =>
    rw [checked.exclusive multi]
    exact le_refl 0
  | true =>
    obtain ⟨rd, requested, computes⟩ := checked.requested
    have computed := computes multi
    unfold computeConsumedCapacity at computed
    split_ifs at computed
    · rw [← some.inj computed]
      exact le_refl 0
    · rw [← some.inj computed]
      unfold consumedAmount
      rw [getD_some, GoMap.lookup_rangeAlter]
      cases found : taken.device.capacity.lookup name with
      | none => exact le_refl 0
      | some capacity =>
        exact calculateConsumedCapacity_nonneg
          (safe rd requested taken.deviceWithID checked.candidate multi name capacity found)

theorem Tentative.Sound.takenCapacity_nonneg (key : CapacityKey) :
    0 ≤ takenCapacity tentative.allocatedDevicesMetadata key := by
  apply sum_nonneg
  intro amount member
  obtain ⟨taken, inMetadata, rfl⟩ := mem_map.mp member
  split_ifs
  · exact sound.consumed_nonneg safe inMetadata key.2
  · exact le_refl 0

theorem Tentative.Sound.capacities_nonneg (template : Bool) :
    NonnegCapacities (tentative.capacities template) := by
  intro device name quantity found
  have present : device ∈ tentative.capacities template := by
    by_contra absent
    simp [getCapacity, AList.lookup_eq_none.mpr absent] at found
  have taken := sound.capacities (device, name)
  rw [(sound.present_multi template device present).1, capacityAt, found] at taken
  rw [getD_some] at taken
  exact taken ▸ sound.takenCapacity_nonneg safe (device, name)

end

end Searches

/-! ### Catalogs -/

/-- The devices of a loop. A name stands for one device of its pool, and templates stay the same. -/
structure DeviceCatalog (env : Environment) where
  templates : NodeClaimID → GoMap InstanceTypeID (List ResourceSlice)
  published_unique : ∀ first second, Published env.inClusterSlices first →
    Published env.inClusterSlices second → first.id = second.id → first.device = second.device
  template_unique : ∀ nodeClaim it slices, (templates nodeClaim).lookup it = some slices →
    ∀ first ∈ templateSliceDevices slices, ∀ second ∈ templateSliceDevices slices,
      first.id = second.id → first.device = second.device
  template_nonneg : ∀ nodeClaim it slices, (templates nodeClaim).lookup it = some slices →
    ∀ dw ∈ templateSliceDevices slices, ∀ name capacity,
      dw.device.capacity.lookup name = some capacity → 0 ≤ capacity.value

namespace DeviceCatalog

variable {env : Environment} (catalog : DeviceCatalog env)

def IsTemplate (nodeClaim : NodeClaimID) (it : InstanceTypeID) (dw : DeviceWithID) : Prop :=
  ∃ slices, (catalog.templates nodeClaim).lookup it = some slices ∧ dw ∈ templateSliceDevices slices

/-- The NodeClaim has the templates of the catalog, and no request on a
multi-allocatable device overflows. -/
structure CapacityInput (_tracker : AllocationTracker) (nodeClaim : NodeClaim)
    (claims : List ResourceClaim) : Prop where
  templates : nodeClaim.resourceSlices = catalog.templates nodeClaim.id
  safe : ∀ claim ∈ claims, ∀ request ∈ claim.requests, ∀ exactly, request.exactly = some exactly →
    ∀ it dw, (Published env.inClusterSlices dw ∨ catalog.IsTemplate nodeClaim.id it dw) →
      dw.device.allowMultipleAllocations = true →
        ∀ name capacity, dw.device.capacity.lookup name = some capacity →
          SafeRequest ((exactly.capacity.getD ∅).lookup name) capacity

variable {catalog} {tracker : AllocationTracker} {nodeClaim : NodeClaim}
variable {claims : List ResourceClaim} {it : InstanceTypeID} {dw : DeviceWithID}

theorem isTemplate_of_mem (templates : nodeClaim.resourceSlices = catalog.templates nodeClaim.id)
    (member : dw ∈ (searchContext env tracker nodeClaim it).templateDevices) :
    catalog.IsTemplate nodeClaim.id it dw := by
  have inSlices : dw ∈ ((nodeClaim.resourceSlices.lookup it).map templateSliceDevices).getD [] :=
    lookup_templateDevicesByIT nodeClaim it ▸ member
  rw [templates] at inSlices
  cases found : (catalog.templates nodeClaim.id).lookup it with
  | none => simp [found] at inSlices
  | some slices =>
    rw [found] at inSlices
    exact ⟨slices, found, inSlices⟩

theorem CapacityInput.safeRequests (input : catalog.CapacityInput tracker nodeClaim claims)
    (it : InstanceTypeID) :
    SafeRequests (searchContext env tracker nodeClaim it) (RequestData.Asked claims) := by
  rintro rd ⟨claim, inClaims, request, inRequests, exactly, isExactly, amounts⟩ dw candidate multi
    name capacity found
  rw [amounts]
  refine input.safe claim inClaims request inRequests exactly isExactly it dw ?_ multi name capacity
    found
  rcases candidate with published | template
  · exact .inl published
  · exact .inr (isTemplate_of_mem input.templates template)

theorem published_same (catalog : DeviceCatalog env) (published : Published env.inClusterSlices dw)
    {other : DeviceWithID}
    (candidate : (searchContext env tracker nodeClaim it).Candidate other) (sameID : other.id = dw.id) :
    other.device = dw.device := by
  rcases candidate with otherPublished | otherTemplate
  · exact catalog.published_unique other dw otherPublished published sameID
  · have template := template_of_mem_templateDevices otherTemplate
    obtain ⟨slice, -, -, isID⟩ := published
    rw [sameID, isID] at template
    cases template

theorem IsTemplate.same (templates : nodeClaim.resourceSlices = catalog.templates nodeClaim.id)
    (isTemplate : catalog.IsTemplate nodeClaim.id it dw) {other : DeviceWithID}
    (candidate : (searchContext env tracker nodeClaim it).Candidate other) (sameID : other.id = dw.id) :
    other.device = dw.device := by
  obtain ⟨slices, ofType, member⟩ := isTemplate
  rcases candidate with otherPublished | otherTemplate
  · obtain ⟨slice, -, -, isID⟩ := otherPublished
    have template := template_of_mem_templateSliceDevices member
    rw [← sameID, isID] at template
    cases template
  · obtain ⟨_, again, otherMember⟩ := isTemplate_of_mem templates otherTemplate
    obtain rfl := some.inj (ofType.symm.trans again)
    exact catalog.template_unique _ _ _ ofType other otherMember dw member sameID

end DeviceCatalog

/-! ### Commits and releases stay within capacity -/

/-- No device is handed out beyond its capacity. -/
structure Budgets.WithinCapacity {env : Environment} (catalog : DeviceCatalog env)
    (budgets : Budgets) : Prop where
  balanced : budgets.CapacityBalanced
  cluster : ∀ dw, Published env.inClusterSlices dw → dw.device.allowMultipleAllocations = true →
    ∀ name capacity, dw.device.capacity.lookup name = some capacity →
      capacityAt budgets.preallocatedConsumedCapacity (dw.id, name) +
        capacityAt budgets.inflightConsumedCapacity (dw.id, name) ≤ capacity.value
  template : ∀ nodeClaim it dw, catalog.IsTemplate nodeClaim it dw →
    ∀ name capacity, dw.device.capacity.lookup name = some capacity →
      charge capacityAt (owned budgets.templateConsumedCapacity nodeClaim) it
        (dw.id, name) ≤ capacity.value

section Budgets

variable {env : Environment} {catalog : DeviceCatalog env} {tracker tracker' : AllocationTracker}

theorem committedCapacity_template {nodeClaim : NodeClaim} {it : InstanceTypeID} {id : DeviceID}
    (template : id.template) (name : QualifiedName) :
    (searchContext env tracker nodeClaim it).committedCapacity id name =
      charge capacityAt (owned tracker.templateConsumedCapacity nodeClaim.id) it (id, name) := by
  unfold SearchContext.committedCapacity templateConsumedCapacityForIT charge owned
  dsimp only [searchContext]
  rw [if_pos template]
  cases tracker.templateConsumedCapacity.lookup nodeClaim.id with
  | none => rfl
  | some consumedByIT =>
    dsimp only [getD_some]
    cases consumedByIT.lookup it <;> rfl

theorem committedCapacity_cluster {nodeClaim : NodeClaim} {it : InstanceTypeID} {id : DeviceID}
    (published : id.template = false) (name : QualifiedName) :
    (searchContext env tracker nodeClaim it).committedCapacity id name =
      capacityAt tracker.preallocatedConsumedCapacity (id, name) +
        capacityAt tracker.inflightConsumedCapacity (id, name) := by
  unfold SearchContext.committedCapacity
  rw [if_neg (by simp [published])]
  rfl

section

variable (tracker) (nodeClaimID other : NodeClaimID)

theorem owned_commitTemplateCapacity (consumption : GoMap InstanceTypeID DeviceCapacities) : owned
        (tracker.commitTemplateCapacity nodeClaimID consumption).templateConsumedCapacity other =
      if other = nodeClaimID then
        mergeCapacity consumption (owned tracker.templateConsumedCapacity nodeClaimID)
      else owned tracker.templateConsumedCapacity other := by
  have stored : (tracker.commitTemplateCapacity nodeClaimID consumption).templateConsumedCapacity =
      if consumption.entries = [] then tracker.templateConsumedCapacity
      else tracker.templateConsumedCapacity.insert nodeClaimID (mergeCapacity consumption
        (owned tracker.templateConsumedCapacity nodeClaimID)) := by
    unfold commitTemplateCapacity
    split_ifs <;> rfl
  rw [stored]
  exact owned_insert_unless _ _ _ GoMap.merge_of_entries_nil _

theorem owned_releaseTemplateCapacity (released : List InstanceTypeID) : owned
        (tracker.releaseTemplateCapacity nodeClaimID released).templateConsumedCapacity other =
      if other = nodeClaimID then
        (owned tracker.templateConsumedCapacity nodeClaimID).eraseAll released
      else owned tracker.templateConsumedCapacity other := by
  have stored : (tracker.releaseTemplateCapacity nodeClaimID released).templateConsumedCapacity =
      forget tracker.templateConsumedCapacity nodeClaimID released := by
    unfold releaseTemplateCapacity forget
    cases tracker.templateConsumedCapacity.lookup nodeClaimID <;> rfl
  rw [stored]
  exact owned_forget _ _ _ _

end

theorem releaseBudgets_within (within : tracker.budgets.WithinCapacity catalog)
    (nodeClaim : NodeClaimID) (instanceTypes : List InstanceTypeID) :
    (tracker.releaseBudgets nodeClaim instanceTypes).budgets.WithinCapacity catalog := by
  refine ⟨releaseBudgets_capacity within.balanced _ _, ?_, ?_⟩
  · intro dw published multi name capacity found
    have before := within.cluster dw published multi name capacity found
    have lowered : capacityAt (tracker.releaseCapacity nodeClaim
        instanceTypes).inflightConsumedCapacity (dw.id, name) ≤
          capacityAt tracker.inflightConsumedCapacity (dw.id, name) := by
      rw [capacityAt_releaseCapacity (within.balanced.nonneg nodeClaim) (dw.id, name)
        (within.balanced.peak_le_inflight nodeClaim (dw.id, name))]
      exact sub_le_self _ (sub_nonneg.mpr (peak_eraseAll_le _ _ _))
    rw [releaseBudgets_eq]
    exact (add_le_add_right lowered _).trans before
  · intro other it dw isTemplate name capacity found
    have before := within.template other it dw isTemplate name capacity found
    rw [releaseBudgets_eq]
    dsimp only [budgets] at before ⊢
    rw [owned_releaseTemplateCapacity]
    split_ifs with same
    · subst same
      rw [charge_eraseAll]
      split_ifs
      · obtain ⟨slices, ofType, member⟩ := isTemplate
        exact catalog.template_nonneg other it slices ofType dw member name capacity found
      · exact before
    · exact before

section Commits

variable {nodeClaim : NodeClaim} {claims : List ResourceClaim} {alloc : TrackedAllocation}

theorem TrackedAllocation.Explained.charges (explained : alloc.Explained env tracker nodeClaim claims)
    (it : InstanceTypeID) : ∃ tentative : Tentative,
    tentative.Sound (searchContext env tracker nodeClaim it) (RequestData.Asked claims) ∧
      (∀ key, charge counterAt alloc.counterConsumptionByIT it key =
        counterAt (tentative.counters false) key) ∧
      ∀ template key, charge capacityAt (if template then
        alloc.templateCapacityConsumptionByIT else alloc.capacityConsumptionByIT) it key =
          capacityAt (tentative.capacities template) key := by
  have counters : alloc.counterConsumptionByIT.lookup it = (alloc.share it).counters := rfl
  have capacity : alloc.capacityConsumptionByIT.lookup it = (alloc.share it).capacity := rfl
  have templates : alloc.templateCapacityConsumptionByIT.lookup it =
    (alloc.share it).templateCapacity := rfl
  unfold charge
  rcases explained.shares it with nothing | ⟨tentative, sound, share⟩
  · rw [nothing] at counters capacity templates
    exact ⟨{}, Tentative.sound_empty _ _, fun key => by rw [counters]; rfl, fun template key => by
      cases template <;> simp [capacity, templates] <;> rfl⟩
  · rw [share] at counters capacity templates
    exact ⟨tentative, sound, fun key => by rw [counters]; rfl, fun template key => by
      cases template <;> simp [capacity, templates] <;> rfl⟩

theorem charge_fits (explained : alloc.Explained env tracker nodeClaim claims) {it : InstanceTypeID}
    {dw : DeviceWithID}
    (unique : ∀ other, (searchContext env tracker nodeClaim it).Candidate other → other.id = dw.id →
      other.device = dw.device) {name : QualifiedName}
    (found : dw.device.capacity.lookup name = some capacity)
    (room : (searchContext env tracker nodeClaim it).committedCapacity dw.id name ≤ capacity.value) :
    (searchContext env tracker nodeClaim it).committedCapacity dw.id name +
      charge capacityAt (if dw.id.template then alloc.templateCapacityConsumptionByIT
        else alloc.capacityConsumptionByIT) it (dw.id, name) ≤ capacity.value := by
  obtain ⟨tentative, sound, -, consumed⟩ := explained.charges it
  rw [consumed, sound.capacities (dw.id, name)]
  rcases sound.takenCapacity_fits (dw.id, name) (prefix_refl _) with
    nothing | ⟨other, otherCapacity, candidate, sameID, otherFound, fits⟩
  · exact (add_le_of_nonpos_right nothing).trans room
  · rw [unique other candidate sameID] at otherFound
    obtain rfl := some.inj (found.symm.trans otherFound)
    exact fits

theorem commitBudgets_within {middle : AllocationTracker} (same : middle.budgets = tracker.budgets)
    (within : tracker.budgets.WithinCapacity catalog)
    (input : catalog.CapacityInput tracker nodeClaim claims)
    (explained : alloc.Explained env tracker nodeClaim claims) :
    (middle.commitBudgets alloc).budgets.WithinCapacity catalog := by
  have nonneg : NonnegCapacityByIT alloc.capacityConsumptionByIT := by
    intro it devices found
    rcases explained.shares it with nothing | ⟨tentative, sound, share⟩
    · exact absurd (found.symm.trans (congrArg Share.capacity nothing)) (by simp)
    · obtain rfl := some.inj (found.symm.trans (congrArg Share.capacity share))
      exact sound.capacities_nonneg (input.safeRequests it) false
  rw [← same] at within
  have preallocated : middle.preallocatedConsumedCapacity = tracker.preallocatedConsumedCapacity :=
    congrArg Budgets.preallocatedConsumedCapacity same
  have inflight : middle.inflightConsumedCapacity = tracker.inflightConsumedCapacity :=
    congrArg Budgets.inflightConsumedCapacity same
  have templates : middle.templateConsumedCapacity = tracker.templateConsumedCapacity :=
    congrArg Budgets.templateConsumedCapacity same
  refine ⟨commitBudgets_capacity within.balanced nonneg, ?_, ?_⟩
  · intro dw published multi name capacity found
    have before := within.cluster dw published multi name capacity found
    dsimp only [budgets] at before
    have inCluster : dw.id.template = false := by
      obtain ⟨slice, -, -, isID⟩ := published
      rw [isID]
    -- every instance type takes at most what is left, so the peak grows by at most that
    have grown : peak capacityAt (mergeCapacity alloc.capacityConsumptionByIT
        (middle.storedCapacity alloc.nodeClaimID)) (dw.id, name) ≤
        peak capacityAt (middle.storedCapacity alloc.nodeClaimID) (dw.id, name) +
          (capacity.value - (capacityAt middle.preallocatedConsumedCapacity (dw.id, name) +
            capacityAt middle.inflightConsumedCapacity (dw.id, name))) := by
      apply peak_merge_le capacityAt_mergeDevices (sub_nonneg.mpr before)
      intro it
      have committed := @committedCapacity_cluster env tracker nodeClaim it dw.id inCluster name
      have room : (searchContext env tracker nodeClaim it).committedCapacity dw.id name ≤
          capacity.value := by
        rw [committed, ← preallocated, ← inflight]
        exact before
      have fits := charge_fits explained (fun other => catalog.published_same published) found room
      rw [committed, ← preallocated, ← inflight, inCluster] at fits
      simp only [Bool.false_eq_true, if_false] at fits
      linarith
    rw [commitBudgets_eq]
    dsimp only [budgets]
    rw [capacityAt_commitCapacity nonneg (within.balanced.nonneg alloc.nodeClaimID)]
    linarith
  · intro other it dw isTemplate name capacity found
    have before := within.template other it dw isTemplate name capacity found
    rw [commitBudgets_eq]
    dsimp only [budgets] at before ⊢
    rw [owned_commitTemplateCapacity]
    split_ifs with own
    · rw [own, explained.nodeClaimID] at isTemplate before
      have template : dw.id.template := by
        obtain ⟨slices, -, member⟩ := isTemplate
        exact template_of_mem_templateSliceDevices member
      have committed := @committedCapacity_template env tracker nodeClaim it dw.id template name
      have room : (searchContext env tracker nodeClaim it).committedCapacity dw.id name ≤
          capacity.value := by
        rw [committed, ← templates]
        exact before
      have fits := charge_fits explained (fun other => isTemplate.same input.templates) found room
      rw [committed, ← templates, template] at fits
      rw [mergeCapacity, charge_merge _ _ _ _ capacityAt_mergeDevices, explained.nodeClaimID]
      exact fits
    · exact before

end Commits

end Budgets

/-! ### Loops -/

theorem start_within {env : Environment} {catalog : DeviceCatalog env}
    {allocatedState : AllocatedDeviceState}
    (initially : ∀ dw, Published env.inClusterSlices dw →
      dw.device.allowMultipleAllocations → ∀ name capacity,
        dw.device.capacity.lookup name = some capacity →
          capacityAt (newAllocationTracker allocatedState).preallocatedConsumedCapacity
            (dw.id, name) ≤ capacity.value) :
    (Loop.start env allocatedState).tracker.budgets.WithinCapacity catalog := by
  have unchanged := initPools_eq (newAllocationTracker allocatedState)
    (gatherPools env.tables env.inClusterSlices ∅ "")
  refine ⟨(initPools_balanced allocatedState _).capacity, ?_, ?_⟩
  · intro dw published multi name capacity found
    have fits := initially dw published multi name capacity found
    dsimp only [Loop.start, newAllocator, budgets]
    rw [unchanged]
    exact (add_zero _).trans_le fits
  · rintro nodeClaim it dw ⟨slices, ofType, member⟩ name capacity found
    dsimp only [Loop.start, newAllocator, budgets]
    rw [unchanged]
    exact catalog.template_nonneg nodeClaim it slices ofType dw member name capacity found

/-- In every run whose allocations meet `CapacityInput`, no multi-allocatable
device is handed out beyond its capacity. -/
theorem run_keeps_devices_within_capacity (env : Environment) (catalog : DeviceCatalog env)
    (allocatedState : AllocatedDeviceState) (loop : Loop)
    (initially : ∀ dw, Published env.inClusterSlices dw →
      dw.device.allowMultipleAllocations = true → ∀ name capacity,
        dw.device.capacity.lookup name = some capacity →
          capacityAt (newAllocationTracker allocatedState).preallocatedConsumedCapacity
            (dw.id, name) ≤ capacity.value)
    (reached : Reaches (Loop.apply env) (Loop.Enabled catalog.CapacityInput)
      (Loop.start env allocatedState) loop) :
    (∀ dw, Published env.inClusterSlices dw → dw.device.allowMultipleAllocations = true →
      ∀ name capacity, dw.device.capacity.lookup name = some capacity →
        capacityAt loop.tracker.preallocatedConsumedCapacity (dw.id, name) +
          capacityAt loop.tracker.inflightConsumedCapacity (dw.id, name) ≤ capacity.value) ∧
      ∀ nodeClaim it slices, (catalog.templates nodeClaim).lookup it = some slices →
        ∀ dw ∈ templateSliceDevices slices, ∀ name capacity,
          dw.device.capacity.lookup name = some capacity →
            ∀ devices, loop.tracker.templateConsumedCapacityForIT nodeClaim it = some devices →
              capacityAt devices (dw.id, name) ≤ capacity.value := by
  have start : (Loop.start env allocatedState).tracker.budgets.WithinCapacity catalog :=
    start_within initially
  have within := Loop.reaches_budgets (Budgets.WithinCapacity catalog) start
    (fun _ _ _ _ _ within same input explained => commitBudgets_within same within input explained)
    (fun _ _ _ within => releaseBudgets_within within _ _) reached
  refine ⟨within.cluster, ?_⟩
  intro nodeClaim it slices ofType dw member name capacity found devices consumed
  have fits := within.template nodeClaim it dw ⟨slices, ofType, member⟩ name capacity found
  unfold templateConsumedCapacityForIT at consumed
  unfold charge owned at fits
  dsimp only [budgets] at fits
  split at consumed
  · cases consumed
  · next consumedByIT ofNodeClaim =>
      rw [ofNodeClaim, getD_some, consumed] at fits
      exact fits

/-! ### A device with rounded memory -/

/-- Twelve units of memory, of which one, five or nine are handed out. -/
def steppedMemory : DeviceCapacity where
  value := 12
  requestPolicy := some {
    default := some 1
    validRange := some { min := 1, step := some ⟨4, by norm_num⟩ } }

def sharedDevice : Device where
  name := "gpu-0"
  capacity := GoMap.ofList [("memory", steppedMemory)]
  allowMultipleAllocations := true

def sharedSlice : ResourceSlice where
  driver := "gpu.example.com"
  pool := "rack"
  allNodes := true
  devices := [sharedDevice]

def sharedEnvironment : Environment :=
  { gpuEnvironment with inClusterSlices := [sharedSlice] }

theorem lookup_sharedDevice {name : QualifiedName}
    (found : sharedDevice.capacity.lookup name = some capacity) :
    name = "memory" ∧ capacity = steppedMemory := by
  have entry := GoMap.mem_entries_iff.mpr found
  have only : (⟨name, capacity⟩ : Sigma fun _ : QualifiedName => DeviceCapacity) =
      ⟨"memory", steppedMemory⟩ := mem_singleton.mp entry
  exact ⟨congrArg Sigma.fst only, congrArg Sigma.snd only⟩

theorem device_of_published {dw : DeviceWithID}
    (published : Published sharedEnvironment.inClusterSlices dw) : dw.device = sharedDevice := by
  obtain ⟨slice, current, inSlice, -⟩ := published
  have isSlice : slice = sharedSlice := mem_singleton.mp (mem_of_mem_filter current)
  rw [isSlice] at inSlice
  exact mem_singleton.mp inSlice

def memoryClaim (name : String) (amount : Quantity) : ResourceClaim where
  id := { nameSpace := "default", name := name }
  requests := [{ name := "gpu", exactly := some {
    deviceClassName := "gpu"
    capacity := some (GoMap.ofList [("memory", amount)]) } }]

def memoryNodeClaim (it : InstanceTypeID) : NodeClaim where
  id := "default-1"
  instanceTypes := [it]

/-- A claim for the largest quantity on one instance type, then one for one unit on another. -/
def overflowRun : Except Panic Loop := do
  let loop ← (Loop.start sharedEnvironment {}).schedule sharedEnvironment patientOracle
    (memoryNodeClaim "small") [memoryClaim "huge" (2 ^ 63 - 1)]
  loop.schedule sharedEnvironment patientOracle (memoryNodeClaim "large") [memoryClaim "modest" 1]

/-- Rounding the largest quantity up overflows to the negative amount 1 - 2^63, and
the next commit takes its distance of 2^63 from it for consumption. -/
theorem overflowRun_exceeds_capacity : ∃ loop, overflowRun = .ok loop ∧
    Reaches (Loop.apply sharedEnvironment) (Loop.Enabled Loop.AnyInput)
      (Loop.start sharedEnvironment {}) loop ∧
    Published sharedEnvironment.inClusterSlices ⟨sharedDevice, gpuDevice, none⟩ ∧
    sharedDevice.allowMultipleAllocations = true ∧
    sharedDevice.capacity.lookup "memory" = some steppedMemory ∧
    capacityAt (newAllocationTracker {}).preallocatedConsumedCapacity (gpuDevice, "memory") ≤
      steppedMemory.value ∧
    steppedMemory.value <
      capacityAt loop.tracker.preallocatedConsumedCapacity (gpuDevice, "memory") +
        capacityAt loop.tracker.inflightConsumedCapacity (gpuDevice, "memory") := by
  obtain ⟨loop, finished, consumed⟩ : ∃ loop, overflowRun = .ok loop ∧
      capacityAt loop.tracker.preallocatedConsumedCapacity (gpuDevice, "memory") +
        capacityAt loop.tracker.inflightConsumedCapacity (gpuDevice, "memory") = 2 ^ 63 :=
    FallibleLoop.exists_ok (by decide +kernel)
  obtain ⟨middle, first, second⟩ := FallibleLoop.bind_eq_ok.mp finished
  refine ⟨loop, finished, Loop.reaches_schedule trivial (Loop.reaches_schedule trivial .start first)
    second, ?_, rfl, rfl, by decide, ?_⟩
  · exact ⟨sharedSlice, mem_filter.mpr ⟨mem_singleton.mpr rfl, by decide⟩,
      mem_singleton.mpr rfl, rfl⟩
  · rw [consumed]
    norm_num [steppedMemory]

def sharedCatalog : DeviceCatalog sharedEnvironment where
  templates _ := ∅
  published_unique first second isFirst isSecond _ :=
    (device_of_published isFirst).trans (device_of_published isSecond).symm
  template_unique nodeClaim it slices found := by simp at found
  template_nonneg nodeClaim it slices found := by simp at found

theorem safe_four : SafeRequest (some 4) steppedMemory where
  value_nonneg := by norm_num [steppedMemory]
  default_nonneg := by simp [steppedMemory]
  requested_nonneg := by simp
  range_nonneg := by simp [steppedMemory]
  rounds := by
    decide

theorem modest_input (tracker : AllocationTracker) :
    sharedCatalog.CapacityInput tracker (memoryNodeClaim "small") [memoryClaim "modest" 4] where
  templates := rfl
  safe := by
    intro claim isClaim request isRequest exactly isExactly it dw offered _ name capacity found
    obtain rfl := mem_singleton.mp isClaim
    obtain rfl := mem_singleton.mp isRequest
    cases isExactly
    rcases offered with published | ⟨slices, ofType, -⟩
    · rw [device_of_published published] at found
      obtain ⟨rfl, rfl⟩ := lookup_sharedDevice found
      exact safe_four
    · simp [sharedCatalog] at ofType

/-- A claim for four units takes five of the device. -/
def modestRun : Except Panic Loop :=
  (Loop.start sharedEnvironment {}).schedule sharedEnvironment patientOracle
    (memoryNodeClaim "small") [memoryClaim "modest" 4]

theorem modestRun_keeps_device_within_capacity : ∃ loop, modestRun = .ok loop ∧
    capacityAt loop.tracker.inflightConsumedCapacity (gpuDevice, "memory") = 5 ∧
    (∀ dw, Published sharedEnvironment.inClusterSlices dw →
      dw.device.allowMultipleAllocations = true →
        ∀ name capacity, dw.device.capacity.lookup name = some capacity →
          capacityAt loop.tracker.preallocatedConsumedCapacity (dw.id, name) +
            capacityAt loop.tracker.inflightConsumedCapacity (dw.id, name) ≤ capacity.value) := by
  obtain ⟨loop, finished, consumed⟩ : ∃ loop, modestRun = .ok loop ∧
      capacityAt loop.tracker.inflightConsumedCapacity (gpuDevice, "memory") = 5 :=
    FallibleLoop.exists_ok (by decide +kernel)
  refine ⟨loop, finished, consumed, ?_⟩
  refine (run_keeps_devices_within_capacity sharedEnvironment sharedCatalog {} loop ?_
    (Loop.reaches_schedule (modest_input _) .start finished)).1
  intro dw published _ name capacity found
  rw [device_of_published published] at found
  rw [(lookup_sharedDevice found).2]
  exact (by norm_num [steppedMemory] : (0 : ℚ) ≤ steppedMemory.value)

end Kraftsman.DynamicResources
