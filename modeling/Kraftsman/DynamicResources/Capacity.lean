import Kraftsman.DynamicResources.Counters

/-!
Contract: the consumable capacity of multi-allocatable devices.

Owns: how much a request consumes of a device, and the tracker's committed
capacity.
Does not own: the capacity a search tentatively takes.
-/

namespace Kraftsman.DynamicResources

open Apis Data Data.Strconv PeakLedger GoMap Option

def fillEmptyRequest (capacity : DeviceCapacity) : Quantity :=
  (capacity.requestPolicy.bind fun policy => policy.default).getD capacity.value

def roundUpRange (requestedVal : Quantity) (validRange : CapacityRequestPolicyRange) : Quantity :=
  if requestedVal < validRange.min then validRange.min
  else
    match validRange.step with
    | none => requestedVal
    | some step =>
      let added := wrapInt64 (requestedVal.value - validRange.min.value)
      let quotient := added.tdiv (Quantity.value step)
      let count := if added.tmod (Quantity.value step) ≠ 0 then wrapInt64 (quotient + 1) else quotient
      ((wrapInt64 (validRange.min.value + wrapInt64 (Quantity.value step * count)) : Int) : ℚ)

def roundUpValidValues (requestedVal : Quantity) (validValues : List Quantity) : Quantity :=
  (validValues.find? fun validValue => requestedVal ≤ validValue).getD requestedVal

def calculateConsumedCapacity (requestedVal : Option Quantity) (capacity : DeviceCapacity) :
    Quantity :=
  match requestedVal with
  | none => fillEmptyRequest capacity
  | some requestedVal =>
    match capacity.requestPolicy with
    | none => requestedVal
    | some policy =>
      match policy.validRange with
      | some validRange => roundUpRange requestedVal validRange
      | none => roundUpValidValues requestedVal policy.validValues

/-- Whether a value is above the maximum or off the steps of the range. -/
def violateValidRange (val : Quantity) (validRange : CapacityRequestPolicyRange) : Bool :=
  (validRange.max.any fun max => val > max) ||
    (validRange.step.any fun step =>
      (wrapInt64 (val.value - validRange.min.value)).tmod (Quantity.value step) ≠ 0)

def violatesPolicy (consumedVal : Quantity) (policy : Option CapacityRequestPolicy) : Bool :=
  match policy with
  | none => false
  | some policy =>
    if policy.default = some consumedVal then false
    else
      match policy.validRange with
      | some validRange => violateValidRange consumedVal validRange
      | none => !policy.validValues.isEmpty && !policy.validValues.contains consumedVal

def requestsContainNonExistCapacity (capacityRequests : Capacities)
    (deviceCapacity : GoMap QualifiedName DeviceCapacity) : Bool :=
  capacityRequests.keys.any fun name => name ∉ deviceCapacity

/-- What a request consumes in every dimension: `none` if a policy is violated,
and no map without dimensions. -/
def computeConsumedCapacity (capacityRequests : Capacities)
    (deviceCapacity : GoMap QualifiedName DeviceCapacity) : Option (Option Capacities) :=
  if deviceCapacity.entries = [] then some none
  else if deviceCapacity.entries.any fun entry =>
      violatesPolicy (calculateConsumedCapacity (capacityRequests.lookup entry.1) entry.2)
        entry.2.requestPolicy then none
  else
    some (some (rangeAlter (fun name capacity _ =>
      some (calculateConsumedCapacity (capacityRequests.lookup name) capacity)) deviceCapacity ∅))

variable (capacities : DeviceCapacities)

def getCapacity (device : DeviceID) (name : QualifiedName) : Option Quantity :=
  match capacities.lookup device with
  | none => none
  | some consumed => consumed.lookup name

def mergeCapacity (newByIT storedByIT : GoMap InstanceTypeID DeviceCapacities) :
    GoMap InstanceTypeID DeviceCapacities :=
  merge (fun storedDevices devices => merge addCounters devices storedDevices)
    newByIT storedByIT

def pessimisticCapacityMax (byIT : GoMap InstanceTypeID DeviceCapacities) : DeviceCapacities :=
  byIT.values.foldl (fun maxByDevice devices =>
    rangeAlter (fun _ consumed maxConsumed => some
      (raiseCounters (maxConsumed.getD ∅) consumed)) devices maxByDevice) ∅

def addDeltaToInflight (inflight oldMax newMax : DeviceCapacities) : DeviceCapacities :=
  rangeAlter (fun device newConsumed inflight =>
    let updated := rangeAlter (fun name newQty existing =>
      let delta := newQty - (getCapacity oldMax device name).getD 0
      if delta > 0 then some (existing.getD 0 + delta) else existing)
      newConsumed (inflight.getD ∅)
    -- a device gets its map with its first positive amount
    if inflight.isNone && updated.entries.isEmpty then none else some updated) newMax inflight

/-- Subtract what the maximum shrank by, dropping what is used up. -/
def subtractDeltaFromInflight (inflight oldMax newMax : DeviceCapacities) : DeviceCapacities :=
  rangeAlter (fun device oldConsumed inflight => inflight.bind fun inflight =>
    let delta := fun name oldQty => oldQty - (getCapacity newMax device name).getD 0
    let updated := rangeAlter (fun name oldQty existing =>
      if delta name oldQty > 0 then
        if existing.getD 0 - delta name oldQty ≤ 0 then none
        else some (existing.getD 0 - delta name oldQty)
      else existing) oldConsumed inflight
    if updated.entries.isEmpty && (oldConsumed.entries.any fun entry => delta entry.1 entry.2 > 0)
    then none else some updated) oldMax inflight

namespace AllocationTracker

variable (tracker : AllocationTracker) (nodeClaimID : NodeClaimID)

/-- Store the consumption by instance type and add the growth of the maximum. -/
def commitCapacity (newByIT : GoMap InstanceTypeID DeviceCapacities) : AllocationTracker :=
  if newByIT.entries = [] then tracker
  else
    let storedByIT := (tracker.consumedCapacityByNodeClaimIT.lookup nodeClaimID).getD ∅
    let mergedByIT := mergeCapacity newByIT storedByIT
    { tracker with
      consumedCapacityByNodeClaimIT :=
        tracker.consumedCapacityByNodeClaimIT.insert nodeClaimID mergedByIT
      inflightConsumedCapacity := addDeltaToInflight tracker.inflightConsumedCapacity
        (pessimisticCapacityMax storedByIT) (pessimisticCapacityMax mergedByIT) }

/-- Forget instance types and take the shrinkage of the maximum back. -/
def releaseCapacity (releasedITs : List InstanceTypeID) : AllocationTracker :=
  match tracker.consumedCapacityByNodeClaimIT.lookup nodeClaimID with
  | none => tracker
  | some storedByIT =>
    let keptByIT := storedByIT.eraseAll releasedITs
    { tracker with
      consumedCapacityByNodeClaimIT :=
        if keptByIT.entries = [] then tracker.consumedCapacityByNodeClaimIT.erase nodeClaimID
        else tracker.consumedCapacityByNodeClaimIT.insert nodeClaimID keptByIT
      inflightConsumedCapacity := subtractDeltaFromInflight tracker.inflightConsumedCapacity
        (pessimisticCapacityMax storedByIT) (pessimisticCapacityMax keptByIT) }

def commitTemplateCapacity (consumptionByIT : GoMap InstanceTypeID DeviceCapacities) :
    AllocationTracker :=
  if consumptionByIT.entries = [] then tracker
  else
    let consumedByIT := (tracker.templateConsumedCapacity.lookup nodeClaimID).getD ∅
    let mergedByIT := mergeCapacity consumptionByIT consumedByIT
    { tracker with
      templateConsumedCapacity := tracker.templateConsumedCapacity.insert nodeClaimID mergedByIT }

def releaseTemplateCapacity (releasedITs : List InstanceTypeID) : AllocationTracker :=
  match tracker.templateConsumedCapacity.lookup nodeClaimID with
  | none => tracker
  | some consumedByIT =>
    let keptByIT := consumedByIT.eraseAll releasedITs
    { tracker with
      templateConsumedCapacity :=
        if keptByIT.entries = [] then tracker.templateConsumedCapacity.erase nodeClaimID
        else tracker.templateConsumedCapacity.insert nodeClaimID keptByIT }

def templateConsumedCapacityForIT (itID : InstanceTypeID) : Option DeviceCapacities :=
  match tracker.templateConsumedCapacity.lookup nodeClaimID with
  | none => none
  | some consumedByIT => consumedByIT.lookup itID

end AllocationTracker

abbrev CapacityKey := DeviceID × QualifiedName

def capacityAt (key : CapacityKey) : Quantity :=
  (getCapacity capacities key.1 key.2).getD 0

def NonnegCapacities : Prop :=
  ∀ device name quantity, getCapacity capacities device name = some quantity → 0 ≤ quantity

theorem NonnegCapacities.capacityAt_nonneg {capacities : DeviceCapacities}
    (nonneg : NonnegCapacities capacities) (key : CapacityKey) : 0 ≤ capacityAt capacities key := by
  unfold capacityAt
  cases found : getCapacity capacities key.1 key.2 with
  | none => exact le_refl 0
  | some quantity => exact nonneg _ _ _ found

def amountIn (consumed : Option Capacities) (name : QualifiedName) : Quantity :=
  (consumed.bind (·.lookup name)).getD 0

theorem capacityAt_eq (key : CapacityKey) :
    capacityAt capacities key = amountIn (capacities.lookup key.1) key.2 := by
  unfold capacityAt getCapacity
  cases capacities.lookup key.1 <;> rfl

theorem amountIn_unless_empty {consumed : Capacities} {drop : Bool}
    (empty : drop → consumed.entries.isEmpty) (name : QualifiedName) :
    amountIn (if drop then none else some consumed) name = (consumed.lookup name).getD 0 := by
  split_ifs with dropped
  · rw [lookup_eq_none_of_entries_nil (List.isEmpty_iff.mp (empty dropped))]
    rfl
  · rfl

section Delta

variable {inflight lower upper : DeviceCapacities} {key : CapacityKey}
variable (nonneg : 0 ≤ capacityAt lower key) (atMost : capacityAt lower key ≤ capacityAt upper key)
include nonneg atMost

theorem capacityAt_rangeDelta
    {alter : DeviceID → Capacities → Option Capacities → Option Capacities}
    (change : Quantity → Quantity) (unchanged : change 0 = capacityAt inflight key)
    (altered : ∀ consumed, amountIn (alter key.1 consumed (inflight.lookup key.1)) key.2 =
      (consumed.lookup key.2).elim (capacityAt inflight key) fun quantity =>
        if quantity - capacityAt lower key > 0 then change (quantity - capacityAt lower key)
        else capacityAt inflight key) :
    capacityAt (rangeAlter alter upper inflight) key =
      change (capacityAt upper key - capacityAt lower key) := by
  have kept : capacityAt upper key ≤ capacityAt lower key →
      capacityAt inflight key = change (capacityAt upper key - capacityAt lower key) := by
    intro least
    rw [le_antisymm least atMost, sub_self, unchanged]
  rw [capacityAt_eq, lookup_rangeAlter]
  cases inUpper : upper.lookup key.1 with
  | none =>
    rw [← capacityAt_eq]
    exact kept (by simpa [capacityAt_eq upper, inUpper, amountIn] using nonneg)
  | some consumed =>
    have isUpper : capacityAt upper key = (consumed.lookup key.2).getD 0 := by
      rw [capacityAt_eq, inUpper]
      rfl
    refine (altered consumed).trans ?_
    cases found : consumed.lookup key.2 with
    | none => exact kept (by simpa [isUpper, found] using nonneg)
    | some quantity =>
      rw [found, getD_some] at isUpper
      rw [isUpper] at kept ⊢
      dsimp only [elim_some]
      split_ifs with positive
      · rfl
      · exact kept (sub_nonpos.mp (not_lt.mp positive))

theorem capacityAt_addDeltaToInflight : capacityAt (addDeltaToInflight inflight lower upper) key =
      capacityAt inflight key + (capacityAt upper key - capacityAt lower key) := by
  refine capacityAt_rangeDelta nonneg atMost (capacityAt inflight key + ·) (add_zero _)
    fun consumed => ?_
  have stored : (((inflight.lookup key.1).getD ∅).lookup key.2).getD 0 =
      capacityAt inflight key := by
    rw [capacityAt_eq]
    cases inflight.lookup key.1 <;> rfl
  rw [amountIn_unless_empty fun dropped => (Bool.and_eq_true_iff.mp dropped).2, lookup_rangeAlter]
  cases consumed.lookup key.2 with
  | none => exact stored
  | some quantity =>
    rw [← stored]
    exact apply_ite (getD · 0) _ _ _

theorem capacityAt_subtractDeltaFromInflight
    (accounted : capacityAt upper key ≤ capacityAt inflight key) :
    capacityAt (subtractDeltaFromInflight inflight upper lower) key =
      capacityAt inflight key - (capacityAt upper key - capacityAt lower key) := by
  have inflightNonneg : 0 ≤ capacityAt inflight key := nonneg.trans (atMost.trans accounted)
  refine (capacityAt_rangeDelta nonneg atMost (fun delta => max 0 (capacityAt inflight key - delta))
    (by rw [sub_zero, max_eq_right inflightNonneg]) fun consumed => ?_).trans
      (max_eq_right (by linarith))
  rw [capacityAt_eq inflight]
  cases inflight.lookup key.1 with
  | none => cases consumed.lookup key.2 <;> simp +contextual [amountIn, le_of_lt]
  | some stored =>
    dsimp only [bind_some]
    rw [amountIn_unless_empty fun dropped => (Bool.and_eq_true_iff.mp dropped).1, lookup_rangeAlter]
    cases consumed.lookup key.2 with
    | none => rfl
    | some quantity =>
      dsimp only [elim_some, capacityAt]
      split_ifs with positive gone
      · exact (max_eq_left gone).symm.trans (if_pos positive).symm
      · exact (max_eq_right (le_of_not_ge gone)).symm.trans (if_pos positive).symm
      · exact (if_neg positive).symm

end Delta

variable {byIT newByIT storedByIT : GoMap InstanceTypeID DeviceCapacities}

theorem capacityAt_pessimisticCapacityMax
    (nonneg : ∀ it devices, byIT.lookup it = some devices → NonnegCapacities devices)
    (key : CapacityKey) :
    capacityAt (pessimisticCapacityMax byIT) key = peak capacityAt byIT key := by
  have peakNonneg : 0 ≤ peak capacityAt byIT key := peak_nonneg byIT key
  refine (getD_foldl_raise (fun devices => getCapacity devices key.1 key.2)
    (fun maxima devices => amountUnder_raise maxima devices key.1 key.2) ?_ (le_refl 0)).trans
      (max_eq_right peakNonneg)
  intro devices inValues
  obtain ⟨it, found⟩ := mem_values_iff.mp inValues
  exact (nonneg it devices found).capacityAt_nonneg key

theorem capacityAt_mergeDevices (stored devices : DeviceCapacities) (key : CapacityKey) :
    capacityAt (merge addCounters devices stored) key =
      capacityAt stored key + capacityAt devices key :=
  (congrArg (fun amount => amount.getD 0) (amountUnder_merge stored devices key.1 key.2)).trans
    (getD_combineCounter_add _ _)

theorem NonnegCapacities.mergeDevices (stored devices : DeviceCapacities)
    (left : NonnegCapacities stored) (right : NonnegCapacities devices) :
    NonnegCapacities (merge addCounters devices stored) :=
  fun device name _ found => combineCounter_nonneg (left device name) (right device name)
    ((amountUnder_merge stored devices device name).symm.trans found)

def NonnegCapacityByIT (byIT : GoMap InstanceTypeID DeviceCapacities) : Prop :=
  ∀ it devices, byIT.lookup it = some devices → NonnegCapacities devices

theorem NonnegCapacityByIT.mergeCapacity (new : NonnegCapacityByIT newByIT)
    (stored : NonnegCapacityByIT storedByIT) :
    NonnegCapacityByIT (mergeCapacity newByIT storedByIT) :=
  forall_lookup_merge NonnegCapacities.mergeDevices new stored

theorem NonnegCapacityByIT.eraseAll (nonneg : NonnegCapacityByIT byIT)
    (released : List InstanceTypeID) : NonnegCapacityByIT (byIT.eraseAll released) :=
  fun it devices found => nonneg it devices (lookup_of_eraseAll found)

namespace AllocationTracker

variable {tracker : AllocationTracker} {nodeClaimID : NodeClaimID}
variable {newByIT : GoMap InstanceTypeID DeviceCapacities} {released : List InstanceTypeID}

def storedCapacity (tracker : AllocationTracker) (nodeClaimID : NodeClaimID) :
    GoMap InstanceTypeID DeviceCapacities :=
  owned tracker.consumedCapacityByNodeClaimIT nodeClaimID

theorem commitCapacity_stored :
    (tracker.commitCapacity nodeClaimID newByIT).consumedCapacityByNodeClaimIT =
      if newByIT.entries = [] then tracker.consumedCapacityByNodeClaimIT
      else tracker.consumedCapacityByNodeClaimIT.insert nodeClaimID
        (mergeCapacity newByIT (tracker.storedCapacity nodeClaimID)) := by
  unfold commitCapacity
  split_ifs <;> rfl

theorem releaseCapacity_stored :
    (tracker.releaseCapacity nodeClaimID released).consumedCapacityByNodeClaimIT =
      forget tracker.consumedCapacityByNodeClaimIT nodeClaimID released := by
  unfold releaseCapacity forget
  cases tracker.consumedCapacityByNodeClaimIT.lookup nodeClaimID <;> rfl

theorem storedCapacity_commitCapacity (nodeClaim : NodeClaimID) :
    (tracker.commitCapacity nodeClaimID newByIT).storedCapacity nodeClaim =
      if nodeClaim = nodeClaimID then mergeCapacity newByIT (tracker.storedCapacity nodeClaimID)
      else tracker.storedCapacity nodeClaim := by
  unfold storedCapacity
  rw [commitCapacity_stored]
  exact owned_insert_unless _ _ _ merge_of_entries_nil _

theorem storedCapacity_releaseCapacity (nodeClaim : NodeClaimID) :
    (tracker.releaseCapacity nodeClaimID released).storedCapacity nodeClaim =
      if nodeClaim = nodeClaimID then (tracker.storedCapacity nodeClaimID).eraseAll released
      else tracker.storedCapacity nodeClaim := by
  unfold storedCapacity
  rw [releaseCapacity_stored]
  exact owned_forget _ _ _ _

theorem capacityAt_commitCapacity (new : NonnegCapacityByIT newByIT)
    (stored : NonnegCapacityByIT (tracker.storedCapacity nodeClaimID)) (key : CapacityKey) :
    capacityAt (tracker.commitCapacity nodeClaimID newByIT).inflightConsumedCapacity key =
      capacityAt tracker.inflightConsumedCapacity key +
        (peak capacityAt (mergeCapacity newByIT (tracker.storedCapacity nodeClaimID)) key -
          peak capacityAt (tracker.storedCapacity nodeClaimID) key) := by
  have grown : peak capacityAt (tracker.storedCapacity nodeClaimID) key ≤
      peak capacityAt (mergeCapacity newByIT (tracker.storedCapacity nodeClaimID)) key :=
    peak_le_peak_merge capacityAt_mergeDevices fun it devices found =>
      (new it devices found).capacityAt_nonneg key
  unfold commitCapacity
  split_ifs with empty
  · rw [mergeCapacity, merge_of_entries_nil empty, sub_self, add_zero]
  · have oldPeak := capacityAt_pessimisticCapacityMax stored key
    rw [← oldPeak, ← capacityAt_pessimisticCapacityMax (new.mergeCapacity stored)] at grown ⊢
    exact capacityAt_addDeltaToInflight (oldPeak ▸ peak_nonneg _ _) grown

theorem capacityAt_releaseCapacity
    (stored : NonnegCapacityByIT (tracker.storedCapacity nodeClaimID)) (key : CapacityKey)
    (accounted : peak capacityAt (tracker.storedCapacity nodeClaimID) key ≤
      capacityAt tracker.inflightConsumedCapacity key) :
    capacityAt (tracker.releaseCapacity nodeClaimID released).inflightConsumedCapacity key =
      capacityAt tracker.inflightConsumedCapacity key -
        (peak capacityAt (tracker.storedCapacity nodeClaimID) key -
          peak capacityAt ((tracker.storedCapacity nodeClaimID).eraseAll released) key) := by
  unfold releaseCapacity storedCapacity at *
  cases known : tracker.consumedCapacityByNodeClaimIT.lookup nodeClaimID with
  | none =>
    rw [owned_of_lookup_none known, eraseAll_empty, sub_self, sub_zero]
  | some storedByIT =>
    rw [owned_of_lookup known] at stored accounted ⊢
    have newPeak := capacityAt_pessimisticCapacityMax (stored.eraseAll released) key
    have shrunk := @peak_eraseAll_le _ _ _ _ _ _ capacityAt storedByIT key _ released
    rw [← capacityAt_pessimisticCapacityMax stored] at accounted shrunk ⊢
    rw [← newPeak] at shrunk ⊢
    exact capacityAt_subtractDeltaFromInflight (newPeak ▸ peak_nonneg _ _) shrunk accounted

end AllocationTracker

end Kraftsman.DynamicResources
