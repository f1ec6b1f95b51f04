import Kraftsman.DynamicResources.Tracker
import Kraftsman.Data.PeakLedger

/-!
Contract: the counter budgets of partitionable devices in the tracker.

Owns: initialising, committing and releasing counters, and the value each leaves
at every counter.
Does not own: the counters a search tentatively takes.
-/

namespace Kraftsman.DynamicResources

open Apis Data PeakLedger GoMap AllocationTracker AList Option List

def getCounter (counters : PoolCounters) (pool : PoolKey) (set name : String) : Option Quantity :=
  match counters.lookup pool with
  | none => none
  | some sets =>
    match sets.lookup set with
    | none => none
    | some counters => counters.lookup name

def addCounters (stored counters : GoMap String Quantity) : GoMap String Quantity :=
  rangeAlter (fun _ counter stored => some (stored.getD 0 + counter)) counters stored

def mergeCounters (newByIT storedByIT : GoMap InstanceTypeID PoolCounters) :
    GoMap InstanceTypeID PoolCounters :=
  merge (fun storedPools pools =>
    merge (fun storedSets sets =>
      merge addCounters sets storedSets) pools storedPools) newByIT storedByIT

def raiseCounters (maxCounters counters : GoMap String Quantity) : GoMap String Quantity :=
  rangeAlter (fun _ counter maxCounter => some (match maxCounter with
    | none => counter
    | some maxCounter => if counter > maxCounter then counter else maxCounter)) counters maxCounters

def raisePools (maxPools pools : PoolCounters) : PoolCounters :=
  rangeAlter (fun _ sets maxSets => some
    (rangeAlter (fun _ counters maxCounters => some
      (raiseCounters (maxCounters.getD ∅) counters)) sets (maxSets.getD ∅))) pools maxPools

def pessimisticCounterMax (byIT : GoMap InstanceTypeID PoolCounters) : PoolCounters :=
  byIT.values.foldl raisePools ∅

/-- A nested range loop over counters that updates those of existing sets. -/
def rangeCounters
    (update : PoolKey → String → String → Quantity → Option Quantity → Option Quantity)
    (source target : PoolCounters) : PoolCounters :=
  rangeAlter (fun pool sets targetSets => targetSets.map fun targetSets =>
    rangeAlter (fun set counters targetCounters => targetCounters.map fun targetCounters =>
      rangeAlter (fun name counter targetCounter =>
        update pool set name counter targetCounter) counters targetCounters) sets targetSets)
    source target

def subtractDeltaFromRemaining (remaining oldCounterMax newCounterMax : PoolCounters) :
    PoolCounters :=
  rangeCounters (fun pool set name newCounter remainingCounter =>
    let delta := newCounter - (getCounter oldCounterMax pool set name).getD 0
    if delta > 0 then remainingCounter.map fun counter => counter - delta
    else remainingCounter) newCounterMax remaining

def addDeltaToRemaining (remaining oldCounterMax newCounterMax : PoolCounters) : PoolCounters :=
  rangeCounters (fun pool set name oldCounter remainingCounter =>
    let delta := oldCounter - (getCounter newCounterMax pool set name).getD 0
    -- unlike the subtraction, a counter without a budget gets an entry here
    if delta > 0 then some (remainingCounter.getD 0 + delta)
    else remainingCounter) oldCounterMax remaining

def deductFromCounters (remaining : CounterSets) (device : Device) : CounterSets :=
  device.consumesCounters.foldl (fun remaining consumption =>
    match remaining.lookup consumption.counterSet with
    | none => remaining
    | some setRemaining =>
      remaining.insert consumption.counterSet
        (rangeAlter (fun _ counter remainingCounter =>
          remainingCounter.map fun remainingCounter => remainingCounter - counter)
          consumption.counters setRemaining)) remaining

namespace AllocationTracker

variable (tracker : AllocationTracker)

/-- Whether a device is allocated on the API server, also in part. -/
def preallocated (id : DeviceID) : Bool :=
  decide (id ∈ tracker.preallocatedDevices) || decide (id ∈ tracker.preallocatedConsumedCapacity)

/-- The budget of a pool on first access: its counters less what is already allocated. -/
def initRemainingCounters (pool : Pool) : AllocationTracker :=
  if pool.key ∈ tracker.remainingCounters then tracker
  else if pool.counterSets.entries = [] then tracker
  else
    let allocated := (pool.devices ++ pool.nonTargetingDevices).filter fun device =>
      tracker.preallocated device.id
    let remaining := allocated.foldl (fun remaining device =>
      deductFromCounters remaining device.device) pool.counterSets
    { tracker with remainingCounters := tracker.remainingCounters.insert pool.key remaining }

def initPools (pools : List Pool) : AllocationTracker :=
  pools.foldl initRemainingCounters tracker

variable (nodeClaimID : NodeClaimID)

def commitCounters (newByIT : GoMap InstanceTypeID PoolCounters) : AllocationTracker :=
  if newByIT.entries = [] then tracker
  else
    let storedByIT := (tracker.countersByNodeClaimIT.lookup nodeClaimID).getD ∅
    let mergedByIT := mergeCounters newByIT storedByIT
    { tracker with
      countersByNodeClaimIT := tracker.countersByNodeClaimIT.insert nodeClaimID mergedByIT
      remainingCounters := subtractDeltaFromRemaining tracker.remainingCounters
        (pessimisticCounterMax storedByIT) (pessimisticCounterMax mergedByIT) }

def releaseCounters (releasedITs : List InstanceTypeID) : AllocationTracker :=
  match tracker.countersByNodeClaimIT.lookup nodeClaimID with
  | none => tracker
  | some storedByIT =>
    let keptByIT := storedByIT.eraseAll releasedITs
    { tracker with
      countersByNodeClaimIT :=
        if keptByIT.entries = [] then tracker.countersByNodeClaimIT.erase nodeClaimID
        else tracker.countersByNodeClaimIT.insert nodeClaimID keptByIT
      remainingCounters := addDeltaToRemaining tracker.remainingCounters
        (pessimisticCounterMax storedByIT) (pessimisticCounterMax keptByIT) }

def initTemplateRemainingCounters (itID : InstanceTypeID) (totals : PoolCounters) :
    AllocationTracker :=
  let remainingByIT := (tracker.templateRemainingCounters.lookup nodeClaimID).getD ∅
  let remainingByIT := if itID ∈ remainingByIT then remainingByIT else remainingByIT.insert itID totals
  { tracker with templateRemainingCounters :=
      tracker.templateRemainingCounters.insert nodeClaimID remainingByIT }

def templateRemainingForIT (itID : InstanceTypeID) : Option PoolCounters :=
  match tracker.templateRemainingCounters.lookup nodeClaimID with
  | none => none
  | some remainingByIT => remainingByIT.lookup itID

def commitTemplateCounters (consumptionByIT : GoMap InstanceTypeID PoolCounters) :
    AllocationTracker :=
  if consumptionByIT.entries = [] then tracker
  else
    match tracker.templateRemainingCounters.lookup nodeClaimID with
    | none => tracker
    | some remainingByIT =>
      -- a consumed counter always has a budget: the search rejects a device otherwise
      let remainingByIT := rangeAlter (fun _ consumption remaining =>
        remaining.map fun remaining =>
          rangeCounters (fun _ _ _ counter remainingCounter =>
            some (remainingCounter.getD 0 - counter)) consumption remaining)
        consumptionByIT remainingByIT
      { tracker with templateRemainingCounters :=
          tracker.templateRemainingCounters.insert nodeClaimID remainingByIT }

def releaseTemplateCounters (releasedITs : List InstanceTypeID) : AllocationTracker :=
  match tracker.templateRemainingCounters.lookup nodeClaimID with
  | none => tracker
  | some remainingByIT =>
    let keptByIT := remainingByIT.eraseAll releasedITs
    { tracker with
      templateRemainingCounters :=
        if keptByIT.entries = [] then tracker.templateRemainingCounters.erase nodeClaimID
        else tracker.templateRemainingCounters.insert nodeClaimID keptByIT }

end AllocationTracker

def hasCounterSet (counters : PoolCounters) (pool : PoolKey) (set : String) : Bool :=
  match counters.lookup pool with
  | none => false
  | some sets => decide (set ∈ sets)

variable {counters : PoolCounters} {pool : PoolKey} {set name : String}
variable {byIT : GoMap InstanceTypeID PoolCounters} {tracker : AllocationTracker}

theorem getCounter_of_not_hasCounterSet (missing : hasCounterSet counters pool set = false)
    (name : String) :
    getCounter counters pool set name = none := by
  unfold hasCounterSet at missing
  unfold getCounter
  cases found : counters.lookup pool with
  | none => rfl
  | some sets =>
    rw [found] at missing
    have absent : sets.lookup set = none := lookup_eq_none.mpr (by simpa using missing)
    simp [absent]

variable {counter budget : Quantity} {remaining : PoolCounters}
variable {newByIT storedByIT : GoMap InstanceTypeID PoolCounters} {key : PoolKey}
variable {pools : List Pool}

theorem hasCounterSet_of_getCounter (found : getCounter counters pool set name = some counter) :
    hasCounterSet counters pool set := by
  cases has : hasCounterSet counters pool set with
  | true => rfl
  | false =>
    rw [getCounter_of_not_hasCounterSet has] at found
    cases found

theorem getCounter_rangeCounters
    (update : PoolKey → String → String → Quantity → Option Quantity → Option Quantity)
    (source target : PoolCounters) (pool : PoolKey) (set name : String) :
    getCounter (rangeCounters update source target) pool set name =
      match getCounter source pool set name with
      | none => getCounter target pool set name
      | some counter =>
        if hasCounterSet target pool set then
          update pool set name counter (getCounter target pool set name)
        else none := by
  unfold getCounter rangeCounters hasCounterSet
  rw [lookup_rangeAlter]
  cases source.lookup pool with
  | none => rfl
  | some sets =>
    cases target.lookup pool with
    | none =>
      simp only [map_none]
      split <;> simp
    | some targetSets =>
      simp only [map_some]
      rw [lookup_rangeAlter]
      cases sets.lookup set with
      | none => rfl
      | some counters =>
        cases found : targetSets.lookup set with
        | none =>
          have absent : set ∉ targetSets := lookup_eq_none.mp found
          simp only [map_none, absent, decide_false]
          split <;> simp
        | some targetCounters =>
          have present : set ∈ targetSets := lookup_isSome.mp (by simp [found])
          simp only [map_some, present, decide_true, if_true]
          rw [lookup_rangeAlter]
          cases counters.lookup name <;> rfl

def combineCounter (combine : Quantity → Quantity → Quantity) :
    Option Quantity → Option Quantity → Option Quantity
  | stored, none => stored
  | none, some counter => some counter
  | some stored, some counter => some (combine stored counter)

theorem combineCounter_none (combine : Quantity → Quantity → Quantity) (counter : Option Quantity) :
    combineCounter combine none counter = counter := by
  cases counter <;> rfl

theorem getD_combineCounter_add (stored counter : Option Quantity) :
    (combineCounter (· + ·) stored counter).getD 0 = stored.getD 0 + counter.getD 0 := by
  cases stored <;> cases counter <;> simp [combineCounter]

theorem combineCounter_nonneg {stored added : Option Quantity}
    (left : ∀ amount, stored = some amount → 0 ≤ amount)
    (right : ∀ amount, added = some amount → 0 ≤ amount) {amount : Quantity}
    (combined : combineCounter (· + ·) stored added = some amount) : 0 ≤ amount := by
  cases stored with
  | none => exact right amount ((combineCounter_none _ _).symm.trans combined)
  | some held =>
    cases added with
    | none => exact left amount combined
    | some counter => exact some.inj combined ▸ add_nonneg (left held rfl) (right counter rfl)

section Names

variable {K : Type} [DecidableEq K]

def amountUnder (amounts : GoMap K (GoMap String Quantity)) (key : K) (name : String) :
    Option Quantity :=
  match amounts.lookup key with
  | none => none
  | some byName => byName.lookup name

theorem amountUnder_merge (stored amounts : GoMap K (GoMap String Quantity)) (key : K)
    (name : String) :
    amountUnder (merge addCounters amounts stored) key name =
      combineCounter (· + ·) (amountUnder stored key name) (amountUnder amounts key name) := by
  unfold amountUnder
  rw [lookup_merge]
  cases amounts.lookup key with
  | none => rfl
  | some consumed =>
    cases stored.lookup key with
    | none => exact (combineCounter_none _ _).symm
    | some storedConsumed =>
      simp only [addCounters]
      rw [lookup_rangeAlter]
      cases consumed.lookup name <;> cases storedConsumed.lookup name <;> simp [combineCounter]

theorem amountUnder_raise (maxima amounts : GoMap K (GoMap String Quantity)) (key : K)
    (name : String) :
    amountUnder (rangeAlter (fun _ counters maxCounters => some
        (raiseCounters (maxCounters.getD ∅) counters)) amounts maxima) key name =
      combineCounter max (amountUnder maxima key name) (amountUnder amounts key name) := by
  have larger : ∀ left right : Quantity, (if left > right then left else right) = max right left := by
    intro left right
    rcases lt_or_ge right left with less | ge
    · rw [if_pos less, max_eq_right (le_of_lt less)]
    · rw [if_neg (not_lt.mpr ge), max_eq_left ge]
  unfold amountUnder
  rw [lookup_rangeAlter]
  cases amounts.lookup key with
  | none => rfl
  | some consumed =>
    simp only [raiseCounters]
    rw [lookup_rangeAlter]
    cases maxima.lookup key with
    | none => cases consumed.lookup name <;> simp [combineCounter]
    | some maxConsumed =>
      cases consumed.lookup name <;> cases found : maxConsumed.lookup name <;>
        simp [found, combineCounter, larger]

end Names

theorem getCounter_mergePools (stored pools : PoolCounters) (pool : PoolKey) (set name : String) :
    getCounter (merge (fun storedSets sets => merge addCounters sets storedSets)
        pools stored) pool set name =
      combineCounter (· + ·) (getCounter stored pool set name) (getCounter pools pool set name) := by
  unfold getCounter
  rw [lookup_merge]
  cases pools.lookup pool with
  | none => rfl
  | some sets =>
    cases stored.lookup pool with
    | none => exact (combineCounter_none _ _).symm
    | some storedSets => exact amountUnder_merge storedSets sets set name

theorem getCounter_raisePools (maxPools pools : PoolCounters) (pool : PoolKey) (set name : String) :
    getCounter (raisePools maxPools pools) pool set name =
      combineCounter max (getCounter maxPools pool set name) (getCounter pools pool set name) := by
  unfold getCounter raisePools
  rw [lookup_rangeAlter]
  cases pools.lookup pool with
  | none => rfl
  | some sets =>
    cases maxPools.lookup pool with
    | none => exact amountUnder_raise ∅ sets set name
    | some maxSets => exact amountUnder_raise maxSets sets set name

theorem getD_foldl_raise {Charge : Type} (get : Charge → Option Quantity)
    {raise : Charge → Charge → Charge}
    (raises : ∀ maxima charge, get (raise maxima charge) = combineCounter max (get maxima) (get charge))
    {charges : List Charge} (nonneg : ∀ charge ∈ charges, 0 ≤ (get charge).getD 0) {start : Charge}
    (startNonneg : 0 ≤ (get start).getD 0) :
    (get (charges.foldl raise start)).getD 0 =
      max ((get start).getD 0) ((charges.map fun charge => (get charge).getD 0).foldr max 0) := by
  induction charges generalizing start with
  | nil => simpa using startNonneg
  | cons head rest ih =>
    have step : (get (raise start head)).getD 0 = max ((get start).getD 0) ((get head).getD 0) := by
      cases first : get start <;> cases second : get head <;> simp_all [combineCounter]
    rw [foldl_cons, ih (fun charge member => nonneg charge (by simp [member]))
      (step ▸ le_max_of_le_left startNonneg), step, map_cons, foldr_cons, max_assoc]

abbrev CounterKey := PoolKey × String × String

def counterAt (counters : PoolCounters) (key : CounterKey) : Quantity :=
  (getCounter counters key.1 key.2.1 key.2.2).getD 0

def NonnegCounters (counters : PoolCounters) : Prop :=
  ∀ pool set name counter, getCounter counters pool set name = some counter → 0 ≤ counter

theorem NonnegCounters.counterAt_nonneg (nonneg : NonnegCounters counters) (key : CounterKey) :
    0 ≤ counterAt counters key := by
  unfold counterAt
  cases found : getCounter counters key.1 key.2.1 key.2.2 with
  | none => exact le_refl 0
  | some counter => exact nonneg _ _ _ _ found

theorem counterAt_pessimisticCounterMax
    (nonneg : ∀ it pools, byIT.lookup it = some pools → NonnegCounters pools) (key : CounterKey) :
    counterAt (pessimisticCounterMax byIT) key = peak counterAt byIT key := by
  have peakNonneg : 0 ≤ peak counterAt byIT key := peak_nonneg byIT key
  refine (getD_foldl_raise (fun pools => getCounter pools key.1 key.2.1 key.2.2)
    (fun maxPools pools => getCounter_raisePools maxPools pools _ _ _) ?_ (le_refl 0)).trans
      (max_eq_right peakNonneg)
  intro pools inValues
  obtain ⟨it, found⟩ := mem_values_iff.mp inValues
  exact (nonneg it pools found).counterAt_nonneg key

theorem counterAt_mergePools (stored pools : PoolCounters) (key : CounterKey) :
    counterAt (merge (fun storedSets sets => merge addCounters sets storedSets)
        pools stored) key = counterAt stored key + counterAt pools key := by
  unfold counterAt
  rw [getCounter_mergePools, getD_combineCounter_add]

theorem NonnegCounters.mergePools (stored pools : PoolCounters) (left : NonnegCounters stored)
    (right : NonnegCounters pools) :
    NonnegCounters (merge (fun storedSets sets => merge addCounters sets storedSets)
      pools stored) := by
  intro pool set name counter found
  rw [getCounter_mergePools] at found
  exact combineCounter_nonneg (left pool set name) (right pool set name) found

def NonnegByIT (byIT : GoMap InstanceTypeID PoolCounters) : Prop :=
  ∀ it pools, byIT.lookup it = some pools → NonnegCounters pools

theorem getCounter_of_values {Holds : Quantity → Prop}
    (all : ∀ sets ∈ counters.values, ∀ amounts ∈ sets.values, ∀ amount ∈ amounts.values,
      Holds amount) (found : getCounter counters pool set name = some counter) :
    Holds counter := by
  unfold getCounter at found
  split at found
  · cases found
  · split at found
    · cases found
    · exact all _ (mem_values_iff.mpr ⟨_, ‹_›⟩) _ (mem_values_iff.mpr ⟨_, ‹_›⟩) _
        (mem_values_iff.mpr ⟨_, found⟩)

theorem NonnegByIT.of_values
    (nonneg : ∀ pools ∈ byIT.values, ∀ sets ∈ pools.values, ∀ amounts ∈ sets.values,
      ∀ amount ∈ amounts.values, 0 ≤ amount) : NonnegByIT byIT :=
  fun it pools found _ _ _ _ =>
    getCounter_of_values (nonneg pools (mem_values_iff.mpr ⟨it, found⟩))

theorem NonnegByIT.mergeCounters (new : NonnegByIT newByIT) (stored : NonnegByIT storedByIT) :
    NonnegByIT (mergeCounters newByIT storedByIT) :=
  forall_lookup_merge NonnegCounters.mergePools new stored

theorem NonnegByIT.eraseAll (nonneg : NonnegByIT byIT) (released : List InstanceTypeID) :
    NonnegByIT (byIT.eraseAll released) :=
  fun it pools found => nonneg it pools (lookup_of_eraseAll found)

theorem getCounter_rangeDelta {lower upper : GoMap InstanceTypeID PoolCounters}
    (update : Quantity → Option Quantity → Option Quantity) (change : Quantity → Quantity)
    (updated : ∀ delta, update delta (some budget) = some (change delta))
    (unchanged : change 0 = budget) (lowerNonneg : NonnegByIT lower) (upperNonneg : NonnegByIT upper)
    (atMost : peak counterAt lower (pool, set, name) ≤ peak counterAt upper (pool, set, name))
    (found : getCounter remaining pool set name = some budget) :
    getCounter (rangeCounters (fun pool set name counter stored =>
        let delta := counter - (getCounter (pessimisticCounterMax lower) pool set name).getD 0
        if delta > 0 then update delta stored else stored) (pessimisticCounterMax upper) remaining)
        pool set name =
      some (change (peak counterAt upper (pool, set, name) - peak counterAt lower (pool, set, name))) := by
  have lowerPeak := counterAt_pessimisticCounterMax lowerNonneg (pool, set, name)
  have nonneg : 0 ≤ counterAt (pessimisticCounterMax lower) (pool, set, name) :=
    lowerPeak ▸ peak_nonneg _ _
  rw [← lowerPeak, ← counterAt_pessimisticCounterMax upperNonneg] at atMost ⊢
  rw [getCounter_rangeCounters, found, hasCounterSet_of_getCounter found]
  unfold counterAt at *
  cases inUpper : getCounter (pessimisticCounterMax upper) pool set name with
  | none =>
    simp only [inUpper, getD_none] at *
    rw [le_antisymm atMost nonneg, sub_self, unchanged]
  | some counter =>
    simp only [inUpper, getD_some, if_true] at *
    split_ifs with positive
    · exact updated _
    · rw [le_antisymm (not_lt.mp positive) (sub_nonneg.mpr atMost), unchanged]

namespace AllocationTracker

variable {nodeClaimID : NodeClaimID}
variable {newByIT : GoMap InstanceTypeID PoolCounters} {released : List InstanceTypeID}
variable {pool : PoolKey} {set name : String} {budget : Quantity}

def storedCounters (tracker : AllocationTracker) (nodeClaimID : NodeClaimID) :
    GoMap InstanceTypeID PoolCounters :=
  owned tracker.countersByNodeClaimIT nodeClaimID

theorem commitCounters_stored : (tracker.commitCounters nodeClaimID newByIT).countersByNodeClaimIT =
      if newByIT.entries = [] then tracker.countersByNodeClaimIT
      else tracker.countersByNodeClaimIT.insert nodeClaimID
        (mergeCounters newByIT (tracker.storedCounters nodeClaimID)) := by
  unfold commitCounters
  split_ifs <;> rfl

theorem releaseCounters_stored :
    (tracker.releaseCounters nodeClaimID released).countersByNodeClaimIT =
      forget tracker.countersByNodeClaimIT nodeClaimID released := by
  unfold releaseCounters forget
  cases tracker.countersByNodeClaimIT.lookup nodeClaimID <;> rfl

theorem storedCounters_commitCounters (nodeClaim : NodeClaimID) :
    (tracker.commitCounters nodeClaimID newByIT).storedCounters nodeClaim =
      if nodeClaim = nodeClaimID then mergeCounters newByIT (tracker.storedCounters nodeClaimID)
      else tracker.storedCounters nodeClaim := by
  unfold storedCounters
  rw [commitCounters_stored]
  exact owned_insert_unless _ _ _ merge_of_entries_nil _

theorem storedCounters_releaseCounters (nodeClaim : NodeClaimID) :
    (tracker.releaseCounters nodeClaimID released).storedCounters nodeClaim =
      if nodeClaim = nodeClaimID then (tracker.storedCounters nodeClaimID).eraseAll released
      else tracker.storedCounters nodeClaim := by
  unfold storedCounters
  rw [releaseCounters_stored]
  exact owned_forget _ _ _ _

section

variable (stored : NonnegByIT (tracker.storedCounters nodeClaimID))
  (found : getCounter tracker.remainingCounters pool set name = some budget)
include stored found

theorem getCounter_commitCounters (new : NonnegByIT newByIT) :
    getCounter (tracker.commitCounters nodeClaimID newByIT).remainingCounters pool set name =
      some (budget - (peak counterAt (mergeCounters newByIT (tracker.storedCounters nodeClaimID))
            (pool, set, name) -
          peak counterAt (tracker.storedCounters nodeClaimID) (pool, set, name))) := by
  unfold commitCounters
  split_ifs with empty
  · rw [mergeCounters, merge_of_entries_nil empty, sub_self, sub_zero]
    exact found
  · have grown : peak counterAt (tracker.storedCounters nodeClaimID) (pool, set, name) ≤
        peak counterAt (mergeCounters newByIT (tracker.storedCounters nodeClaimID))
          (pool, set, name) :=
      peak_le_peak_merge counterAt_mergePools fun it pools found =>
        (new it pools found).counterAt_nonneg _
    exact getCounter_rangeDelta (fun delta => Option.map (· - delta)) (budget - ·) (fun _ => rfl)
      (sub_zero _) stored (new.mergeCounters stored) grown found

theorem getCounter_releaseCounters :
    getCounter (tracker.releaseCounters nodeClaimID released).remainingCounters pool set name =
      some (budget + (peak counterAt (tracker.storedCounters nodeClaimID) (pool, set, name) -
          peak counterAt ((tracker.storedCounters nodeClaimID).eraseAll released)
            (pool, set, name))) := by
  unfold releaseCounters storedCounters at *
  cases known : tracker.countersByNodeClaimIT.lookup nodeClaimID with
  | none =>
    rw [owned_of_lookup_none known, eraseAll_empty, sub_self, add_zero]
    exact found
  | some storedByIT =>
    rw [owned_of_lookup known] at stored ⊢
    exact getCounter_rangeDelta (fun delta stored => some (stored.getD 0 + delta)) (budget + ·)
      (fun _ => rfl) (add_zero _) (stored.eraseAll released) stored (peak_eraseAll_le ..) found

end

end AllocationTracker

def Device.consumes (device : Device) (set name : String) : Quantity :=
  (device.consumesCounters.map fun consumption =>
    if consumption.counterSet = set then (consumption.counters.lookup name).getD 0 else 0).sum

def getSetCounter (sets : CounterSets) (set name : String) : Option Quantity :=
  match sets.lookup set with
  | none => none
  | some counters => counters.lookup name

theorem getCounter_eq (counters : PoolCounters) (pool : PoolKey) (set name : String) :
    getCounter counters pool set name =
      match counters.lookup pool with
      | none => none
      | some sets => getSetCounter sets set name := rfl

section

variable (remaining : CounterSets)

private theorem getSetCounter_deductOne (consumption : DeviceCounterConsumption) (set name : String) :
    getSetCounter (match remaining.lookup consumption.counterSet with
      | none => remaining
      | some setRemaining =>
        remaining.insert consumption.counterSet (rangeAlter (fun _ counter remainingCounter =>
            remainingCounter.map fun remainingCounter => remainingCounter - counter)
            consumption.counters setRemaining)) set name =
      (getSetCounter remaining set name).map fun counter =>
        counter - if consumption.counterSet = set then
          (consumption.counters.lookup name).getD 0 else 0 := by
  unfold getSetCounter
  cases known : remaining.lookup consumption.counterSet with
  | none =>
    by_cases same : consumption.counterSet = set
    · subst same
      simp [known]
    · simp [same]
  | some setRemaining =>
    rw [lookup_insert_eq]
    by_cases same : consumption.counterSet = set
    · subst same
      simp only [if_true, known]
      rw [lookup_rangeAlter]
      cases consumption.counters.lookup name <;> simp
    · rw [if_neg fun equal => same equal.symm]
      simp [same]

theorem getSetCounter_deductFromCounters (device : Device) (set name : String) :
    getSetCounter (deductFromCounters remaining device) set name =
      (getSetCounter remaining set name).map fun counter => counter - device.consumes set name := by
  unfold deductFromCounters Device.consumes
  induction device.consumesCounters generalizing remaining with
  | nil => simp
  | cons consumption rest ih =>
    rw [foldl_cons, ih, getSetCounter_deductOne]
    simp only [Option.map_map, map_cons, sum_cons, Function.comp_def, sub_sub]

private theorem getSetCounter_deductAll (devices : List DeviceWithID) (set name : String) :
    getSetCounter (devices.foldl (fun remaining device =>
        deductFromCounters remaining device.device) remaining) set name =
      (getSetCounter remaining set name).map fun counter =>
        counter - (devices.map fun device => device.device.consumes set name).sum := by
  induction devices generalizing remaining with
  | nil => simp
  | cons device rest ih =>
    rw [foldl_cons, ih, getSetCounter_deductFromCounters]
    simp only [Option.map_map, map_cons, sum_cons, Function.comp_def, sub_sub]

end

/-- What devices allocated on the API server take of a counter. -/
def preallocatedConsumption (tracker : AllocationTracker) (pool : Pool) (set name : String) :
    Quantity :=
  (((pool.devices ++ pool.nonTargetingDevices).filter fun device =>
    tracker.preallocated device.id).map fun device => device.device.consumes set name).sum

theorem getCounter_initRemainingCounters {pool : Pool}
    (fresh : pool.key ∉ tracker.remainingCounters) (set name : String) :
    getCounter (tracker.initRemainingCounters pool).remainingCounters pool.key set name =
      (getSetCounter pool.counterSets set name).map fun total =>
        total - preallocatedConsumption tracker pool set name := by
  unfold initRemainingCounters
  split_ifs with empty
  · have noCounter : getSetCounter pool.counterSets set name = none := by
      simp [getSetCounter, lookup_eq_none_of_entries_nil empty]
    rw [getCounter_eq, lookup_eq_none.mpr fresh, noCounter]
    rfl
  · rw [getCounter_eq]
    simp only [lookup_insert]
    rw [getSetCounter_deductAll]
    rfl

theorem getCounter_initRemainingCounters_of_ne {pool : Pool} (different : key ≠ pool.key)
    (set name : String) :
    getCounter (tracker.initRemainingCounters pool).remainingCounters key set name =
      getCounter tracker.remainingCounters key set name := by
  unfold initRemainingCounters
  split_ifs
  · rfl
  · rfl
  · simp only [getCounter_eq, lookup_insert_eq, if_neg different]

theorem initRemainingCounters_eq (tracker : AllocationTracker) (pool : Pool) :
    tracker.initRemainingCounters pool =
      { tracker with
        remainingCounters := (tracker.initRemainingCounters pool).remainingCounters } := by
  unfold initRemainingCounters
  split_ifs <;> rfl

theorem initPools_eq (tracker : AllocationTracker) (pools : List Pool) : tracker.initPools pools =
      { tracker with remainingCounters := (tracker.initPools pools).remainingCounters } := by
  unfold initPools
  induction pools generalizing tracker with
  | nil => rfl
  | cons pool rest ih =>
    rw [foldl_cons, ih, initRemainingCounters_eq tracker pool]

private theorem getCounter_initPools_of_notMem (tracker : AllocationTracker)
    (other : key ∉ pools.map fun pool => pool.key) (set name : String) :
    getCounter (tracker.initPools pools).remainingCounters key set name =
      getCounter tracker.remainingCounters key set name := by
  induction pools generalizing tracker with
  | nil => rfl
  | cons pool rest ih =>
    rw [map_cons, mem_cons, not_or] at other
    have later := ih (tracker.initRemainingCounters pool) other.2
    rw [getCounter_initRemainingCounters_of_ne other.1] at later
    exact later

theorem getCounter_initPools (fresh : ∀ pool ∈ pools, pool.key ∉ tracker.remainingCounters)
    (distinct : (pools.map fun pool => pool.key).Nodup) {pool : Pool} (member : pool ∈ pools)
    (set name : String) :
    getCounter (tracker.initPools pools).remainingCounters pool.key set name =
      (getSetCounter pool.counterSets set name).map fun total =>
        total - preallocatedConsumption tracker pool set name := by
  induction pools generalizing tracker with
  | nil => cases member
  | cons head rest ih =>
    obtain ⟨headFresh, restDistinct⟩ := nodup_cons.mp distinct
    rcases mem_cons.mp member with rfl | inRest
    · have kept := getCounter_initPools_of_notMem (tracker.initRemainingCounters pool)
        headFresh set name
      rw [getCounter_initRemainingCounters (fresh pool (by simp))] at kept
      exact kept
    · have restFresh : ∀ other ∈ rest,
          other.key ∉ (tracker.initRemainingCounters head).remainingCounters := by
        intro other inRest
        have different : other.key ≠ head.key := by
          intro same
          exact headFresh (mem_map.mpr ⟨other, inRest, same⟩)
        unfold initRemainingCounters
        split_ifs <;> simp [mem_insert, different, fresh other (by simp [inRest])]
      have later := ih restFresh restDistinct inRest
      have samePreallocated : preallocatedConsumption (tracker.initRemainingCounters head) pool
          set name = preallocatedConsumption tracker pool set name := by
        rw [initRemainingCounters_eq]
        rfl
      rw [samePreallocated] at later
      exact later

end Kraftsman.DynamicResources
