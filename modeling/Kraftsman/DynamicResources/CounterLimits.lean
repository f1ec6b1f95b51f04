import Kraftsman.DynamicResources.CapacityLimits

/-!
Contract: how far the loop uses up the counters that partitionable devices share.

Owns: the bound a search keeps on whole budgets, and that a loop over them never
takes more of a counter than there is.
Does not own: what is stored for which NodeClaim.
-/

namespace Kraftsman.DynamicResources

open Apis Data PeakLedger AllocationTracker Loop GoMap Option

/-! ### What a device takes -/

def Device.NonnegConsumption (device : Device) : Prop :=
  ∀ consumption ∈ device.consumesCounters, ∀ name amount,
    consumption.counters.lookup name = some amount → 0 ≤ amount

variable {device : Device} {set name : String} {remaining : PoolCounters} {amount : Quantity}

theorem Device.consumes_nonneg (nonneg : device.NonnegConsumption) (set name : String) :
    0 ≤ device.consumes set name := by
  apply List.sum_nonneg
  intro amount member
  obtain ⟨consumption, inConsumptions, rfl⟩ := List.mem_map.mp member
  split_ifs
  · cases found : consumption.counters.lookup name with
    | none => exact le_refl 0
    | some amount => exact nonneg consumption inConsumptions name amount found
  · exact le_refl 0

theorem Device.consumes_eq (consumes : device.consumes set name ≠ 0) :
    ∃ consumption ∈ device.consumesCounters, consumption.counterSet = set ∧
      consumption.counters.lookup name = some (device.consumes set name) := by
  obtain ⟨_, inSum, nonzero⟩ := List.exists_mem_ne_zero_of_sum_ne_zero consumes
  obtain ⟨consumption, member, rfl⟩ := List.mem_map.mp inSum
  have own : consumption.counterSet = set := of_not_not fun other => nonzero (if_neg other)
  have others : ∀ other ≠ consumption, other ∈ device.consumesCounters →
      (if other.counterSet = set then (other.counters.lookup name).getD 0 else 0) = 0 := by
    intro other different isOther
    refine if_neg fun ofSet => different ?_
    exact List.inj_on_of_nodup_map device.counterSets_nodup isOther member (ofSet.trans own.symm)
  have single : device.consumes set name = (consumption.counters.lookup name).getD 0 := by
    rw [Device.consumes, List.sum_map_eq_nsmul_single consumption _ others,
      List.count_eq_one_of_mem (.of_map _ device.counterSets_nodup) member, one_nsmul, if_pos own]
  rw [single] at consumes ⊢
  refine ⟨consumption, member, own, ?_⟩
  cases found : consumption.counters.lookup name with
  | none => simp [found] at consumes
  | some amount => rfl

/-! ### What a search takes of a counter -/

def IsWhole (amount : Quantity) : Prop := (amount.value : Quantity) = amount

instance (amount : Quantity) : Decidable (IsWhole amount) :=
  inferInstanceAs (Decidable ((amount.value : Quantity) = amount))

def WholeCounters (counters : PoolCounters) : Prop :=
  ∀ pool set name budget, getCounter counters pool set name = some budget → IsWhole budget

def SearchContext.budgets (ctx : SearchContext) (template : Bool) : PoolCounters :=
  if template then ctx.templateRemainingCounters.getD ∅ else ctx.tracker.remainingCounters

theorem remainingCounterSets_eq (ctx : SearchContext) (id : DeviceID) :
    ctx.remainingCounterSets id = (ctx.budgets id.template).lookup id.poolKey := by
  unfold SearchContext.remainingCounterSets SearchContext.budgets
  split_ifs
  · cases ctx.templateRemainingCounters <;> rfl
  · rfl

section Searches

variable {ctx : SearchContext} {Requested : RequestData → Prop} {tentative : Tentative}

theorem takenCounter_nonneg {metadata : List DeviceAllocationMetadata}
    (nonneg : ∀ taken ∈ metadata, taken.device.NonnegConsumption) (template : Bool)
    (key : CounterKey) : 0 ≤ takenCounter template metadata key := by
  apply List.sum_nonneg
  intro amount member
  obtain ⟨taken, inMetadata, rfl⟩ := List.mem_map.mp member
  split_ifs
  · exact Device.consumes_nonneg (nonneg taken inMetadata) _ _
  · exact le_refl 0

section

variable (sound : tentative.Sound ctx Requested)
  (nonneg : ∀ dw, ctx.Candidate dw → dw.device.NonnegConsumption)
include sound nonneg

theorem Tentative.Sound.takenCounter_fits {template : Bool}
    (whole : WholeCounters (ctx.budgets template)) (key : CounterKey)
    {done : List DeviceAllocationMetadata} (isPrefix : done <+: tentative.allocatedDevicesMetadata) :
    takenCounter template done key ≤ 0 ∨
      ∃ budget, getCounter (ctx.budgets template) key.1 key.2.1 key.2.2 = some budget ∧
        takenCounter template done key ≤ budget := by
  induction done using List.reverseRecOn with
  | nil => exact .inl (le_refl 0)
  | append_singleton earlier taken ih =>
    have before := ih ((List.prefix_append earlier [taken]).trans isPrefix)
    have checked := sound.admissible earlier taken isPrefix
    rw [takenCounter_append]
    split_ifs with own
    · by_cases consumes : taken.device.consumes key.2.1 key.2.2 = 0
      · rwa [consumes, add_zero]
      · obtain ⟨consumption, inConsumptions, ofSet, found⟩ := Device.consumes_eq consumes
        obtain ⟨sets, budget, ofPool, isBudget, fits⟩ :=
          checked.counters consumption inConsumptions key.2.2 _ found
        have earlierNonneg : 0 ≤ takenCounter template earlier key := by
          apply takenCounter_nonneg
          intro other inEarlier
          have inMetadata : other ∈ tentative.allocatedDevicesMetadata :=
            isPrefix.subset (by simp [inEarlier])
          obtain ⟨_, otherChecked⟩ := sound.checked inMetadata
          exact nonneg _ otherChecked.candidate
        have sameKey : (taken.id.poolKey, consumption.counterSet, key.2.2) = key := by
          rw [ofSet, ← own.2]
        rw [remainingCounterSets_eq, own.1, ← own.2] at ofPool
        rw [sameKey, own.1] at fits
        have found : getCounter (ctx.budgets template) key.1 key.2.1 key.2.2 = some budget := by
          rw [getCounter_eq, ofPool, ← ofSet]
          exact isBudget
        have amountNonneg : 0 ≤ taken.device.consumes key.2.1 key.2.2 :=
          Device.consumes_nonneg (nonneg _ checked.candidate) _ _
        have isWhole : (budget.value : Quantity) = budget := whole _ _ _ _ found
        -- rounding up only makes the amounts larger, and the budget is not rounded
        have rounded : ((taken.device.consumes key.2.1 key.2.2).value : Quantity) ≤
            budget.value - (takenCounter template earlier key).value := by
          exact_mod_cast fits
        refine .inr ⟨budget, found, ?_⟩
        linarith [Quantity.le_value _ amountNonneg, Quantity.le_value _ earlierNonneg]
    · rwa [add_zero]

theorem Tentative.Sound.counters_nonneg (template : Bool) :
    NonnegCounters (tentative.counters template) := by
  intro pool set name amount found
  have taken := sound.counters template (pool, set, name)
  rw [counterAt, found, getD_some] at taken
  rw [taken]
  apply takenCounter_nonneg
  intro other inMetadata
  obtain ⟨_, checked⟩ := sound.checked inMetadata
  exact nonneg _ checked.candidate

end

end Searches

/-! ### Remaining counters -/

theorem addDeltaToRemaining_nonneg (nonneg : NonnegCounters remaining)
    (oldMax newMax : PoolCounters) :
    NonnegCounters (addDeltaToRemaining remaining oldMax newMax) := by
  intro pool set name amount found
  unfold addDeltaToRemaining at found
  rw [getCounter_rangeCounters] at found
  have before := nonneg.counterAt_nonneg (pool, set, name)
  split at found
  · exact nonneg _ _ _ _ found
  · dsimp only at found
    split_ifs at found with present positive
    · rw [← some.inj found]
      exact add_nonneg before (le_of_lt positive)
    · exact nonneg _ _ _ _ found

theorem getCounter_subtractDelta_none {oldMax newMax : PoolCounters} {pool : PoolKey}
    (absent : getCounter remaining pool set name = none) :
    getCounter (subtractDeltaFromRemaining remaining oldMax newMax) pool set name = none := by
  unfold subtractDeltaFromRemaining
  rw [getCounter_rangeCounters, absent]
  cases getCounter newMax pool set name <;> simp

/-! ### Template budgets -/

section Templates

variable (tracker : AllocationTracker) (nodeClaimID other : NodeClaimID) (it itID : InstanceTypeID)

theorem lookup_initTemplateRemainingCounters (totals : PoolCounters) :
    (owned (tracker.initTemplateRemainingCounters nodeClaimID itID
        totals).templateRemainingCounters other).lookup it =
      if other = nodeClaimID ∧ it = itID then
        ((owned tracker.templateRemainingCounters other).lookup it).or (some totals)
      else (owned tracker.templateRemainingCounters other).lookup it := by
  unfold initTemplateRemainingCounters
  rw [owned_insert]
  by_cases same : other = nodeClaimID
  · subst same
    unfold owned
    generalize (tracker.templateRemainingCounters.lookup other).getD ∅ = budgets
    rw [if_pos rfl]
    by_cases present : itID ∈ budgets
    · split_ifs with isType
      · rw [isType.2]
        obtain ⟨known, found⟩ := isSome_iff_exists.mp (AList.lookup_isSome.mpr present)
        rw [found, some_or]
      · rfl
    · rw [if_neg present, lookup_insert_eq]
      by_cases isType : it = itID
      · subst isType
        simp [AList.lookup_eq_none.mpr present]
      · simp [isType]
  · simp [same]

theorem lookup_initTemplateTotals (alloc : TrackedAllocation) :
    (owned (tracker.initTemplateTotals alloc).templateRemainingCounters other).lookup it =
      if other = alloc.nodeClaimID then
        ((owned tracker.templateRemainingCounters other).lookup it).or
          (alloc.templateCounterTotalsByIT.lookup it)
      else (owned tracker.templateRemainingCounters other).lookup it := by
  unfold initTemplateTotals AList.lookup
  generalize alloc.templateCounterTotalsByIT.entries = totals
  induction totals generalizing tracker with
  | nil => simp
  | cons entry rest ih =>
    have one := lookup_initTemplateRemainingCounters tracker alloc.nodeClaimID other it entry.1
      entry.2
    unfold AList.lookup at one
    rw [List.foldl_cons, ih, one]
    by_cases same : other = alloc.nodeClaimID
    · by_cases isType : it = entry.1
      · subst isType
        have first : (entry :: rest).dlookup entry.1 = some entry.2 := List.dlookup_cons_eq ..
        rw [first]
        cases (owned tracker.templateRemainingCounters other).entries.dlookup entry.1 <;>
          simp [same]
      · simp [same, isType, List.dlookup_cons_ne _ _ isType]
    · simp [same]

theorem lookup_commitTemplateCounters (consumptionByIT : GoMap InstanceTypeID PoolCounters) :
    (owned (tracker.commitTemplateCounters nodeClaimID
        consumptionByIT).templateRemainingCounters other).lookup it =
      if other = nodeClaimID then
        ((owned tracker.templateRemainingCounters other).lookup it).map fun remaining =>
          match consumptionByIT.lookup it with
          | none => remaining
          | some consumption => rangeCounters (fun _ _ _ counter remainingCounter =>
            some (remainingCounter.getD 0 - counter)) consumption remaining
      else (owned tracker.templateRemainingCounters other).lookup it := by
  unfold commitTemplateCounters
  split_ifs with empty same same
  · rw [lookup_eq_none_of_entries_nil empty it]
    simp
  · rfl
  · subst same
    cases known : tracker.templateRemainingCounters.lookup other with
    | none => simp [owned_of_lookup_none known]
    | some remainingByIT =>
      rw [owned_insert, if_pos rfl, owned_of_lookup known, lookup_rangeAlter]
      cases consumptionByIT.lookup it <;> simp
  · split
    · rfl
    · rw [owned_insert, if_neg same]

theorem lookup_releaseTemplateCounters (released : List InstanceTypeID) :
    (owned (tracker.releaseTemplateCounters nodeClaimID
        released).templateRemainingCounters other).lookup it =
      if other = nodeClaimID ∧ it ∈ released then none
      else (owned tracker.templateRemainingCounters other).lookup it := by
  have stored : (tracker.releaseTemplateCounters nodeClaimID released).templateRemainingCounters =
      forget tracker.templateRemainingCounters nodeClaimID released := by
    unfold releaseTemplateCounters forget
    cases tracker.templateRemainingCounters.lookup nodeClaimID <;> rfl
  rw [stored, owned_forget]
  by_cases same : other = nodeClaimID
  · subst same
    simp [lookup_eraseAll]
  · simp [same]

end Templates

/-! ### Commits and releases stay within the counters -/

/-- No counter is handed out beyond what there is. -/
structure Budgets.WithinCounters (initial : PoolCounters) (budgets : Budgets) : Prop where
  balanced : budgets.CountersBalanced initial
  remaining : NonnegCounters budgets.remainingCounters
  templates : ∀ nodeClaim it pools,
    (owned budgets.templateRemainingCounters nodeClaim).lookup it = some pools →
      NonnegCounters pools

/-- The budgets searched against are whole, and no template declares a negative amount. -/
structure CounterInput (env : Environment) (tracker : AllocationTracker) (nodeClaim : NodeClaim)
    (_claims : List ResourceClaim) : Prop where
  remaining : WholeCounters tracker.remainingCounters
  templates : ∀ it pools, buildTemplateCounters tracker nodeClaim it = some pools →
    WholeCounters pools
  totals : ∀ it slices pools, nodeClaim.resourceSlices.lookup it = some slices →
    computeTemplateTotals slices = some pools → NonnegCounters pools
  consumption : ∀ it, ∀ dw ∈ (searchContext env tracker nodeClaim it).templateDevices,
    dw.device.NonnegConsumption

section Commits

variable {env : Environment} {tracker : AllocationTracker} {nodeClaim : NodeClaim}
variable {claims : List ResourceClaim} {initial : PoolCounters} {alloc : TrackedAllocation}
variable {it : InstanceTypeID}

theorem lookup_owned_templateRemainingCounters (tracker : AllocationTracker)
    (nodeClaimID : NodeClaimID) (it : InstanceTypeID) :
    (owned tracker.templateRemainingCounters nodeClaimID).lookup it =
      tracker.templateRemainingForIT nodeClaimID it := by
  unfold owned templateRemainingForIT
  cases tracker.templateRemainingCounters.lookup nodeClaimID <;> rfl

theorem templateRemaining_or_newTotals : (tracker.templateRemainingForIT nodeClaim.id it).or
        (searchContext env tracker nodeClaim it).newTotals =
      buildTemplateCounters tracker nodeClaim it := by
  unfold SearchContext.newTotals
  dsimp only [searchContext]
  unfold buildTemplateCounters
  cases tracker.templateRemainingForIT nodeClaim.id it with
  | some remaining => simp
  | none => cases (nodeClaim.resourceSlices.lookup it).bind computeTemplateTotals <;> rfl

theorem CounterInput.candidates_nonneg (input : CounterInput env tracker nodeClaim claims)
    (published : ∀ dw, Published env.inClusterSlices dw → dw.device.NonnegConsumption)
    (it : InstanceTypeID) (dw : DeviceWithID)
    (candidate : (searchContext env tracker nodeClaim it).Candidate dw) :
    dw.device.NonnegConsumption :=
  candidate.elim (published dw) (input.consumption it dw)

variable {pools : PoolCounters} {middle : AllocationTracker}

theorem subtract_tentative_nonneg {ctx : SearchContext} {Requested : RequestData → Prop}
    {tentative : Tentative} (sound : tentative.Sound ctx Requested)
    (nonneg : ∀ dw, ctx.Candidate dw → dw.device.NonnegConsumption)
    (isBudget : ctx.templateRemainingCounters = some pools) (whole : WholeCounters pools)
    (before : NonnegCounters pools) :
    NonnegCounters (rangeCounters (fun _ _ _ counter remainingCounter =>
      some (remainingCounter.getD 0 - counter)) tentative.templateAllocatingCounters pools) := by
  have isPools : ctx.budgets true = pools := by
    simp [SearchContext.budgets, isBudget]
  intro pool set name amount found
  rw [getCounter_rangeCounters] at found
  split at found
  · exact before _ _ _ _ found
  · next counter consumed =>
      split_ifs at found
      rw [← some.inj found]
      have taken := sound.counters true (pool, set, name)
      have isCounter : counterAt (tentative.counters true) (pool, set, name) = counter := by
        exact congrArg (fun counter => getD counter 0) consumed
      have fits := sound.takenCounter_fits nonneg (isPools ▸ whole) (pool, set, name)
        (List.prefix_refl _)
      rw [← taken, isCounter, isPools] at fits
      rcases fits with nothing | ⟨budget, known, fits⟩
      · exact sub_nonneg.mpr (nothing.trans (before.counterAt_nonneg (pool, set, name)))
      · rw [known]
        exact sub_nonneg.mpr fits

section Explained

variable (published : ∀ dw, Published env.inClusterSlices dw → dw.device.NonnegConsumption)
variable (input : CounterInput env tracker nodeClaim claims)
variable (explained : alloc.Explained env tracker nodeClaim claims)

include published input explained

theorem commitBudgets_templates_nonneg (same : middle.budgets = tracker.budgets)
    (within : tracker.budgets.WithinCounters initial) {other : NodeClaimID}
    (found : (owned (middle.commitBudgets alloc).templateRemainingCounters other).lookup
      it = some pools) : NonnegCounters pools := by
  have templates : middle.templateRemainingCounters = tracker.templateRemainingCounters :=
    congrArg Budgets.templateRemainingCounters same
  rw [commitBudgets_eq] at found
  rw [lookup_commitTemplateCounters, lookup_initTemplateTotals, templates] at found
  split_ifs at found with own
  · rw [own, explained.nodeClaimID, lookup_owned_templateRemainingCounters] at found
    rcases explained.shares it with nothing | ⟨tentative, sound, share⟩
    · have noTotals : alloc.templateCounterTotalsByIT.lookup it = none :=
        congrArg Share.templateTotals nothing
      have noConsumption : alloc.templateCounterConsumptionByIT.lookup it = none :=
        congrArg Share.templateCounters nothing
      rw [noTotals, noConsumption, or_none, map_id',
        ← lookup_owned_templateRemainingCounters] at found
      exact within.templates nodeClaim.id it pools found
    · have totals : alloc.templateCounterTotalsByIT.lookup it =
          (searchContext env tracker nodeClaim it).newTotals := congrArg Share.templateTotals share
      have consumption : alloc.templateCounterConsumptionByIT.lookup it =
          some tentative.templateAllocatingCounters := congrArg Share.templateCounters share
      rw [totals, consumption, templateRemaining_or_newTotals] at found
      obtain ⟨budgets, isBudget, rfl⟩ := map_eq_some_iff.mp found
      refine subtract_tentative_nonneg sound (input.candidates_nonneg published it) isBudget
        (input.templates it budgets isBudget) ?_
      unfold buildTemplateCounters at isBudget
      split at isBudget
      · next remaining known =>
          rw [← lookup_owned_templateRemainingCounters] at known
          exact within.templates nodeClaim.id it budgets (known.trans isBudget)
      · obtain ⟨slices, ofType, computed⟩ := bind_eq_some_iff.mp isBudget
        exact input.totals it slices budgets ofType computed
  · exact within.templates other it pools found

theorem charge_counters_le {pool : PoolKey} {set name : String} {budget : Quantity}
    (known : getCounter tracker.remainingCounters pool set name = some budget)
    (budgetNonneg : 0 ≤ budget) (it : InstanceTypeID) :
    charge counterAt alloc.counterConsumptionByIT it (pool, set, name) ≤ budget := by
  obtain ⟨tentative, sound, consumed, -⟩ := explained.charges it
  rw [consumed, sound.counters]
  have whole : WholeCounters ((searchContext env tracker nodeClaim it).budgets false) :=
    input.remaining
  rcases sound.takenCounter_fits (input.candidates_nonneg published it) whole (pool, set, name)
    (List.prefix_refl _) with nothing | ⟨budget', known', fits⟩
  · exact nothing.trans budgetNonneg
  · exact fits.trans (le_of_eq (some.inj (known'.symm.trans known)))

theorem counterConsumption_nonneg : NonnegByIT alloc.counterConsumptionByIT := by
  intro it pools found
  rcases explained.shares it with nothing | ⟨tentative, sound, share⟩
  · exact absurd (found.symm.trans (congrArg Share.counters nothing)) (by simp)
  · obtain rfl := some.inj (found.symm.trans (congrArg Share.counters share))
    exact sound.counters_nonneg (input.candidates_nonneg published it) false

theorem commitBudgets_withinCounters (same : middle.budgets = tracker.budgets)
    (within : tracker.budgets.WithinCounters initial) :
    (middle.commitBudgets alloc).budgets.WithinCounters initial := by
  have nonneg := counterConsumption_nonneg published input explained
  have balanced : middle.budgets.CountersBalanced initial := same ▸ within.balanced
  have remaining : middle.remainingCounters = tracker.remainingCounters :=
    congrArg Budgets.remainingCounters same
  refine ⟨commitBudgets_counters balanced nonneg, ?_, ?_⟩
  · intro pool set name amount found
    rw [commitBudgets_eq] at found
    dsimp only [budgets] at found
    cases known : getCounter middle.remainingCounters pool set name with
    | none =>
      have absent : getCounter (middle.commitCounters alloc.nodeClaimID
          alloc.counterConsumptionByIT).remainingCounters pool set name = none := by
        unfold commitCounters
        split_ifs
        · exact known
        · exact getCounter_subtractDelta_none known
      rw [absent] at found
      cases found
    | some budget =>
      have budgetNonneg : 0 ≤ budget := within.remaining _ _ _ _ (remaining ▸ known)
      have grown : peak counterAt (mergeCounters alloc.counterConsumptionByIT
          (middle.storedCounters alloc.nodeClaimID)) (pool, set, name) ≤
          peak counterAt (middle.storedCounters alloc.nodeClaimID) (pool, set, name) + budget :=
        peak_merge_le counterAt_mergePools budgetNonneg
          (charge_counters_le published input explained (remaining ▸ known) budgetNonneg)
      rw [getCounter_commitCounters (balanced.nonneg alloc.nodeClaimID) known nonneg] at found
      rw [← some.inj found]
      linarith
  · intro other it pools found
    exact commitBudgets_templates_nonneg published input explained same within found

end Explained

theorem releaseBudgets_withinCounters (within : tracker.budgets.WithinCounters initial)
    (nodeClaimID : NodeClaimID) (instanceTypes : List InstanceTypeID) :
    (tracker.releaseBudgets nodeClaimID instanceTypes).budgets.WithinCounters initial := by
  refine ⟨releaseBudgets_counters within.balanced _ _, ?_, ?_⟩
  · rw [releaseBudgets_eq]
    unfold releaseCounters
    split
    · exact within.remaining
    · exact addDeltaToRemaining_nonneg within.remaining _ _
  · intro other it pools found
    rw [releaseBudgets_eq] at found
    dsimp only [budgets] at found
    rw [lookup_releaseTemplateCounters] at found
    split_ifs at found
    exact within.templates other it pools found

end Commits

/-! ### Loops -/

/-- In every run whose allocations meet `CounterInput`, no shared counter is taken
beyond its budget, whichever instance type each NodeClaim collapses to. -/
theorem run_keeps_counters_nonneg (env : Environment) (allocatedState : AllocatedDeviceState)
    (loop : Loop)
    (published : ∀ dw, Published env.inClusterSlices dw → dw.device.NonnegConsumption)
    (initially : NonnegCounters (Loop.start env allocatedState).tracker.remainingCounters)
    (reached : Reaches (Loop.apply env) (Loop.Enabled (CounterInput env))
      (Loop.start env allocatedState) loop) :
    NonnegCounters loop.tracker.remainingCounters ∧
      (∀ nodeClaim it pools, loop.tracker.templateRemainingForIT nodeClaim it = some pools →
        NonnegCounters pools) ∧
      ∀ pool set name budget,
        getCounter (Loop.start env allocatedState).tracker.remainingCounters pool set name =
          some budget →
        ∀ collapse : NodeClaimID → InstanceTypeID,
          collapsed counterAt loop.tracker.countersByNodeClaimIT collapse
            (pool, set, name) ≤ budget := by
  have start : (start env allocatedState).tracker.budgets.WithinCounters
      (start env allocatedState).tracker.remainingCounters := by
    have unchanged := initPools_eq (newAllocationTracker allocatedState)
      (gatherPools env.tables env.inClusterSlices ∅ "")
    refine ⟨(initPools_balanced allocatedState _).counters, initially, ?_⟩
    intro nodeClaim it pools found
    dsimp only [start, tracker, newAllocator, budgets] at found
    rw [unchanged] at found
    cases found
  have within := reaches_budgets (Budgets.WithinCounters _) start
    (fun _ _ _ _ _ within same input explained =>
      commitBudgets_withinCounters published input explained same within)
    (fun _ _ _ within => releaseBudgets_withinCounters within _ _) reached
  refine ⟨within.remaining, ?_, ?_⟩
  · intro nodeClaim it pools found
    rw [← lookup_owned_templateRemainingCounters] at found
    exact within.templates nodeClaim it pools found
  · intro pool set name budget known collapse
    have left := within.remaining _ _ _ _ (within.balanced.remaining pool set name budget known)
    exact (collapsed_le_total _ collapse).trans (sub_nonneg.mp left)

/-! ### A partition of a device -/

def partition (amount : Quantity) : Device where
  name := "gpu-0"
  consumesCounters := [{ counterSet := "board", counters := ofList [("memory", amount)] }]
  counterSets_nodup := List.nodup_singleton _

def budgetSlice (budget : Quantity) : ResourceSlice where
  driver := "gpu.example.com"
  pool := "rack"
  allNodes := true
  resourceSliceCount := 2
  sharedCounters := some [{ name := "board", counters := ofList [("memory", budget)] }]

def partitionSlice (amount : Quantity) : ResourceSlice where
  driver := "gpu.example.com"
  pool := "rack"
  allNodes := true
  resourceSliceCount := 2
  devices := [partition amount]

def partitionEnvironment (budget amount : Quantity) : Environment :=
  { gpuEnvironment with inClusterSlices := [budgetSlice budget, partitionSlice amount] }

/-- A pod takes the partition. -/
def partitionRun (budget amount : Quantity) : Except Panic Loop :=
  (Loop.start (partitionEnvironment budget amount) {}).schedule (partitionEnvironment budget amount)
    patientOracle gpuNodeClaim [gpuClaim]

def partitionPool : PoolKey := { driver := "gpu.example.com", pool := "rack" }

theorem partition_nonneg (nonneg : 0 ≤ amount) : (partition amount).NonnegConsumption := by
  intro consumption isConsumption name found isFound
  obtain rfl := List.mem_singleton.mp isConsumption
  have only : (⟨name, found⟩ : Sigma fun _ : String => Quantity) = ⟨"memory", amount⟩ :=
    List.mem_singleton.mp (mem_entries_iff.mpr isFound)
  have isAmount : found = amount := congrArg Sigma.snd only
  exact isAmount ▸ nonneg

/-- Half a unit and three fifths of a unit both round up to one, so the check
passes, and the commit then subtracts the exact amounts. -/
theorem partitionRun_overcommits_fraction : ∃ loop, partitionRun (1 / 2) (3 / 5) = .ok loop ∧
    Reaches (Loop.apply (partitionEnvironment (1 / 2) (3 / 5))) (Loop.Enabled Loop.AnyInput)
      (Loop.start (partitionEnvironment (1 / 2) (3 / 5)) {}) loop ∧
    NonnegCounters (Loop.start (partitionEnvironment (1 / 2) (3 / 5)) {}).tracker.remainingCounters ∧
    (partition (3 / 5)).NonnegConsumption ∧
    getCounter loop.tracker.remainingCounters partitionPool "board" "memory" = some (-1 / 10) ∧
    ¬ NonnegCounters loop.tracker.remainingCounters := by
  obtain ⟨loop, finished, remaining⟩ : ∃ loop, partitionRun (1 / 2) (3 / 5) = .ok loop ∧
      getCounter loop.tracker.remainingCounters partitionPool "board" "memory" = some (-1 / 10) :=
    FallibleLoop.exists_ok (by decide +kernel)
  have initially : ∀ sets ∈
      (start (partitionEnvironment (1 / 2) (3 / 5)) {}).tracker.remainingCounters.values,
      ∀ amounts ∈ sets.values, ∀ amount ∈ amounts.values, 0 ≤ amount := by
    decide +kernel
  refine ⟨loop, finished, reaches_schedule trivial .start finished,
    fun _ _ _ _ => getCounter_of_values initially, partition_nonneg (by norm_num), remaining, ?_⟩
  intro nonneg
  have negative := nonneg _ _ _ _ remaining
  norm_num at negative

theorem device_of_published_partition {budget : Quantity} {dw : DeviceWithID}
    (published : Published (partitionEnvironment budget amount).inClusterSlices dw) :
    dw.device = partition amount := by
  obtain ⟨slice, current, inSlice, -⟩ := published
  have isSlice : slice = budgetSlice budget ∨ slice = partitionSlice amount := by
    simpa [partitionEnvironment] using List.mem_of_mem_filter current
  rcases isSlice with rfl | rfl
  · exact absurd inSlice List.not_mem_nil
  · exact List.mem_singleton.mp inSlice

theorem gpuNodeClaim_input {env : Environment} {tracker : AllocationTracker}
    (whole : WholeCounters tracker.remainingCounters)
    (none : tracker.templateRemainingCounters = ∅) :
    CounterInput env tracker gpuNodeClaim [gpuClaim] where
  remaining := whole
  templates it pools found := by
    simp [buildTemplateCounters, templateRemainingForIT, none, gpuNodeClaim]
      at found
  totals it slices pools found := by simp [gpuNodeClaim] at found
  consumption it dw member := by
    have nothing : dw ∈ ((gpuNodeClaim.resourceSlices.lookup it).map templateSliceDevices).getD [] :=
      lookup_templateDevicesByIT gpuNodeClaim it ▸ member
    simp [gpuNodeClaim] at nothing

theorem partitionRun_keeps_whole_counters : ∃ loop, partitionRun 2 1 = .ok loop ∧
    getCounter loop.tracker.remainingCounters partitionPool "board" "memory" = some 1 ∧
    NonnegCounters loop.tracker.remainingCounters ∧
    ∀ collapse : NodeClaimID → InstanceTypeID,
      collapsed counterAt loop.tracker.countersByNodeClaimIT collapse
        (partitionPool, "board", "memory") ≤ 2 := by
  obtain ⟨loop, finished, remaining⟩ : ∃ loop, partitionRun 2 1 = .ok loop ∧
      getCounter loop.tracker.remainingCounters partitionPool "board" "memory" = some 1 :=
    FallibleLoop.exists_ok (by decide +kernel)
  have initially : ∀ sets ∈ (start (partitionEnvironment 2 1) {}).tracker.remainingCounters.values,
      ∀ amounts ∈ sets.values, ∀ amount ∈ amounts.values, 0 ≤ amount ∧ IsWhole amount := by
    decide +kernel
  have input : CounterInput (partitionEnvironment 2 1)
      (start (partitionEnvironment 2 1) {}).tracker gpuNodeClaim [gpuClaim] :=
    gpuNodeClaim_input (fun _ _ _ _ found => (getCounter_of_values initially found).2) rfl
  obtain ⟨nonneg, -, fits⟩ := run_keeps_counters_nonneg (partitionEnvironment 2 1) {} loop
    (fun dw published => by
      rw [device_of_published_partition published]
      exact partition_nonneg (by norm_num))
    (fun _ _ _ _ found => (getCounter_of_values initially found).1)
    (reaches_schedule input .start finished)
  exact ⟨loop, finished, remaining, nonneg,
    fits partitionPool "board" "memory" 2 (by decide +kernel)⟩

end Kraftsman.DynamicResources
