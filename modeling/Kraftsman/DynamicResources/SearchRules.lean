import Kraftsman.Data.RelatedLists
import Kraftsman.DynamicResources.Layout
import Kraftsman.Scheduling.Narrowing

/-!
Contract: reasoning rules for the search.

A part that fails has restored the state it started from. One that succeeds has
followed a trail of devices, each taken in a state that passed its checks.

Owns: what backtracking restores, the trail of a search, and where cached
verdicts come from.
Does not own: what the checks are good for.
-/

namespace Kraftsman.DynamicResources

open Apis Data Scheduling Option List

/-! ### Constraints -/

namespace MatchAttributeConstraint

variable {constraint added : MatchAttributeConstraint} {name : String} {device : Device}
variable {id : DeviceID}

/-- A constraint that has seen no device holds nothing. -/
def Settled (constraint : MatchAttributeConstraint) : Prop :=
  constraint.allocatedDeviceIDs = [] →
    constraint.attributeValue = none ∧ constraint.usedBinding = false

section

variable (done : constraint.add name device id = some added)
include done

theorem add_eq_some :
    if constraint.appliesTo name then
      (∃ attr, lookupAttribute device id constraint.attributeName = some attr ∧
        constraint.usedBinding = false ∧
        (constraint.allocatedDeviceIDs ≠ [] → constraint.attributeValue = some attr) ∧
        added = { constraint with
          attributeValue := some attr
          allocatedDeviceIDs := constraint.allocatedDeviceIDs ++ [id] }) ∨
      ∃ fallback, lookupAttribute device id constraint.attributeName = none ∧
        constraint.attributeBindingFallback = some fallback ∧
        fallback.bindings.hasBindings fallback.nodePool fallback.instanceTypeID
          constraint.attributeName id ∧
        (∀ first ∈ constraint.allocatedDeviceIDs.head?, constraint.usedBinding ∧
          fallback.bindings.bound fallback.nodePool fallback.instanceTypeID
            constraint.attributeName first id) ∧
        added = { constraint with
          usedBinding := true
          allocatedDeviceIDs := constraint.allocatedDeviceIDs ++ [id] }
    else added = constraint := by
  unfold add at done
  cases covers : constraint.appliesTo name with
  | false => simpa [covers, eq_comm] using done
  | true =>
    simp only [covers, Bool.not_true, Bool.false_eq_true, if_false] at done
    split at done
    · next attr found =>
        refine .inl ⟨attr, found, ?_⟩
        split_ifs at done with used idle differs
        · cases done
          exact ⟨by simpa using used, fun some => absurd (isEmpty_iff.mp idle) some, rfl⟩
        · have same := not_not.mp differs
          cases done
          exact ⟨by simpa using used, fun _ => same, by rw [← same]⟩
    · next absent =>
      split_ifs at done with fresh
      split at done
      · cases done
      next fallback isFallback =>
      split_ifs at done with grouped
      refine .inr ⟨fallback, absent, isFallback, by simpa using grouped, ?_⟩
      split at done
      · next ids =>
          cases done
          simp [ids]
      · next first rest ids =>
          have used : constraint.usedBinding := by simpa [ids] using fresh
          split_ifs at done with apart
          cases done
          exact ⟨by simpa [used, ids] using apart, by rw [used]⟩

theorem Settled.add (settled : constraint.Settled) : added.Settled := by
  have inverted := add_eq_some done
  split_ifs at inverted
  · rcases inverted with ⟨attr, -, -, -, rfl⟩ | ⟨fallback, -, -, -, -, rfl⟩ <;> simp [Settled]
  · exact inverted ▸ settled

theorem Settled.remove_add (settled : constraint.Settled) : added.remove name = constraint := by
  have inverted := add_eq_some done
  split_ifs at inverted with covers
  · -- only the first device sets what removing the last one clears
    have restored : ∀ value used, (constraint.allocatedDeviceIDs ≠ [] →
        value = constraint.attributeValue ∧ used = constraint.usedBinding) →
        remove { constraint with
          attributeValue := value
          usedBinding := used
          allocatedDeviceIDs := constraint.allocatedDeviceIDs ++ [id] } name = constraint := by
      intro value used same
      unfold remove
      rw [if_neg (by simpa [appliesTo, or_iff_not_imp_left] using covers), dropLast_concat]
      dsimp only
      split_ifs with idle
      · obtain ⟨noValue, unused⟩ := settled (isEmpty_iff.mp idle)
        rw [← noValue, ← unused]
      · obtain ⟨rfl, rfl⟩ := same (by simpa using idle)
        rfl
    rcases inverted with ⟨attr, -, -, same, rfl⟩ | ⟨fallback, -, -, -, bound, rfl⟩
    · exact restored _ _ fun some => ⟨(same some).symm, rfl⟩
    · refine restored _ _ fun some => ⟨rfl, ?_⟩
      exact (bound _ (head?_eq_some_head some)).1.symm
  · subst inverted
    unfold remove
    rw [if_pos (by simpa using covers)]

end

end MatchAttributeConstraint

section Claims

variable {name : String} {device : Device} {id : DeviceID}
variable {constraints after : List MatchAttributeConstraint}

theorem addConstraints_eq_true (done : addConstraints name device id constraints = (true, after)) :
    List.Forall₂ (fun constraint added => constraint.add name device id = some added)
      constraints after := by
  induction constraints generalizing after with
  | nil =>
    cases done
    exact .nil
  | cons constraint rest ih =>
    rw [addConstraints] at done
    split at done
    · cases done
    next added isAdded =>
    split at done
    · next others restDone =>
        cases done
        exact .cons isAdded (ih restDone)
    · cases done

theorem addConstraints_eq_false (settled : ∀ constraint ∈ constraints, constraint.Settled)
    (done : addConstraints name device id constraints = (false, after)) : after = constraints := by
  induction constraints generalizing after with
  | nil => cases done
  | cons constraint rest ih =>
    rw [addConstraints] at done
    split at done
    · cases done
      rfl
    next added isAdded =>
    split at done
    · cases done
    · next others restDone =>
        cases done
        rw [ih (fun other member => settled other (by simp [member])) restDone,
          (settled constraint (by simp)).remove_add isAdded]

theorem remove_addConstraints (settled : ∀ constraint ∈ constraints, constraint.Settled)
    (done : addConstraints name device id constraints = (true, after)) :
    after.map (fun constraint => constraint.remove name) = constraints := by
  have added := addConstraints_eq_true done
  clear done
  induction added with
  | nil => rfl
  | cons own _ ih =>
    rw [map_cons, (settled _ (by simp)).remove_add own,
      ih fun other member => settled other (by simp [member])]

end Claims

/-! ### What a failed search restores -/

/-- A device that several allocations can share. -/
def SearchContext.Shared (ctx : SearchContext) (initial : List Pool) (id : DeviceID) : Prop :=
  ∃ dw, ctx.Offered initial dw ∧ dw.id = id ∧ dw.device.allowMultipleAllocations = true

/-- Equal tentative allocations, where an absent amount counts as zero and only
shared devices change entries. -/
structure Tentative.Same (ctx : SearchContext) (initial : List Pool) (before after : Tentative) :
    Prop where
  metadata : after.allocatedDevicesMetadata = before.allocatedDevicesMetadata
  counters : ∀ template key,
    counterAt (after.counters template) key = counterAt (before.counters template) key
  present : ∀ template pool set name, (getCounter (before.counters template) pool set name).isSome →
    (getCounter (after.counters template) pool set name).isSome
  capacities : ∀ template key,
    capacityAt (after.capacities template) key = capacityAt (before.capacities template) key
  entries : ∀ template id, id ∈ before.capacities template → id ∈ after.capacities template
  shared : ∀ template id, id ∈ after.capacities template → id ∈ before.capacities template ∨
    id.template = template ∧ ctx.Shared initial id
  devices : ∀ id, (id ∈ after.allocatedDevices ↔ id ∈ before.allocatedDevices) ∨
    id ∈ after.capacities id.template ∧ ctx.Shared initial id

section Tentative

variable {ctx : SearchContext} {initial : List Pool} {first second third : Tentative}
variable {taken : DeviceAllocationMetadata}

theorem Tentative.Same.refl : first.Same ctx initial first :=
  ⟨rfl, fun _ _ => rfl, fun _ _ _ _ => id, fun _ _ => rfl, fun _ _ => id, fun _ _ => .inl,
    fun _ => .inl Iff.rfl⟩

theorem Tentative.Same.trans (early : first.Same ctx initial second)
    (late : second.Same ctx initial third) : first.Same ctx initial third where
  metadata := late.metadata.trans early.metadata
  counters template key := (late.counters template key).trans (early.counters template key)
  present _ _ _ _ isPresent := late.present _ _ _ _ (early.present _ _ _ _ isPresent)
  capacities template key := (late.capacities template key).trans (early.capacities template key)
  entries template id entry := late.entries template id (early.entries template id entry)
  shared template id entry := (late.shared template id entry).elim (early.shared template id) .inr
  devices id := by
    rcases late.devices id with sameLate | shared
    · rcases early.devices id with sameEarly | ⟨entry, shared⟩
      · exact .inl (sameLate.trans sameEarly)
      · exact .inr ⟨late.entries _ _ entry, shared⟩
    · exact .inr shared

/-- Giving a device back undoes taking it. -/
theorem Tentative.Same.undo (same : (first.record taken).Same ctx initial second)
    (offered : ctx.Offered initial taken.deviceWithID)
    (exclusive : taken.device.allowMultipleAllocations = false →
      taken.consumedCapacity = none ∧ taken.id ∉ first.allocatedDevices) :
    first.Same ctx initial (second.undo taken) := by
  have recorded := @mem_record_capacities first taken fun isExclusive => (exclusive isExclusive).1
  have own : taken.device.allowMultipleAllocations →
      taken.id ∈ second.capacities taken.id.template ∧ ctx.Shared initial taken.id :=
    fun multi => ⟨same.entries _ _ ((recorded _ _).mpr (.inr ⟨rfl, rfl, multi⟩)),
      taken.deviceWithID, offered, rfl, multi⟩
  have undone : ∀ template id,
      id ∈ (second.undo taken).capacities template ↔ id ∈ second.capacities template := by
    intro template id
    rw [undo_capacities]
    split_ifs with same
    · cases multi : taken.device.allowMultipleAllocations with
      | false => rw [(exclusive multi).1]; rfl
      | true => exact mem_restoreAllocatingCapacity _ _ _ (same ▸ (own multi).1)
    · rfl
  constructor
  · rw [undo_metadata, same.metadata, record_metadata, dropLast_concat]
  · intro template key
    have total := same.counters template key
    have kept := same.present template key.1 key.2.1 key.2.2
    rw [record_counters] at total kept
    rw [undo_counters]
    split_ifs with own
    · rw [if_pos own] at total kept
      rw [counterAt_restoreAllocatingCounters, total, counterAt_deductAllocatingCounters,
        add_sub_cancel_right]
      intro pool consumes
      apply kept
      rw [pool]
      exact isSome_deductAllocatingCounters _ _ _ _ _ (.inr consumes)
    · rwa [if_neg own] at total
  · intro template pool set name isPresent
    have kept := same.present template pool set name (isSome_record isPresent)
    rw [undo_counters]
    split_ifs
    · rw [getCounter_restoreAllocatingCounters]
      simpa using kept
    · exact kept
  · intro template key
    have total := same.capacities template key
    rw [record_capacities] at total
    rw [undo_capacities]
    split_ifs with own
    · rw [if_pos own, (capacityAt_allocatingCapacity ..).1, capacityAt_withEntry] at total
      rw [(capacityAt_allocatingCapacity ..).2, total, add_sub_cancel_right]
    · rwa [if_neg own] at total
  · intro template id entry
    exact (undone template id).mpr (same.entries template id ((recorded template id).mpr (.inl entry)))
  · intro template id entry
    rcases same.shared template id ((undone template id).mp entry) with isRecorded | shared
    · refine ((recorded template id).mp isRecorded).imp_right ?_
      rintro ⟨rfl, rfl, multi⟩
      exact ⟨rfl, (own multi).2⟩
    · exact .inr shared
  · intro id
    rw [undone, undo_allocatedDevices, Finset.mem_erase]
    rcases same.devices id with equal | shared
    · rw [record_allocatedDevices, Finset.mem_insert] at equal
      by_cases isTaken : id = taken.id
      · subst isTaken
        cases multi : taken.device.allowMultipleAllocations with
        | false => exact .inl (by simp [(exclusive multi).2])
        | true => exact .inr (own multi)
      · exact .inl (by simp [isTaken, equal])
    · exact .inr shared

end Tentative

namespace Search

section Relations

variable (ctx : SearchContext) (initial : List Pool) (Recalls : MatchKey → Prop)

/-- Pools are narrowed, cached matches have a reason, and unused constraints are settled. -/
structure WellFormed (search : Search) : Prop where
  pools : ∀ pool ∈ search.pools, pool.Within ctx.env.tables initial
  verdicts : ∀ key, search.deviceMatchesRequest.lookup key = some true → Recalls key
  constraints : ∀ claim ∈ search.constraints, ∀ constraint ∈ claim, constraint.Settled

/-- What is asked for stays on record, and a new match has been asked for. -/
structure Logged (before after : Search) : Prop where
  tested : before.tested ⊆ after.tested
  verdicts : ∀ key, after.deviceMatchesRequest.lookup key = some true →
    before.deviceMatchesRequest.lookup key = some true ∨ (ctx.itID, key) ∈ after.tested

/-- Equal up to cached verdicts and the deadline. Requirements are copied by their own keys. -/
structure Restored (before after : Search) : Prop where
  logged : Logged ctx before after
  constraints : after.constraints = before.constraints
  requirements : before.requirements.Named →
    ∀ key, after.requirements.lookup key = before.requirements.lookup key
  pools : after.pools = before.pools
  tentative : before.toTentative.Same ctx initial after.toTentative

/-- Devices are taken one after the other, each passing its checks in a state that
equals the one left behind. -/
inductive Follows : Search → List Pick → Search → Prop
  | done {search found : Search} (same : search.Restored ctx initial found) :
      Follows search [] found
  | take {search tried tightened found : Search} {pick : Pick} {rest : List Pick}
      {constraints : List MatchAttributeConstraint} (same : search.Restored ctx initial tried)
      (fits : Fits ctx initial (fun key => Recalls key ∧ (ctx.itID, key) ∈ tried.tested) pick)
      (passed : available ctx tried.toTentative pick.rd pick.dw = some pick.consumed)
      (allowed : countersAllow ctx tried pick.dw = true)
      (added : addConstraints pick.rd.name pick.dw.device pick.dw.id
        (tried.claimConstraints pick.claimIdx) = (true, constraints))
      (isTightened : (tried.setConstraints pick.claimIdx constraints).tighten ctx pick.dw =
        some tightened)
      (later : Follows { tightened with
        toTentative := tightened.toTentative.record pick.taken } rest found) :
      Follows search (pick :: rest) found

/-- Some slots are filled, or the state is restored. -/
structure Outcome (slots : List Slot) (search : Search) (outcome : Bool × Search) : Prop where
  verdicts : ∀ key, outcome.2.deviceMatchesRequest.lookup key = some true → Recalls key
  failed : outcome.1 = false → search.Restored ctx initial outcome.2
  found : outcome.1 = true → ∃ picks, picks.map Pick.toSlot = slots ∧
    Follows ctx initial Recalls search picks outcome.2

def Explores (slots : List Slot) (part : SearchM) : Prop :=
  ∀ search : Search, search.WellFormed ctx initial Recalls →
    Outcome ctx initial Recalls slots search (part search)

end Relations

variable {ctx : SearchContext} {initial : List Pool} {Recalls : MatchKey → Prop}
variable {search first second third : Search} {slots : List Slot} {next : SearchM}

theorem Logged.of_eq (verdicts : second.deviceMatchesRequest = first.deviceMatchesRequest)
    (tested : second.tested = first.tested) : Logged ctx first second :=
  ⟨tested ▸ List.Subset.refl _, fun _ isMatch => .inl (verdicts ▸ isMatch)⟩

theorem Logged.trans (early : Logged ctx first second) (late : Logged ctx second third) :
    Logged ctx first third :=
  ⟨fun _ isTested => late.tested (early.tested isTested), fun key isMatch => (late.verdicts key isMatch).elim
    (fun known => (early.verdicts key known).imp_right fun isTested => late.tested isTested) .inr⟩

theorem Restored.of_eq (constraints : second.constraints = first.constraints)
    (requirements : second.requirements = first.requirements) (pools : second.pools = first.pools)
    (tentative : second.toTentative = first.toTentative)
    (logged : Logged ctx first second := by exact .of_eq rfl rfl) :
    first.Restored ctx initial second :=
  ⟨logged, constraints, fun _ _ => by rw [requirements], pools, tentative ▸ .refl⟩

theorem Restored.named (same : first.Restored ctx initial second)
    (named : first.requirements.Named) : second.requirements.Named :=
  fun key requirement found => named key requirement ((same.requirements named key).symm.trans found)

theorem Restored.trans (early : first.Restored ctx initial second)
    (late : second.Restored ctx initial third) : first.Restored ctx initial third where
  logged := early.logged.trans late.logged
  constraints := late.constraints.trans early.constraints
  requirements named key :=
    (late.requirements (early.named named) key).trans (early.requirements named key)
  pools := late.pools.trans early.pools
  tentative := early.tentative.trans late.tentative

theorem WellFormed.restored (wellFormed : first.WellFormed ctx initial Recalls)
    (same : first.Restored ctx initial second)
    (verdicts : ∀ key, second.deviceMatchesRequest.lookup key = some true → Recalls key) :
    second.WellFormed ctx initial Recalls :=
  ⟨same.pools ▸ wellFormed.pools, verdicts, same.constraints ▸ wellFormed.constraints⟩

theorem Follows.after {picks : List Pick} (same : first.Restored ctx initial second)
    (follows : Follows ctx initial Recalls second picks third) :
    Follows ctx initial Recalls first picks third := by
  cases follows with
  | done later => exact .done (same.trans later)
  | take tried fits passed allowed added isTightened later =>
    exact .take (same.trans tried) fits passed allowed added isTightened later

theorem Outcome.fail (wellFormed : second.WellFormed ctx initial Recalls)
    (same : first.Restored ctx initial second) :
    Outcome ctx initial Recalls slots first (false, second) :=
  ⟨wellFormed.verdicts, fun _ => same, fun impossible => by cases impossible⟩

theorem Outcome.after {outcome : Bool × Search} (same : first.Restored ctx initial second)
    (later : Outcome ctx initial Recalls slots second outcome) :
    Outcome ctx initial Recalls slots first outcome where
  verdicts := later.verdicts
  failed isFailure := same.trans (later.failed isFailure)
  found isSuccess := by
    obtain ⟨picks, isSlots, follows⟩ := later.found isSuccess
    exact ⟨picks, isSlots, follows.after same⟩

/-! ### Alternatives -/

theorem Explores.polled (explores : Explores ctx initial Recalls slots next) :
    Explores ctx initial Recalls slots (polled next) := by
  intro search wellFormed
  unfold Search.polled
  split
  · exact .fail wellFormed (.of_eq rfl rfl rfl rfl)
  · next left isLeft =>
      have same : search.Restored ctx initial { search with pollsLeft := left } :=
        .of_eq rfl rfl rfl rfl
      exact (explores _ (wellFormed.restored same wellFormed.verdicts)).after same

theorem explores_firstSuccess {attempts : List SearchM}
    (explores : ∀ attempt ∈ attempts, Explores ctx initial Recalls slots attempt) :
    Explores ctx initial Recalls slots (firstSuccess attempts) := by
  induction attempts with
  | nil => exact fun search wellFormed => .fail wellFormed (.of_eq rfl rfl rfl rfl)
  | cons attempt rest ih =>
    intro search wellFormed
    have tried := explores attempt (by simp) search wellFormed
    rw [firstSuccess]
    split
    · next found success => exact success ▸ tried
    · next failed failure =>
        rw [failure] at tried
        have same := tried.failed rfl
        exact (ih (fun other member => explores other (by simp [member])) failed
          (wellFormed.restored same tried.verdicts)).after same

variable {attempt : DeviceWithID → SearchM}

theorem firstSuccess_append (before after : List SearchM) (search : Search) :
    firstSuccess (before ++ after) search =
      match firstSuccess before search with
      | (true, found) => (true, found)
      | (false, failed) => firstSuccess after failed := by
  induction before generalizing search with
  | nil => rfl
  | cons attempt rest ih =>
    rw [cons_append, firstSuccess, firstSuccess]
    split
    · rfl
    · exact ih _

theorem tryPools_eq (pools : List Pool) (search : Search) :
    ∃ devices : List DeviceWithID, (∀ dw ∈ devices, ∃ pool ∈ pools, dw ∈ pool.devices) ∧
      tryPools ctx attempt pools search = firstSuccess (devices.map attempt) search := by
  induction pools generalizing search with
  | nil => exact ⟨[], by simp, rfl⟩
  | cons pool rest ih =>
    rw [tryPools]
    split_ifs
    · obtain ⟨devices, offered, same⟩ := ih search
      exact ⟨devices, fun dw member => by simp [offered dw member], same⟩
    dsimp only
    split
    · next found success =>
        exact ⟨_, fun dw member => ⟨pool, by simp, mem_of_mem_filter member⟩, success.symm⟩
    · next failed failure =>
        obtain ⟨devices, offered, same⟩ := ih failed
        refine ⟨_ ++ devices, fun dw member => ?_, by rw [map_append, firstSuccess_append,
          failure, same]⟩
        rcases mem_append.mp member with own | others
        · exact ⟨pool, by simp, mem_of_mem_filter own⟩
        · simp [offered dw others]

theorem dfsExactCount_eq (attempt : DeviceWithID → SearchM) (search : Search) :
    ∃ devices : List DeviceWithID, (∀ dw ∈ devices,
        (∃ pool ∈ search.pools, dw ∈ pool.devices) ∨ dw ∈ ctx.templateDevices) ∧
      dfsExactCount ctx attempt search = firstSuccess (devices.map attempt) search := by
  obtain ⟨devices, offered, same⟩ := @tryPools_eq ctx attempt search.pools search
  refine ⟨devices ++ ctx.templateDevices, fun dw member => ?_, ?_⟩
  · exact (mem_append.mp member).imp_left (offered dw)
  · rw [map_append, firstSuccess_append, ← same]
    rfl

/-! ### Trying a device -/

variable {dw : DeviceWithID} {claimIdx reqIdx : Nat} {rd : RequestData} {name : String}
variable {constraints : List MatchAttributeConstraint}

theorem available_admits {tentative : Tentative} {consumed : Option Capacities}
    (passed : available ctx tentative rd dw = some consumed)
    (exclusive : dw.device.allowMultipleAllocations = false) :
    ctx.tracker.isAllocated dw.id ctx.nodeClaim.id ctx.itID = false ∧
      dw.id ∉ tentative.allocatedDevices ∧ consumed = none := by
  unfold available at passed
  rw [exclusive] at passed
  simp only [Bool.false_eq_true, if_false] at passed
  split_ifs at passed with allocated taken
  exact ⟨by simpa using allocated, taken, (some.inj passed).symm⟩

/-- Matching selectors only changes cached verdicts and the deadline, and a match has a reason. -/
theorem WellFormed.selectorsMatch (wellFormed : search.WellFormed ctx initial Recalls)
    (recallable : Recallable ctx initial Recalls claimIdx reqIdx rd)
    (offered : ctx.Offered initial dw) {verdict : Bool} {matched : Search}
    (done : selectorsMatch ctx ⟨dw.id, claimIdx, reqIdx⟩ rd dw search = (verdict, matched)) :
    ∃ verdicts left, matched = { search with
        deviceMatchesRequest := verdicts
        tested := (ctx.itID, ⟨dw.id, claimIdx, reqIdx⟩) :: search.tested
        pollsLeft := left } ∧
      (∀ key, verdicts.lookup key = some true → Recalls key) ∧ Logged ctx search matched ∧
      (verdict → Recalls ⟨dw.id, claimIdx, reqIdx⟩) := by
  have asked : ∀ left, Logged ctx search { search with
      tested := (ctx.itID, ⟨dw.id, claimIdx, reqIdx⟩) :: search.tested
      pollsLeft := left } := fun _ => ⟨subset_cons_self _ _, fun _ => .inl⟩
  unfold Search.selectorsMatch Search.polled at done
  dsimp only at done
  split at done
  · next cached isCached =>
      cases done
      exact ⟨_, _, rfl, wellFormed.verdicts, asked _, fun isMatch =>
        wellFormed.verdicts _ (isCached.trans (congrArg some isMatch))⟩
  split at done
  · cases done
    exact ⟨_, _, rfl, wellFormed.verdicts, asked _, fun impossible => by cases impossible⟩
  split at done
  · cases done
    exact ⟨_, _, rfl, wellFormed.verdicts, asked _, fun impossible => by cases impossible⟩
  · next evaluated isEvaluated =>
      cases done
      have recalls : verdict → Recalls ⟨dw.id, claimIdx, reqIdx⟩ :=
        fun isMatch => recallable.recalls dw offered (isMatch ▸ isEvaluated)
      refine ⟨_, _, rfl, fun key isCached => ?_, ⟨subset_cons_self _ _, fun key isCached => ?_⟩,
        recalls⟩
      · rw [GoMap.lookup_insert_eq] at isCached
        split_ifs at isCached with same
        · exact same ▸ recalls (some.inj isCached)
        · exact wellFormed.verdicts key isCached
      · rw [GoMap.lookup_insert_eq] at isCached
        split_ifs at isCached with same
        · exact .inr (same ▸ mem_cons_self)
        · exact .inl isCached

variable {tightened : Search}

theorem tighten_eq_some (done : search.tighten ctx dw = some tightened) :
    (dw.topologyRequirements = none ∧ tightened = search) ∨
      ∃ topology, dw.topologyRequirements = some topology ∧
        search.requirements.isCompatible ctx.env.tables topology ctx.env.tables.wellKnownLabels ∧
        tightened = { search with
          requirements := search.requirements.add ctx.env.tables topology.values
          pools := filterPools ctx.env.tables search.pools
            (search.requirements.add ctx.env.tables topology.values) ctx.nodeClaim.nodeName } := by
  unfold tighten at done
  split at done
  · next absent => exact .inl ⟨absent, (some.inj done).symm⟩
  · next topology found =>
      split_ifs at done with compatible
      exact .inr ⟨topology, found, compatible, (some.inj done).symm⟩

theorem tighten_tentative (done : search.tighten ctx dw = some tightened) :
    tightened.toTentative = search.toTentative := by
  obtain ⟨-, rfl⟩ | ⟨topology, -, -, rfl⟩ := tighten_eq_some done <;> rfl

theorem tighten_logged (done : search.tighten ctx dw = some tightened) :
    Logged ctx search tightened := by
  obtain ⟨-, rfl⟩ | ⟨topology, -, -, rfl⟩ := tighten_eq_some done <;> exact .of_eq rfl rfl

theorem WellFormed.claimConstraints (wellFormed : search.WellFormed ctx initial Recalls)
    (claimIdx : Nat) : ∀ constraint ∈ search.claimConstraints claimIdx, constraint.Settled := by
  intro constraint member
  unfold Search.claimConstraints at member
  cases found : search.constraints[claimIdx]? with
  | none => simp [found] at member
  | some claim =>
    rw [found] at member
    exact wellFormed.constraints claim (mem_of_getElem? found) constraint member

theorem set_claimConstraints (search : Search) (claimIdx : Nat) :
    search.constraints.set claimIdx (search.claimConstraints claimIdx) = search.constraints := by
  unfold Search.claimConstraints
  by_cases inBounds : claimIdx < search.constraints.length
  · simp [inBounds]
  · exact set_eq_of_length_le (by omega)

theorem removeConstraints_added (wellFormed : first.WellFormed ctx initial Recalls)
    (added : addConstraints name dw.device dw.id (first.claimConstraints claimIdx) =
      (true, constraints))
    (same : second.constraints = (first.setConstraints claimIdx constraints).constraints) :
    (second.removeConstraints claimIdx name).constraints = first.constraints := by
  have removed := remove_addConstraints (wellFormed.claimConstraints claimIdx) added
  change second.constraints.set claimIdx ((second.constraints[claimIdx]?.getD []).map
    fun constraint => constraint.remove name) = _
  rw [same, setConstraints, set_set]
  by_cases inBounds : claimIdx < first.constraints.length
  · rw [getElem?_set_self inBounds, getD_some, removed, set_claimConstraints]
  · exact set_eq_of_length_le (by omega)

theorem WellFormed.taken (wellFormed : search.WellFormed ctx initial Recalls)
    (taken : DeviceAllocationMetadata)
    (added : addConstraints name dw.device dw.id (search.claimConstraints claimIdx) =
      (true, constraints))
    (isTightened : (search.setConstraints claimIdx constraints).tighten ctx dw = some tightened) :
    { tightened with
      toTentative := tightened.toTentative.record taken }.WellFormed ctx initial Recalls := by
  have settled : ∀ claim ∈ search.constraints.set claimIdx constraints, ∀ constraint ∈ claim,
      constraint.Settled := by
    intro claim member
    rcases mem_or_eq_of_mem_set member with old | rfl
    · exact wellFormed.constraints claim old
    · intro constraint inClaim
      obtain ⟨before, inBefore, isAdded⟩ :=
        exists_related_of_mem_right (addConstraints_eq_true added) inClaim
      exact (wellFormed.claimConstraints claimIdx before inBefore).add isAdded
  obtain ⟨-, rfl⟩ | ⟨topology, -, -, rfl⟩ := tighten_eq_some isTightened
  · exact ⟨wellFormed.pools, wellFormed.verdicts, settled⟩
  · exact ⟨within_filterPools wellFormed.pools, wellFormed.verdicts, settled⟩

theorem restored_of_failure {failed : Search} {taken : DeviceAllocationMetadata}
    (wellFormed : search.WellFormed ctx initial Recalls)
    (added : addConstraints name taken.device taken.id (search.claimConstraints claimIdx) =
      (true, constraints))
    (isTightened : (search.setConstraints claimIdx constraints).tighten ctx taken.deviceWithID =
      some tightened) (offered : ctx.Offered initial taken.deviceWithID)
    (passed : available ctx search.toTentative rd taken.deviceWithID = some taken.consumedCapacity)
    (same : { tightened with toTentative := tightened.toTentative.record taken }.Restored ctx initial
      failed) :
    search.Restored ctx initial ((relax ctx taken.deviceWithID
      (search.setConstraints claimIdx constraints)
      { failed with toTentative := failed.toTentative.undo taken }).removeConstraints claimIdx
        name) := by
  have undo : (search.toTentative.record taken).Same ctx initial failed.toTentative →
      search.toTentative.Same ctx initial (failed.toTentative.undo taken) :=
    fun recorded => recorded.undo offered fun exclusive =>
      (available_admits passed exclusive).2.symm
  unfold relax
  obtain ⟨absent, rfl⟩ | ⟨topology, found, -, rfl⟩ := tighten_eq_some isTightened
  · rw [absent]
    exact ⟨⟨same.logged.1, same.logged.2⟩, removeConstraints_added wellFormed added same.constraints,
      same.requirements, same.pools, undo same.tentative⟩
  · rw [found]
    exact ⟨⟨same.logged.1, same.logged.2⟩, removeConstraints_added wellFormed added same.constraints,
      Requirements.lookup_newRequirements_values _, rfl, undo same.tentative⟩

variable {slotIdx : Nat}

theorem Explores.tryDevice (explores : Explores ctx initial Recalls slots next)
    (recallable : Recallable ctx initial Recalls claimIdx reqIdx rd)
    (offered : ctx.Offered initial dw)
    (listed : rd.allocationMode = .all → (allModeDevices ctx rd)[slotIdx]? = some dw) :
    Explores ctx initial Recalls (⟨claimIdx, reqIdx, rd, slotIdx⟩ :: slots)
      (tryDevice ctx claimIdx reqIdx rd next dw) := by
  intro search wellFormed
  unfold Search.tryDevice
  split
  · exact .fail wellFormed (.of_eq rfl rfl rfl rfl)
  next consumed passed =>
  split_ifs with refused
  · exact .fail wellFormed (.of_eq rfl rfl rfl rfl)
  have allowed : countersAllow ctx search dw := by simpa using refused
  split
  · next matched isMatched =>
      obtain ⟨verdicts, left, rfl, recalled, logged, -⟩ :=
        wellFormed.selectorsMatch recallable offered isMatched
      exact .fail ⟨wellFormed.pools, recalled, wellFormed.constraints⟩ (.of_eq rfl rfl rfl rfl logged)
  next matched isMatched =>
  obtain ⟨verdicts, left, changed, recalled, logged, isRecalled⟩ :=
    wellFormed.selectorsMatch recallable offered isMatched
  have cached : search.Restored ctx initial matched := by
    rw [changed] at logged ⊢
    exact .of_eq rfl rfl rfl rfl logged
  have isTested : (ctx.itID, ⟨dw.id, claimIdx, reqIdx⟩) ∈ matched.tested := changed ▸ mem_cons_self
  have stillFormed := wellFormed.restored cached (changed ▸ recalled)
  have stillAvailable : available ctx matched.toTentative rd dw = some consumed := changed ▸ passed
  have stillAllowed : countersAllow ctx matched dw := changed ▸ allowed
  refine Outcome.after cached ?_
  split
  · next constraints isRefused =>
      have same : (matched.setConstraints claimIdx constraints).constraints = matched.constraints := by
        rw [addConstraints_eq_false (stillFormed.claimConstraints claimIdx) isRefused]
        exact set_claimConstraints matched claimIdx
      exact .fail ⟨stillFormed.pools, stillFormed.verdicts, same ▸ stillFormed.constraints⟩
        (.of_eq same rfl rfl rfl)
  next constraints added =>
  dsimp only
  split
  · have same := removeConstraints_added stillFormed added rfl
    exact .fail ⟨stillFormed.pools, stillFormed.verdicts, same ▸ stillFormed.constraints⟩
      (.of_eq same rfl rfl rfl)
  next tightened isTightened =>
  have later := explores _ (stillFormed.taken ⟨claimIdx, dw, consumed⟩ added isTightened)
  split
  · next found success =>
      rw [success] at later
      refine ⟨later.verdicts, fun impossible => (by cases impossible), fun _ => ?_⟩
      obtain ⟨picks, isSlots, follows⟩ := later.found rfl
      refine ⟨⟨⟨claimIdx, reqIdx, rd, slotIdx⟩, dw, consumed⟩ :: picks,
        by rw [map_cons, isSlots], ?_⟩
      exact .take (.of_eq rfl rfl rfl rfl) ⟨offered, ⟨isRecalled rfl, isTested⟩, listed⟩
        stillAvailable stillAllowed added isTightened follows
  · next failed failure =>
      rw [failure] at later
      have restored := restored_of_failure stillFormed added isTightened offered stillAvailable
        (later.failed rfl)
      refine .fail (stillFormed.restored restored ?_) restored
      rw [removeConstraints, setConstraints, relax]
      split <;> exact later.verdicts

/-! ### Slots, requests and claims -/

theorem Explores.dfsSlots (explores : Explores ctx initial Recalls slots next)
    (recallable : Recallable ctx initial Recalls claimIdx reqIdx rd) {left : Nat}
    (bounded : left ≤ numSlots ctx rd) :
    Explores ctx initial Recalls
      (slotsFrom claimIdx reqIdx rd (numSlots ctx rd - left) left ++ slots)
      (dfsSlots ctx claimIdx reqIdx rd next left) := by
  induction left with
  | zero => exact explores.polled
  | succ left ih =>
    have isSlots : slotsFrom claimIdx reqIdx rd (numSlots ctx rd - (left + 1)) (left + 1) =
        ⟨claimIdx, reqIdx, rd, numSlots ctx rd - (left + 1)⟩ ::
          slotsFrom claimIdx reqIdx rd (numSlots ctx rd - left) left := by
      have later : numSlots ctx rd - (left + 1) + 1 = numSlots ctx rd - left := by omega
      rw [slotsFrom, range'_succ, map_cons, later, slotsFrom]
    rw [isSlots, cons_append, Search.dfsSlots]
    apply Explores.polled
    split <;> intro search wellFormed
    · unfold dfsAllMode
      split
      · exact .fail wellFormed (.of_eq rfl rfl rfl rfl)
      · next dw isSlot =>
          exact (ih (by omega)).tryDevice recallable
            (recallable.offered dw (mem_of_getElem? isSlot)) (fun _ => isSlot) search wellFormed
    · next isExact =>
      obtain ⟨devices, offered, same⟩ := @dfsExactCount_eq ctx (Search.tryDevice ctx claimIdx reqIdx rd
        (Search.dfsSlots ctx claimIdx reqIdx rd next left)) search
      rw [same]
      refine explores_firstSuccess (fun part member => ?_) search wellFormed
      obtain ⟨dw, inDevices, rfl⟩ := mem_map.mp member
      refine (ih (by omega)).tryDevice recallable ?_
        fun isAll => absurd (isAll.symm.trans isExact) (by decide)
      exact (offered dw inDevices).imp_left fun inPools => by
        obtain ⟨pool, isPool, inPool⟩ := inPools
        exact (wellFormed.pools pool isPool).offers inPool

theorem Explores.dfsRequests (explores : Explores ctx initial Recalls slots next)
    {requests : List (RequestData × Nat)} (recallable : ∀ request ∈ requests,
      Recallable ctx initial Recalls claimIdx request.2 request.1) :
    Explores ctx initial Recalls (slotsOfRequests ctx claimIdx requests ++ slots)
      (dfsRequests ctx claimIdx next requests) := by
  induction requests with
  | nil => exact explores.polled
  | cons request rest ih =>
    have slots := (ih fun other member => recallable other (by simp [member])).dfsSlots
      (recallable request (by simp)) (le_refl _)
    rwa [Nat.sub_self, ← append_assoc] at slots

variable {claims : List (ClaimData × Nat)}

/-- A search fills the slots of all requests or restores its state. -/
theorem explores_dfs (recallable : ∀ claim ∈ claims,
      ∀ request ∈ claim.1.requests.zipIdx, Recallable ctx initial Recalls claim.2 request.2 request.1) :
    Explores ctx initial Recalls (slotsOfClaims ctx claims) (dfs ctx claims) := by
  induction claims with
  | nil =>
    apply Explores.polled
    exact fun search wellFormed => ⟨wellFormed.verdicts, fun impossible => (by cases impossible),
      fun _ => ⟨[], rfl, .done (.of_eq rfl rfl rfl rfl)⟩⟩
  | cons claim rest ih =>
    exact (ih fun other member => recallable other (by simp [member])).dfsRequests
      (recallable claim (by simp))

/-! ### Trails -/

variable {picks : List Pick} {found : Search}

theorem Follows.logged (follows : Follows ctx initial Recalls search picks found) :
    Logged ctx search found := by
  induction follows with
  | done same => exact same.logged
  | take same _ _ _ _ isTightened _ ih =>
    have tightened := tighten_logged isTightened
    exact same.logged.trans (.trans ⟨tightened.1, tightened.2⟩ ⟨ih.1, ih.2⟩)

theorem Follows.fits (follows : Follows ctx initial Recalls search picks found) : ∀ pick ∈ picks,
    Fits ctx initial (fun key => Recalls key ∧ (ctx.itID, key) ∈ found.tested) pick := by
  induction follows with
  | done => simp
  | take _ fits _ _ _ isTightened later ih =>
    refine forall_mem_cons.mpr ⟨fits.imp fun key recalled => ⟨recalled.1, ?_⟩, ih⟩
    exact later.logged.tested ((tighten_logged isTightened).tested recalled.2)

theorem Follows.metadata (follows : Follows ctx initial Recalls search picks found) :
    found.allocatedDevicesMetadata = search.allocatedDevicesMetadata ++ picks.map Pick.taken := by
  induction follows with
  | done same => simpa using same.tentative.metadata
  | take same _ _ _ _ isTightened _ ih =>
    rw [ih, Tentative.record_metadata, tighten_tentative isTightened, append_assoc]
    exact congrArg (· ++ _) same.tentative.metadata

theorem Outcome.logged {outcome : Bool × Search}
    (done : Outcome ctx initial Recalls slots search outcome) : Logged ctx search outcome.2 := by
  cases success : outcome.1 with
  | false => exact (done.failed success).logged
  | true =>
    obtain ⟨picks, -, follows⟩ := done.found success
    exact follows.logged

theorem Outcome.blocks
    (outcome : Outcome ctx initial Recalls (slotsOfClaims ctx claims) search (true, found)) :
    ∃ blocks, found.allocatedDevicesMetadata = search.allocatedDevicesMetadata ++
        blocks.flatten.flatten ∧ FillsClaims ctx initial
          (fun key => Recalls key ∧ (ctx.itID, key) ∈ found.tested) claims blocks := by
  obtain ⟨picks, isSlots, follows⟩ := outcome.found rfl
  obtain ⟨blocks, isBlocks, fills⟩ := fillsClaims_of_picks follows.fits isSlots
  exact ⟨blocks, isBlocks ▸ follows.metadata, fills⟩

end Search

end Kraftsman.DynamicResources
