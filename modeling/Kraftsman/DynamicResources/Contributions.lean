import Kraftsman.DynamicResources.Evaluation
import Kraftsman.Scheduling.Admission

/-!
Contract: the topologies of the devices an allocation takes.

The search gathers them in its requirements, and the result adds up what each
claim's devices contribute on each instance type.

Owns: which topologies the requirements of a search and of a result merge.
Does not own: the topologies of claims allocated before.
-/

namespace Kraftsman.DynamicResources

open Apis Data Scheduling List Set

def topologiesOf (taken : List DeviceAllocationMetadata) : Set Requirements :=
  {topology | ∃ device ∈ taken, device.deviceWithID.topologyRequirements = some topology}

/-- Requirements that can be merged in any combination. -/
structure Sensible (tables : LabelTables) (sources : Set Requirements) : Prop where
  regular : ∀ requirements ∈ sources, requirements.Regular tables
  unambiguous : Unambiguous sources

@[simp] theorem topologiesOf_nil : topologiesOf [] = ∅ := by
  simp [topologiesOf]

variable {device : DeviceAllocationMetadata}

theorem topologiesOf_concat_none {taken : List DeviceAllocationMetadata}
    (absent : device.deviceWithID.topologyRequirements = none) :
    topologiesOf (taken ++ [device]) = topologiesOf taken := by
  ext topology
  simp [topologiesOf, or_and_right, exists_or, absent]

theorem topologiesOf_concat_some {taken : List DeviceAllocationMetadata} {topology : Requirements}
    (found : device.deviceWithID.topologyRequirements = some topology) :
    topologiesOf (taken ++ [device]) = insert topology (topologiesOf taken) := by
  ext other
  simp [topologiesOf, or_and_right, exists_or, found, or_comm, eq_comm]

theorem Sensible.mono {tables : LabelTables} {sources fewer : Set Requirements}
    (sensible : Sensible tables sources) (subset : fewer ⊆ sources) : Sensible tables fewer :=
  ⟨fun requirements member => sensible.regular requirements (subset member),
    sensible.unambiguous.mono subset⟩

namespace Search

/-- A search that gathers the topologies of its devices, if its start gathers some base. -/
def Narrowed (ctx : SearchContext) (start : Requirements) (base : Set Requirements)
    (search : Search) : Prop :=
  Sensible ctx.env.tables (base ∪ topologiesOf search.allocatedDevicesMetadata) →
    Gathered ctx.env.tables start base → Gathered ctx.env.tables search.requirements
      (base ∪ topologiesOf search.allocatedDevicesMetadata)

variable {ctx : SearchContext} {initial : List Pool} {Recalls : MatchKey → Prop}
variable {start : Requirements} {base : Set Requirements}

section

variable {search : Search} (narrowed : search.Narrowed ctx start base)
include narrowed

theorem Narrowed.restored {other : Search} (same : search.Restored ctx initial other) :
    other.Narrowed ctx start base := by
  unfold Narrowed
  rw [same.tentative.metadata]
  intro sensible startGathered
  have gathered := narrowed sensible startGathered
  exact gathered.of_merges (gathered.merges.congr (same.requirements gathered.merges.keyed.named))

theorem Narrowed.taken (device) {tightened : Search}
    (isTightened : search.tighten ctx device.deviceWithID = some tightened) :
    { tightened with toTentative := tightened.toTentative.record device }.Narrowed
      ctx start base := by
  have recorded : (tightened.toTentative.record device).allocatedDevicesMetadata =
      search.allocatedDevicesMetadata ++ [device] := by
    rw [Tentative.record_metadata, tighten_tentative isTightened]
  unfold Narrowed
  dsimp only
  rw [recorded]
  obtain ⟨absent, rfl⟩ | ⟨topology, found, compatible, rfl⟩ := tighten_eq_some isTightened
  · rw [topologiesOf_concat_none absent]
    exact narrowed
  · rw [topologiesOf_concat_some found, union_insert]
    intro sensible startGathered
    exact (narrowed (sensible.mono (subset_insert _ _)) startGathered).add
      (sensible.regular topology (mem_insert _ _)) compatible sensible.unambiguous

theorem Narrowed.follows {found : Search} {picks : List Pick}
    (follows : Follows ctx initial Recalls search picks found) : found.Narrowed ctx start base := by
  induction follows with
  | done same => exact narrowed.restored same
  | @take _ tried _ _ pick _ constraints same _ _ _ _ isTightened _ ih =>
    have restored := narrowed.restored same
    have constrained : (tried.setConstraints pick.claimIdx constraints).Narrowed ctx start base :=
      restored
    exact ih (constrained.taken pick.taken isTightened)

end

end Search

abbrev Record := InstanceTypeID × DeviceAllocationMetadata

def recordedTopologies (records : List Record) : Set Requirements :=
  topologiesOf (records.map Prod.snd)

def contributions (records : List Record) (index : Nat) (it : InstanceTypeID) : Set Requirements :=
  recordedTopologies (records.filter fun entry => entry.1 = it && entry.2.claimIndex = index)

/-- What each claim contributes merges the topologies of its devices, by instance type. -/
def Contributed (tables : LabelTables) (claims : List ResourceClaimAllocationMetadata)
    (records : List Record) : Prop :=
  ∀ index metadata, claims[index]? = some metadata → ∀ it,
    MergesAll tables ((metadata.contributedRequirements.lookup it).getD ∅)
      (partsOf (contributions records index it))

section Contributions

variable {tables : LabelTables} {records : List Record} {it : InstanceTypeID}
variable {claims : List ResourceClaimAllocationMetadata} {device : DeviceAllocationMetadata}

variable {topology : Requirements} {index : Nat}

theorem mem_recordedTopologies : topology ∈ recordedTopologies records ↔
      ∃ entry ∈ records, entry.2.deviceWithID.topologyRequirements = some topology := by
  constructor
  · rintro ⟨device, member, found⟩
    obtain ⟨entry, inRecords, rfl⟩ := mem_map.mp member
    exact ⟨entry, inRecords, found⟩
  · rintro ⟨entry, inRecords, found⟩
    exact ⟨entry.2, mem_map_of_mem inRecords, found⟩

theorem mem_contributions :
    topology ∈ contributions records index it ↔ ∃ entry ∈ records, entry.1 = it ∧
      entry.2.claimIndex = index ∧ entry.2.deviceWithID.topologyRequirements = some topology := by
  simp [contributions, mem_recordedTopologies, and_assoc]

theorem contributions_concat_of_ne {other : InstanceTypeID}
    (different : ¬(it = other ∧ device.claimIndex = index ∧
      device.deviceWithID.topologyRequirements.isSome)) :
    contributions (records ++ [(it, device)]) index other = contributions records index other := by
  ext topology
  simp only [mem_contributions, mem_append, List.mem_singleton, or_and_right, exists_or,
    exists_eq_left]
  refine or_iff_left ?_
  rintro ⟨sameType, sameIndex, found⟩
  exact different ⟨sameType, sameIndex, by rw [found]; rfl⟩

theorem contributions_concat (found : device.deviceWithID.topologyRequirements = some topology) :
    contributions (records ++ [(it, device)]) device.claimIndex it =
      insert topology (contributions records device.claimIndex it) := by
  ext other
  simp [mem_contributions, or_and_right, exists_or, found, or_comm, eq_comm]

theorem Contributed.recordDevice (contributed : Contributed tables claims records)
    (regular : ∀ topology, device.deviceWithID.topologyRequirements = some topology →
      topology.Regular tables) :
    Contributed tables (claims.modify device.claimIndex (recordDevice tables it device))
      (records ++ [(it, device)]) := by
  intro index metadata isMetadata other
  rw [getElem?_modify] at isMetadata
  obtain ⟨before, isBefore, rfl⟩ := Option.map_eq_some_iff.mp isMetadata
  have known := contributed index before isBefore other
  by_cases same : device.claimIndex = index
  · subst same
    rw [if_pos rfl]
    unfold DynamicResources.recordDevice
    split
    · next absent =>
        rw [contributions_concat_of_ne (by simp [absent])]
        exact known
    · next topology found =>
        rw [GoMap.lookup_alter]
        split_ifs with isType
        · subst isType
          rw [contributions_concat found, partsOf_insert]
          exact known.add_values (regular topology found)
        · rw [contributions_concat_of_ne fun both => isType both.1.symm]
          exact known
  · rw [if_neg same, contributions_concat_of_ne fun both => same both.2.1]
    exact known

theorem Contributed.recordDevices (contributed : Contributed tables claims records)
    {taken : List DeviceAllocationMetadata}
    (regular : ∀ topology ∈ topologiesOf taken, topology.Regular tables) :
    Contributed tables (taken.foldl (fun claims device =>
      claims.modify device.claimIndex (DynamicResources.recordDevice tables it device)) claims)
      (records ++ taken.map fun device => (it, device)) := by
  induction taken generalizing claims records with
  | nil => simpa using contributed
  | cons device rest ih =>
    rw [map_cons, append_cons]
    refine ih (contributed.recordDevice fun topology found => ?_) ?_
    · exact regular topology ⟨device, by simp, found⟩
    · rintro topology ⟨other, member, found⟩
      exact regular topology ⟨other, by simp [member], found⟩

theorem MergesAll.sumContributed {metadata : ResourceClaimAllocationMetadata}
    (contributed : ∀ it, MergesAll tables ((metadata.contributedRequirements.lookup it).getD ∅)
      (partsOf (contributions records index it))) {start : Requirements} {parts : Set Requirement}
    (all : MergesAll tables start parts) :
    MergesAll tables (sumContributed tables start metadata)
      (parts ∪ {r | ∃ it, r ∈ partsOf (contributions records index it)}) := by
  have entries : ∀ entry ∈ metadata.contributedRequirements.entries,
      MergesAll tables entry.2 (partsOf (contributions records index entry.1)) := by
    intro entry member
    have known := contributed entry.1
    rw [GoMap.mem_entries_iff.mp member] at known
    exact known
  have merged := all.foldl_add_values entries
  have sameParts : {r | ∃ entry ∈ metadata.contributedRequirements.entries,
      r ∈ partsOf (contributions records index entry.1)} =
        {r | ∃ it, r ∈ partsOf (contributions records index it)} := by
    ext r
    constructor
    · rintro ⟨entry, -, isPart⟩
      exact ⟨entry.1, isPart⟩
    · rintro ⟨it, isPart⟩
      cases found : metadata.contributedRequirements.lookup it with
      | some own => exact ⟨⟨it, own⟩, GoMap.mem_entries_iff.mpr found, isPart⟩
      | none =>
        -- an instance type without an entry has no topologies
        have known := contributed it
        rw [found] at known
        exact absurd rfl (known.absent r.key (by simp) r isPart)
  rw [sameParts] at merged
  unfold DynamicResources.sumContributed GoMap.values
  rw [foldl_map]
  exact merged

theorem Contributed.total (contributed : Contributed tables claims records)
    (indexes : ∀ entry ∈ records, entry.2.claimIndex < claims.length) :
    MergesAll tables (claims.foldl (DynamicResources.sumContributed tables) ∅)
      (partsOf (recordedTopologies records)) := by
  have general : ∀ (todo done : List ResourceClaimAllocationMetadata) (sum : Requirements),
      claims = done ++ todo →
      MergesAll tables sum {r | ∃ index < done.length, ∃ it, r ∈ partsOf (contributions records index it)} →
      MergesAll tables (todo.foldl (DynamicResources.sumContributed tables) sum)
        {r | ∃ index < claims.length, ∃ it, r ∈ partsOf (contributions records index it)} := by
    intro todo
    induction todo with
    | nil =>
      rintro done sum rfl merged
      simpa using merged
    | cons metadata rest ih =>
      intro done sum split merged
      have isMetadata : claims[done.length]? = some metadata := by simp [split]
      refine ih (done ++ [metadata]) _ (by simp [split]) ?_
      have step := MergesAll.sumContributed (contributed done.length metadata isMetadata) merged
      have sameParts : {r | ∃ index < done.length, ∃ it, r ∈ partsOf (contributions records index it)} ∪
            {r | ∃ it, r ∈ partsOf (contributions records done.length it)} =
          {r | ∃ index < (done ++ [metadata]).length,
            ∃ it, r ∈ partsOf (contributions records index it)} := by
        ext r
        simp only [mem_union, mem_ofPred_eq, length_append, length_singleton,
          Nat.lt_succ_iff_lt_or_eq, or_and_right, exists_or, exists_eq_left]
      exact sameParts ▸ step
  have merged := general claims [] ∅ rfl (by simpa using MergesAll.empty tables)
  have sameParts : {r | ∃ index < claims.length, ∃ it, r ∈ partsOf (contributions records index it)} =
      partsOf (recordedTopologies records) := by
    ext r
    constructor
    · rintro ⟨index, -, it, topology, member, isPart⟩
      obtain ⟨entry, inRecords, -, -, found⟩ := mem_contributions.mp member
      exact ⟨topology, mem_recordedTopologies.mpr ⟨entry, inRecords, found⟩, isPart⟩
    · rintro ⟨topology, member, isPart⟩
      obtain ⟨entry, inRecords, found⟩ := mem_recordedTopologies.mp member
      exact ⟨entry.2.claimIndex, indexes entry inRecords, entry.1, topology,
        mem_contributions.mpr ⟨entry, inRecords, rfl, rfl, found⟩, isPart⟩
  exact sameParts ▸ merged

end Contributions

section Loop

variable {env : Environment} {tracker : AllocationTracker} {nodeClaim : NodeClaim}
variable {pools : List Pool} {claimData : List ClaimData} {start : Requirements}
variable {base : Set Requirements} {results : InstanceTypeResults}
variable {records : List Record} {it : InstanceTypeID}

/-- What the instance types so far have recorded: the topologies of all devices if
the start gathers some base, and what each claim contributes. -/
structure Recorded (env : Environment) (tracker : AllocationTracker) (nodeClaim : NodeClaim)
    (pools : List Pool) (claimData : List ClaimData) (start : Requirements)
    (base : Set Requirements) (results : InstanceTypeResults) (records : List Record) : Prop where
  length : results.claimMetadata.length = claimData.length
  indexes : ∀ entry ∈ records, entry.2.claimIndex < claimData.length
  offered : ∀ entry ∈ records,
    (searchContext env tracker nodeClaim entry.1).Offered pools entry.2.deviceWithID
  verdicts : ∀ key, results.deviceMatchesRequest.lookup key = some true →
    ∃ it, Satisfied env tracker nodeClaim pools claimData it key
  wanted : ∀ entry ∈ records, ∃ key, (entry.1, key) ∈ results.tested ∧
    key.deviceID = entry.2.deviceWithID.id ∧
      ∃ it, Satisfied env tracker nodeClaim pools claimData it key
  contributed : Contributed env.tables results.claimMetadata records
  devices : ∀ it ids, results.tracked.deviceIDsByIT.lookup it = some ids → ∀ id ∈ ids,
    ∃ entry ∈ records, entry.1 = it ∧ entry.2.deviceWithID.id = id
  gathered : Sensible env.tables (base ∪ recordedTopologies records) →
    Gathered env.tables start base →
      Gathered env.tables results.requirements (base ∪ recordedTopologies records)

theorem recordedTopologies_append (taken : List DeviceAllocationMetadata) :
    recordedTopologies (records ++ taken.map fun device => (it, device)) =
      recordedTopologies records ∪ topologiesOf taken := by
  ext topology
  simp only [mem_recordedTopologies, topologiesOf, mem_append, mem_map, or_and_right,
    exists_or, mem_union, mem_ofPred_eq]
  refine or_congr_right ⟨?_, ?_⟩
  · rintro ⟨entry, ⟨device, member, rfl⟩, found⟩
    exact ⟨device, member, found⟩
  · rintro ⟨device, member, found⟩
    exact ⟨_, ⟨device, member, rfl⟩, found⟩

theorem mergesAll_addTopology {tables : LabelTables} {taken : List DeviceAllocationMetadata}
    (regular : ∀ topology ∈ topologiesOf taken, topology.Regular tables) {start : Requirements}
    {parts : Set Requirement} (all : MergesAll tables start parts) :
    MergesAll tables (taken.foldl (fun requirements device =>
      addTopology tables requirements device.deviceWithID) start)
      (parts ∪ partsOf (topologiesOf taken)) := by
  induction taken generalizing start parts with
  | nil => simpa [topologiesOf, partsOf] using all
  | cons device rest ih =>
    have restRegular : ∀ topology ∈ topologiesOf rest, topology.Regular tables := by
      rintro topology ⟨other, member, found⟩
      exact regular topology ⟨other, by simp [member], found⟩
    cases found : device.deviceWithID.topologyRequirements with
    | none =>
      have same : topologiesOf (device :: rest) = topologiesOf rest := by
        ext topology
        simp [topologiesOf, found]
      rw [same, foldl_cons, addTopology, found]
      exact ih restRegular all
    | some topology =>
      have more : topologiesOf (device :: rest) = insert topology (topologiesOf rest) := by
        ext other
        simp [topologiesOf, found, eq_comm]
      have step := ih restRegular (all.add_values (regular topology (more ▸ mem_insert _ _)))
      rw [more, partsOf_insert, foldl_cons, addTopology, found, union_comm (partsOf _),
        ← union_assoc]
      exact step

theorem startSearch_narrowed (base : Set Requirements) (pollsLeft : Nat) :
    (startSearch env nodeClaim claimData pools results it pollsLeft).Narrowed
      (searchContext env tracker nodeClaim it) results.requirements base := by
  have nothing : (startSearch env nodeClaim claimData pools results it
      pollsLeft).allocatedDevicesMetadata = [] := rfl
  unfold Search.Narrowed
  rw [nothing, topologiesOf_nil, union_empty]
  exact fun _ => id

section

variable (recorded : Recorded env tracker nodeClaim pools claimData start base results records)
include recorded

theorem Recorded.skip {skipped : InstanceTypeResults}
    (sameTracked : skipped.tracked = results.tracked)
    (sameMetadata : skipped.claimMetadata = results.claimMetadata)
    (grows : results.tested ⊆ skipped.tested)
    (verdicts : ∀ key, skipped.deviceMatchesRequest.lookup key = some true →
      ∃ it, Satisfied env tracker nodeClaim pools claimData it key)
    (gathered : Sensible env.tables (base ∪ recordedTopologies records) →
      Gathered env.tables start base →
        Gathered env.tables skipped.requirements (base ∪ recordedTopologies records)) :
    Recorded env tracker nodeClaim pools claimData start base skipped records where
  length := sameMetadata ▸ recorded.length
  indexes := recorded.indexes
  offered := recorded.offered
  verdicts := verdicts
  wanted entry member := by
    obtain ⟨key, isTested, facts⟩ := recorded.wanted entry member
    exact ⟨key, grows isTested, facts⟩
  contributed := sameMetadata ▸ recorded.contributed
  devices := sameTracked ▸ recorded.devices
  gathered := gathered

theorem Recorded.record {found : Search} (grows : results.tested ⊆ found.tested)
    (verdicts : ∀ key, found.deviceMatchesRequest.lookup key = some true →
      ∃ it, Satisfied env tracker nodeClaim pools claimData it key)
    (narrowed : found.Narrowed (searchContext env tracker nodeClaim it) results.requirements
      (base ∪ recordedTopologies records))
    (regular : ∀ topology ∈ topologiesOf found.allocatedDevicesMetadata,
      topology.Regular env.tables)
    (taken : ∀ device ∈ found.allocatedDevicesMetadata,
      (searchContext env tracker nodeClaim it).Offered pools device.deviceWithID ∧
        device.claimIndex < claimData.length ∧ ∃ key, (it, key) ∈ found.tested ∧
          key.deviceID = device.deviceWithID.id ∧
            ∃ it, Satisfied env tracker nodeClaim pools claimData it key) :
    Recorded env tracker nodeClaim pools claimData start base
      (recordInstanceType (searchContext env tracker nodeClaim it) results found)
      (records ++ found.allocatedDevicesMetadata.map fun device => (it, device)) where
  length := by
    refine Eq.trans ?_ recorded.length
    exact length_recordDevices _ _ _
  indexes := forall_mem_append.mpr
    ⟨recorded.indexes, forall_mem_map.mpr fun device member => (taken device member).2.1⟩
  offered := forall_mem_append.mpr
    ⟨recorded.offered, forall_mem_map.mpr fun device member => (taken device member).1⟩
  verdicts := verdicts
  wanted := forall_mem_append.mpr ⟨fun entry member => by
      obtain ⟨key, isTested, facts⟩ := recorded.wanted entry member
      exact ⟨key, grows isTested, facts⟩,
    forall_mem_map.mpr fun device member => (taken device member).2.2⟩
  contributed := recorded.contributed.recordDevices regular
  devices := by
    intro other ids listed id member
    by_cases same : other = it
    · subst same
      obtain rfl := Option.some.inj ((AList.lookup_insert _).symm.trans listed)
      obtain ⟨device, inTaken, rfl⟩ := mem_map.mp member
      exact ⟨(other, device), by simp [inTaken], rfl, rfl⟩
    · obtain ⟨entry, inRecords, facts⟩ := recorded.devices other ids
        ((AList.lookup_insert_ne same).symm.trans listed) id member
      exact ⟨entry, by simp [inRecords], facts⟩
  gathered := by
    rw [recordedTopologies_append, ← union_assoc]
    intro sensible startGathered
    have gathered := narrowed sensible
      (recorded.gathered (sensible.mono subset_union_left) startGathered)
    refine gathered.of_merges ?_
    have again := gathered.merges.add_values (mergesAll_addTopology regular (MergesAll.empty env.tables))
    have sameParts : partsOf (base ∪ recordedTopologies records ∪
          topologiesOf found.allocatedDevicesMetadata) ∪
        (∅ ∪ partsOf (topologiesOf found.allocatedDevicesMetadata)) =
          partsOf (base ∪ recordedTopologies records ∪
            topologiesOf found.allocatedDevicesMetadata) := by
      rw [empty_union]
      exact union_eq_left.mpr (partsOf_mono subset_union_right)
    exact sameParts ▸ again

theorem Recorded.step (sliced : ∀ pool ∈ pools, pool.Sliced env.tables)
    (offers : Offers env tracker nodeClaim pools claimData)
    (regular : ∀ it dw, (searchContext env tracker nodeClaim it).Offered pools dw →
      ∀ topology, dw.topologyRequirements = some topology → topology.Regular env.tables)
    {results' : InstanceTypeResults}
    (done : allocateInstanceType env tracker nodeClaim claimData pools results it = .ok results') :
    ∃ records', Recorded env tracker nodeClaim pools claimData start base results' records' := by
  have outcome := @startSearch_outcome _ _ _ results _ _ it
    (fun key => ∃ it, Satisfied env tracker nodeClaim pools claimData it key) sliced offers
    recorded.verdicts fun claim inClaims request inRequests dw offered isMatch =>
      ⟨it, dw, offered, rfl, request.1, requestAt_of_mem_zipIdx inClaims inRequests dw.id,
        deviceMatchesSelectors_iff_satisfies.mp isMatch⟩
  obtain ⟨pollsLeft, rfl | ⟨found, success, rfl⟩ | ⟨failed, failure, rfl⟩⟩ :=
    allocateInstanceType_eq_ok done
  · exact ⟨records, recorded.skip rfl rfl (List.Subset.refl _) recorded.verdicts recorded.gathered⟩
  · have searched := outcome pollsLeft
    rw [success] at searched
    obtain ⟨picks, isSlots, follows⟩ := searched.found rfl
    have devices : ∀ device ∈ found.allocatedDevicesMetadata,
        (searchContext env tracker nodeClaim it).Offered pools device.deviceWithID ∧
          device.claimIndex < claimData.length ∧ ∃ key, (it, key) ∈ found.tested ∧
            key.deviceID = device.deviceWithID.id ∧
              ∃ it, Satisfied env tracker nodeClaim pools claimData it key := by
      rw [follows.metadata]
      refine forall_mem_map.mpr fun pick member => ?_
      have fits := follows.fits pick member
      obtain ⟨claim, inClaims, isIndex, -⟩ :=
        Search.mem_slotsOfClaims (isSlots ▸ mem_map_of_mem member)
      exact ⟨fits.offered, isIndex.trans_lt (snd_lt_of_mem_zipIdx inClaims), _, fits.recalled.2, rfl,
        fits.recalled.1⟩
    refine ⟨_, recorded.record searched.logged.tested searched.verdicts
      ((startSearch_narrowed _ pollsLeft).follows follows) ?_ devices⟩
    rintro topology ⟨device, member, isTopology⟩
    exact regular it _ (devices device member).1 topology isTopology
  · have searched := outcome pollsLeft
    rw [failure] at searched
    refine ⟨records, recorded.skip rfl rfl searched.logged.tested searched.verdicts
      fun sensible startGathered => ?_⟩
    have gathered := (startSearch_narrowed (base ∪ recordedTopologies records) pollsLeft).restored
      (searched.failed rfl)
    have nothing : failed.allocatedDevicesMetadata = [] := (searched.failed rfl).tentative.metadata
    unfold Search.Narrowed at gathered
    rw [nothing, topologiesOf_nil, union_empty] at gathered
    exact gathered sensible (recorded.gathered sensible startGathered)

end

end Loop

end Kraftsman.DynamicResources
