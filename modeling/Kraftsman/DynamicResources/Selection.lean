import Kraftsman.DynamicResources.AllMode

/-!
Contract: the devices of an allocation match the requests they were taken for.

Owns: the names of published devices, when the cached verdict on a template
device holds of its namesakes, and that selection is sound.
Does not own: how many devices are selected.
-/

namespace Kraftsman.DynamicResources

open Apis Data Scheduling FallibleLoop Loop List

def DistinctDevices (tables : LabelTables) (pools : List Pool) : Prop :=
  ∀ left ∈ slicedDevices tables pools, ∀ right ∈ slicedDevices tables pools,
    left.id = right.id → left = right

section Names

variable {tables : LabelTables} {pools : List Pool}

variable {requirements : Requirements} {nodeName : String}

theorem slicedDevices_filterPools_subset :
    slicedDevices tables (filterPools tables pools requirements nodeName) ⊆
      slicedDevices tables pools := by
  intro dw member
  obtain ⟨narrowed, inNarrowed, inPool⟩ := mem_flatMap.mp member
  obtain ⟨pool, inPools, filtered⟩ := mem_filterMap.mp inNarrowed
  obtain ⟨-, sameKey, slices⟩ := filterPool_eq_some filtered
  rw [sameKey, slices] at inPool
  obtain ⟨slice, inSlices, inSlice⟩ := mem_flatMap.mp inPool
  exact mem_flatMap.mpr
    ⟨pool, inPools, mem_flatMap.mpr ⟨slice, mem_of_mem_filter inSlices, inSlice⟩⟩

theorem DistinctDevices.filterPools (distinct : DistinctDevices tables pools) :
    DistinctDevices tables (filterPools tables pools requirements nodeName) :=
  fun left inLeft right inRight same => distinct left (slicedDevices_filterPools_subset inLeft) right
    (slicedDevices_filterPools_subset inRight) same

variable {key : PoolKey} {slices : List ResourceSlice} {dw : DeviceWithID}

theorem PoolBuilder.build_names {builder : PoolBuilder} {pool : Pool}
    (built : builder.build tables key = some pool) : pool.key = key ∧
      ((pool.slices.flatMap (sliceDevices tables key)).map fun dw => dw.device.name).Nodup := by
  unfold build at built
  dsimp only at built
  split_ifs at built with invalid
  · cases built
    exact ⟨rfl, nodup_nil⟩
  · cases built
    simp only [Bool.not_eq_true', Bool.not_eq_false, Bool.and_eq_true, decide_eq_true_eq] at invalid
    exact ⟨rfl, invalid.1.1.1⟩

theorem poolKey_of_mem_sliceDevices (member : dw ∈ slices.flatMap (sliceDevices tables key)) :
    dw.id.poolKey = key ∧ dw.id.device = dw.device.name := by
  obtain ⟨slice, -, inSlice⟩ := mem_flatMap.mp member
  obtain ⟨device, -, rfl⟩ := mem_map.mp inSlice
  exact ⟨rfl, rfl⟩

theorem distinct_gatherPools :
    DistinctDevices tables (gatherPools tables slices requirements nodeName) := by
  intro left inLeft right inRight sameID
  obtain ⟨leftPool, inLeftPools, inLeftPool⟩ := mem_flatMap.mp inLeft
  obtain ⟨rightPool, inRightPools, inRightPool⟩ := mem_flatMap.mp inRight
  obtain ⟨leftEntry, isLeftEntry, leftBuilt⟩ := mem_filterMap.mp inLeftPools
  obtain ⟨rightEntry, isRightEntry, rightBuilt⟩ := mem_filterMap.mp inRightPools
  obtain ⟨leftKey, names⟩ := PoolBuilder.build_names leftBuilt
  have rightKey := (PoolBuilder.build_names rightBuilt).1
  have leftNamed := poolKey_of_mem_sliceDevices inLeftPool
  have rightNamed := poolKey_of_mem_sliceDevices inRightPool
  -- one key has one builder
  have sameKey : leftEntry.1 = rightEntry.1 := by
    rw [← leftKey, ← rightKey, ← leftNamed.1, ← rightNamed.1, sameID]
  have sameBuilder : leftEntry.2 = rightEntry.2 := by
    have leftFound := GoMap.mem_entries_iff.mp isLeftEntry
    have rightFound := GoMap.mem_entries_iff.mp isRightEntry
    rw [sameKey] at leftFound
    exact Option.some.inj (leftFound.symm.trans rightFound)
  have samePool : leftPool = rightPool := by
    rw [sameKey, sameBuilder] at leftBuilt
    exact Option.some.inj (leftBuilt.symm.trans rightBuilt)
  subst samePool
  rw [leftKey] at inLeftPool inRightPool
  apply inj_on_of_nodup_map names inLeftPool inRightPool
  rw [← leftNamed.2, ← rightNamed.2, sameID]

theorem slicedDevices_perm_mem {other : List Pool} (perm : other.Perm pools) :
    dw ∈ slicedDevices tables other ↔ dw ∈ slicedDevices tables pools := by
  simp only [slicedDevices, mem_flatMap, perm.mem_iff]

end Names

def Allocator.CacheDistinct (env : Environment) (allocator : Allocator) : Prop :=
  ∀ nodeClaim pools, allocator.poolCache.lookup nodeClaim = some pools →
    DistinctDevices env.tables pools

variable {env : Environment} {allocator : Allocator} {nodeClaim : NodeClaim}
variable {claims : List ResourceClaim}

theorem Allocator.CacheDistinct.visiblePools (cache : allocator.CacheDistinct env) (oracle : Oracle)
    (nodeClaim : NodeClaim) (requirements : Requirements) :
    DistinctDevices env.tables (visiblePools env allocator oracle nodeClaim requirements) := by
  unfold DynamicResources.visiblePools
  split
  · next cached found => exact (cache nodeClaim.id cached found).filterPools
  · intro left inLeft right inRight
    rw [slicedDevices_perm_mem (oracle.poolOrder_perm _)] at inLeft inRight
    exact distinct_gatherPools left inLeft right inRight

theorem allocate_distinct {oracle : Oracle} {result : AllocationResult} {allocation : Allocation}
    (cache : allocator.CacheDistinct env)
    (done : allocate env allocator oracle nodeClaim claims = .ok result)
    (found : result.allocation = some allocation) :
    DistinctDevices env.tables allocation.filteredPools := by
  obtain ⟨classified, claimData, results, stages⟩ := allocate_evaluated done found
  have finished := stages.finished
  unfold finishAllocation at finished
  split_ifs at finished
  cases finished
  cases found
  exact (cache.visiblePools oracle nodeClaim classified.requirements).filterPools

theorem Loop.reaches_distinct {Input : AllocationTracker → NodeClaim → List ResourceClaim → Prop}
    {allocatedState : AllocatedDeviceState} {loop : Loop}
    (reached : Reaches (apply env) (Loop.Enabled Input) (start env allocatedState) loop) :
    loop.allocator.CacheDistinct env := by
  let distinct : Loop → Prop := fun loop => loop.allocator.CacheDistinct env ∧
    ∀ entry ∈ loop.computed, DistinctDevices env.tables entry.2.filteredPools
  have initial : distinct (start env allocatedState) :=
    ⟨fun nodeClaim pools found => absurd found (by simp [start, newAllocator]), by
      simp [start]⟩
  refine (reached.invariant distinct initial ?_).1
  rintro state event state' ⟨cache, computed⟩ enabled done
  cases event with
  | allocate oracle nodeClaim claims =>
    rw [apply] at done
    split at done
    · exact Except.ok.inj done ▸ ⟨cache, computed⟩
    · next result isResult =>
        cases done
        refine ⟨cache, fun entry member => ?_⟩
        rcases mem_append.mp member with old | new
        · exact computed entry old
        · obtain ⟨allocation, found, rfl⟩ := mem_map.mp new
          exact allocate_distinct cache isResult (Option.mem_toList.mp found)
  | commit allocation =>
    obtain ⟨allocator, committed, rfl⟩ := map_eq_ok.mp done
    refine ⟨?_, computed⟩
    obtain ⟨tracker, -, rest⟩ := bind_eq_ok.mp committed
    obtain ⟨claims, -, rfl⟩ := map_eq_ok.mp rest
    intro nodeClaim pools found
    rw [GoMap.lookup_insert_eq] at found
    split_ifs at found
    · exact Option.some.inj found ▸ computed _ enabled
    · exact cache nodeClaim pools found
  | release nodeClaimID instanceTypes =>
    obtain ⟨allocator, released, rfl⟩ := map_eq_ok.mp done
    refine ⟨?_, computed⟩
    obtain ⟨tracker, -, rfl⟩ := map_eq_ok.mp released
    exact cache

def Usable (pools : List Pool) (nodeClaim : NodeClaim) (it : InstanceTypeID) (dw : DeviceWithID) :
    Prop :=
  dw ∈ pools.flatMap Pool.devices ∨ dw ∈ templatesOf nodeClaim it

/-- The instance types whose verdicts a request can meet again on the last one;
requests for all devices meet none. -/
def verdictSources (before : List InstanceTypeID) (it : InstanceTypeID) :
    DeviceAllocationMode → List InstanceTypeID
  | .exactCount => before ++ [it]
  | .all => [it]

/-- What a template device satisfies, its namesakes satisfy on every later instance
type, if the search has asked for the verdict on both. -/
def Steady (env : Environment) (nodeClaim : NodeClaim) (claimData : List ClaimData)
    (tested : List (InstanceTypeID × MatchKey)) : Prop :=
  ∀ before it after, nodeClaim.instanceTypes = before ++ it :: after →
    ∀ key rd, (it, key) ∈ tested → requestAt claimData key = some rd →
      ∀ earlier ∈ verdictSources before it rd.allocationMode, (earlier, key) ∈ tested →
        ∀ known ∈ templatesOf nodeClaim earlier, ∀ dw ∈ templatesOf nodeClaim it,
          known.id = key.deviceID → dw.id = key.deviceID →
            deviceSatisfies env rd.selectors known = true → deviceSatisfies env rd.selectors dw = true

/-- Each identifier stands for a usable device, and every such device satisfies
the selectors of the request and of its class. -/
def Selected (env : Environment) (pools : List Pool) (nodeClaim : NodeClaim) (it : InstanceTypeID)
    (request : DeviceRequest) (ids : List DeviceID) : Prop :=
  ∃ req, request.exactly = some req ∧ ∀ id ∈ ids,
    (∃ dw, Usable pools nodeClaim it dw ∧ dw.id = id) ∧
      ∀ dw, Usable pools nodeClaim it dw → dw.id = id →
        deviceSatisfies env (requestSelectors env req) dw = true

variable {claimData : List ClaimData}

section Verdicts

variable {env : Environment} {tracker : AllocationTracker} {nodeClaim : NodeClaim}
variable {pools : List Pool} {it : InstanceTypeID}

theorem usable_iff_offered (sliced : ∀ pool ∈ pools, pool.Sliced env.tables) {dw : DeviceWithID} :
    Usable pools nodeClaim it dw ↔ (searchContext env tracker nodeClaim it).Offered pools dw := by
  unfold Usable SearchContext.Offered
  rw [devices_eq_slicedDevices sliced]
  rfl

theorem satisfies_of_namesake {earlier : InstanceTypeID} {selectors : List String}
    (distinct : DistinctDevices env.tables pools) {known dw : DeviceWithID}
    (offered : (searchContext env tracker nodeClaim earlier).Offered pools known)
    (usable : (searchContext env tracker nodeClaim it).Offered pools dw) (sameID : known.id = dw.id)
    (satisfied : deviceSatisfies env selectors known)
    (agrees : known ∈ templatesOf nodeClaim earlier → dw ∈ templatesOf nodeClaim it →
      deviceSatisfies env selectors dw) : deviceSatisfies env selectors dw := by
  rcases offered with knownPool | knownTemplate <;> rcases usable with pool | template
  · exact distinct known knownPool dw pool sameID ▸ satisfied
  · have inCluster := template_of_mem_slicedDevices knownPool
    rw [sameID, template_of_mem_templateDevices template] at inCluster
    cases inCluster
  · have inCluster := template_of_mem_slicedDevices pool
    rw [← sameID, template_of_mem_templateDevices knownTemplate] at inCluster
    cases inCluster
  · exact agrees knownTemplate template

/-- A device taken for a request has a namesake that satisfies it on an instance
type whose verdict it can meet. -/
theorem Search.Fills.namesake {before : List InstanceTypeID}
    {tested : List (InstanceTypeID × MatchKey)} {cd : ClaimData × Nat}
    (inClaims : cd ∈ claimData.zipIdx) {rd : RequestData × Nat}
    (inRequests : rd ∈ cd.1.requests.zipIdx) {kept : InstanceTypeID → Prop}
    {request : DeviceRequest} {req : ExactDeviceRequest} {block : List DeviceAllocationMetadata}
    (validated : rd.1.Validated env pools (templateDevicesByIT nodeClaim) kept request req)
    (fills : Search.Fills (searchContext env tracker nodeClaim it) pools
      (fun key => Recalled env tracker nodeClaim pools claimData (before ++ [it]) tested key ∧
        (it, key) ∈ tested) cd.2 rd.2 rd.1 block)
    {taken : DeviceAllocationMetadata} (member : taken ∈ block) :
    ∃ earlier ∈ verdictSources before it rd.1.allocationMode,
      (earlier, ⟨taken.deviceWithID.id, cd.2, rd.2⟩) ∈ tested ∧ ∃ known,
        (searchContext env tracker nodeClaim earlier).Offered pools known ∧
          known.id = taken.deviceWithID.id ∧ deviceSatisfies env rd.1.selectors known := by
  obtain ⟨⟨earlier, isEarlier, isTested, known, offered, sameID, other, isOther, satisfied⟩, asked⟩ :=
    fills.accepted taken member
  cases mode : rd.1.allocationMode with
  | exactCount =>
    rw [requestAt_of_mem_zipIdx inClaims inRequests] at isOther
    cases isOther
    exact ⟨earlier, isEarlier, isTested, known, offered, sameID, satisfied⟩
  | all =>
    refine ⟨it, by simp [verdictSources], asked, taken.deviceWithID, fills.candidate taken member,
      rfl, ?_⟩
    -- the devices of the request were collected by evaluating each of them
    have listed : taken.deviceWithID ∈ allModeDevices (searchContext env tracker nodeClaim it) rd.1 :=
      fills.all mode ▸ mem_map_of_mem member
    rw [validated.allocationMode] at mode
    rw [validated.selectors]
    rcases mem_append.mp listed with inCluster | template
    · rw [validated.allDevices, inClusterShare, mode] at inCluster
      exact (mem_filter.mp inCluster).2
    · change taken.deviceWithID ∈ (rd.1.allTemplateDevicesByIT.lookup it).getD [] at template
      by_cases isKept : kept it
      · rw [validated.takes it isKept, templateShare, mode] at template
        exact (mem_filter.mp template).2
      · rw [validated.drops it isKept] at template
        cases template

end Verdicts

/-- Requests get devices that match them if namesakes agree. -/
theorem selected_of_steady {tracker : AllocationTracker} {pools : List Pool} {it : InstanceTypeID}
    {before after : List InstanceTypeID} (order : nodeClaim.instanceTypes = before ++ it :: after)
    (sliced : ∀ pool ∈ pools, pool.Sliced env.tables) (distinct : DistinctDevices env.tables pools)
    {tested : List (InstanceTypeID × MatchKey)} (steady : Steady env nodeClaim claimData tested)
    {claim : ResourceClaim} {cd : ClaimData × Nat} (inData : cd ∈ claimData.zipIdx)
    (isClaim : validateClaimRequest env claim pools (templateDevicesByIT nodeClaim) = .ok cd.1)
    {blocks : List (List DeviceAllocationMetadata)}
    (fills : Search.FillsRequests (searchContext env tracker nodeClaim it) pools
      (fun key => Recalled env tracker nodeClaim pools claimData (before ++ [it]) tested key ∧
        (it, key) ∈ tested) cd.2 cd.1.requests.zipIdx blocks) :
    List.Forall₂ (Selected env pools nodeClaim it) claim.requests
      (blocks.map fun block => block.map fun taken => taken.deviceWithID.id) := by
  obtain ⟨reqs, validated⟩ := validateClaimRequest_eq_ok isClaim
  rw [forall₂_map_right_iff]
  refine (Search.FillsRequests.of_validated validated.requests fills).imp ?_
  rintro request block ⟨rd, inRequestData, req, isRequest, requestFills⟩
  refine ⟨req, isRequest.exactly, fun id member => ?_⟩
  obtain ⟨taken, inBlock, rfl⟩ := mem_map.mp member
  refine ⟨⟨taken.deviceWithID, (usable_iff_offered sliced).mpr (requestFills.candidate taken inBlock),
    rfl⟩, fun dw usable sameID => ?_⟩
  obtain ⟨earlier, isEarlier, isTested, known, offered, knownID, satisfied⟩ :=
    requestFills.namesake inData inRequestData isRequest inBlock
  rw [← isRequest.selectors]
  refine satisfies_of_namesake distinct offered ((usable_iff_offered sliced).mp usable)
    (knownID.trans sameID.symm) satisfied fun knownTemplate template => ?_
  exact steady before it after order _ rd.1 (requestFills.accepted taken inBlock).2
    (requestAt_of_mem_zipIdx inData inRequestData _) earlier isEarlier isTested known knownTemplate
    dw template knownID sameID satisfied

/-- Devices that divide up, claim by claim and request by request, in the numbers
that the search takes, and match the requests. -/
def Matched (env : Environment) (tracker : AllocationTracker) (pools : List Pool)
    (nodeClaim : NodeClaim) (it : InstanceTypeID) (claims : List ResourceClaim)
    (ids : List DeviceID) : Prop :=
  ∃ blocks : List (List (List DeviceID)), ids = blocks.flatten.flatten ∧
    List.Forall₂ (fun claim claimBlocks =>
      claimBlocks.map length = requestSlots env tracker pools nodeClaim it claim ∧
        List.Forall₂ (Selected env pools nodeClaim it) claim.requests claimBlocks) claims blocks

/-- Throughout a loop: if template devices that share an identifier agree on the
requests they are asked about, every device that an allocation has for a surviving
instance type satisfies, as published, the selectors of the request it was taken
for. -/
theorem allocated_devices_match (env : Environment) (allocatedState : AllocatedDeviceState)
    (loop : Loop)
    (reached : Reaches (Loop.apply env) (Loop.Enabled Loop.AnyInput) (Loop.start env allocatedState)
      loop)
    (oracle : Oracle) (nodeClaim : NodeClaim) (claims : List ResourceClaim)
    (result : AllocationResult) (allocation : Allocation) (classified : ClassificationResult)
    (done : allocate env loop.allocator oracle nodeClaim claims = .ok result)
    (found : result.allocation = some allocation)
    (isClassified : classifyClaims env loop.allocator nodeClaim claims = .ok classified)
    (steady : ∀ claimData results, Evaluated env loop.allocator oracle nodeClaim claims result
      classified claimData results → Steady env nodeClaim claimData results.tested)
    (it : InstanceTypeID) (survives : it ∈ result.instanceTypes) :
    ∃ ids, allocation.deviceIDsByIT.lookup it = some ids ∧
      Matched env loop.tracker
        (visiblePools env loop.allocator oracle nodeClaim classified.requirements) nodeClaim it
        (claims.filter (needsAllocation env loop.allocator)) ids := by
  obtain ⟨classified', claimData, results, stages⟩ := allocate_evaluated done found
  obtain rfl := Except.ok.inj (isClassified.symm.trans stages.isClassified)
  obtain ⟨before, after, blocks, order, laid⟩ := stages.laidOut found survives
  have sliced := @sliced_visiblePools env nodeClaim loop.allocator oracle classified.requirements
  have distinct := (reaches_distinct reached).visiblePools oracle nodeClaim classified.requirements
  refine ⟨_, laid.deviceIDs, blocks.map fun claimBlocks => claimBlocks.map fun block =>
    block.map fun taken => taken.deviceWithID.id, by rw [map_flatten, map_flatten], ?_⟩
  rw [← classifyClaims_unallocated isClassified, forall₂_map_right_iff]
  refine (Search.FillsClaims.of_validated (validateClaims_eq_ok stages.validated) laid.fills).imp ?_
  rintro claim claimBlocks ⟨cd, inData, isClaim, fills⟩
  exact ⟨(claim_exact_iff isClaim sliced sliced fills).1,
    selected_of_steady order sliced distinct (steady claimData results stages) inData isClaim fills⟩

def modelSlice (models : List (String × String)) : ResourceSlice where
  driver := "gpu.example.com"
  pool := "node"
  devices := models.map fun model =>
    { name := model.1, attributes := GoMap.ofList [("model", .stringValue model.2)] }

/-- The name of a promised device. -/
def modelDevice : DeviceID :=
  { driver := "gpu.example.com", pool := "node", device := "gpu-0", template := true }

/-- Instance types that promise devices of some models under some names. -/
def modelNodeClaim (new old : List (String × String)) : NodeClaim where
  id := "default-1"
  instanceTypes := ["new", "old"]
  resourceSlices := GoMap.ofList [("new", [modelSlice new]), ("old", [modelSlice old])]

def modelEnvironment : Environment :=
  { bareEnvironment with
    deviceClass := fun _ => some [{ cel := some "device.model == 'h100'" }]
    deviceMatches := fun _ _ device =>
      some (device.attributes.lookup "model" = some (.stringValue "h100")) }

/-- Two of the devices promised differ between the instance types, which goes
unnoticed since the verdict on the others is enough. -/
def agreeingNodeClaim : NodeClaim :=
  modelNodeClaim [("gpu-1", "t4"), ("gpu-0", "h100"), ("gpu-2", "h100")]
    [("gpu-0", "h100"), ("gpu-1", "h100"), ("gpu-2", "t4")]

theorem Evaluated.of_seen {oracle : Oracle} {result : AllocationResult}
    {classified : ClassificationResult} {results : InstanceTypeResults}
    {P : InstanceTypeResults → Prop} [DecidablePred P]
    (stages : Evaluated env allocator oracle nodeClaim claims result classified claimData results)
    (seen : (classifyClaims env allocator nodeClaim claims).toOption.all fun classified =>
      let pools := visiblePools env allocator oracle nodeClaim classified.requirements
      (validateClaims env pools nodeClaim classified.unallocatedClaims).toOption.all fun claimData =>
        (nodeClaim.instanceTypes.foldlM (allocateInstanceType env allocator.allocationTracker
          nodeClaim claimData pools)
          { tracked := { nodeClaimID := nodeClaim.id }
            claimMetadata := claimData.map fun _ => { nodeClaimID := nodeClaim.id }
            requirements := classified.requirements
            pollsLeft := oracle.polls }).toOption.all fun results => P results) : P results := by
  simpa only [stages.isClassified, stages.validated, stages.evaluated, Except.toOption,
    Option.all_some, decide_eq_true_eq] using seen

theorem allocated_devices_match_model : ∃ result allocation classified,
    allocate modelEnvironment (Loop.start modelEnvironment {}).allocator patientOracle
      agreeingNodeClaim [gpuClaim] = .ok result ∧ result.allocation = some allocation ∧
    classifyClaims modelEnvironment (Loop.start modelEnvironment {}).allocator agreeingNodeClaim
      [gpuClaim] = .ok classified ∧ "old" ∈ result.instanceTypes ∧
    allocation.deviceIDsByIT.lookup "old" = some [modelDevice] ∧
    Matched modelEnvironment (Loop.start modelEnvironment {}).tracker
      (visiblePools modelEnvironment (Loop.start modelEnvironment {}).allocator patientOracle
        agreeingNodeClaim classified.requirements) agreeingNodeClaim "old"
      ([gpuClaim].filter (needsAllocation modelEnvironment (Loop.start modelEnvironment {}).allocator))
      [modelDevice] := by
  obtain ⟨result, allocation, done, found, survives, devices⟩ : ∃ result allocation,
      allocate modelEnvironment (start modelEnvironment {}).allocator patientOracle agreeingNodeClaim
        [gpuClaim] = .ok result ∧ result.allocation = some allocation ∧
      "old" ∈ result.instanceTypes ∧
      allocation.deviceIDsByIT.lookup "old" = some [modelDevice] :=
    exists_of_allocated (by decide +kernel)
  obtain ⟨classified, isClassified⟩ := classifyClaims_of_allocate done found
  have steady : ∀ claimData results, Evaluated modelEnvironment (start modelEnvironment {}).allocator
      patientOracle agreeingNodeClaim [gpuClaim] result classified claimData results →
        Steady modelEnvironment agreeingNodeClaim claimData results.tested := by
    intro claimData results stages before it after _ key rd isTested _ earlier _ wasTested known
      knownTemplate dw template knownID sameID satisfied
    have agree := stages.of_seen (P := fun results => ∀ entry ∈ results.tested,
      ∀ other ∈ results.tested, other.2 = entry.2 → ∀ known ∈ templatesOf agreeingNodeClaim other.1,
        ∀ dw ∈ templatesOf agreeingNodeClaim entry.1, known.id = entry.2.deviceID →
          dw.id = entry.2.deviceID → known.device = dw.device) (by decide +kernel)
    have same := agree (it, key) isTested (earlier, key) wasTested rfl known knownTemplate dw template
      knownID sameID
    rwa [deviceSatisfies, same, knownID, ← sameID] at satisfied
  obtain ⟨ids, isIDs, matched⟩ := allocated_devices_match modelEnvironment {}
    (start modelEnvironment {}) .start patientOracle agreeingNodeClaim [gpuClaim] result allocation
    classified done found isClassified steady "old" survives
  obtain rfl := Option.some.inj (devices.symm.trans isIDs)
  exact ⟨result, allocation, classified, done, found, isClassified, survives, devices, matched⟩

/-- The verdict on a device is reused for its namesake on the second instance
type, which does not match and is allocated. -/
theorem namesake_is_allocated_unmatched :
    let nodeClaim := modelNodeClaim [("gpu-0", "h100")] [("gpu-0", "t4")]
    ∃ result allocation,
      allocate modelEnvironment (newAllocator modelEnvironment {}) patientOracle nodeClaim
        [gpuClaim] = .ok result ∧ result.allocation = some allocation ∧
      "old" ∈ result.instanceTypes ∧
      allocation.deviceIDsByIT.lookup "old" = some [modelDevice] ∧
      ∀ request ∈ gpuClaim.requests, ∀ req ∈ request.exactly, ∀ dw ∈ templatesOf nodeClaim "old",
        deviceSatisfies modelEnvironment (requestSelectors modelEnvironment req) dw = false := by
  exact exists_of_allocated (by decide +kernel)

end Kraftsman.DynamicResources
