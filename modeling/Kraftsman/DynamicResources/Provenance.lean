import Kraftsman.DynamicResources.Backtracking
import Kraftsman.DynamicResources.Validation

/-!
Contract: what a successful allocation is made of.

For each instance type it holds what one sound search has taken.

Owns: the candidates of validated requests, the invariant of the loop over
instance types, and the shape of a result.
Does not own: what a commit does with a result.
-/

namespace Kraftsman.DynamicResources

open Apis Data Scheduling Search FallibleLoop AList Except List

variable {env : Environment}

variable {dw : DeviceWithID} {nodeClaim : NodeClaim} {it : InstanceTypeID}
variable {allocator : Allocator} {claims : List ResourceClaim} {oracle : Oracle}
variable {result : AllocationResult} {allocation : Allocation}
variable {pools : List Pool} {claimData : List ClaimData}

def RequestData.AskedBy (requests : List DeviceRequest) (rd : RequestData) : Prop :=
  ∃ request ∈ requests, ∃ exactly, request.exactly = some exactly ∧
    rd.capacityRequests = exactly.capacity.getD ∅

def RequestData.Asked (claims : List ResourceClaim) (rd : RequestData) : Prop :=
  ∃ claim ∈ claims, rd.AskedBy claim.requests

/-- The devices of the All-mode requests are offered. -/
def Offers (env : Environment) (tracker : AllocationTracker) (nodeClaim : NodeClaim)
    (pools : List Pool) (claimData : List ClaimData) : Prop :=
  ∀ it, ∀ cd ∈ claimData, ∀ rd ∈ cd.requests,
    ∀ dw ∈ allModeDevices (searchContext env tracker nodeClaim it) rd,
      (searchContext env tracker nodeClaim it).Offered pools dw

section

variable (done : validateClaims env pools nodeClaim claims = .ok claimData)
include done

theorem validateClaims_eq_ok : List.Forall₂ (fun claim cd => validateClaimRequest env claim pools
      (templateDevicesByIT nodeClaim) = .ok cd) claims claimData := by
  induction claims generalizing claimData with
  | nil =>
    cases done
    exact .nil
  | cons claim rest ih =>
    rw [validateClaims] at done
    split at done
    · cases done
    · next own validated =>
        obtain ⟨others, restDone, rfl⟩ := map_eq_ok.mp done
        exact .cons validated (ih restDone)

theorem validateClaims_ids : claimData.map ClaimData.id = claims.map ResourceClaim.id := by
  have validated := validateClaims_eq_ok done
  clear done
  induction validated with
  | nil => rfl
  | cons own _ ih =>
    obtain ⟨reqs, ownValidated⟩ := validateClaimRequest_eq_ok own
    rw [map_cons, map_cons, ownValidated.id, ih]

theorem asked_of_validated : ∀ cd ∈ claimData, ∀ rd ∈ cd.requests, rd.Asked claims := by
  intro cd inData rd inRequests
  obtain ⟨claim, inClaims, isClaim⟩ := exists_related_of_mem_right (validateClaims_eq_ok done) inData
  obtain ⟨reqs, validated⟩ := validateClaimRequest_eq_ok isClaim
  obtain ⟨request, isRequest, req, own⟩ :=
    exists_related_of_mem_right validated.requests.related inRequests
  exact ⟨claim, inClaims, request, isRequest, req, own.exactly, own.capacityRequests⟩

theorem offers_of_validated (sliced : ∀ pool ∈ pools, pool.Sliced env.tables)
    (tracker : AllocationTracker) :
    Offers env tracker nodeClaim pools claimData := by
  intro it cd inData rd inRequests dw member
  obtain ⟨claim, inClaims, isClaim⟩ := exists_related_of_mem_right (validateClaims_eq_ok done) inData
  obtain ⟨reqs, validated⟩ := validateClaimRequest_eq_ok isClaim
  obtain ⟨request, isRequest, req, own⟩ :=
    exists_related_of_mem_right validated.requests.related inRequests
  rcases mem_append.mp member with inCluster | template
  · rw [own.allDevices, inClusterShare] at inCluster
    split at inCluster
    · cases inCluster
    · refine .inl (devices_eq_slicedDevices sliced ▸ ?_)
      exact mem_of_mem_filter inCluster
  · change dw ∈ (rd.allTemplateDevicesByIT.lookup it).getD [] at template
    by_cases isKept : wantedDevices env pools (templateDevicesByIT nodeClaim) it reqs ≤
        allocationResultsMaxSize
    · rw [own.takes it isKept, templateShare] at template
      split at template
      · cases template
      · exact .inr (mem_of_mem_filter template)
    · rw [own.drops it isKept] at template
      cases template

end

theorem lookup_templateDevicesByIT (nodeClaim : NodeClaim) (it : InstanceTypeID) :
    ((templateDevicesByIT nodeClaim).lookup it).getD [] =
      ((nodeClaim.resourceSlices.lookup it).map templateSliceDevices).getD [] := by
  unfold templateDevicesByIT
  rw [GoMap.lookup_rangeAlter]
  cases nodeClaim.resourceSlices.lookup it with
  | none => rfl
  | some slices =>
    simp only [Option.map_some, Option.getD_some]
    split_ifs with empty
    · exact (isEmpty_iff.mp empty).symm
    · rfl

theorem template_of_mem_templateSliceDevices {slices : List ResourceSlice}
    (member : dw ∈ templateSliceDevices slices) : dw.id.template := by
  obtain ⟨slice, -, inSlice⟩ := mem_flatMap.mp member
  obtain ⟨device, -, rfl⟩ := mem_map.mp inSlice
  rfl

section

variable (member : dw ∈ ((templateDevicesByIT nodeClaim).lookup it).getD [])
include member

theorem exists_of_mem_templateDevices : ∃ slices, dw ∈ templateSliceDevices slices := by
  rw [lookup_templateDevicesByIT] at member
  cases found : nodeClaim.resourceSlices.lookup it with
  | none => simp [found] at member
  | some slices =>
    rw [found] at member
    exact ⟨slices, member⟩

theorem template_of_mem_templateDevices : dw.id.template := by
  obtain ⟨slices, inSlices⟩ := exists_of_mem_templateDevices member
  exact template_of_mem_templateSliceDevices inSlices

end

/-- What an allocation has for one instance type. -/
@[ext]
structure Share where
  deviceIDs : Option (List DeviceID) := none
  counters : Option PoolCounters := none
  templateCounters : Option PoolCounters := none
  capacity : Option DeviceCapacities := none
  templateCapacity : Option DeviceCapacities := none
  templateTotals : Option PoolCounters := none

def TrackedAllocation.share (alloc : TrackedAllocation) (it : InstanceTypeID) : Share where
  deviceIDs := alloc.deviceIDsByIT.lookup it
  counters := alloc.counterConsumptionByIT.lookup it
  templateCounters := alloc.templateCounterConsumptionByIT.lookup it
  capacity := alloc.capacityConsumptionByIT.lookup it
  templateCapacity := alloc.templateCapacityConsumptionByIT.lookup it
  templateTotals := alloc.templateCounterTotalsByIT.lookup it

/-- The template budgets the tracker does not know yet. -/
def SearchContext.newTotals (ctx : SearchContext) : Option PoolCounters :=
  match ctx.templateRemainingCounters,
      ctx.tracker.templateRemainingForIT ctx.nodeClaim.id ctx.itID with
  | some totals, none => some totals
  | _, _ => none

def Tentative.share (ctx : SearchContext) (tentative : Tentative) : Share where
  deviceIDs := some (tentative.allocatedDevicesMetadata.map fun taken => taken.id)
  counters := some tentative.allocatingCounters
  templateCounters := some tentative.templateAllocatingCounters
  capacity := some tentative.allocatingCapacity
  templateCapacity := some tentative.templateAllocatingCapacity
  templateTotals := ctx.newTotals

/-- Shares were found by sound searches against a tracker. -/
structure TrackedAllocation.Explained (env : Environment) (tracker : AllocationTracker)
    (nodeClaim : NodeClaim) (claims : List ResourceClaim) (alloc : TrackedAllocation) : Prop where
  nodeClaimID : alloc.nodeClaimID = nodeClaim.id
  shares : ∀ it, alloc.share it = {} ∨ ∃ tentative : Tentative,
    tentative.Sound (searchContext env tracker nodeClaim it) (RequestData.Asked claims) ∧
      alloc.share it = tentative.share (searchContext env tracker nodeClaim it)

section InstanceTypes

variable {tracker : AllocationTracker} {nodeClaim : NodeClaim} {claims : List ResourceClaim}

section

variable (ctx : SearchContext) (results : InstanceTypeResults) (found : Search)

private theorem lookup_recordInstanceType_totals (it : InstanceTypeID) :
    (recordInstanceType ctx results found).tracked.templateCounterTotalsByIT.lookup it =
      if it = ctx.itID then ctx.newTotals.or (results.tracked.templateCounterTotalsByIT.lookup it)
      else results.tracked.templateCounterTotalsByIT.lookup it := by
  unfold recordInstanceType SearchContext.newTotals
  cases ctx.templateRemainingCounters with
  | none => simp
  | some totals =>
    cases ctx.tracker.templateRemainingForIT ctx.nodeClaim.id ctx.itID with
    | none => simp [GoMap.lookup_insert_eq]
    | some _ => simp

theorem share_recordInstanceType_ne {other : InstanceTypeID} (different : other ≠ ctx.itID) :
    (recordInstanceType ctx results found).tracked.share other = results.tracked.share other := by
  ext1
  · exact lookup_insert_ne different
  · exact lookup_insert_ne different
  · exact lookup_insert_ne different
  · exact lookup_insert_ne different
  · exact lookup_insert_ne different
  · exact (lookup_recordInstanceType_totals _ _ _ other).trans (if_neg different)

end

variable {results results' : InstanceTypeResults} {claimData : List ClaimData} {pools : List Pool}
variable {it : InstanceTypeID}

theorem recordInstanceType_explained {found : Search}
    (explained : results.tracked.Explained env tracker nodeClaim claims)
    (sound : found.toTentative.Sound (searchContext env tracker nodeClaim it)
      (RequestData.Asked claims)) :
    (recordInstanceType (searchContext env tracker nodeClaim it) results found).tracked.Explained
      env tracker nodeClaim claims := by
  refine ⟨explained.nodeClaimID, ?_⟩
  intro other
  by_cases same : other = it
  · subst same
    refine .inr ⟨found.toTentative, sound, ?_⟩
    have totals : (recordInstanceType (searchContext env tracker nodeClaim other) results
        found).tracked.templateCounterTotalsByIT.lookup other =
          (searchContext env tracker nodeClaim other).newTotals := by
      refine (lookup_recordInstanceType_totals _ _ _ other).trans ((if_pos rfl).trans ?_)
      -- an instance type that is evaluated again brings the same budgets again
      have known : results.tracked.templateCounterTotalsByIT.lookup other = none ∨
          results.tracked.templateCounterTotalsByIT.lookup other =
            (searchContext env tracker nodeClaim other).newTotals := by
        rcases explained.shares other with nothing | ⟨tentative, -, again⟩
        · exact .inl (congrArg Share.templateTotals nothing)
        · exact .inr (congrArg Share.templateTotals again)
      rcases known with isNone | isSame
      · rw [isNone, Option.or_none]
      · rw [isSame, Option.or_self]
    ext1
    · exact lookup_insert _
    · exact lookup_insert _
    · exact lookup_insert _
    · exact lookup_insert _
    · exact lookup_insert _
    · exact totals
  · rw [share_recordInstanceType_ne _ _ _ same]
    exact explained.shares other

def startSearch (env : Environment) (nodeClaim : NodeClaim) (claimData : List ClaimData)
    (pools : List Pool) (results : InstanceTypeResults) (it : InstanceTypeID) (pollsLeft : Nat) :
    Search where
  requirements := results.requirements
  pools := pools
  constraints := freshConstraints env nodeClaim it claimData
  deviceMatchesRequest := results.deviceMatchesRequest
  tested := results.tested
  pollsLeft := pollsLeft

theorem allocateInstanceType_eq_ok
    (done : allocateInstanceType env tracker nodeClaim claimData pools results it = .ok results') :
    ∃ pollsLeft, results' = { results with pollsLeft := pollsLeft } ∨
      (∃ found, Search.dfs (searchContext env tracker nodeClaim it) claimData.zipIdx
          (startSearch env nodeClaim claimData pools results it pollsLeft) = (true, found) ∧
        results' = recordInstanceType (searchContext env tracker nodeClaim it) results found) ∨
      ∃ failed, Search.dfs (searchContext env tracker nodeClaim it) claimData.zipIdx
          (startSearch env nodeClaim claimData pools results it pollsLeft) = (false, failed) ∧
        results' = { results with
          requirements := failed.requirements
          deviceMatchesRequest := failed.deviceMatchesRequest
          tested := failed.tested
          pollsLeft := failed.pollsLeft } := by
  unfold allocateInstanceType at done
  split at done
  · cases done
  next pollsLeft isLeft =>
  refine ⟨pollsLeft, ?_⟩
  dsimp only at done
  split_ifs at done
  · exact .inl (ok.inj done).symm
  split at done
  · next found success => exact .inr (.inl ⟨found, success, (ok.inj done).symm⟩)
  · next failed failure => exact .inr (.inr ⟨failed, failure, (ok.inj done).symm⟩)

variable {Recalls : MatchKey → Prop}

theorem startSearch_wellFormed (ctx : SearchContext)
    (sliced : ∀ pool ∈ pools, pool.Sliced ctx.env.tables)
    (verdicts : ∀ key, results.deviceMatchesRequest.lookup key = some true → Recalls key)
    (pollsLeft : Nat) :
    (startSearch env nodeClaim claimData pools results it pollsLeft).WellFormed ctx pools Recalls := by
  refine ⟨within_self sliced, verdicts, fun claim inClaims constraint inClaim => ?_⟩
  obtain ⟨cd, -, rfl⟩ := mem_map.mp inClaims
  obtain ⟨bare, -, rfl⟩ := mem_map.mp inClaim
  exact fun _ => ⟨rfl, rfl⟩

theorem startSearch_outcome (sliced : ∀ pool ∈ pools, pool.Sliced env.tables)
    (offers : Offers env tracker nodeClaim pools claimData)
    (verdicts : ∀ key, results.deviceMatchesRequest.lookup key = some true → Recalls key)
    (recalls : ∀ claim ∈ claimData.zipIdx, ∀ request ∈ claim.1.requests.zipIdx, ∀ dw,
      (searchContext env tracker nodeClaim it).Offered pools dw →
        deviceMatchesSelectors env dw request.1.selectors = .ok true →
          Recalls ⟨dw.id, claim.2, request.2⟩) (pollsLeft : Nat) :
    Outcome (searchContext env tracker nodeClaim it) pools Recalls
      (slotsOfClaims (searchContext env tracker nodeClaim it) claimData.zipIdx)
      (startSearch env nodeClaim claimData pools results it pollsLeft)
      (dfs (searchContext env tracker nodeClaim it) claimData.zipIdx
        (startSearch env nodeClaim claimData pools results it pollsLeft)) := by
  apply explores_dfs
  · intro claim inClaims request inRequests
    exact ⟨offers it claim.1 (fst_mem_of_mem_zipIdx inClaims) request.1
      (fst_mem_of_mem_zipIdx inRequests), recalls claim inClaims request inRequests⟩
  · exact startSearch_wellFormed (searchContext env tracker nodeClaim it) sliced verdicts pollsLeft

theorem allocateInstanceType_explained (sliced : ∀ pool ∈ pools, pool.Sliced env.tables)
    (published : ∀ pool ∈ pools, pool.From env.inClusterSlices)
    (offers : Offers env tracker nodeClaim pools claimData)
    (asked : ∀ cd ∈ claimData, ∀ rd ∈ cd.requests, rd.Asked claims)
    (explained : results.tracked.Explained env tracker nodeClaim claims)
    (done : allocateInstanceType env tracker nodeClaim claimData pools results it = .ok results') :
    results'.tracked.Explained env tracker nodeClaim claims := by
  obtain ⟨pollsLeft, rfl | ⟨found, success, rfl⟩ | ⟨failed, -, rfl⟩⟩ := allocateInstanceType_eq_ok done
  · exact explained
  · have outcome := @startSearch_outcome _ _ _ results _ _ it (fun _ => True) sliced offers
      (fun _ _ => trivial) (fun _ _ _ _ _ _ _ => trivial) pollsLeft
    rw [success] at outcome
    obtain ⟨picks, isSlots, follows⟩ := outcome.found rfl
    apply recordInstanceType_explained explained
    refine (Tentative.sound_empty _ _).follows published follows fun pick member => ?_
    obtain ⟨claim, inClaims, -, inRequests⟩ := mem_slotsOfClaims (isSlots ▸ mem_map_of_mem member)
    exact asked claim.1 (fst_mem_of_mem_zipIdx inClaims) pick.rd inRequests
  · exact explained

end InstanceTypes

def PublishedPools (env : Environment) (pools : List Pool) : Prop :=
  ∀ pool ∈ pools, pool.From env.inClusterSlices

def Allocator.CachePublished (env : Environment) (allocator : Allocator) : Prop :=
  ∀ nodeClaim pools, allocator.poolCache.lookup nodeClaim = some pools → PublishedPools env pools

/-- Whether a claim is migrating, or allocated neither on the API server nor in this loop. -/
def needsAllocation (env : Environment) (allocator : Allocator) (claim : ResourceClaim) : Bool :=
  match claim.allocation with
  | some _ => claimReservedEntirelyByDeletingPods env claim
  | none => (allocator.claimAllocationMetadata.lookup claim.id).isNone

theorem classifyClaim_unallocated {before after : ClassificationResult} {claim : ResourceClaim}
    (done : classifyClaim env allocator nodeClaim before claim = .ok after) :
    after.unallocatedClaims = before.unallocatedClaims ++
      [claim].filter (needsAllocation env allocator) := by
  unfold classifyClaim at done
  cases inCluster : claim.allocation with
  | some nodeSelector =>
    rw [inCluster] at done
    split_ifs at done with migrating
    · rw [← ok.inj done]
      simp [needsAllocation, inCluster, migrating]
    · have kept : needsAllocation env allocator claim = false := by
        simp [needsAllocation, inCluster, migrating]
      cases nodeSelector <;> grind
  | none =>
    rw [inCluster] at done
    cases inMemory : allocator.claimAllocationMetadata.lookup claim.id with
    | none =>
      rw [inMemory] at done
      rw [← ok.inj done]
      simp [needsAllocation, inCluster, inMemory]
    | some metadata =>
      have kept : needsAllocation env allocator claim = false := by
        simp [needsAllocation, inCluster, inMemory]
      grind

theorem classifyClaims_unallocated {classified : ClassificationResult}
    (done : classifyClaims env allocator nodeClaim claims = .ok classified) :
    classified.unallocatedClaims = claims.filter (needsAllocation env allocator) := by
  let classifying : List ResourceClaim → ClassificationResult → Prop := fun rest result =>
    result.unallocatedClaims ++ rest.filter (needsAllocation env allocator) =
      claims.filter (needsAllocation env allocator)
  have step : ∀ claim rest before after, classifying (claim :: rest) before →
      classifyClaim env allocator nodeClaim before claim = .ok after → classifying rest after := by
    intro claim rest before after soFar iteration
    dsimp only [classifying] at soFar ⊢
    rw [classifyClaim_unallocated iteration, ← soFar, append_assoc, ← filter_append]
    rfl
  have finished := foldlM_preserves classifying step (nil_append _) done
  simpa [classifying] using finished

theorem visiblePools_published (cache : allocator.CachePublished env) (oracle : Oracle)
    (nodeClaim : NodeClaim) (requirements : Requirements) :
    PublishedPools env (visiblePools env allocator oracle nodeClaim requirements) := by
  unfold visiblePools
  split
  · next cached found =>
      exact fun pool member => filterPools_from (cache nodeClaim.id cached found) member
  · exact fun pool member => gatherPools_from ((oracle.poolOrder_perm _).mem_iff.mp member)

theorem sliced_visiblePools (requirements : Requirements) :
    ∀ pool ∈ visiblePools env allocator oracle nodeClaim requirements, pool.Sliced env.tables := by
  unfold visiblePools
  split
  · exact sliced_filterPools
  · exact fun pool member => sliced_gatherPools pool ((oracle.poolOrder_perm _).mem_iff.mp member)

theorem length_recordDevices (change : DeviceAllocationMetadata → ResourceClaimAllocationMetadata →
    ResourceClaimAllocationMetadata) (metadata : List DeviceAllocationMetadata)
    (claims : List ResourceClaimAllocationMetadata) :
    (metadata.foldl (fun claims taken => claims.modify taken.claimIndex (change taken))
      claims).length = claims.length := by
  induction metadata generalizing claims with
  | nil => rfl
  | cons taken rest ih =>
    rw [foldl_cons, ih, length_modify]

theorem allocateInstanceType_length {tracker : AllocationTracker} {claimData : List ClaimData}
    {results results' : InstanceTypeResults}
    (done : allocateInstanceType env tracker nodeClaim claimData pools results it = .ok results') :
    results'.claimMetadata.length = results.claimMetadata.length := by
  obtain ⟨pollsLeft, rfl | ⟨found, -, rfl⟩ | ⟨failed, -, rfl⟩⟩ := allocateInstanceType_eq_ok done
  · rfl
  · exact length_recordDevices _ _ _
  · rfl

private theorem mem_foldl_insert {claims : List (ClaimData × ResourceClaimAllocationMetadata)}
    {start : GoMap ResourceClaimID ResourceClaimAllocationMetadata} {id : ResourceClaimID} :
    id ∈ claims.foldl (fun byClaim claim => byClaim.insert claim.1.id claim.2) start ↔
      id ∈ start ∨ id ∈ (claims.map Prod.fst).map ClaimData.id := by
  induction claims generalizing start with
  | nil => simp
  | cons claim rest ih =>
    rw [foldl_cons, ih, mem_insert, map_cons, map_cons, mem_cons]
    tauto

/-- A successful allocation: sound shares, published pools, and metadata for
exactly the claims without one. -/
structure Allocated (env : Environment) (allocator : Allocator) (nodeClaim : NodeClaim)
    (claims : List ResourceClaim) (allocation : Allocation) : Prop where
  explained : allocation.toTrackedAllocation.Explained env allocator.allocationTracker nodeClaim
    claims
  pools : PublishedPools env allocation.filteredPools
  claims : ∀ id, id ∈ allocation.claimMetadata ↔
    id ∈ (claims.filter (needsAllocation env allocator)).map ResourceClaim.id

/-- The stages of an allocation that has found devices. -/
structure Evaluated (env : Environment) (allocator : Allocator) (oracle : Oracle)
    (nodeClaim : NodeClaim) (claims : List ResourceClaim) (result : AllocationResult)
    (classified : ClassificationResult) (claimData : List ClaimData)
    (results : InstanceTypeResults) : Prop where
  isClassified : classifyClaims env allocator nodeClaim claims = .ok classified
  validated : validateClaims env
    (visiblePools env allocator oracle nodeClaim classified.requirements) nodeClaim
    classified.unallocatedClaims = .ok claimData
  evaluated : nodeClaim.instanceTypes.foldlM
    (allocateInstanceType env allocator.allocationTracker nodeClaim claimData
      (visiblePools env allocator oracle nodeClaim classified.requirements))
    { tracked := { nodeClaimID := nodeClaim.id }
      claimMetadata := claimData.map fun _ => { nodeClaimID := nodeClaim.id }
      requirements := classified.requirements
      pollsLeft := oracle.polls } = .ok results
  finished : finishAllocation env nodeClaim claimData
    (visiblePools env allocator oracle nodeClaim classified.requirements) results = .ok result

section

variable (done : allocate env allocator oracle nodeClaim claims = .ok result)
include done

theorem allocate_eq_ok : (claims = [] ∧ result = ⟨nodeClaim.instanceTypes, ∅, none⟩) ∨
      ∃ classified, classifyClaims env allocator nodeClaim claims = .ok classified ∧
        (classified.unallocatedClaims = [] ∧
            result = ⟨nodeClaim.instanceTypes, classified.requirements, none⟩ ∨
          classified.unallocatedClaims ≠ [] ∧ ∃ claimData results,
            Evaluated env allocator oracle nodeClaim claims result classified claimData results) := by
  unfold allocate at done
  split_ifs at done with noClaims
  · exact .inl ⟨isEmpty_iff.mp noClaims, (ok.inj done).symm⟩
  rw [bind_eq_ok] at done
  obtain ⟨classified, isClassified, done⟩ := done
  refine .inr ⟨classified, isClassified, ?_⟩
  split_ifs at done with allAllocated
  · exact .inl ⟨isEmpty_iff.mp allAllocated, (ok.inj done).symm⟩
  rw [bind_eq_ok] at done
  obtain ⟨claimData, validated, done⟩ := done
  rw [bind_eq_ok] at done
  obtain ⟨results, evaluated, done⟩ := done
  exact .inr ⟨fun isNil => allAllocated (isEmpty_iff.mpr isNil), claimData, results,
    isClassified, validated, evaluated, done⟩

theorem allocate_evaluated (found : result.allocation = some allocation) :
    ∃ classified claimData results,
      Evaluated env allocator oracle nodeClaim claims result classified claimData results := by
  obtain ⟨-, rfl⟩ | ⟨classified, -, ⟨-, rfl⟩ | ⟨-, claimData, results, stages⟩⟩ := allocate_eq_ok done
  · cases found
  · cases found
  · exact ⟨classified, claimData, results, stages⟩

theorem classifyClaims_of_allocate (found : result.allocation = some allocation) :
    ∃ classified, classifyClaims env allocator nodeClaim claims = .ok classified := by
  obtain ⟨classified, claimData, results, stages⟩ := allocate_evaluated done found
  exact ⟨classified, stages.isClassified⟩

end

theorem allocate_allocated (cache : allocator.CachePublished env)
    (done : allocate env allocator oracle nodeClaim claims = .ok result)
    (found : result.allocation = some allocation) :
    Allocated env allocator nodeClaim claims allocation := by
  obtain ⟨classified, claimData, results, stages⟩ := allocate_evaluated done found
  have published := visiblePools_published cache oracle nodeClaim classified.requirements
  have sliced := @sliced_visiblePools env nodeClaim allocator oracle classified.requirements
  have offers := offers_of_validated stages.validated sliced allocator.allocationTracker
  have asked : ∀ cd ∈ claimData, ∀ rd ∈ cd.requests, rd.Asked claims := by
    intro cd inData rd inRequests
    obtain ⟨claim, unallocated, asked⟩ := asked_of_validated stages.validated cd inData rd inRequests
    rw [classifyClaims_unallocated stages.isClassified] at unallocated
    exact ⟨claim, mem_of_mem_filter unallocated, asked⟩
  -- the loop over the instance types keeps the shares explained
  let evaluating : List InstanceTypeID → InstanceTypeResults → Prop := fun _ results =>
    results.tracked.Explained env allocator.allocationTracker nodeClaim claims ∧
      results.claimMetadata.length = claimData.length
  have step : ∀ it rest middle middle', evaluating (it :: rest) middle →
      allocateInstanceType env allocator.allocationTracker nodeClaim claimData
        (visiblePools env allocator oracle nodeClaim classified.requirements) middle it =
          .ok middle' → evaluating rest middle' := by
    intro it rest middle middle' kept iteration
    exact ⟨allocateInstanceType_explained sliced published offers asked kept.1 iteration,
      (allocateInstanceType_length iteration).trans kept.2⟩
  obtain ⟨explained, length⟩ := foldlM_preserves evaluating step
    ⟨⟨rfl, fun it => .inl rfl⟩, length_map _⟩ stages.evaluated
  have done := stages.finished
  unfold finishAllocation at done
  split_ifs at done
  cases done
  cases found
  refine ⟨⟨explained.nodeClaimID, explained.shares⟩,
    fun pool member => filterPools_from published member, ?_⟩
  intro id
  rw [mem_foldl_insert, map_fst_zip (by simp [length]), validateClaims_ids stages.validated,
    classifyClaims_unallocated stages.isClassified]
  simp

end Kraftsman.DynamicResources
