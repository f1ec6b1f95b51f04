import Kraftsman.DynamicResources.Provenance

/-!
Contract: the devices of an allocation.

What it has for an instance type is what the search for it has found, claim by
claim and request by request.

Owns: where cached verdicts come from, and the devices of each surviving instance
type.
Does not own: whether these are the right devices.
-/

namespace Kraftsman.DynamicResources

open Apis Data Scheduling List

/-- The request a cached verdict is about. -/
def requestAt (claimData : List ClaimData) (key : MatchKey) : Option RequestData :=
  claimData[key.claimIndex]?.bind fun cd => cd.requests[key.requestIndex]?

/-- A request that a namesake satisfies on an instance type. -/
def Satisfied (env : Environment) (tracker : AllocationTracker) (nodeClaim : NodeClaim)
    (pools : List Pool) (claimData : List ClaimData) (it : InstanceTypeID) (key : MatchKey) : Prop :=
  ∃ dw, (searchContext env tracker nodeClaim it).Offered pools dw ∧
    dw.id = key.deviceID ∧ ∃ rd, requestAt claimData key = some rd ∧
      deviceSatisfies env rd.selectors dw = true

/-- A verdict asked for on an instance type explored, where a namesake satisfies the request. -/
def Recalled (env : Environment) (tracker : AllocationTracker) (nodeClaim : NodeClaim)
    (pools : List Pool) (claimData : List ClaimData) (explored : List InstanceTypeID)
    (tested : List (InstanceTypeID × MatchKey)) (key : MatchKey) : Prop :=
  ∃ it ∈ explored, (it, key) ∈ tested ∧ Satisfied env tracker nodeClaim pools claimData it key

theorem requestAt_of_mem_zipIdx {claimData : List ClaimData} {claim : ClaimData × Nat}
    (inClaims : claim ∈ claimData.zipIdx) {request : RequestData × Nat}
    (inRequests : request ∈ claim.1.requests.zipIdx) (id : DeviceID) :
    requestAt claimData ⟨id, claim.2, request.2⟩ = some request.1 := by
  have isClaim : claimData[claim.2]? = some claim.1 := mem_zipIdx_iff_getElem?.mp inClaims
  have isRequest : claim.1.requests[request.2]? = some request.1 :=
    mem_zipIdx_iff_getElem?.mp inRequests
  simp [requestAt, isClaim, isRequest]

/-- The devices for an instance type, by claims and requests. -/
structure LaidOut (env : Environment) (tracker : AllocationTracker) (nodeClaim : NodeClaim)
    (pools : List Pool) (claimData : List ClaimData) (explored : List InstanceTypeID)
    (tested : List (InstanceTypeID × MatchKey)) (it : InstanceTypeID) (alloc : TrackedAllocation)
    (blocks : List (List (List DeviceAllocationMetadata))) : Prop where
  fills : Search.FillsClaims (searchContext env tracker nodeClaim it) pools
    (fun key => Recalled env tracker nodeClaim pools claimData explored tested key ∧
      (it, key) ∈ tested) claimData.zipIdx blocks
  deviceIDs : alloc.deviceIDsByIT.lookup it =
    some (blocks.flatten.flatten.map fun taken => taken.deviceWithID.id)

/-- What is known once some instance types have been explored. -/
structure Explored (env : Environment) (tracker : AllocationTracker) (nodeClaim : NodeClaim)
    (pools : List Pool) (claimData : List ClaimData) (explored left : List InstanceTypeID)
    (results : InstanceTypeResults) : Prop where
  order : explored ++ left = nodeClaim.instanceTypes
  verdicts : ∀ key, results.deviceMatchesRequest.lookup key = some true →
    Recalled env tracker nodeClaim pools claimData explored results.tested key
  laidOut : ∀ it ∈ results.survivingITs, ∃ before after blocks,
    nodeClaim.instanceTypes = before ++ it :: after ∧
      LaidOut env tracker nodeClaim pools claimData (before ++ [it]) results.tested it
        results.tracked blocks

variable {blocks : List (List (List DeviceAllocationMetadata))}

section Loop

variable {env : Environment} {tracker : AllocationTracker} {nodeClaim : NodeClaim}
variable {pools : List Pool} {claimData : List ClaimData} {explored left : List InstanceTypeID}
variable {it : InstanceTypeID} {results : InstanceTypeResults}

variable {tested more : List (InstanceTypeID × MatchKey)}

theorem Recalled.mono {others : List InstanceTypeID} {key : MatchKey} (subset : explored ⊆ others)
    (grows : tested ⊆ more)
    (recalled : Recalled env tracker nodeClaim pools claimData explored tested key) :
    Recalled env tracker nodeClaim pools claimData others more key := by
  obtain ⟨it, isExplored, isTested, cause⟩ := recalled
  exact ⟨it, subset isExplored, grows isTested, cause⟩

theorem LaidOut.mono {tracked : TrackedAllocation} (grows : tested ⊆ more)
    (laid : LaidOut env tracker nodeClaim pools claimData explored tested it tracked blocks) :
    LaidOut env tracker nodeClaim pools claimData explored more it tracked blocks :=
  ⟨laid.fills.imp fun _ recalled =>
    ⟨recalled.1.mono (Subset.refl _) grows, grows recalled.2⟩, laid.deviceIDs⟩

section

variable (known : Explored env tracker nodeClaim pools claimData explored (it :: left) results)
include known

theorem Explored.skip {skipped : InstanceTypeResults}
    (sameITs : skipped.survivingITs = results.survivingITs)
    (sameTracked : skipped.tracked = results.tracked) (grows : results.tested ⊆ skipped.tested)
    (verdicts : ∀ key, skipped.deviceMatchesRequest.lookup key = some true →
      Recalled env tracker nodeClaim pools claimData (explored ++ [it]) skipped.tested key) :
    Explored env tracker nodeClaim pools claimData (explored ++ [it]) left skipped where
  order := by rw [append_assoc, singleton_append, known.order]
  verdicts := verdicts
  laidOut := by
    rw [sameITs, sameTracked]
    intro other member
    obtain ⟨before, after, blocks, order, laid⟩ := known.laidOut other member
    exact ⟨before, after, blocks, order, laid.mono grows⟩

theorem Explored.record {found : Search} (grows : results.tested ⊆ found.tested)
    (verdicts : ∀ key, found.deviceMatchesRequest.lookup key = some true →
      Recalled env tracker nodeClaim pools claimData (explored ++ [it]) found.tested key)
    (taken : found.allocatedDevicesMetadata = blocks.flatten.flatten)
    (fills : Search.FillsClaims (searchContext env tracker nodeClaim it) pools
      (fun key => Recalled env tracker nodeClaim pools claimData (explored ++ [it]) found.tested key ∧
        (it, key) ∈ found.tested) claimData.zipIdx blocks) :
    Explored env tracker nodeClaim pools claimData (explored ++ [it]) left
      (recordInstanceType (searchContext env tracker nodeClaim it) results found) where
  order := by rw [append_assoc, singleton_append, known.order]
  verdicts := verdicts
  laidOut := by
    intro other member
    by_cases same : other = it
    · subst same
      refine ⟨explored, left, blocks, known.order.symm, fills, ?_⟩
      exact (AList.lookup_insert _).trans (by rw [taken])
    · rcases mem_append.mp member with earlier | isNew
      · obtain ⟨before, after, otherBlocks, order, laid⟩ := known.laidOut other earlier
        exact ⟨before, after, otherBlocks, order, (laid.mono grows).fills,
          (AList.lookup_insert_ne same).trans laid.deviceIDs⟩
      · exact absurd (mem_singleton.mp isNew) same

theorem Explored.step (sliced : ∀ pool ∈ pools, pool.Sliced env.tables)
    (offers : Offers env tracker nodeClaim pools claimData) {results' : InstanceTypeResults}
    (done : allocateInstanceType env tracker nodeClaim claimData pools results it = .ok results') :
    Explored env tracker nodeClaim pools claimData (explored ++ [it]) left results' := by
  -- a device that satisfies a request is a reason to recall its name
  have outcome := @startSearch_outcome _ _ _ results _ _ it
    (fun key => Recalled env tracker nodeClaim pools claimData explored results.tested key ∨
      Satisfied env tracker nodeClaim pools claimData it key) sliced offers
    (fun key isCached => .inl (known.verdicts key isCached))
    fun claim inClaims request inRequests dw offered isMatch => .inr ⟨dw, offered, rfl,
      request.1, requestAt_of_mem_zipIdx inClaims inRequests dw.id,
      deviceMatchesSelectors_iff_satisfies.mp isMatch⟩
  have recalled : ∀ {more : List (InstanceTypeID × MatchKey)} {key : MatchKey},
      results.tested ⊆ more → (it, key) ∈ more →
      (Recalled env tracker nodeClaim pools claimData explored results.tested key ∨
        Satisfied env tracker nodeClaim pools claimData it key) →
      Recalled env tracker nodeClaim pools claimData (explored ++ [it]) more key :=
    fun grows isTested cause => cause.elim (.mono (subset_append_left _ _) grows)
      fun satisfied => ⟨it, by simp, isTested, satisfied⟩
  have verdicts : ∀ pollsLeft key, let last := (Search.dfs (searchContext env tracker nodeClaim it)
      claimData.zipIdx (startSearch env nodeClaim claimData pools results it pollsLeft)).2
      last.deviceMatchesRequest.lookup key = some true →
        Recalled env tracker nodeClaim pools claimData (explored ++ [it]) last.tested key := by
    intro pollsLeft key last isCached
    have logged := (outcome pollsLeft).logged
    rcases logged.verdicts key isCached with old | isTested
    · exact (known.verdicts key old).mono (subset_append_left _ _) logged.tested
    · exact recalled logged.tested isTested ((outcome pollsLeft).verdicts key isCached)
  obtain ⟨pollsLeft, rfl | ⟨found, success, rfl⟩ | ⟨failed, failure, rfl⟩⟩ :=
    allocateInstanceType_eq_ok done
  · exact known.skip rfl rfl (Subset.refl _) fun key isCached =>
      (known.verdicts key isCached).mono (subset_append_left _ _) (Subset.refl _)
  · have searched := outcome pollsLeft
    have cached := verdicts pollsLeft
    rw [success] at searched cached
    obtain ⟨blocks, isTaken, fills⟩ := searched.blocks
    refine known.record searched.logged.tested cached isTaken (fills.imp ?_)
    exact fun key ⟨cause, isTested⟩ => ⟨recalled searched.logged.tested isTested cause, isTested⟩
  · have searched := outcome pollsLeft
    have cached := verdicts pollsLeft
    rw [failure] at searched cached
    exact known.skip rfl rfl searched.logged.tested cached

end

end Loop

section Results

variable {env : Environment} {allocator : Allocator} {oracle : Oracle} {nodeClaim : NodeClaim}
variable {claims : List ResourceClaim} {result : AllocationResult} {allocation : Allocation}
variable {classified : ClassificationResult} {claimData : List ClaimData}
variable {results : InstanceTypeResults}

variable {pools : List Pool} {unallocated : List ResourceClaim}

variable {kept : InstanceTypeID → Prop} {requests : List DeviceRequest}
variable {reqs : List ExactDeviceRequest} {data : List RequestData} {ctx : SearchContext}
variable {Recalls : MatchKey → Prop} {start : Nat}

theorem Evaluated.explored
    (stages : Evaluated env allocator oracle nodeClaim claims result classified claimData results) :
    Explored env allocator.allocationTracker nodeClaim
      (visiblePools env allocator oracle nodeClaim classified.requirements) claimData
      nodeClaim.instanceTypes [] results := by
  have sliced := @sliced_visiblePools env nodeClaim allocator oracle classified.requirements
  have offers := offers_of_validated stages.validated sliced allocator.allocationTracker
  let exploring : List InstanceTypeID → InstanceTypeResults → Prop := fun left results =>
    ∃ explored, Explored env allocator.allocationTracker nodeClaim
      (visiblePools env allocator oracle nodeClaim classified.requirements) claimData explored left
      results
  have step : ∀ it left middle middle', exploring (it :: left) middle →
      allocateInstanceType env allocator.allocationTracker nodeClaim claimData
        (visiblePools env allocator oracle nodeClaim classified.requirements) middle it =
          .ok middle' → exploring left middle' := by
    rintro it left middle middle' ⟨explored, known⟩ iteration
    exact ⟨explored ++ [it], known.step sliced offers iteration⟩
  obtain ⟨explored, known⟩ := FallibleLoop.foldlM_preserves exploring step
    ⟨[], rfl, by simp, by simp⟩ stages.evaluated
  have all : explored = nodeClaim.instanceTypes := by
    rw [← known.order, append_nil]
  exact all ▸ known

theorem Search.FillsClaims.of_validated {initial : List Pool}
    {Validated : ResourceClaim → ClaimData → Prop}
    (validated : List.Forall₂ Validated unallocated claimData)
    (fills : Search.FillsClaims ctx initial Recalls (claimData.zipIdx start) blocks) :
    List.Forall₂ (fun claim claimBlocks => ∃ data ∈ claimData.zipIdx start, Validated claim data.1 ∧
      Search.FillsRequests ctx initial Recalls data.2 data.1.requests.zipIdx claimBlocks)
      unallocated blocks :=
  forall₂_zipIdx validated fills

theorem Search.FillsRequests.of_validated {templates : GoMap InstanceTypeID (List DeviceWithID)}
    (validated : ValidatedRequests env pools templates kept requests reqs data) {index : Nat}
    {blocks : List (List DeviceAllocationMetadata)}
    (fills : Search.FillsRequests ctx pools Recalls index (data.zipIdx start) blocks) :
    List.Forall₂ (fun request block => ∃ rd ∈ data.zipIdx start, ∃ req,
      rd.1.Validated env pools templates kept request req ∧
        Search.Fills ctx pools Recalls index rd.2 rd.1 block)
      requests blocks := by
  refine (forall₂_zipIdx validated.related fills).imp ?_
  rintro request block ⟨rd, member, ⟨req, own⟩, ownFills⟩
  exact ⟨rd, member, req, own, ownFills⟩

theorem Evaluated.laidOut
    (stages : Evaluated env allocator oracle nodeClaim claims result classified claimData results)
    (found : result.allocation = some allocation) {it : InstanceTypeID}
    (survives : it ∈ result.instanceTypes) : ∃ before after blocks,
      nodeClaim.instanceTypes = before ++ it :: after ∧
        LaidOut env allocator.allocationTracker nodeClaim
          (visiblePools env allocator oracle nodeClaim classified.requirements) claimData
          (before ++ [it]) results.tested it allocation.toTrackedAllocation blocks := by
  have known := stages.explored
  have done := stages.finished
  unfold finishAllocation at done
  split_ifs at done
  cases done
  cases found
  exact known.laidOut it survives

end Results

end Kraftsman.DynamicResources
