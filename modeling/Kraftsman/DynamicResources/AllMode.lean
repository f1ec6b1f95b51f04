import Kraftsman.DynamicResources.Evaluation
import Kraftsman.DynamicResources.Loop

/-!
Contract: what a request for all devices gets on a surviving instance type.

Owns: the devices such a request should take, when it takes exactly these, and
the limit on the devices of a claim.
Does not own: requests for a fixed number of devices.
-/

namespace Kraftsman.DynamicResources

open Apis Data Scheduling List

/-! ### Specification -/

def templatesOf (nodeClaim : NodeClaim) (it : InstanceTypeID) : List DeviceWithID :=
  ((templateDevicesByIT nodeClaim).lookup it).getD []

variable (env : Environment)

/-- All devices that match: in the pools, and those the instance type promises. -/
def allMatching (pools : List Pool) (nodeClaim : NodeClaim) (it : InstanceTypeID)
    (req : ExactDeviceRequest) : List DeviceWithID :=
  matchingDevices env req (pools.flatMap Pool.devices ++ templatesOf nodeClaim it)

/-- How many devices the search takes on an instance type, by request. -/
def requestSlots (tracker : AllocationTracker) (pools : List Pool) (nodeClaim : NodeClaim)
    (it : InstanceTypeID) (claim : ResourceClaim) : List Nat :=
  match validateClaimRequest env claim pools (templateDevicesByIT nodeClaim) with
  | .error _ => []
  | .ok cd => cd.requests.map (Search.numSlots (searchContext env tracker nodeClaim it))

/-- The devices of a claim, one block for each request: All-mode requests have all
matching devices and at least one, and the claim is within its limit. -/
def AllModeExact (reachable : List Pool) (nodeClaim : NodeClaim) (it : InstanceTypeID)
    (claim : ResourceClaim) (blocks : List (List DeviceID)) : Prop :=
  List.Forall₂ (fun (request : DeviceRequest) (block : List DeviceID) =>
      ∀ req, request.exactly = some req → req.allocationMode = .all →
        block ≠ [] ∧ block.Perm ((allMatching env reachable nodeClaim it req).map DeviceWithID.id))
    claim.requests blocks ∧
  blocks.flatten.length ≤ allocationResultsMaxSize

/-- When All-mode requests get what they should: there is a matching device, the
pools seen last show those of all reachable pools, and the claim loses no template
devices to the limit. -/
def AllModeReady (visible reachable : List Pool) (nodeClaim : NodeClaim) (it : InstanceTypeID)
    (claim : ResourceClaim) : Prop :=
  ∀ request ∈ claim.requests, ∀ req, request.exactly = some req → req.allocationMode = .all →
    allMatching env reachable nodeClaim it req ≠ [] ∧
    ((matchingDevices env req (visible.flatMap Pool.devices)).map DeviceWithID.id).Perm
      ((matchingDevices env req (reachable.flatMap Pool.devices)).map DeviceWithID.id) ∧
    (wantedDevices env visible (templateDevicesByIT nodeClaim) it
        (claim.requests.filterMap DeviceRequest.exactly) ≤ allocationResultsMaxSize ∨
      matchingDevices env req (templatesOf nodeClaim it) = [])

/-! ### One request -/

section Request

variable {env} {tracker : AllocationTracker} {nodeClaim : NodeClaim}
variable {it : InstanceTypeID} {pools : List Pool}

theorem template_of_mem_slicedDevices {tables : LabelTables} {dw : DeviceWithID}
    (member : dw ∈ slicedDevices tables pools) : dw.id.template = false := by
  obtain ⟨pool, -, inPool⟩ := mem_flatMap.mp member
  obtain ⟨slice, -, inSlice⟩ := mem_flatMap.mp inPool
  obtain ⟨device, -, rfl⟩ := mem_map.mp inSlice
  rfl

theorem perm_append_iff {left left' right right' : List DeviceID}
    (inCluster : ∀ id ∈ left, id.template = false) (inCluster' : ∀ id ∈ left', id.template = false)
    (template : ∀ id ∈ right, id.template) (template' : ∀ id ∈ right', id.template) :
    (left ++ right).Perm (left' ++ right') ↔ left.Perm left' ∧ right.Perm right' := by
  have keepsLeft : ∀ {ids : List DeviceID}, (∀ id ∈ ids, id.template = false) →
      ids.filter (fun id => !id.template) = ids ∧ ids.filter (fun id => id.template) = [] := by
    intro ids all
    exact ⟨filter_eq_self.mpr fun id member => by simp [all id member],
      filter_eq_nil_iff.mpr fun id member => by simp [all id member]⟩
  have keepsRight : ∀ {ids : List DeviceID}, (∀ id ∈ ids, id.template) →
      ids.filter (fun id => !id.template) = [] ∧ ids.filter (fun id => id.template) = ids := by
    intro ids all
    exact ⟨filter_eq_nil_iff.mpr fun id member => by simp [all id member],
      filter_eq_self.mpr fun id member => by simp [all id member]⟩
  constructor
  · intro perm
    have clusterPart := perm.filter fun id => !id.template
    have templatePart := perm.filter fun id => id.template
    rw [filter_append, filter_append, (keepsLeft inCluster).1, (keepsRight template).1,
      (keepsLeft inCluster').1, (keepsRight template').1, append_nil, append_nil]
      at clusterPart
    rw [filter_append, filter_append, (keepsLeft inCluster).2, (keepsRight template).2,
      (keepsLeft inCluster').2, (keepsRight template').2, nil_append, nil_append]
      at templatePart
    exact ⟨clusterPart, templatePart⟩
  · exact fun ⟨leftPerm, rightPerm⟩ => leftPerm.append rightPerm

variable {Recalls : MatchKey → Prop} {index reqIdx : Nat} {kept : InstanceTypeID → Prop}
variable {request : DeviceRequest} {req : ExactDeviceRequest} {rd : RequestData}
variable {block : List DeviceAllocationMetadata}

/-- The devices of an All-mode request are all visible matching ones and, within
the limit, those of the instance type. -/
theorem Search.Fills.ids_of_all
    (validated : rd.Validated env pools (templateDevicesByIT nodeClaim) kept request req)
    (fills : Search.Fills (searchContext env tracker nodeClaim it) pools Recalls index reqIdx rd
      block)
    (isAll : req.allocationMode = .all) :
    block.map (fun taken => taken.deviceWithID.id) =
      (matchingDevices env req (pools.flatMap Pool.devices)).map DeviceWithID.id ++
        ((rd.allTemplateDevicesByIT.lookup it).getD []).map DeviceWithID.id := by
  have devices := fills.all (validated.allocationMode.trans isAll)
  have inCluster : rd.allDevices = matchingDevices env req (pools.flatMap Pool.devices) := by
    rw [validated.allDevices, inClusterShare, isAll]
  calc block.map (fun taken => taken.deviceWithID.id)
      = (block.map fun taken => taken.deviceWithID).map DeviceWithID.id := by
        rw [map_map]
        rfl
    _ = _ := by
        rw [devices, allModeDevices, map_append, inCluster]
        rfl

theorem request_exact_iff {reachable : List Pool} {limit : Prop} (isLimit : kept it ↔ limit)
    (visibleSliced : ∀ pool ∈ pools, pool.Sliced env.tables)
    (reachableSliced : ∀ pool ∈ reachable, pool.Sliced env.tables)
    (validated : rd.Validated env pools (templateDevicesByIT nodeClaim) kept request req)
    (fills : Search.Fills (searchContext env tracker nodeClaim it) pools Recalls index reqIdx rd
      block)
    (isAll : req.allocationMode = .all) :
    (block.map (fun taken => taken.deviceWithID.id) ≠ [] ∧
      (block.map fun taken => taken.deviceWithID.id).Perm
        ((allMatching env reachable nodeClaim it req).map DeviceWithID.id)) ↔
    (allMatching env reachable nodeClaim it req ≠ [] ∧
      ((matchingDevices env req (pools.flatMap Pool.devices)).map DeviceWithID.id).Perm
        ((matchingDevices env req (reachable.flatMap Pool.devices)).map DeviceWithID.id) ∧
      (limit ∨ matchingDevices env req (templatesOf nodeClaim it) = [])) := by
  have inCluster : ∀ {pools : List Pool}, (∀ pool ∈ pools, pool.Sliced env.tables) →
      ∀ id ∈ (matchingDevices env req (pools.flatMap Pool.devices)).map DeviceWithID.id,
        id.template = false := by
    intro pools sliced id member
    obtain ⟨dw, inMatching, rfl⟩ := mem_map.mp member
    have inDevices := mem_of_mem_filter inMatching
    rw [devices_eq_slicedDevices sliced] at inDevices
    exact template_of_mem_slicedDevices inDevices
  have template : ∀ id ∈ (matchingDevices env req (templatesOf nodeClaim it)).map DeviceWithID.id,
      id.template := by
    intro id member
    obtain ⟨dw, inMatching, rfl⟩ := mem_map.mp member
    exact template_of_mem_templateDevices (mem_of_mem_filter inMatching)
  have split : (allMatching env reachable nodeClaim it req).map DeviceWithID.id =
      (matchingDevices env req (reachable.flatMap Pool.devices)).map DeviceWithID.id ++
        (matchingDevices env req (templatesOf nodeClaim it)).map DeviceWithID.id := by
    rw [allMatching, matchingDevices, filter_append, map_append]
    rfl
  -- the template devices the request is left with
  have taken : ((rd.allTemplateDevicesByIT.lookup it).getD []).map DeviceWithID.id =
      (matchingDevices env req (templatesOf nodeClaim it)).map DeviceWithID.id ↔
        (limit ∨ matchingDevices env req (templatesOf nodeClaim it) = []) := by
    by_cases within : limit
    · rw [validated.takes it (isLimit.mpr within), templateShare, isAll]
      simp [within, templatesOf]
    · rw [validated.drops it (fun isKept => within (isLimit.mp isKept)), map_nil, eq_comm,
        map_eq_nil_iff]
      simp [within]
  have templateTaken : ∀ id ∈ ((rd.allTemplateDevicesByIT.lookup it).getD []).map DeviceWithID.id,
      id.template := by
    by_cases within : limit
    · rw [taken.mpr (.inl within)]
      exact template
    · rw [validated.drops it (fun isKept => within (isLimit.mp isKept))]
      simp
  rw [fills.ids_of_all validated isAll, split]
  constructor
  · rintro ⟨nonempty, perm⟩
    have parts := (perm_append_iff (inCluster visibleSliced) (inCluster reachableSliced)
      templateTaken template).mp perm
    refine ⟨fun empty => nonempty ?_, parts.1, taken.mp ?_⟩
    · rw [← split, empty] at perm
      exact perm.eq_nil
    · by_cases within : limit
      · exact taken.mpr (.inl within)
      · have dropped := validated.drops it (fun isKept => within (isLimit.mp isKept))
        rw [dropped, map_nil] at parts ⊢
        exact parts.2.nil_eq
  · rintro ⟨nonempty, visible, keeps⟩
    have perm := visible.append (List.Perm.of_eq (taken.mpr keeps))
    refine ⟨fun empty => nonempty ?_, perm⟩
    rw [empty, ← split] at perm
    exact map_eq_nil_iff.mp perm.nil_eq.symm

end Request

/-! ### One claim -/

section Claim

variable {env : Environment} {tracker : AllocationTracker} {nodeClaim : NodeClaim}
variable {it : InstanceTypeID} {pools : List Pool} {kept : InstanceTypeID → Prop}
variable {requests : List DeviceRequest} {reqs : List ExactDeviceRequest} {data : List RequestData}

theorem ValidatedRequests.filterMap_exactly {templates : GoMap InstanceTypeID (List DeviceWithID)}
    (validated : ValidatedRequests env pools templates kept requests reqs data) :
    requests.filterMap DeviceRequest.exactly = reqs := by
  induction validated with
  | nil => rfl
  | cons own _ ih =>
    rw [filterMap_cons_some own.exactly, ih]

section

variable (validated : ValidatedRequests env pools (templateDevicesByIT nodeClaim) kept requests reqs data)
include validated

theorem ValidatedRequests.sum_numSlots_of_kept (isKept : kept it) :
    (data.map (Search.numSlots (searchContext env tracker nodeClaim it))).sum =
      wantedDevices env pools (templateDevicesByIT nodeClaim) it reqs := by
  induction validated with
  | nil => rfl
  | cons own _ ih =>
    rw [map_cons, sum_cons, ih, wantedDevices, wantedDevices,
      map_cons, sum_cons, Nat.add_right_cancel_iff, Search.numSlots,
      own.allocationMode]
    have templates := own.takes it isKept
    split
    · next isAll =>
        rw [allModeDevices, length_append, own.allDevices]
        simp only [fixedCount, isAll, searchContext, templates]
        omega
    · next isExact => simp [own.numDevices, fixedCount, inClusterShare, templateShare, isExact]

theorem ValidatedRequests.sum_numSlots_of_dropped (dropped : ¬ kept it) :
    (data.map (Search.numSlots (searchContext env tracker nodeClaim it))).sum =
      baseTotalDevices data := by
  induction validated with
  | nil => rfl
  | cons own _ ih =>
    rw [map_cons, sum_cons, ih, baseTotalDevices, baseTotalDevices,
      map_cons, sum_cons, Nat.add_right_cancel_iff, Search.numSlots,
      own.allocationMode]
    have templates := own.drops it dropped
    split
    · next isAll =>
        rw [allModeDevices, length_append, own.numDevices]
        simp only [fixedCount, isAll, searchContext, templates, length_nil]
        omega
    · next isExact => simp [own.allDevices, inClusterShare, isExact]

end

variable {claim : ResourceClaim} {cd : ClaimData} {reachable : List Pool}

theorem ClaimData.Validated.sum_numSlots_le
    (validated : cd.Validated env pools (templateDevicesByIT nodeClaim) claim reqs) :
    (cd.requests.map (Search.numSlots (searchContext env tracker nodeClaim it))).sum ≤
      allocationResultsMaxSize := by
  by_cases within : wantedDevices env pools (templateDevicesByIT nodeClaim) it reqs ≤
      allocationResultsMaxSize
  · rw [validated.requests.sum_numSlots_of_kept within]
    exact within
  · rw [validated.requests.sum_numSlots_of_dropped within]
    exact validated.limit

variable {Recalls : MatchKey → Prop} {index : Nat} {blocks : List (List DeviceAllocationMetadata)}

theorem Search.FillsRequests.lengths {ctx : SearchContext} {initial : List Pool} {start : Nat}
    {data : List RequestData}
    (fills : Search.FillsRequests ctx initial Recalls index (data.zipIdx start) blocks) :
    blocks.map length = data.map (Search.numSlots ctx) := by
  induction data generalizing start blocks with
  | nil =>
    cases fills
    rfl
  | cons rd rest ih =>
    cases fills with
    | cons own others =>
      rw [map_cons, map_cons, own.length, ih others]

theorem Search.FillsRequests.exact_iff {limit : Prop} (isLimit : kept it ↔ limit)
    (visibleSliced : ∀ pool ∈ pools, pool.Sliced env.tables)
    (reachableSliced : ∀ pool ∈ reachable, pool.Sliced env.tables)
    (validated : ValidatedRequests env pools (templateDevicesByIT nodeClaim) kept requests reqs
      data)
    (fills : Search.FillsRequests (searchContext env tracker nodeClaim it) pools Recalls index
      data.zipIdx blocks) :
    List.Forall₂ (fun (request : DeviceRequest) (block : List DeviceID) =>
        ∀ req, request.exactly = some req → req.allocationMode = .all →
          block ≠ [] ∧ block.Perm ((allMatching env reachable nodeClaim it req).map DeviceWithID.id))
      requests (blocks.map fun block => block.map fun taken => taken.deviceWithID.id) ↔
    ∀ request ∈ requests, ∀ req, request.exactly = some req → req.allocationMode = .all →
      allMatching env reachable nodeClaim it req ≠ [] ∧
      ((matchingDevices env req (pools.flatMap Pool.devices)).map DeviceWithID.id).Perm
        ((matchingDevices env req (reachable.flatMap Pool.devices)).map DeviceWithID.id) ∧
      (limit ∨ matchingDevices env req (templatesOf nodeClaim it) = []) := by
  have parts := Search.FillsRequests.of_validated validated fills
  clear fills validated
  induction parts with
  | nil => simp
  | cons own _ ih =>
    rw [map_cons, forall₂_cons, forall_mem_cons]
    refine and_congr ?_ ih
    obtain ⟨rd, -, req, ownValidated, ownFills⟩ := own
    refine forall_congr' fun other => forall_congr' fun isOther => forall_congr' fun isAll => ?_
    obtain rfl := Option.some.inj (ownValidated.exactly.symm.trans isOther)
    exact request_exact_iff isLimit visibleSliced reachableSliced ownValidated ownFills isAll

theorem claim_exact_iff
    (isClaim : validateClaimRequest env claim pools (templateDevicesByIT nodeClaim) = .ok cd)
    (visibleSliced : ∀ pool ∈ pools, pool.Sliced env.tables)
    (reachableSliced : ∀ pool ∈ reachable, pool.Sliced env.tables)
    (fills : Search.FillsRequests (searchContext env tracker nodeClaim it) pools Recalls index
      cd.requests.zipIdx blocks) :
    (blocks.map fun block => block.map fun taken => taken.deviceWithID.id).map length =
        requestSlots env tracker pools nodeClaim it claim ∧
      (AllModeExact env reachable nodeClaim it claim
          (blocks.map fun block => block.map fun taken => taken.deviceWithID.id) ↔
        AllModeReady env pools reachable nodeClaim it claim) := by
  obtain ⟨reqs, validated⟩ := validateClaimRequest_eq_ok isClaim
  have sameLengths : (blocks.map fun block => block.map fun taken => taken.deviceWithID.id).map
      length = blocks.map length := by
    simp [map_map, Function.comp_def]
  have lengths := fills.lengths
  refine ⟨?_, ?_⟩
  · rw [sameLengths, lengths, requestSlots, isClaim]
  · have limit : (blocks.map fun block => block.map fun taken =>
        taken.deviceWithID.id).flatten.length ≤ allocationResultsMaxSize := by
      rw [length_flatten, sameLengths, lengths]
      exact validated.sum_numSlots_le
    unfold AllModeExact AllModeReady
    rw [validated.requests.filterMap_exactly]
    have requests := fills.exact_iff Iff.rfl visibleSliced reachableSliced validated.requests
    exact ⟨fun exact => requests.mp exact.1, fun ready => ⟨requests.mpr ready, limit⟩⟩

end Claim

/-! ### Allocations -/

/-- On every surviving instance type, the devices of a claim divide up among its
requests, All-mode requests have exactly the matching devices of the reachable
pools and of the instance type, at least one, and the claim has not too many, if
and only if it meets the conditions on the instance type. -/
theorem allocate_all_mode_exact_iff (env : Environment) (allocator : Allocator) (oracle : Oracle)
    (nodeClaim : NodeClaim) (claims : List ResourceClaim) (result : AllocationResult)
    (allocation : Allocation) (classified : ClassificationResult)
    (done : allocate env allocator oracle nodeClaim claims = .ok result)
    (found : result.allocation = some allocation)
    (isClassified : classifyClaims env allocator nodeClaim claims = .ok classified)
    (it : InstanceTypeID) (survives : it ∈ result.instanceTypes) :
    ∃ blocks : List (List (List DeviceID)),
      allocation.deviceIDsByIT.lookup it = some blocks.flatten.flatten ∧
      List.Forall₂ (fun claim claimBlocks =>
          claimBlocks.map length = requestSlots env allocator.allocationTracker
            (visiblePools env allocator oracle nodeClaim classified.requirements) nodeClaim it claim ∧
          (AllModeExact env (gatherPools env.tables env.inClusterSlices classified.requirements
              nodeClaim.nodeName) nodeClaim it claim claimBlocks ↔
            AllModeReady env (visiblePools env allocator oracle nodeClaim classified.requirements)
              (gatherPools env.tables env.inClusterSlices classified.requirements
                nodeClaim.nodeName) nodeClaim it claim))
        (claims.filter (needsAllocation env allocator)) blocks := by
  obtain ⟨classified', claimData, results, stages⟩ := allocate_evaluated done found
  obtain rfl := Except.ok.inj (isClassified.symm.trans stages.isClassified)
  obtain ⟨before, after, blocks, -, laid⟩ := stages.laidOut found survives
  have sliced := @sliced_visiblePools env nodeClaim allocator oracle classified.requirements
  refine ⟨blocks.map fun claimBlocks => claimBlocks.map fun block => block.map fun taken =>
    taken.deviceWithID.id, ?_, ?_⟩
  · rw [laid.deviceIDs, map_flatten, map_flatten]
  · rw [← classifyClaims_unallocated isClassified, forall₂_map_right_iff]
    refine (Search.FillsClaims.of_validated (validateClaims_eq_ok stages.validated)
      laid.fills).imp ?_
    rintro claim claimBlocks ⟨data, -, isData, fills⟩
    exact claim_exact_iff isData sliced sliced_gatherPools fills

/-! ### A request for all devices -/

theorem exists_of_allocated {computation : Except AllocateError AllocationResult}
    {P : AllocationResult → Allocation → Prop} [∀ result allocation, Decidable (P result allocation)]
    (seen : (computation.toOption.bind fun result => result.allocation.map fun allocation =>
      decide (P result allocation)) = some true) :
    ∃ result allocation, computation = .ok result ∧ result.allocation = some allocation ∧
      P result allocation := by
  obtain ⟨result, isResult, mapped⟩ := Option.bind_eq_some_iff.mp seen
  obtain ⟨allocation, found, holds⟩ := Option.map_eq_some_iff.mp mapped
  exact ⟨result, allocation, FallibleLoop.toOption_eq_some.mp isResult, found, of_decide_eq_true holds⟩

def allClaim : ResourceClaim where
  id := { nameSpace := "default", name := "all" }
  requests := [{ name := "all", exactly := some { deviceClassName := "gpu", allocationMode := .all } }]

def promisedSlice (count : Nat) : ResourceSlice where
  driver := "gpu.example.com"
  pool := "node"
  devices := (range count).map fun index => { name := toString index }

/-- One instance type promises one device, the other too many. -/
def promisingNodeClaim : NodeClaim where
  id := "default-1"
  instanceTypes := ["small", "large"]
  resourceSlices := GoMap.ofList [("small", [promisedSlice 1]), ("large", [promisedSlice 33])]

/-- The request gets the published device and the one that the instance type promises. -/
theorem allocate_all_mode_exact_iff_promised : ∃ result allocation classified,
    allocate gpuEnvironment (newAllocator gpuEnvironment {}) patientOracle promisingNodeClaim [allClaim] =
      .ok result ∧ result.allocation = some allocation ∧
    classifyClaims gpuEnvironment (newAllocator gpuEnvironment {}) promisingNodeClaim [allClaim] =
      .ok classified ∧ "small" ∈ result.instanceTypes ∧
    (allocation.deviceIDsByIT.lookup "small").map length = some 2 ∧
    ∃ blocks : List (List (List DeviceID)),
      allocation.deviceIDsByIT.lookup "small" = some blocks.flatten.flatten ∧
      List.Forall₂ (fun claim claimBlocks =>
          claimBlocks.map length = requestSlots gpuEnvironment
            (newAllocator gpuEnvironment {}).allocationTracker
            (visiblePools gpuEnvironment (newAllocator gpuEnvironment {}) patientOracle promisingNodeClaim
              classified.requirements) promisingNodeClaim "small" claim ∧
          (AllModeExact gpuEnvironment (gatherPools gpuEnvironment.tables
              gpuEnvironment.inClusterSlices classified.requirements promisingNodeClaim.nodeName)
              promisingNodeClaim "small" claim claimBlocks ↔
            AllModeReady gpuEnvironment
              (visiblePools gpuEnvironment (newAllocator gpuEnvironment {}) patientOracle
                promisingNodeClaim classified.requirements)
              (gatherPools gpuEnvironment.tables gpuEnvironment.inClusterSlices
                classified.requirements promisingNodeClaim.nodeName) promisingNodeClaim "small" claim))
        ([allClaim].filter (needsAllocation gpuEnvironment (newAllocator gpuEnvironment {})))
        blocks := by
  obtain ⟨result, allocation, done, found, survives, two⟩ : ∃ result allocation,
      allocate gpuEnvironment (newAllocator gpuEnvironment {}) patientOracle promisingNodeClaim
        [allClaim] = .ok result ∧ result.allocation = some allocation ∧
      "small" ∈ result.instanceTypes ∧
      (allocation.deviceIDsByIT.lookup "small").map length = some 2 :=
    exists_of_allocated (by decide +kernel)
  obtain ⟨classified, isClassified⟩ := classifyClaims_of_allocate done found
  exact ⟨result, allocation, classified, done, found, isClassified, survives, two,
    allocate_all_mode_exact_iff gpuEnvironment (newAllocator gpuEnvironment {}) patientOracle
      promisingNodeClaim [allClaim] result allocation classified done found isClassified "small" survives⟩

def bareEnvironment : Environment :=
  { gpuEnvironment with inClusterSlices := [] }

/-- Where there is no device at all, and where an instance type promises too many,
a request for all devices gets none and the instance type survives. -/
theorem all_mode_request_gets_nothing :
    (∃ result allocation, allocate bareEnvironment (newAllocator bareEnvironment {}) patientOracle
        gpuNodeClaim [allClaim] = .ok result ∧ result.allocation = some allocation ∧
      "small" ∈ result.instanceTypes ∧ allocation.deviceIDsByIT.lookup "small" = some []) ∧
    (∃ result allocation, allocate bareEnvironment (newAllocator bareEnvironment {}) patientOracle
        promisingNodeClaim [allClaim] = .ok result ∧ result.allocation = some allocation ∧
      "large" ∈ result.instanceTypes ∧ allocation.deviceIDsByIT.lookup "large" = some [] ∧
      (templatesOf promisingNodeClaim "large").length = 33) ∧
    ∀ (reachable : List Pool) (nodeClaim : NodeClaim) (it : InstanceTypeID)
      (blocks : List (List DeviceID)), blocks.flatten = [] →
        ¬ AllModeExact bareEnvironment reachable nodeClaim it allClaim blocks := by
  refine ⟨exists_of_allocated (by decide +kernel), exists_of_allocated (by decide +kernel), ?_⟩
  rintro reachable nodeClaim it blocks nothing ⟨requests, -⟩
  cases requests with
  | cons own _ => exact (own _ rfl rfl).1 (flatten_eq_nil_iff.mp nothing _ (by simp))

end Kraftsman.DynamicResources
