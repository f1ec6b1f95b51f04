import Kraftsman.DynamicResources.Loop

/-!
Contract: what backtracking and success mean for the state of a search.

Owns: the state a failed call leaves behind, what constraints say about the
devices of a claim, and how the devices of a search fit together.
Does not own: the checks against the budgets.
-/

namespace Kraftsman.DynamicResources

open Apis Data Scheduling List

namespace Search

/-- Equal up to cached verdicts and the deadline. Absent amounts count as zero. -/
structure GivenBack (ctx : SearchContext) (initial : List Pool) (before after : Search) : Prop where
  constraints : after.constraints = before.constraints
  requirements : ∀ key, after.requirements.lookup key = before.requirements.lookup key
  pools : after.pools = before.pools
  metadata : after.allocatedDevicesMetadata = before.allocatedDevicesMetadata
  counters : ∀ template key,
    counterAt (after.counters template) key = counterAt (before.counters template) key
  capacities : ∀ template key,
    capacityAt (after.capacities template) key = capacityAt (before.capacities template) key
  exclusive : ∀ id, ¬ ctx.Shared initial id →
    (id ∈ after.allocatedDevices ↔ id ∈ before.allocatedDevices)

variable {ctx : SearchContext} {initial : List Pool} {Recalls : MatchKey → Prop}
variable {search found : Search} {picks : List Pick}

theorem Restored.givenBack (same : search.Restored ctx initial found)
    (named : search.requirements.Named) : GivenBack ctx initial search found :=
  ⟨same.constraints, same.requirements named, same.pools, same.tentative.metadata,
    same.tentative.counters, same.tentative.capacities, fun id exclusive =>
      (same.tentative.devices id).resolve_right fun shared => exclusive shared.2⟩

/-- A call of the search that fails restores its state: a call for some claims, for
the requests that are left of a claim, for the slots that are left of a request, and
a try of a device for a slot. -/
theorem failed_search_restores (ctx : SearchContext) (initial : List Pool)
    (claims : List (ClaimData × Nat)) (claimIdx : Nat) (requests : List (RequestData × Nat))
    (request : RequestData × Nat) (left : Nat) (dw : DeviceWithID) (search failed : Search)
    (wellFormed : search.WellFormed ctx initial fun _ => True) (named : search.requirements.Named)
    (listed : ∀ rd ∈ (request :: requests).map Prod.fst ++
      claims.flatMap fun claim => claim.1.requests,
        ∀ dw ∈ allModeDevices ctx rd, ctx.Offered initial dw)
    (bounded : left ≤ numSlots ctx request.1) (offered : ctx.Offered initial dw)
    (isListed : request.1.allocationMode = .all → dw ∈ allModeDevices ctx request.1) :
    (dfs ctx claims search = (false, failed) → GivenBack ctx initial search failed) ∧
    (dfsRequests ctx claimIdx (dfs ctx claims) requests search = (false, failed) →
      GivenBack ctx initial search failed) ∧
    (dfsSlots ctx claimIdx request.2 request.1 (dfsRequests ctx claimIdx (dfs ctx claims) requests)
      left search = (false, failed) → GivenBack ctx initial search failed) ∧
    (tryDevice ctx claimIdx request.2 request.1 (dfsSlots ctx claimIdx request.2 request.1
      (dfsRequests ctx claimIdx (dfs ctx claims) requests) left) dw search = (false, failed) →
        GivenBack ctx initial search failed) := by
  simp only [map_cons, cons_append, forall_mem_cons, forall_mem_append,
    forall_mem_map, forall_mem_flatMap] at listed
  have restores : ∀ {slots : List Slot} {part : SearchM},
      Explores ctx initial (fun _ => True) slots part → part search = (false, failed) →
        GivenBack ctx initial search failed := by
    intro slots part explores failure
    have outcome := explores search wellFormed
    rw [failure] at outcome
    exact (outcome.failed rfl).givenBack named
  have claimsExplored := @explores_dfs ctx initial (fun _ => True) claims
    fun claim inClaims request inRequests => ⟨listed.2.2 claim inClaims request.1
      (fst_mem_of_mem_zipIdx inRequests), fun _ _ _ => trivial⟩
  have recallable : ∀ other ∈ request :: requests,
      Recallable ctx initial (fun _ => True) claimIdx other.2 other.1 :=
    forall_mem_cons.mpr ⟨⟨listed.1, fun _ _ _ => trivial⟩, fun other member =>
      ⟨listed.2.1 other member, fun _ _ _ => trivial⟩⟩
  rw [forall_mem_cons] at recallable
  have requestsExplored := claimsExplored.dfsRequests recallable.2
  have slotsExplored := requestsExplored.dfsSlots recallable.1 bounded
  obtain ⟨slotIdx, isSlot⟩ : ∃ slotIdx, request.1.allocationMode = .all →
      (allModeDevices ctx request.1)[slotIdx]? = some dw := by
    by_cases isAll : request.1.allocationMode = .all
    · exact (mem_iff_getElem?.mp (isListed isAll)).imp fun _ isSlot _ => isSlot
    · exact ⟨0, fun impossible => absurd impossible isAll⟩
  exact ⟨restores claimsExplored, restores requestsExplored, restores slotsExplored,
    restores (slotsExplored.tryDevice recallable.1 offered isSlot)⟩

def rackPools : List Pool :=
  gatherPools gpuEnvironment.tables gpuEnvironment.inClusterSlices ∅ ""

def rackTracker : AllocationTracker := (Loop.start gpuEnvironment {}).tracker

def rackResults : InstanceTypeResults where
  tracked := { nodeClaimID := gpuNodeClaim.id }
  claimMetadata := []
  requirements := ∅
  pollsLeft := 100

def pairRequest : RequestData where
  name := "pair"
  numDevices := 2
  allocationMode := .exactCount
  selectors := []

def pairData : ClaimData := ⟨gpuClaim.id, [pairRequest], []⟩

/-- The search for two devices takes the only device and gives it back. -/
theorem failed_pair_restores : ∃ failed,
    dfs (searchContext gpuEnvironment rackTracker gpuNodeClaim "small") [(pairData, 0)]
      (startSearch gpuEnvironment gpuNodeClaim [pairData] rackPools rackResults "small" 100) =
        (false, failed) ∧
    GivenBack (searchContext gpuEnvironment rackTracker gpuNodeClaim "small") rackPools
      (startSearch gpuEnvironment gpuNodeClaim [pairData] rackPools rackResults "small" 100)
      failed := by
  have fails : (dfs (searchContext gpuEnvironment rackTracker gpuNodeClaim "small") [(pairData, 0)]
      (startSearch gpuEnvironment gpuNodeClaim [pairData] rackPools rackResults "small" 100)).1 =
        false := by
    decide +kernel
  obtain ⟨dw, stocked⟩ : ∃ dw, dw ∈ slicedDevices gpuEnvironment.tables rackPools :=
    exists_mem_of_ne_nil _ (by decide +kernel)
  have failure := Prod.ext (y := (false, _)) fails rfl
  have wellFormed : (startSearch gpuEnvironment gpuNodeClaim [pairData] rackPools rackResults "small"
      100).WellFormed (searchContext gpuEnvironment rackTracker gpuNodeClaim "small") rackPools
        fun _ => True :=
    startSearch_wellFormed _ sliced_gatherPools (fun _ _ => trivial) 100
  exact ⟨_, failure, (failed_search_restores _ rackPools [(pairData, 0)] 0 [] (pairRequest, 0) 0 dw _ _
    wellFormed Requirements.named_empty (by simp [pairData, pairRequest, allModeDevices])
    (Nat.zero_le _) (.inl stocked) (by simp [pairRequest])).1 failure⟩

end Search

namespace MatchAttributeConstraint

/-- All devices have the same value; if they have none, each is part of a group,
and all are bound to the first. -/
def Agrees (constraint : MatchAttributeConstraint) (fallback : Option AttributeBindingFallback)
    (value : Option DeviceAttribute) (devices : List DeviceWithID) : Prop :=
  (∀ dw ∈ devices, lookupAttribute dw.device dw.id constraint.attributeName = value) ∧
  (value = none → ∀ dw ∈ devices, ∃ known, fallback = some known ∧
    known.bindings.hasBindings known.nodePool known.instanceTypeID
      constraint.attributeName dw.id = true) ∧
  (value = none → ∀ first ∈ devices.head?, ∀ dw ∈ devices.tail,
    ∃ known, fallback = some known ∧ known.bindings.bound known.nodePool known.instanceTypeID
      constraint.attributeName first.id dw.id = true)

structure Accounts (constraint : MatchAttributeConstraint) (devices : List DeviceWithID) : Prop where
  settled : constraint.Settled
  ids : constraint.allocatedDeviceIDs = devices.map fun dw => dw.id
  used : constraint.usedBinding = true → constraint.attributeValue = none
  agrees : constraint.Agrees constraint.attributeBindingFallback constraint.attributeValue devices

variable {constraint added : MatchAttributeConstraint} {devices : List DeviceWithID}

theorem Accounts.nil (idle : constraint.allocatedDeviceIDs = [])
    (noValue : constraint.attributeValue = none) (unused : constraint.usedBinding = false) :
    constraint.Accounts [] :=
  ⟨fun _ => ⟨noValue, unused⟩, idle, fun _ => noValue, by simp [Agrees]⟩

theorem Accounts.add {name : String} {dw : DeviceWithID} (accounts : constraint.Accounts devices)
    (done : constraint.add name dw.device dw.id = some added) : added.reset = constraint.reset ∧
      added.Accounts (if constraint.appliesTo name then devices ++ [dw] else devices) := by
  have inverted := add_eq_some done
  have settled := accounts.settled.add done
  have isEmpty : constraint.allocatedDeviceIDs = [] ↔ devices = [] := by simp [accounts.ids]
  split_ifs at inverted with covers
  · rw [if_pos covers]
    rcases inverted with ⟨attr, found, unused, same, rfl⟩ |
      ⟨fallback, absent, isFallback, grouped, bound, rfl⟩
    · refine ⟨rfl, settled, by simp [accounts.ids], fun used => ?_, ?_, by simp, by simp⟩
      · exact absurd (unused.symm.trans used) (by decide)
      · intro other member
        rcases mem_append.mp member with old | isNew
        · rw [← same fun idle => ne_nil_of_mem old (isEmpty.mp idle)]
          exact accounts.agrees.1 other old
        · rwa [mem_singleton.mp isNew]
    · have noValue : constraint.attributeValue = none := by
        cases first : constraint.allocatedDeviceIDs.head? with
        | none => exact (accounts.settled (head?_eq_none_iff.mp first)).1
        | some id => exact accounts.used (bound id first).1
      refine ⟨rfl, settled, by simp [accounts.ids], fun _ => noValue, ?_, fun _ other member => ?_,
        fun _ first isFirst => ?_⟩
      · intro other member
        rcases mem_append.mp member with old | isNew
        · exact accounts.agrees.1 other old
        · rw [mem_singleton.mp isNew]
          exact absent.trans noValue.symm
      · rcases mem_append.mp member with old | isNew
        · exact accounts.agrees.2.1 noValue other old
        · rw [mem_singleton.mp isNew]
          exact ⟨fallback, isFallback, grouped⟩
      · cases devices with
        | nil => simp
        | cons head rest =>
          obtain rfl : head = first := Option.some.inj isFirst
          intro other member
          rcases mem_append.mp member with old | isNew
          · exact accounts.agrees.2.2 noValue head rfl other old
          · rw [mem_singleton.mp isNew]
            exact ⟨fallback, isFallback, (bound head.id (by simp [accounts.ids])).2⟩
  · rw [if_neg covers, inverted]
    exact ⟨rfl, accounts⟩

end MatchAttributeConstraint

namespace Search

/-- The devices of a claim that a constraint covers. -/
def covered (claimIdx : Nat) (constraint : MatchAttributeConstraint) (picks : List Pick) :
    List DeviceWithID :=
  (picks.filter fun pick => decide (pick.claimIdx = claimIdx) &&
    constraint.appliesTo pick.rd.name).map fun pick => pick.dw

def StayCompatible (tables : LabelTables) : Requirements → List DeviceWithID → Prop
  | _, [] => True
  | requirements, dw :: rest => ∃ current : Requirements,
    (∀ key, current.lookup key = requirements.lookup key) ∧
    (∀ topology, dw.topologyRequirements = some topology →
      current.isCompatible tables topology tables.wellKnownLabels = true) ∧
    StayCompatible tables (addTopology tables current dw) rest

variable {ctx : SearchContext} {initial : List Pool} {Recalls : MatchKey → Prop}
variable {search found : Search} {picks : List Pick}

section

variable (follows : Follows ctx initial Recalls search picks found)
include follows

theorem Follows.exclusive {id : DeviceID} (exclusive : ¬ ctx.Shared initial id) :
    (picks.filter fun pick => pick.dw.id = id).length +
      (if id ∈ search.allocatedDevices then 1 else 0) ≤ 1 := by
  induction follows with
  | done => split_ifs <;> simp
  | @take _ tried _ _ pick rest _ same fits passed _ _ isTightened _ ih =>
    rw [Tentative.record_allocatedDevices, tighten_tentative isTightened] at ih
    change _ + (if id ∈ insert pick.dw.id tried.allocatedDevices then 1 else 0) ≤ 1 at ih
    have before := (same.tentative.devices id).resolve_right fun shared => exclusive shared.2
    rw [← if_congr before rfl rfl]
    by_cases own : pick.dw.id = id
    · have alone : pick.dw.device.allowMultipleAllocations = false := by
        by_contra multi
        exact exclusive ⟨pick.dw, fits.offered, own, by simpa using multi⟩
      have free : id ∉ tried.allocatedDevices := own ▸ (available_admits passed alone).2.1
      rw [if_pos (Finset.mem_insert.mpr (.inl own.symm))] at ih
      rw [filter_cons_of_pos (by simpa using own), if_neg free, length_cons]
      exact ih
    · have others : id ∈ insert pick.dw.id tried.allocatedDevices ↔ id ∈ tried.allocatedDevices :=
        Finset.mem_insert.trans (or_iff_right (Ne.symm own))
      rw [filter_cons_of_neg (by simpa using own), ← if_congr others rfl rfl]
      exact ih

theorem Follows.stayCompatible (named : search.requirements.Named) :
    StayCompatible ctx.env.tables search.requirements (picks.map fun pick => pick.dw) := by
  induction follows with
  | done => trivial
  | @take _ tried _ _ pick _ _ same _ _ _ _ isTightened _ ih =>
    refine ⟨tried.requirements, same.requirements named, ?_⟩
    unfold addTopology
    obtain ⟨absent, rfl⟩ | ⟨topology, found, compatible, rfl⟩ := tighten_eq_some isTightened
    · rw [absent]
      exact ⟨fun topology isTopology => (by cases isTopology), ih (same.named named)⟩
    · rw [found]
      exact ⟨fun other isOther => Option.some.inj isOther ▸ compatible,
        ih ((same.named named).add _ _)⟩

theorem Follows.accounts {claimIdx index : Nat} {constraint : MatchAttributeConstraint}
    {devices : List DeviceWithID}
    (isConstraint : (search.claimConstraints claimIdx)[index]? = some constraint)
    (accounts : constraint.Accounts devices) :
    ∃ value, constraint.Agrees constraint.attributeBindingFallback value
      (devices ++ covered claimIdx constraint picks) := by
  induction follows generalizing constraint devices with
  | done => exact ⟨_, by simpa [covered] using accounts.agrees⟩
  | @take search tried tightened _ pick rest constraints same _ _ _ added isTightened _ ih =>
    have kept : tightened.constraints = search.constraints.set pick.claimIdx constraints := by
      rw [← same.constraints]
      obtain ⟨-, rfl⟩ | ⟨topology, -, -, rfl⟩ := tighten_eq_some isTightened <;> rfl
    have tried : tried.claimConstraints pick.claimIdx = search.claimConstraints pick.claimIdx := by
      rw [Search.claimConstraints, same.constraints, Search.claimConstraints]
    unfold Search.claimConstraints at ih
    rw [kept] at ih
    by_cases own : pick.claimIdx = claimIdx
    · subst own
      obtain ⟨next, isNext, isAdded⟩ :=
        exists_related_of_getElem? (addConstraints_eq_true added) (tried ▸ isConstraint)
      obtain ⟨sameReset, nextAccounts⟩ := accounts.add isAdded
      have inBounds : pick.claimIdx < search.constraints.length := by
        by_contra outside
        simp [Search.claimConstraints, getElem?_eq_none (not_lt.mp outside)] at isConstraint
      rw [getElem?_set_self inBounds] at ih
      obtain ⟨value, agrees⟩ := ih isNext nextAccounts
      refine ⟨value, ?_⟩
      -- what a constraint says does not depend on the devices it has seen
      change next.reset.Agrees next.reset.attributeBindingFallback value
        (_ ++ covered pick.claimIdx next.reset rest) at agrees
      rw [sameReset] at agrees
      change constraint.Agrees constraint.attributeBindingFallback value
        (_ ++ covered pick.claimIdx constraint rest) at agrees
      cases covers : constraint.appliesTo pick.rd.name <;> simpa [covered, covers] using agrees
    · rw [getElem?_set_ne own] at ih
      obtain ⟨value, agrees⟩ := ih isConstraint accounts
      refine ⟨value, ?_⟩
      rwa [covered, filter_cons_of_neg (by simp [own])]

end

end Search

open Search MatchAttributeConstraint

/-- After a successful search every slot of every request has a device, no
exclusive device is taken twice, the devices that a constraint covers agree, and
the requirements stay compatible with the topologies of the devices one after the
other. -/
theorem found_devices_fit (env : Environment) (tracker : AllocationTracker) (nodeClaim : NodeClaim)
    (pools : List Pool) (unallocated : List ResourceClaim) (claimData : List ClaimData)
    (results : InstanceTypeResults) (it : InstanceTypeID) (pollsLeft : Nat) (found : Search)
    (sliced : ∀ pool ∈ pools, pool.Sliced env.tables) (named : results.requirements.Named)
    (validated : validateClaims env pools nodeClaim unallocated = .ok claimData)
    (success : dfs (searchContext env tracker nodeClaim it) claimData.zipIdx
      (startSearch env nodeClaim claimData pools results it pollsLeft) = (true, found)) :
    ∃ picks : List Pick, found.allocatedDevicesMetadata = picks.map Pick.taken ∧
      picks.map Pick.toSlot = slotsOfClaims (searchContext env tracker nodeClaim it)
        claimData.zipIdx ∧
      (∀ id, ¬ (searchContext env tracker nodeClaim it).Shared pools id →
        (picks.filter fun pick => pick.dw.id = id).length ≤ 1) ∧
      (∀ claim ∈ claimData.zipIdx, ∀ constraint ∈ claim.1.constraints, ∃ value,
        constraint.Agrees (some ⟨env.attributeBindings, nodeClaim.nodePoolID, it⟩) value
          (covered claim.2 constraint picks)) ∧
      StayCompatible env.tables results.requirements (picks.map fun pick => pick.dw) := by
  have outcome := @startSearch_outcome _ _ _ results _ _ it (fun _ => True) sliced
    (offers_of_validated validated sliced tracker) (fun _ _ => trivial)
    (fun _ _ _ _ _ _ _ => trivial) pollsLeft
  rw [success] at outcome
  obtain ⟨picks, isSlots, follows⟩ := outcome.found rfl
  refine ⟨picks, follows.metadata, isSlots, fun id exclusive => ?_, ?_, follows.stayCompatible named⟩
  · exact (Nat.le_add_right _ _).trans (follows.exclusive exclusive)
  · intro claim inClaims constraint inClaim
    obtain ⟨index, isConstraint⟩ := mem_iff_getElem?.mp inClaim
    have isFresh : ((startSearch env nodeClaim claimData pools results it pollsLeft).claimConstraints
        claim.2)[index]? = some { constraint.reset with
          attributeBindingFallback := some ⟨env.attributeBindings, nodeClaim.nodePoolID, it⟩ } := by
      have isClaim : claimData[claim.2]? = some claim.1 := mem_zipIdx_iff_getElem?.mp inClaims
      simp [claimConstraints, startSearch, freshConstraints, isClaim, isConstraint]
    exact follows.accounts isFresh (@Accounts.nil _ rfl rfl rfl)

def numaPools : List Pool :=
  gatherPools numaEnvironment.tables numaEnvironment.inClusterSlices ∅ ""

def numaSearch (claimData : List ClaimData) : Bool × Search :=
  dfs (searchContext numaEnvironment (Loop.start numaEnvironment {}).tracker numaNodeClaim "large")
    claimData.zipIdx
    (startSearch numaEnvironment numaNodeClaim claimData numaPools rackResults "large" 100)

/-- The second instance type gives up the near device, which has no peer of its
NUMA node, and takes the far one with its own. -/
theorem found_devices_fit_numa : ∃ claimData found,
    validateClaims numaEnvironment numaPools numaNodeClaim [numaClaim] = .ok claimData ∧
    claimData.flatMap (fun data => data.constraints.map (·.attributeName)) = ["numa"] ∧
    numaSearch claimData = (true, found) ∧
    found.allocatedDevicesMetadata.map (fun taken => taken.id.pool) = ["far", "node"] ∧
    ∃ picks : List Pick, found.allocatedDevicesMetadata = picks.map Pick.taken ∧
      (∀ claim ∈ claimData.zipIdx, ∀ constraint ∈ claim.1.constraints, ∃ value,
        constraint.Agrees (some ⟨∅, "", "large"⟩) value (covered claim.2 constraint picks)) ∧
      StayCompatible numaEnvironment.tables ∅ (picks.map fun pick => pick.dw) := by
  obtain ⟨claimData, validated, constrains, succeeds, takes⟩ : ∃ claimData,
      validateClaims numaEnvironment numaPools numaNodeClaim [numaClaim] = .ok claimData ∧
      claimData.flatMap (fun data => data.constraints.map (·.attributeName)) = ["numa"] ∧
      (numaSearch claimData).1 ∧
      (numaSearch claimData).2.allocatedDevicesMetadata.map (fun taken => taken.id.pool) =
        ["far", "node"] :=
    FallibleLoop.exists_ok (by decide +kernel)
  obtain ⟨picks, isFound, -, -, agree, compatible⟩ := found_devices_fit numaEnvironment _
    numaNodeClaim numaPools [numaClaim] claimData rackResults "large" 100 _ sliced_gatherPools
    Requirements.named_empty validated (Prod.ext succeeds rfl)
  exact ⟨claimData, _, validated, constrains, Prod.ext succeeds rfl, takes, picks, isFound, agree,
    compatible⟩

end Kraftsman.DynamicResources
