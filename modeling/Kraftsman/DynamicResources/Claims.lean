import Kraftsman.DynamicResources.Loop

/-!
Contract: which claims the pods of a scheduling loop allocate.

Owns: resolving the claims a pod names, a pod's turn, and that a claim is
searched for at most once.
Does not own: which devices a search finds.
-/

namespace Kraftsman.DynamicResources

open Apis Data FallibleLoop AList Except Option List

inductive GetError where
  | notFound
  | failed (reason : String)
  deriving DecidableEq

/-- The API server: it returns a claim under the key that was asked for. -/
structure ClaimClient where
  get : ResourceClaimID → Except GetError ResourceClaim
  get_id : ∀ key claim, get key = .ok claim → claim.id = key

inductive ResolveError where
  | notFound (key : ResourceClaimID)
  | getting (key : ResourceClaimID) (reason : String)
  deriving DecidableEq

def ResolveError.message : ResolveError → String
  | .notFound key => s!"resourceclaim \"{key.nameSpace}/{key.name}\" not found"
  | .getting key reason => s!"getting resourceclaim \"{key.nameSpace}/{key.name}\", {reason}"

/-- The claim behind a reference; through a template there is none until it is generated. -/
def resourceClaimName (pod : Pod) (reference : PodResourceClaim) : Option String :=
  match reference.resourceClaimName with
  | some name => some name
  | none =>
    match pod.resourceClaimStatuses.find? fun status => status.name = reference.name with
    | none => none
    | some status => status.resourceClaimName

/-- Resolve references, asking once per claim. What was found before a failure stays cached. -/
def resolveReferences (client : ClaimClient) (pod : Pod) :
    List PodResourceClaim → GoMap ResourceClaimID ResourceClaim →
      GoMap ResourceClaimID ResourceClaim × Except ResolveError (List ResourceClaim)
  | [], cached => (cached, .ok [])
  | reference :: rest, cached =>
    match resourceClaimName pod reference with
    | none => resolveReferences client pod rest cached
    | some name =>
      let key : ResourceClaimID := { nameSpace := pod.nameSpace, name := name }
      match cached.lookup key with
      | some claim =>
        let (cached, others) := resolveReferences client pod rest cached
        (cached, others.map fun others => claim :: others)
      | none =>
        match client.get key with
        | .error .notFound => (cached, .error (.notFound key))
        | .error (.failed reason) => (cached, .error (.getting key reason))
        | .ok claim =>
          let (cached, others) :=
            resolveReferences client pod rest (cached.insert key claim)
          (cached, others.map fun others => claim :: others)

def resolvePodClaims (client : ClaimClient) (pod : Pod)
    (cachedResourceClaims : GoMap ResourceClaimID ResourceClaim) :
    GoMap ResourceClaimID ResourceClaim × Except ResolveError (List ResourceClaim) :=
  resolveReferences client pod pod.resourceClaims cachedResourceClaims

/-- The claims whose devices are committed, one entry for each search. -/
def searchedClaims (env : Environment) (allocator : Allocator) (oracle : Oracle)
    (nodeClaim : NodeClaim) (claims : List ResourceClaim) : List ResourceClaimID :=
  match allocate env allocator oracle nodeClaim claims with
  | .error _ => []
  | .ok result =>
    match result.allocation with
    | none => []
    | some _ =>
      match classifyClaims env allocator nodeClaim claims with
      | .error _ => []
      | .ok classified => classified.unallocatedClaims.map fun claim => claim.id

/-- The loop with the claims it has resolved and the searches that were committed. -/
structure ClaimLoop where
  loop : Loop
  cachedResourceClaims : GoMap ResourceClaimID ResourceClaim := ∅
  searched : List ResourceClaimID := []

inductive ClaimEvent where
  | schedule (client : ClaimClient) (oracle : Oracle) (nodeClaim : NodeClaim) (pod : Pod)
  | release (nodeClaimID : NodeClaimID) (instanceTypes : List InstanceTypeID)

namespace ClaimLoop

def start (env : Environment) (allocatedState : AllocatedDeviceState) : ClaimLoop where
  loop := Loop.start env allocatedState

abbrev metadata (state : ClaimLoop) : GoMap ResourceClaimID ResourceClaimAllocationMetadata :=
  state.loop.allocator.claimAllocationMetadata

def apply (env : Environment) (state : ClaimLoop) : ClaimEvent → Except Panic ClaimLoop
  | .schedule client oracle nodeClaim pod =>
    let (cached, resolved) := resolvePodClaims client pod state.cachedResourceClaims
    match resolved with
    | .error _ => .ok { state with cachedResourceClaims := cached }
    | .ok claims => do
      let loop ← state.loop.schedule env oracle nodeClaim claims
      return {
        loop := loop
        cachedResourceClaims := cached
        searched := state.searched ++
          searchedClaims env state.loop.allocator oracle nodeClaim claims }
  | .release nodeClaimID instanceTypes => do
    let loop ← state.loop.apply env (.release nodeClaimID instanceTypes)
    return { state with loop := loop }

/-- A migrating claim has no allocation in this loop, and no claim to be searched
for is named twice. -/
structure Fresh (env : Environment) (allocator : Allocator) (claims : List ResourceClaim) :
    Prop where
  migrating : ∀ claim ∈ claims, claim.allocation.isSome = true →
    claimReservedEntirelyByDeletingPods env claim = true →
      claim.id ∉ allocator.claimAllocationMetadata
  distinct : ((claims.filter (needsAllocation env allocator)).map ResourceClaim.id).Nodup

def Enabled (env : Environment) (state : ClaimLoop) : ClaimEvent → Prop
  | .schedule client _ _ pod => ∀ claims,
      (resolvePodClaims client pod state.cachedResourceClaims).2 = .ok claims →
        Fresh env state.loop.allocator claims
  | .release _ _ => True

end ClaimLoop

section Committing

variable {known known' claims : GoMap ResourceClaimID ResourceClaimAllocationMetadata}

theorem commitClaims_succeeds (fresh : ∀ id ∈ claims, id ∉ known) :
    ∃ known', commitClaims known claims = .ok known' := by
  let fits : List (Sigma fun _ : ResourceClaimID => ResourceClaimAllocationMetadata) →
      GoMap ResourceClaimID ResourceClaimAllocationMetadata → Prop := fun rest known =>
    rest.NodupKeys ∧ ∀ entry ∈ rest, entry.1 ∉ known
  have step : ∀ entry rest known, fits (entry :: rest) known → ∃ known',
      (if entry.1 ∈ known then error Panic.claimAlreadyAllocated
        else .ok (known.insert entry.1 entry.2)) = .ok known' ∧ fits rest known' := by
    rintro entry rest known ⟨nodup, absent⟩
    refine ⟨_, if_neg (absent entry (by simp)), (nodupKeys_cons.mp nodup).2, ?_⟩
    intro other inRest
    rw [mem_insert, not_or]
    refine ⟨fun same => (nodupKeys_cons.mp nodup).1 ?_, absent other (by simp [inRest])⟩
    exact same ▸ mem_keys_of_mem inRest
  obtain ⟨known', done, -⟩ := foldlM_succeeds fits step
    ⟨claims.nodupKeys, fun entry member => fresh entry.1 (mem_keys_of_mem member)⟩
  exact ⟨known', done⟩

section

variable (done : commitClaims known claims = .ok known') (id : ResourceClaimID)
include done

theorem lookup_commitClaims : known'.lookup id = (known.lookup id).or (claims.lookup id) := by
  let recorded : List (Sigma fun _ : ResourceClaimID => ResourceClaimAllocationMetadata) →
      GoMap ResourceClaimID ResourceClaimAllocationMetadata → Prop := fun rest current =>
    (current.lookup id).or (rest.dlookup id) = (known.lookup id).or (claims.lookup id)
  have step : ∀ entry rest current current', recorded (entry :: rest) current →
      (if entry.1 ∈ current then error Panic.claimAlreadyAllocated
        else .ok (current.insert entry.1 entry.2)) = .ok current' → recorded rest current' := by
    intro entry rest current current' soFar iteration
    split_ifs at iteration with present
    cases iteration
    dsimp only [recorded] at soFar ⊢
    rw [← soFar, GoMap.lookup_insert_eq]
    by_cases same : id = entry.1
    · subst same
      have first : (entry :: rest).dlookup entry.1 = some entry.2 := dlookup_cons_eq ..
      simp [first, lookup_eq_none.mpr present]
    · simp [same, dlookup_cons_ne _ _ same]
  have finished := foldlM_preserves recorded step rfl done
  simpa [recorded] using finished

theorem mem_commitClaims : id ∈ known' ↔ id ∈ known ∨ id ∈ claims := by
  rw [← lookup_isSome, lookup_commitClaims done, isSome_or, Bool.or_eq_true,
    lookup_isSome, lookup_isSome]

end

end Committing

namespace ClaimLoop

variable {env : Environment} {state state' : ClaimLoop} {allocatedState : AllocatedDeviceState}
variable {claims : List ResourceClaim}

theorem Fresh.notMem {allocator : Allocator} (fresh : Fresh env allocator claims)
    {id : ResourceClaimID}
    (searched : id ∈ (claims.filter (needsAllocation env allocator)).map ResourceClaim.id) :
    id ∉ allocator.claimAllocationMetadata := by
  obtain ⟨claim, isSearched, rfl⟩ := mem_map.mp searched
  obtain ⟨inClaims, needs⟩ := mem_filter.mp isSearched
  unfold needsAllocation at needs
  cases inCluster : claim.allocation with
  | some nodeSelector =>
    rw [inCluster] at needs
    exact fresh.migrating claim inClaims (by simp [inCluster]) needs
  | none =>
    rw [inCluster] at needs
    exact lookup_eq_none.mp (isNone_iff_eq_none.mp needs)

theorem schedule_cases {loop : Loop} (cache : loop.allocator.CachePublished env) (oracle : Oracle)
    (nodeClaim : NodeClaim) (claims : List ResourceClaim) :
    (loop.schedule env oracle nodeClaim claims = .ok loop ∧
        searchedClaims env loop.allocator oracle nodeClaim claims = []) ∨
      ∃ allocation, Allocated env loop.allocator nodeClaim claims allocation ∧
        searchedClaims env loop.allocator oracle nodeClaim claims =
          (claims.filter (needsAllocation env loop.allocator)).map ResourceClaim.id ∧
        ∃ computed, loop.apply env (.allocate oracle nodeClaim claims) = .ok computed ∧
          computed.allocator = loop.allocator ∧ (loop.tracker, allocation) ∈ computed.computed ∧
          loop.schedule env oracle nodeClaim claims = computed.apply env (.commit allocation) := by
  unfold Loop.schedule searchedClaims
  cases allocated : allocate env loop.allocator oracle nodeClaim claims with
  | error failure => exact .inl ⟨rfl, rfl⟩
  | ok result =>
    cases found : result.allocation with
    | none => exact .inl (by simp [found])
    | some allocation =>
      have computed : loop.apply env (.allocate oracle nodeClaim claims) = .ok { loop with
          computed := loop.computed ++ [(loop.tracker, allocation)] } := by
        rw [Loop.apply, allocated]
        simp [found]
      refine .inr ⟨allocation, allocate_allocated cache allocated found, ?_, _, computed, rfl,
        by simp, ?_⟩
      · simp only [found]
        obtain ⟨classified, isClassified⟩ := classifyClaims_of_allocate allocated found
        rw [isClassified]
        dsimp only
        rw [classifyClaims_unallocated isClassified]
      · simp only [found]
        rw [computed]
        rfl

/-- What was searched for is what there are allocations for, each once. -/
structure Once (env : Environment) (allocatedState : AllocatedDeviceState) (state : ClaimLoop) :
    Prop where
  reached : Reaches (Loop.apply env) (Loop.Enabled Loop.AnyInput) (Loop.start env allocatedState)
    state.loop
  nodup : state.searched.Nodup
  allocated : ∀ id, id ∈ state.searched ↔ id ∈ state.metadata

section

variable (once : state.Once env allocatedState)
include once

/-- A pod with fresh claims succeeds, records each claim once and leaves the others alone. -/
theorem Once.schedule (fresh : Fresh env state.loop.allocator claims) (oracle : Oracle)
    (nodeClaim : NodeClaim) :
    ∃ loop, state.loop.schedule env oracle nodeClaim claims = .ok loop ∧
      (∀ id ∈ state.metadata, loop.allocator.claimAllocationMetadata.lookup id =
        state.metadata.lookup id) ∧
      ∀ cached, Once env allocatedState {
        loop := loop
        cachedResourceClaims := cached
        searched := state.searched ++
          searchedClaims env state.loop.allocator oracle nodeClaim claims } := by
  obtain ⟨grounded, exclusive⟩ := Loop.reaches_exclusive once.reached
  rcases schedule_cases grounded.cache oracle nodeClaim claims with
    ⟨unchanged, nothing⟩ | ⟨allocation, found, searches, computed, allocates, same, isComputed, turn⟩
  · refine ⟨state.loop, unchanged, fun _ _ => rfl, fun cached => ?_⟩
    rw [nothing, append_nil]
    exact ⟨once.reached, once.nodup, once.allocated⟩
  · have enabledAllocate : state.loop.Enabled Loop.AnyInput (.allocate oracle nodeClaim claims) :=
      trivial
    have reached := Reaches.step once.reached enabledAllocate allocates
    have enabled : computed.Enabled Loop.AnyInput (.commit allocation) := by
      have sameTracker : computed.tracker = state.loop.tracker :=
        congrArg Allocator.allocationTracker same
      have current : (computed.tracker, allocation) ∈ computed.computed := by
        rw [sameTracker]
        exact isComputed
      exact current
    have unknown : ∀ id ∈ allocation.claimMetadata, id ∉ state.metadata :=
      fun id member => fresh.notMem ((found.claims id).mp member)
    obtain ⟨known, claimed⟩ := commitClaims_succeeds unknown
    cases done : computed.apply env (.commit allocation) with
    | error panic =>
      obtain ⟨grounded, exclusive⟩ := Loop.reaches_exclusive reached
      have failed := Loop.commit_fails_at_claims grounded exclusive enabled done
      rw [same, claimed] at failed
      cases failed
    | ok loop =>
      have isKnown : loop.allocator.claimAllocationMetadata = known := by
        obtain ⟨allocator, committed, rfl⟩ := map_eq_ok.mp done
        obtain ⟨tracker, -, rest⟩ := bind_eq_ok.mp committed
        obtain ⟨known', again, rfl⟩ := map_eq_ok.mp rest
        rw [same] at again
        exact ok.inj (again.symm.trans claimed)
      refine ⟨loop, turn.trans done, ?_, fun cached => ⟨.step reached enabled done, ?_, ?_⟩⟩
      · intro id member
        obtain ⟨metadata, isMetadata⟩ := isSome_iff_exists.mp (lookup_isSome.mpr member)
        rw [isKnown, lookup_commitClaims claimed]
        have inMemory : state.loop.allocator.claimAllocationMetadata.lookup id = some metadata :=
          isMetadata
        rw [inMemory, some_or]
      · rw [searches]
        refine nodup_append.mpr ⟨once.nodup, fresh.distinct, ?_⟩
        intro old isOld new isNew same
        exact fresh.notMem isNew (same ▸ (once.allocated old).mp isOld)
      · intro id
        dsimp only [metadata]
        rw [isKnown, mem_commitClaims claimed, mem_append, once.allocated, searches, found.claims]

theorem Once.release (nodeClaimID : NodeClaimID) (instanceTypes : List InstanceTypeID) :
    ∃ loop, state.loop.apply env (.release nodeClaimID instanceTypes) = .ok loop ∧
      Once env allocatedState { state with loop := loop } := by
  obtain ⟨grounded, exclusive⟩ := Loop.reaches_exclusive once.reached
  have enabled : state.loop.Enabled Loop.AnyInput (.release nodeClaimID instanceTypes) := trivial
  obtain ⟨tracker, released, -⟩ := AllocationTracker.releaseInstanceTypes_succeeds exclusive.exact
    nodeClaimID instanceTypes
  cases done : state.loop.apply env (.release nodeClaimID instanceTypes) with
  | error panic =>
    rw [Loop.apply, map_eq_error, Allocator.releaseInstanceType, map_eq_error, released] at done
    cases done
  | ok loop =>
    refine ⟨loop, rfl, .step once.reached enabled done, once.nodup, fun id => ?_⟩
    rw [once.allocated]
    obtain ⟨allocator, released, rfl⟩ := map_eq_ok.mp done
    obtain ⟨tracker, -, rfl⟩ := map_eq_ok.mp released
    rw [← lookup_isSome, ← lookup_isSome, GoMap.lookup_rangeAlter]
    cases state.loop.allocator.claimAllocationMetadata.lookup id <;> rfl

theorem Once.apply {event : ClaimEvent} (enabled : state.Enabled env event) :
    ∃ state', state.apply env event = .ok state' ∧ state'.Once env allocatedState := by
  cases event with
  | schedule client oracle nodeClaim pod =>
    unfold ClaimLoop.apply
    dsimp only
    cases resolved : (resolvePodClaims client pod state.cachedResourceClaims).2 with
    | error failure => exact ⟨_, rfl, once.reached, once.nodup, once.allocated⟩
    | ok claims =>
      obtain ⟨loop, done, -, kept⟩ := once.schedule (enabled claims resolved) oracle nodeClaim
      exact ⟨_, map_eq_ok.mpr ⟨loop, done, rfl⟩, kept _⟩
  | release nodeClaimID instanceTypes =>
    obtain ⟨loop, done, kept⟩ := once.release nodeClaimID instanceTypes
    exact ⟨_, map_eq_ok.mpr ⟨loop, done, rfl⟩, kept⟩

end

theorem start_once : (start env allocatedState).Once env allocatedState where
  reached := .start
  nodup := nodup_nil
  allocated id := by simp [start, Loop.start, newAllocator, metadata]

end ClaimLoop

/-- In every run whose pods name fresh claims, no event panics, every claim with
an allocation was searched for exactly once, and the turn of a pod leaves the
allocations of earlier pods as they are. -/
theorem run_allocates_claims_once (env : Environment) (allocatedState : AllocatedDeviceState)
    (state : ClaimLoop)
    (reached : Reaches (ClaimLoop.apply env) (ClaimLoop.Enabled env)
      (ClaimLoop.start env allocatedState) state) :
    (∀ event, state.Enabled env event → ∃ state', state.apply env event = .ok state') ∧
      state.searched.Nodup ∧ (∀ id, id ∈ state.searched ↔ id ∈ state.metadata) ∧
      ∀ client oracle nodeClaim pod state',
        state.Enabled env (.schedule client oracle nodeClaim pod) →
        state.apply env (.schedule client oracle nodeClaim pod) = .ok state' →
          ∀ id ∈ state.metadata, state'.metadata.lookup id = state.metadata.lookup id := by
  have once : state.Once env allocatedState := by
    refine reached.invariant (ClaimLoop.Once env allocatedState) ClaimLoop.start_once ?_
    intro state event state' once enabled done
    obtain ⟨_, again, kept⟩ := once.apply enabled
    obtain rfl := ok.inj (done.symm.trans again)
    exact kept
  refine ⟨fun event enabled => ?_, once.nodup, once.allocated, ?_⟩
  · obtain ⟨state', done, -⟩ := once.apply enabled
    exact ⟨state', done⟩
  · intro client oracle nodeClaim pod state' enabled done id member
    unfold ClaimLoop.apply at done
    dsimp only at done
    cases resolved : (resolvePodClaims client pod state.cachedResourceClaims).2 with
    | error failure =>
      rw [resolved] at done
      exact ok.inj done ▸ rfl
    | ok claims =>
      rw [resolved] at done
      obtain ⟨loop, again, unchanged, -⟩ := once.schedule (enabled claims resolved) oracle nodeClaim
      obtain ⟨loop', scheduled, rfl⟩ := map_eq_ok.mp done
      obtain rfl := ok.inj (again.symm.trans scheduled)
      exact unchanged id member

def oneClaim (claim : ResourceClaim) : ClaimClient where
  get key := if key = claim.id then .ok claim else .error .notFound
  get_id key found done := by
    split_ifs at done with same
    rw [same, ok.inj done]

def pairEnvironment : Environment :=
  { gpuEnvironment with
    inClusterSlices := [{ driver := "gpu.example.com", pool := "rack", allNodes := true,
                          devices := [{ name := "gpu-0" }, { name := "gpu-1" }] }]
    deletingPodUIDs := {"leaving"} }

/-- A claim for one device whose only consumer is on its way out. -/
def migratingClaim : ResourceClaim :=
  { gpuClaim with
    allocation := some none
    reservedFor := [{ resource := "pods", uid := "leaving" }] }

def claimingPod (references : List String) : Pod where
  resourceClaims := references.map fun name => { name := name, resourceClaimName := some "gpu" }

/-- Pods that reference the claim take their turns. -/
def claimRun (claim : ResourceClaim) (pods : List Pod) : Except Panic ClaimLoop :=
  pods.foldlM (fun state pod => state.apply pairEnvironment
    (.schedule (oneClaim claim) patientOracle gpuNodeClaim pod)) (.start pairEnvironment {})

/-- A migrating claim that two pods share is searched for again and panics, and a
pod that references a claim twice gets devices for it twice. -/
theorem claimRun_allocates_claims_again :
    claimRun migratingClaim [claimingPod ["gpu"], claimingPod ["gpu"]] =
        .error .claimAlreadyAllocated ∧
      ∃ state, claimRun gpuClaim [claimingPod ["first", "second"]] = .ok state ∧
        state.searched = [gpuClaim.id, gpuClaim.id] ∧
        (state.loop.held.filter fun holding => holding.instanceType = "small").length = 2 := by
  constructor
  · have panics : (match claimRun migratingClaim [claimingPod ["gpu"], claimingPod ["gpu"]] with
        | .error panic => some panic
        | .ok _ => none) = some .claimAlreadyAllocated := by
      decide +kernel
    cases finished : claimRun migratingClaim [claimingPod ["gpu"], claimingPod ["gpu"]] with
    | error panic =>
      rw [finished] at panics
      rw [some.inj panics]
    | ok state =>
      rw [finished] at panics
      cases panics
  · exact exists_ok (by decide +kernel)

theorem resolve_claimingPod {cached : GoMap ResourceClaimID ResourceClaim}
    (consistent : ∀ claim, cached.lookup gpuClaim.id = some claim → claim = gpuClaim) :
    (resolvePodClaims (oneClaim gpuClaim) (claimingPod ["gpu"]) cached).2 = .ok [gpuClaim] := by
  unfold resolvePodClaims claimingPod
  cases found : cached.lookup gpuClaim.id with
  | some claim =>
    obtain rfl := consistent claim found
    rw [gpuClaim] at found
    simp [resolveReferences, resourceClaimName, found, Except.map]
    rfl
  | none =>
    rw [gpuClaim] at found
    simp [resolveReferences, resourceClaimName, found, oneClaim, Except.map]
    rfl

theorem gpuClaim_fresh (env : Environment) (allocator : Allocator) :
    ClaimLoop.Fresh env allocator [gpuClaim] where
  migrating claim isClaim inCluster := by
    obtain rfl := mem_singleton.mp isClaim
    cases inCluster
  distinct := (nodup_singleton gpuClaim.id).sublist
    ((filter_sublist (l := [gpuClaim])).map ResourceClaim.id)

theorem claimRun_reuses_claim :
    ∃ state, claimRun gpuClaim [claimingPod ["gpu"], claimingPod ["gpu"]] = .ok state ∧
      state.searched = [gpuClaim.id] ∧
      (∀ id, id ∈ state.searched ↔ id ∈ state.metadata) ∧
      ∃ state', state.apply pairEnvironment (.release "default-1" ["small"]) = .ok state' := by
  obtain ⟨state, finished, searched⟩ : ∃ state,
      claimRun gpuClaim [claimingPod ["gpu"], claimingPod ["gpu"]] = .ok state ∧
      state.searched = [gpuClaim.id] := exists_ok (by decide +kernel)
  obtain ⟨middle, first, rest⟩ := bind_eq_ok.mp finished
  obtain ⟨final, second, same⟩ := bind_eq_ok.mp rest
  rw [ok.inj same] at second
  have enabled : ∀ state : ClaimLoop, (∀ claim,
      state.cachedResourceClaims.lookup gpuClaim.id = some claim → claim = gpuClaim) →
      state.Enabled pairEnvironment
        (.schedule (oneClaim gpuClaim) patientOracle gpuNodeClaim (claimingPod ["gpu"])) := by
    intro state consistent claims resolved
    obtain rfl := ok.inj ((resolve_claimingPod consistent).symm.trans resolved)
    exact gpuClaim_fresh _ _
  have empty : ∀ claim, (ClaimLoop.start pairEnvironment {}).cachedResourceClaims.lookup
      gpuClaim.id = some claim → claim = gpuClaim := by
    simp [ClaimLoop.start]
  have cached : middle.cachedResourceClaims.lookup gpuClaim.id = some gpuClaim := by
    obtain ⟨loop, -, rfl⟩ := map_eq_ok.mp first
    rfl
  obtain ⟨succeeds, -, allocated, -⟩ := run_allocates_claims_once pairEnvironment {} state
    (.step (.step .start (enabled _ empty) first)
      (enabled middle fun claim found => some.inj (found.symm.trans cached)) second)
  exact ⟨state, finished, searched, allocated, succeeds _ trivial⟩

end Kraftsman.DynamicResources
