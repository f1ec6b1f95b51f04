import Kraftsman.DynamicResources.Entries
import Kraftsman.Provisioning.InFlight

/-!
Contract: what scheduling pods does to the device allocator.

A NodeClaim in flight is allocated devices for each instance type it may still
become. A pod that joins it commits its allocation and releases the instance
types of it that the NodeClaim does not keep.

Owns: what the allocator sees of a NodeClaim, the commit and release of a pod
that joins, and which entries are left behind.
Does not own: how devices are found, and which NodeClaim a pod is tried on.
-/

namespace Kraftsman.Provisioning

open Apis CloudProvider Data Scheduling FallibleLoop DynamicResources NodeClaim Except Option List
open Kraftsman.DynamicResources (AllocatedDeviceState AllocationResult AllocationTracker Allocator
  DeviceID Environment InstanceTypeID NodeClaimID Oracle ResourceClaim ResourceSlice holds)

/-! ### What the allocator sees -/

def templateSlicesForInstanceType (it : InstanceType) : List ResourceSlice := it.resourceSliceTemplates

/-- A NodeClaim as the allocator sees it: all instance types it may become, without a node. -/
def draNodeClaim (claim : NodeClaim) : DynamicResources.NodeClaim where
  id := claim.hostname
  nodeName := ""
  nodePoolID := claim.nodePoolName
  requirements := claim.requirements
  instanceTypes := claim.instanceTypeOptions.map (·.name)
  resourceSlices := claim.instanceTypeOptions.foldl (fun slices it =>
    slices.insert it.name (templateSlicesForInstanceType it)) ∅

/-- A pod's turn on a NodeClaim: its claims, settings, topologies and
reservations, and the choices for each volume alternative. -/
structure Turn where
  options : Options := { allocator := true }
  topology : Topology
  manager : ReservationManager
  groupOrder : Nat → RangeOrder TopologyGroup := fun _ => .listed
  domainOrder : Nat → Nat → RangeOrder String := fun _ _ => .listed
  oracle : Nat → Oracle
  pod : Pod
  podData : PodData
  claims : List ResourceClaim := []
  relaxMinValues : Bool := false

namespace Turn

variable (turn : Turn) (env : Environment) (allocator : Allocator) (claim : NodeClaim)

def allocate (alternative : Nat) : Option AllocationResult :=
  (DynamicResources.allocate env allocator (turn.oracle alternative) (draNodeClaim claim)
    turn.claims).toOption

/-- The choices made while the pod is tried. -/
def evaluation : Evaluation where
  groupOrder := turn.groupOrder
  domainOrder := turn.domainOrder
  allocate alternative := (turn.allocate env allocator claim alternative).map fun result =>
    { requirements := result.requirements, instanceTypes := result.instanceTypes }

/-- What the NodeClaim becomes if it takes the pod. -/
def canAdd : Except ReservationPanic (Except SchedulingError Placement) :=
  claim.canAdd env.tables turn.options turn.topology turn.manager
    (turn.evaluation env allocator claim) turn.pod turn.podData turn.relaxMinValues

def firstAlternative
    (attempt : Nat → Requirements → Except ReservationPanic (Except SchedulingError Placement)) :
    Nat → List Requirements → Nat
  | index, [] => index
  | index, volumeRequirements :: rest =>
    match attempt index volumeRequirements with
    | .ok (.ok _) => index
    | _ => firstAlternative attempt (index + 1) rest

def alternative : Nat :=
  let base := (Requirements.newRequirements env.tables claim.requirements.values).add env.tables
    turn.podData.requirements.values
  firstAlternative (claim.tryVolumeAlternative env.tables turn.options turn.topology turn.manager
    (turn.evaluation env allocator claim) turn.pod turn.podData base turn.relaxMinValues) 0
    (NodeClaim.volumeAlternatives turn.podData)

/-- The allocation of the placement; none for a pod without claims. -/
def allocationResult : Option AllocationResult :=
  if turn.podData.hasResourceClaimRequests && turn.options.allocator then
    turn.allocate env allocator claim (turn.alternative env allocator claim)
  else none

end Turn

/-! ### Adding pods -/

def prunedInstanceTypes (result : AllocationResult) (instanceTypes : List InstanceType) :
    List InstanceTypeID :=
  result.instanceTypes.filter fun it => !(instanceTypes.map (·.name)).contains it

/-- Commit the allocation of a pod, if there is one, and release the pruned instance types. -/
def NodeClaim.addDevices (env : Environment) (claim : NodeClaim) (allocator : Allocator)
    (instanceTypes : List InstanceType) (result : Option AllocationResult) :
    Except DynamicResources.Panic Allocator :=
  match result with
  | none => .ok allocator
  | some result =>
    match result.allocation with
    | none => .ok allocator
    | some allocation => do
      let committed ← allocator.commit allocation
      let pruned := prunedInstanceTypes result instanceTypes
      if pruned.isEmpty then return committed
      else committed.releaseInstanceType env claim.hostname pruned

/-- The NodeClaims of a run and the allocator they share. -/
structure DeviceRun where
  allocator : Allocator
  nodeClaims : List NodeClaim := []
  nodeID : Nat

/-- A pod joins a NodeClaim in flight, opens a new one, perhaps after draws in
vain, or is put on an existing node. -/
inductive DeviceEvent where
  | join (index : Nat) (turn : Turn)
  | launch (template : NodeClaimTemplate) (instanceTypes : List InstanceType) (skipped : Nat)
      (turn : Turn)
  | occupy (node : DynamicResources.NodeClaim) (oracle : Oracle) (claims : List ResourceClaim)

inductive AddPanic where
  | reservations (panic : ReservationPanic)
  | devices (panic : DynamicResources.Panic)

namespace DeviceRun

variable (env : Environment)

def start (allocatedState : AllocatedDeviceState) (nodeID : Nat) : DeviceRun where
  allocator := DynamicResources.newAllocator env allocatedState
  nodeID := nodeID

variable (run : DeviceRun)

abbrev tracker : AllocationTracker := run.allocator.allocationTracker

def place (turn : Turn) (claim : NodeClaim) (update : NodeClaim → Allocator → DeviceRun) :
    Except AddPanic DeviceRun :=
  match turn.canAdd env run.allocator claim with
  | .error panic => .error (.reservations panic)
  | .ok (.error _) => .ok run
  | .ok (.ok placement) =>
    match claim.addDevices env run.allocator placement.instanceTypes
        (turn.allocationResult env run.allocator claim) with
    | .error panic => .error (.devices panic)
    | .ok allocator => .ok (update (claim.placed turn.pod turn.podData placement) allocator)

def apply : DeviceEvent → Except AddPanic DeviceRun
  | .join index turn =>
    match run.nodeClaims[index]? with
    | none => .ok run
    | some claim => run.place env turn claim fun placed allocator =>
      { run with allocator := allocator, nodeClaims := run.nodeClaims.set index placed }
  | .launch template instanceTypes skipped turn =>
    let nodeID := run.nodeID + 1 + skipped
    run.place env turn (newNodeClaim env.tables template instanceTypes nodeID)
      fun placed allocator =>
        { allocator := allocator, nodeClaims := run.nodeClaims ++ [placed], nodeID := nodeID }
  | .occupy node oracle claims =>
    match DynamicResources.allocate env run.allocator oracle node claims with
    | .error _ => .ok run
    | .ok result =>
      match result.allocation with
      | none => .ok run
      | some allocation =>
        match run.allocator.commit allocation with
        | .error panic => .error (.devices panic)
        | .ok allocator => .ok { run with allocator := allocator }

/-- The provider ID of an existing node is no placeholder. -/
def Enabled (_run : DeviceRun) : DeviceEvent → Prop
  | .occupy node _ _ => ∀ nodeID, node.id ≠ placeholder nodeID
  | _ => True

/-- Instance types with entries stay options or are among those of the allocation
committed with the pod. -/
def Covers (turn : Turn) (claim : NodeClaim) : Prop :=
  ∀ placement, turn.canAdd env run.allocator claim = .ok (.ok placement) →
    ∀ it, run.tracker.Tracks claim.hostname it →
      it ∈ placement.instanceTypes.map (·.name) ∨
        ∃ result, turn.allocationResult env run.allocator claim = some result ∧
          result.allocation.isSome = true ∧ it ∈ result.instanceTypes

def JoinsCovered : DeviceEvent → Prop
  | .join index turn => ∀ claim, run.nodeClaims[index]? = some claim → run.Covers env turn claim
  | _ => True

/-- Entries are only for instance types that NodeClaims may still become, and
devices held for others alone are available. -/
structure Tidy (run : DeviceRun) : Prop where
  entries : ∀ claim ∈ run.nodeClaims, ∀ it, run.tracker.Tracks claim.hostname it →
    it ∈ claim.instanceTypeOptions.map (·.name)
  available : ∀ id : DeviceID, id.template = false → id ∉ run.tracker.preallocatedDevices →
    (∀ nodeClaim it, holds run.tracker.inflightClusterAllocations id nodeClaim it →
      ∃ claim ∈ run.nodeClaims, claim.hostname = nodeClaim ∧
        it ∉ claim.instanceTypeOptions.map (·.name)) →
    ∀ nodeClaim it, run.tracker.isAllocated id nodeClaim it = false

end DeviceRun

/-! ### What adding a pod leaves behind -/

/-- What entries become if a pod is added, by the instance types kept and released. -/
structure Handover (owner : NodeClaimID) (kept : List InstanceTypeID) (Released : InstanceTypeID → Prop)
    (before after : AllocationTracker) : Prop where
  exact : after.indexes.Exact
  others : ∀ other it, other ≠ owner → (after.Tracks other it ↔ before.Tracks other it)
  stale : ∀ it, it ∉ kept → (after.Tracks owner it ↔ before.Tracks owner it ∧ ¬ Released it)

def ReleasedWith (result : Option AllocationResult) (instanceTypes : List InstanceType)
    (it : InstanceTypeID) : Prop :=
  ∃ found, result = some found ∧ found.allocation.isSome = true ∧
    it ∈ prunedInstanceTypes found instanceTypes

/-- An allocation that lists only its own instance types. -/
def OwnAllocation (owner : NodeClaimID) (result : AllocationResult) : Prop :=
  ∀ allocation, result.allocation = some allocation → allocation.nodeClaimID = owner ∧
    ∀ it, allocation.toTrackedAllocation.Lists it → it ∈ result.instanceTypes

section Adding

variable {env : Environment} {claim : NodeClaim} {allocator allocator' : Allocator}
variable {instanceTypes : List InstanceType} {result : Option AllocationResult}

variable {found : AllocationResult} {owner : NodeClaimID}

theorem mem_prunedInstanceTypes {it : InstanceTypeID} :
    it ∈ prunedInstanceTypes found instanceTypes ↔
      it ∈ found.instanceTypes ∧ it ∉ instanceTypes.map (·.name) := by
  unfold prunedInstanceTypes
  rw [mem_filter, Bool.not_eq_true', Bool.eq_false_iff, ne_eq, contains_iff_mem]

theorem Allocator.commit_tracker {allocation : DynamicResources.Allocation}
    (done : allocator.commit allocation = .ok allocator') :
    allocator.allocationTracker.commit allocation.toTrackedAllocation =
      .ok allocator'.allocationTracker := by
  obtain ⟨tracker, committed, rest⟩ := bind_eq_ok.mp done
  obtain ⟨claims, -, rfl⟩ := map_eq_ok.mp rest
  exact committed

theorem Allocator.release_tracker {released : List InstanceTypeID}
    (done : allocator.releaseInstanceType env owner released = .ok allocator') :
    allocator.allocationTracker.releaseInstanceTypes owner released =
      .ok allocator'.allocationTracker := by
  obtain ⟨tracker, dropped, rfl⟩ := map_eq_ok.mp done
  exact dropped

theorem NodeClaim.addDevices_eq_ok
    (done : claim.addDevices env allocator instanceTypes result = .ok allocator') :
    ((∀ found, result = some found → found.allocation = none) ∧ allocator' = allocator) ∨
      ∃ found allocation committed, result = some found ∧ found.allocation = some allocation ∧
        allocator.commit allocation = .ok committed ∧
        (prunedInstanceTypes found instanceTypes = [] ∧ allocator' = committed ∨
          committed.releaseInstanceType env claim.hostname
            (prunedInstanceTypes found instanceTypes) = .ok allocator') := by
  unfold addDevices at done
  split at done
  · cases done
    exact .inl ⟨fun _ isSome => (by cases isSome), rfl⟩
  next found =>
  split at done
  · next isNone =>
      cases done
      exact .inl ⟨fun other same => some.inj same ▸ isNone, rfl⟩
  next allocation isAllocation =>
  obtain ⟨committed, commits, rest⟩ := bind_eq_ok.mp done
  refine .inr ⟨found, allocation, committed, rfl, isAllocation, commits, ?_⟩
  dsimp only at rest
  split_ifs at rest with empty
  · exact .inl ⟨isEmpty_iff.mp empty, (ok.inj rest).symm⟩
  · exact .inr rest

theorem releasePruned_tracks {pruned : List InstanceTypeID}
    (exact : allocator.allocationTracker.indexes.Exact)
    (released : pruned = [] ∧ allocator' = allocator ∨
      allocator.releaseInstanceType env owner pruned = .ok allocator') :
    allocator'.allocationTracker.indexes.Exact ∧ ∀ other it,
      allocator'.allocationTracker.Tracks other it ↔
        allocator.allocationTracker.Tracks other it ∧ ¬ (other = owner ∧ it ∈ pruned) := by
  rcases released with ⟨rfl, rfl⟩ | done
  · simp [exact]
  · have dropped := Allocator.release_tracker done
    obtain ⟨tracker, again, isExact, -⟩ :=
      AllocationTracker.releaseInstanceTypes_succeeds exact owner pruned
    obtain rfl := ok.inj (again.symm.trans dropped)
    exact ⟨isExact, fun _ _ => releaseInstanceTypes_tracks exact dropped⟩

theorem releasedWith_some (isSome : found.allocation.isSome) (it : InstanceTypeID) :
    ReleasedWith (some found) instanceTypes it ↔ it ∈ prunedInstanceTypes found instanceTypes := by
  constructor
  · rintro ⟨other, same, -, pruned⟩
    exact some.inj same ▸ pruned
  · exact fun pruned => ⟨found, rfl, isSome, pruned⟩

theorem NodeClaim.addDevices_handover (exact : allocator.allocationTracker.indexes.Exact)
    (own : ∀ found, result = some found → OwnAllocation claim.hostname found)
    (done : claim.addDevices env allocator instanceTypes result = .ok allocator') :
    Handover claim.hostname (instanceTypes.map (·.name)) (ReleasedWith result instanceTypes)
      allocator.allocationTracker allocator'.allocationTracker := by
  rcases addDevices_eq_ok done with
    ⟨nothing, rfl⟩ | ⟨found, allocation, committed, rfl, isAllocation, commits, rest⟩
  · have unreleased (it : InstanceTypeID) : ¬ ReleasedWith result instanceTypes it := by
      rintro ⟨found, isFound, isSome, -⟩
      rw [nothing found isFound] at isSome
      cases isSome
    exact ⟨exact, fun _ _ _ => Iff.rfl, fun it _ => by simp [unreleased it]⟩
  · obtain ⟨isOwn, listed⟩ := own found rfl allocation isAllocation
    have commitsTracker := Allocator.commit_tracker commits
    have grows := fun other it => @DynamicResources.commit_tracks _ _ _ other it commitsTracker
    obtain ⟨finalExact, final⟩ :=
      releasePruned_tracks (AllocationTracker.commit_exact exact commitsTracker) rest
    refine ⟨finalExact, fun other it different => ?_, fun it gone => ?_⟩
    · rw [final]
      constructor
      · rintro ⟨tracks, -⟩
        rcases (grows other it).known tracks with before | ⟨isOwner, -⟩
        · exact before
        · exact absurd (isOwner.trans isOwn) different
      · exact fun before => ⟨(grows other it).kept before, fun isOwner => different isOwner.1⟩
    · rw [final, releasedWith_some (by simp [isAllocation])]
      constructor
      · rintro ⟨tracks, unpruned⟩
        rcases (grows _ it).known tracks with before | ⟨-, lists⟩
        · exact ⟨before, fun pruned => unpruned ⟨rfl, pruned⟩⟩
        · exact absurd ⟨rfl, mem_prunedInstanceTypes.mpr ⟨listed it lists, gone⟩⟩ unpruned
      · exact fun kept => ⟨(grows _ it).kept kept.1, fun pruned => kept.2 pruned.2⟩

theorem Turn.own_allocationResult (turn : Turn) (env : Environment) (allocator : Allocator)
    (claim : NodeClaim) (isResult : turn.allocationResult env allocator claim = some found) :
    OwnAllocation claim.hostname found := by
  unfold allocationResult at isResult
  split_ifs at isResult
  unfold allocate at isResult
  cases done : DynamicResources.allocate env allocator
      (turn.oracle (turn.alternative env allocator claim)) (draNodeClaim claim) turn.claims with
  | error error =>
    rw [done] at isResult
    cases isResult
  | ok result =>
    rw [done] at isResult
    cases isResult
    exact fun allocation isAllocation => lists_of_allocate done isAllocation

end Adding

/-! ### Runs -/

theorem eq_or_ne_of_mem_set {A B : Type*} {image : A → B} {list : List A} {index : Nat}
    {old new other : A} (distinct : (list.map image).Nodup) (found : list[index]? = some old)
    (member : other ∈ list.set index new) : other = new ∨ (other ∈ list ∧ image other ≠ image old) := by
  obtain ⟨position, isThere⟩ := mem_iff_getElem?.mp member
  rw [getElem?_set] at isThere
  split_ifs at isThere with same inRange
  · exact .inl (some.inj isThere).symm
  · refine .inr ⟨mem_of_getElem? isThere, fun sameImage => same ?_⟩
    have oldImage : (list.map image)[index]? = some (image old) := by rw [List.getElem?_map, found]; rfl
    have otherImage : (list.map image)[position]? = some (image old) := by
      rw [List.getElem?_map, isThere, ← sameImage]
      rfl
    have inRange := (List.getElem?_eq_some_iff.mp oldImage).1
    exact (List.getElem?_inj inRange distinct).mp (oldImage.trans otherImage.symm)

namespace DeviceRun

/-- Nothing, with nothing to cover, or a pod is put on a NodeClaim in flight, on a
new one or on an existing node. -/
inductive Step (env : Environment) (run : DeviceRun) : DeviceEvent → DeviceRun → Prop where
  | stays {event : DeviceEvent} (covered : run.JoinsCovered env event) : Step env run event run
  | joined {index : Nat} {turn : Turn} {claim : NodeClaim} {placement : Placement}
      {allocator : Allocator} (found : run.nodeClaims[index]? = some claim)
      (taken : turn.canAdd env run.allocator claim = .ok (.ok placement))
      (added : claim.addDevices env run.allocator placement.instanceTypes
        (turn.allocationResult env run.allocator claim) = .ok allocator) :
      Step env run (.join index turn)
        ⟨allocator, run.nodeClaims.set index (claim.placed turn.pod turn.podData placement), run.nodeID⟩
  | launched {template : NodeClaimTemplate} {instanceTypes : List InstanceType} {skipped : Nat}
      {turn : Turn} {claim : NodeClaim} {placement : Placement} {allocator : Allocator}
      (named : claim.hostname = placeholder (run.nodeID + 1 + skipped))
      (added : claim.addDevices env run.allocator placement.instanceTypes
        (turn.allocationResult env run.allocator claim) = .ok allocator) :
      Step env run (.launch template instanceTypes skipped turn)
        ⟨allocator, run.nodeClaims ++ [claim.placed turn.pod turn.podData placement],
          run.nodeID + 1 + skipped⟩
  | occupied {node : DynamicResources.NodeClaim} {oracle : Oracle} {claims : List ResourceClaim}
      {allocation : DynamicResources.Allocation} {allocator : Allocator}
      (isOwn : allocation.nodeClaimID = node.id)
      (committed : run.allocator.commit allocation = .ok allocator) :
      Step env run (.occupy node oracle claims) ⟨allocator, run.nodeClaims, run.nodeID⟩

variable {env : Environment} {run run' : DeviceRun} {event : DeviceEvent}

theorem place_eq_ok {turn : Turn} {claim : NodeClaim} {update : NodeClaim → Allocator → DeviceRun}
    (done : run.place env turn claim update = .ok run') :
    (run' = run ∧ ∀ placement, turn.canAdd env run.allocator claim ≠ .ok (.ok placement)) ∨
      ∃ placement allocator, turn.canAdd env run.allocator claim = .ok (.ok placement) ∧
        claim.addDevices env run.allocator placement.instanceTypes
          (turn.allocationResult env run.allocator claim) = .ok allocator ∧
        run' = update (claim.placed turn.pod turn.podData placement) allocator := by
  unfold place at done
  split at done
  · cases done
  · next refused =>
      exact .inl ⟨(ok.inj done).symm, fun placement taken => by rw [refused] at taken; cases taken⟩
  · next placement taken =>
      split at done
      · cases done
      · next allocator added =>
          exact .inr ⟨placement, allocator, taken, added, (ok.inj done).symm⟩

theorem step_of_apply (done : run.apply env event = .ok run') : run.Step env event run' := by
  cases event with
  | join index turn =>
    rw [apply] at done
    split at done
    · next absent =>
        cases done
        refine .stays fun claim found => ?_
        rw [absent] at found
        cases found
    · next claim found =>
        rcases place_eq_ok done with ⟨rfl, refused⟩ | ⟨placement, allocator, taken, added, rfl⟩
        · refine .stays fun other isOther placement taken => ?_
          obtain rfl := some.inj (found.symm.trans isOther)
          exact absurd taken (refused placement)
        · exact .joined found taken added
  | launch template instanceTypes skipped turn =>
    rw [apply] at done
    rcases place_eq_ok done with ⟨rfl, -⟩ | ⟨placement, allocator, -, added, rfl⟩
    · exact .stays trivial
    · exact .launched rfl added
  | occupy node oracle claims =>
    rw [apply] at done
    split at done
    · exact ok.inj done ▸ .stays trivial
    next result isResult =>
    split at done
    · exact ok.inj done ▸ .stays trivial
    next allocation isAllocation =>
    split at done
    · cases done
    next allocator committed =>
    cases done
    exact .occupied (lists_of_allocate isResult isAllocation).1 committed

/-- NodeClaims have names of their own, drawn before, and what has entries is one
of them or no placeholder. -/
structure Accounted (run : DeviceRun) : Prop where
  exact : run.tracker.indexes.Exact
  distinct : (run.nodeClaims.map (·.hostname)).Nodup
  drawn : ∀ name ∈ run.nodeClaims.map (·.hostname), ∃ nodeID ≤ run.nodeID, name = placeholder nodeID
  owners : ∀ nodeClaim it, run.tracker.Tracks nodeClaim it →
    nodeClaim ∈ run.nodeClaims.map (·.hostname) ∨ ∀ nodeID, nodeClaim ≠ placeholder nodeID

def EntriesKept (run : DeviceRun) : Prop :=
  ∀ claim ∈ run.nodeClaims, ∀ it, run.tracker.Tracks claim.hostname it →
    it ∈ claim.instanceTypeOptions.map (·.name)

theorem accounted_start (env : Environment) (allocatedState : AllocatedDeviceState) (nodeID : Nat) :
    (start env allocatedState nodeID).Accounted ∧ (start env allocatedState nodeID).EntriesKept := by
  refine ⟨⟨?_, nodup_nil, ?_, fun nodeClaim it tracks => absurd tracks ?_⟩, ?_⟩
  · exact (AllocationTracker.initPools_accounts allocatedState _).exact
  · exact fun name member => by cases member
  · exact not_tracks_start env allocatedState nodeClaim it
  · exact fun claim member => by cases member

theorem Accounted.fresh (accounted : run.Accounted) (skipped : Nat) :
    placeholder (run.nodeID + 1 + skipped) ∉ run.nodeClaims.map (·.hostname) := by
  intro member
  obtain ⟨nodeID, old, named⟩ := accounted.drawn _ member
  have := placeholder_injective named
  omega

section

variable (accounted : run.Accounted)
include accounted

theorem Accounted.untracked (skipped : Nat) (it : InstanceTypeID) :
    ¬ run.tracker.Tracks (placeholder (run.nodeID + 1 + skipped)) it := by
  intro tracks
  rcases accounted.owners _ it tracks with member | foreign
  · exact accounted.fresh skipped member
  · exact foreign _ rfl

theorem Accounted.owners_handover {owner : NodeClaimID} {kept : List InstanceTypeID}
    {Released : InstanceTypeID → Prop} {after : AllocationTracker}
    (handover : Handover owner kept Released run.tracker after) {names : List String}
    (grown : run.nodeClaims.map (·.hostname) ⊆ names) (owns : owner ∈ names)
    (nodeClaim : NodeClaimID) (it : InstanceTypeID) (tracks : after.Tracks nodeClaim it) :
    nodeClaim ∈ names ∨ ∀ nodeID, nodeClaim ≠ placeholder nodeID := by
  by_cases same : nodeClaim = owner
  · exact .inl (same ▸ owns)
  · exact (accounted.owners nodeClaim it ((handover.others nodeClaim it same).mp tracks)).imp_left
      fun member => grown member

theorem Accounted.step (enabled : run.Enabled event) (step : run.Step env event run') :
    run'.Accounted := by
  cases step with
  | stays covered => exact accounted
  | @joined index turn claim placement allocator found taken added =>
    have handover := addDevices_handover accounted.exact
      (fun _ => turn.own_allocationResult env run.allocator claim) added
    have names : (run.nodeClaims.set index
        (claim.placed turn.pod turn.podData placement)).map (·.hostname) =
          run.nodeClaims.map (·.hostname) := by
      apply map_set_of_eq (·.hostname) found
      rfl
    have owns : claim.hostname ∈ run.nodeClaims.map (·.hostname) :=
      mem_map_of_mem (mem_of_getElem? found)
    refine ⟨handover.exact, ?_, ?_, ?_⟩ <;> dsimp only <;> rw [names]
    · exact accounted.distinct
    · exact accounted.drawn
    · exact accounted.owners_handover handover (List.Subset.refl _) owns
  | @launched template instanceTypes skipped turn claim placement allocator named added =>
    have handover := addDevices_handover accounted.exact
      (fun _ => turn.own_allocationResult env run.allocator claim) added
    have names : (run.nodeClaims ++ [claim.placed turn.pod turn.podData placement]).map (·.hostname) =
        run.nodeClaims.map (·.hostname) ++ [placeholder (run.nodeID + 1 + skipped)] := by
      rw [map_append, ← named]
      rfl
    refine ⟨handover.exact, ?_, ?_, ?_⟩ <;> dsimp only <;> rw [names]
    · rw [← concat_eq_append, nodup_concat]
      exact ⟨accounted.fresh skipped, accounted.distinct⟩
    · intro name member
      rcases mem_append.mp member with old | new
      · obtain ⟨nodeID, drawn, isName⟩ := accounted.drawn name old
        exact ⟨nodeID, by omega, isName⟩
      · exact ⟨_, le_rfl, mem_singleton.mp new⟩
    · refine accounted.owners_handover handover (subset_append_left _ _) ?_
      rw [named]
      exact mem_append_right _ mem_cons_self
  | @occupied node oracle claims allocation allocator isOwn committed =>
    have commits := Allocator.commit_tracker committed
    refine ⟨AllocationTracker.commit_exact accounted.exact commits, accounted.distinct,
      accounted.drawn, fun nodeClaim it tracks => ?_⟩
    rcases (commit_tracks commits).known tracks with before | ⟨isNode, -⟩
    · exact accounted.owners nodeClaim it before
    · exact .inr (isNode.trans isOwn ▸ enabled)

theorem tracked_placed_iff {claim : NodeClaim} {turn : Turn} {placement : Placement}
    {allocator : Allocator}
    (added : claim.addDevices env run.allocator placement.instanceTypes
      (turn.allocationResult env run.allocator claim) = .ok allocator) :
    (∀ it, allocator.allocationTracker.Tracks claim.hostname it →
        it ∈ placement.instanceTypes.map (·.name)) ↔
      ∀ it, run.tracker.Tracks claim.hostname it → it ∈ placement.instanceTypes.map (·.name) ∨
        ∃ result, turn.allocationResult env run.allocator claim = some result ∧
          result.allocation.isSome ∧ it ∈ result.instanceTypes := by
  have handover := addDevices_handover accounted.exact
    (fun _ => turn.own_allocationResult env run.allocator claim) added
  constructor
  · intro kept it tracks
    by_contra uncovered
    obtain ⟨gone, unreleased⟩ := not_or.mp uncovered
    refine gone (kept it ((handover.stale it gone).mpr ⟨tracks, ?_⟩))
    rintro ⟨result, isResult, isSome, pruned⟩
    exact unreleased ⟨result, isResult, isSome, (mem_prunedInstanceTypes.mp pruned).1⟩
  · intro covered it tracks
    by_contra gone
    obtain ⟨before, unreleased⟩ := (handover.stale it gone).mp tracks
    rcases covered it before with kept | ⟨result, isResult, isSome, listed⟩
    · exact gone kept
    · exact unreleased ⟨result, isResult, isSome, mem_prunedInstanceTypes.mpr ⟨listed, gone⟩⟩

theorem entriesKept_step (entries : run.EntriesKept) (enabled : run.Enabled event)
    (step : run.Step env event run') :
    run'.EntriesKept ↔ run.JoinsCovered env event := by
  cases step with
  | stays covered => exact ⟨fun _ => covered, fun _ => entries⟩
  | @joined index turn claim placement allocator found taken added =>
    have handover := addDevices_handover accounted.exact
      (fun _ => turn.own_allocationResult env run.allocator claim) added
    have covers : run.JoinsCovered env (.join index turn) ↔ ∀ it,
        allocator.allocationTracker.Tracks claim.hostname it →
          it ∈ placement.instanceTypes.map (·.name) := by
      rw [tracked_placed_iff accounted added]
      constructor
      · exact fun covered => covered claim found placement taken
      · intro covered other isOther second isSecond
        obtain rfl := some.inj (found.symm.trans isOther)
        obtain rfl := ok.inj (ok.inj (taken.symm.trans isSecond))
        exact covered
    rw [covers]
    constructor
    · intro kept
      exact kept _ (List.mem_set (List.getElem?_eq_some_iff.mp found).1 _)
    · intro kept other member it tracks
      rcases eq_or_ne_of_mem_set accounted.distinct found member with rfl | ⟨old, different⟩
      · exact kept it tracks
      · exact entries other old it ((handover.others _ it different).mp tracks)
  | @launched template instanceTypes skipped turn claim placement allocator named added =>
    have handover := addDevices_handover accounted.exact
      (fun _ => turn.own_allocationResult env run.allocator claim) added
    refine ⟨fun _ => trivial, fun _ other member it tracks => ?_⟩
    rcases mem_append.mp member with old | new
    · refine entries other old it ((handover.others _ it ?_).mp tracks)
      rw [named]
      exact fun same => accounted.fresh skipped (same ▸ mem_map_of_mem old)
    · obtain rfl := mem_singleton.mp new
      refine (tracked_placed_iff accounted added).mpr (fun other before => ?_) it tracks
      exact absurd before (named ▸ accounted.untracked skipped other)
  | @occupied node oracle claims allocation allocator isOwn committed =>
    refine ⟨fun _ => trivial, fun _ claim member it tracks => ?_⟩
    rcases (commit_tracks (Allocator.commit_tracker committed)).known tracks with
      before | ⟨isNode, -⟩
    · exact entries claim member it before
    · obtain ⟨nodeID, -, named⟩ := accounted.drawn _ (mem_map_of_mem member)
      exact absurd (isOwn.symm.trans (isNode.symm.trans named)) (enabled nodeID)

theorem tidy_iff : run.Tidy ↔ run.EntriesKept := by
  refine ⟨fun tidy => tidy.entries, fun entries => ⟨entries, ?_⟩⟩
  intro id published unallocated unheld nodeClaim it
  rw [AllocationTracker.isAllocated_cluster published]
  refine ⟨unallocated, fun held found => ?_⟩
  obtain ⟨other, isHeld⟩ := Finset.nonempty_iff_ne_empty.mpr (accounted.exact.nonempty id held found)
  have holding : holds run.tracker.inflightClusterAllocations id held.nodeClaimID other :=
    (holds_of_lookup found _ _).mpr ⟨rfl, isHeld⟩
  obtain ⟨claim, member, isHolder, gone⟩ := unheld _ _ holding
  exact absurd (entries claim member other (.inl (.inl ⟨id, isHolder ▸ holding⟩))) gone

end

/-- As long as pods cover the entries of the NodeClaims they join, the tracker has
no entries for instance types that are no options any more; the first pod that
does not leaves some behind. -/
theorem run_releases_dropped_instanceTypes (env : Environment) (allocatedState : AllocatedDeviceState)
    (nodeID : Nat) (run : DeviceRun)
    (reached : Reaches (apply env) (fun run event => run.Enabled event ∧ run.JoinsCovered env event)
      (start env allocatedState nodeID) run) :
    run.Tidy ∧ ∀ event run', run.Enabled event → run.apply env event = .ok run' →
      (run'.Tidy ↔ run.JoinsCovered env event) := by
  obtain ⟨accounted, entries⟩ : run.Accounted ∧ run.EntriesKept := by
    refine reached.invariant (fun run => run.Accounted ∧ run.EntriesKept)
      (accounted_start env allocatedState nodeID) ?_
    rintro state event state' ⟨accounted, entries⟩ ⟨enabled, covered⟩ done
    have step := step_of_apply done
    exact ⟨accounted.step enabled step, (entriesKept_step accounted entries enabled step).mpr covered⟩
  refine ⟨(tidy_iff accounted).mpr entries, fun event run' enabled done => ?_⟩
  have step := step_of_apply done
  rw [tidy_iff (accounted.step enabled step), entriesKept_step accounted entries enabled step]

/-! ### A pod without claims -/

def largeInstance : InstanceType :=
  { name := "large", requirements := ∅, offerings := [onDemandOffering "a" 2],
    capacity := GoMap.ofList [("cpu", 8), ("pods", 10)] }

def bothSizes : NodeClaimTemplate :=
  { nodePoolName := "default"
    requirements := ∅
    instanceTypeOptions := [smallInstance, largeInstance]
    daemonOverheadGroups := [{ instanceTypes := [smallInstance, largeInstance] }] }

def turnOf (cpu : ℚ) (claims : List ResourceClaim) : Turn :=
  { options := { reservedCapacity := false, allocator := true }
    topology := ⟨.respect, {}, [], ∅, ∅, ∅, ∅⟩
    manager := {}
    oracle := fun _ => DynamicResources.patientOracle
    pod := podNamed "pod" cpu
    podData :=
      { requests := GoMap.ofList [("cpu", cpu), ("pods", 1)]
        requirements := ∅
        strictRequirements := ∅
        hasResourceClaimRequests := !claims.isEmpty
        volumeRequirements := []
        resourceClaimError := false }
    claims := claims }

def opensWithClaim : DeviceEvent :=
  .launch bothSizes [smallInstance, largeInstance] 0 (turnOf 1 [DynamicResources.gpuClaim])

/-- Only the large instance has room for a pod that joins. -/
def joinsWith (claims : List ResourceClaim) : DeviceEvent := .join 0 (turnOf 5 claims)

/-- A pod with a claim opens a NodeClaim, and another one joins it. -/
def joinedRun (env : Environment) (claims : List ResourceClaim) : Except AddPanic DeviceRun := do
  let run ← (start env {} 0).apply env opensWithClaim
  run.apply env (joinsWith claims)

/-- What each NodeClaim may become, and what the device is held for. -/
def summary (run : DeviceRun) : List (String × List String) × Option (String × List String) :=
  (run.nodeClaims.map fun claim => (claim.hostname, claim.instanceTypeOptions.map (·.name)),
    (run.tracker.inflightClusterAllocations.lookup DynamicResources.gpuDevice).map fun held =>
      (held.nodeClaimID, ["small", "large"].filter (· ∈ held.instanceTypes)))

/-- Two devices that are reached from everywhere. -/
def twoDevices : Environment :=
  { DynamicResources.gpuEnvironment with
    inClusterSlices := [{ driver := "gpu.example.com", pool := "rack", allNodes := true,
                          devices := [{ name := "gpu-0" }, { name := "gpu-1" }] }] }

def otherClaim : ResourceClaim :=
  { DynamicResources.gpuClaim with id := { nameSpace := "default", name := "other" } }

/-- The pod that joins has a claim too, so that committing its device releases
what the small instance holds. -/
theorem joinedRun_releases_dropped_instanceTypes : ∃ run, joinedRun twoDevices [otherClaim] = .ok run ∧
    run.summary = ([("hostname-placeholder-0001", ["large"])],
      some ("hostname-placeholder-0001", ["large"])) ∧ run.Tidy := by
  obtain ⟨run, finished, summarised⟩ : ∃ run, joinedRun twoDevices [otherClaim] = .ok run ∧
      run.summary = ([("hostname-placeholder-0001", ["large"])],
        some ("hostname-placeholder-0001", ["large"])) := exists_ok (by decide +kernel)
  obtain ⟨opened, isOpened, joined⟩ := bind_eq_ok.mp finished
  obtain ⟨same, isSame, options, results⟩ : ∃ run, (start twoDevices {} 0).apply twoDevices
      opensWithClaim = .ok run ∧
      (∀ claim ∈ run.nodeClaims, claim.instanceTypeOptions.map (·.name) = ["small", "large"]) ∧
      ∀ claim ∈ run.nodeClaims, ((turnOf 5 [otherClaim]).allocationResult twoDevices run.allocator
        claim).any fun result => result.allocation.isSome ∧ result.instanceTypes = ["small", "large"] :=
    exists_ok (by decide +kernel)
  obtain rfl := Except.ok.inj (isOpened.symm.trans isSame)
  have reached : Reaches (apply twoDevices) (fun run event => run.Enabled event ∧
      run.JoinsCovered twoDevices event) (start twoDevices {} 0) opened :=
    .step .start (⟨trivial, trivial⟩ : Enabled _ opensWithClaim ∧ _) isOpened
  have covered : opened.JoinsCovered twoDevices (joinsWith [otherClaim]) := by
    intro claim isClaim placement _ it tracked
    have member := mem_of_getElem? isClaim
    have isOption := (run_releases_dropped_instanceTypes twoDevices {} 0 opened reached).1.entries
      claim member it tracked
    rw [options claim member] at isOption
    obtain ⟨result, found, facts⟩ := (Option.any_eq_true _ _).mp (results claim member)
    obtain ⟨allocated, types⟩ := of_decide_eq_true facts
    exact .inr ⟨result, found, allocated, types ▸ isOption⟩
  have enabled : opened.Enabled (joinsWith [otherClaim]) := trivial
  exact ⟨run, finished, summarised, (run_releases_dropped_instanceTypes twoDevices {} 0 run
    (.step reached ⟨enabled, covered⟩ joined)).1⟩

/-- The pod without claims leaves the NodeClaim with the large instance alone, and
the device held for the small one as well. -/
theorem joinedRun_keeps_dropped_instanceType : ∃ run,
    Reaches (apply DynamicResources.gpuEnvironment) Enabled
      (start DynamicResources.gpuEnvironment {} 0) run ∧
    run.summary = ([("hostname-placeholder-0001", ["large"])],
      some ("hostname-placeholder-0001", ["small", "large"])) ∧ ¬ run.Tidy := by
  obtain ⟨run, joined, summarised⟩ : ∃ run, joinedRun gpuEnvironment [] = .ok run ∧
      run.summary = ([("hostname-placeholder-0001", ["large"])],
        some ("hostname-placeholder-0001", ["small", "large"])) := exists_ok (by decide +kernel)
  obtain ⟨opened, isOpened, joins⟩ := bind_eq_ok.mp joined
  have opens : (start gpuEnvironment {} 0).Enabled opensWithClaim := trivial
  have joinsNext : opened.Enabled (joinsWith []) := trivial
  refine ⟨run, .step (.step .start opens isOpened) joinsNext joins, summarised, ?_⟩
  intro tidy
  obtain ⟨claims, held⟩ := Prod.mk.inj summarised
  obtain ⟨claim, listed, named⟩ := map_eq_singleton_iff.mp claims
  obtain ⟨isNamed, options⟩ := Prod.mk.inj named
  obtain ⟨metadata, found, isHeld⟩ := map_eq_some_iff.mp held
  obtain ⟨holder, types⟩ := Prod.mk.inj isHeld
  have forSmall : "small" ∈ metadata.instanceTypes := by
    have member : "small" ∈ ["small", "large"].filter (· ∈ metadata.instanceTypes) := by
      rw [types]
      exact mem_cons_self
    exact of_decide_eq_true (mem_filter.mp member).2
  have holding : holds run.tracker.inflightClusterAllocations gpuDevice claim.hostname "small" :=
    (holds_of_lookup found _ _).mpr ⟨holder.trans isNamed.symm, forSmall⟩
  have kept := tidy.entries claim (by simp [listed]) "small" (.inl (.inl ⟨_, holding⟩))
  rw [options] at kept
  simp at kept

end DeviceRun

end Kraftsman.Provisioning
