import Kraftsman.Apis.NodePool
import Kraftsman.Data.FallibleLoop
import Kraftsman.Data.Runs
import Kraftsman.Utils.Resources

/-!
Contract: the NodeClaims of each NodePool by state, and the nodes reserved
against its limit.

A reservation is made before NodeClaims are created and released after each
creation. Between the two, other requests come in.

Owns: the counts, the reserved counters, and that a counter is the balance of
what was granted and released.
Does not own: who reserves nodes, and what the limit of a NodePool is.
-/

namespace Kraftsman.State

open Apis Data Data.Strconv AList

/-- The limit on the nodes of a NodePool, by default the largest number. -/
def nodeLimit (nodePool : NodePool) : Int :=
  (nodePool.limits.lookup Resources.node).elim maxInt64 Quantity.value

/-- The names of a NodePool's NodeClaims by state. -/
structure NodeClaimState where
  active : Finset String := ∅
  pendingDisruption : Finset String := ∅
  deleting : Finset String := ∅
  deriving DecidableEq

def NodeClaimState.without (claims : NodeClaimState) (nodeClaim : String) : NodeClaimState :=
  { active := claims.active.erase nodeClaim
    pendingDisruption := claims.pendingDisruption.erase nodeClaim
    deleting := claims.deleting.erase nodeClaim }

/-- Whether there seem to be no NodeClaims; those pending disruption do not count. -/
def NodeClaimState.vacant (claims : NodeClaimState) : Bool :=
  claims.active = ∅ ∧ claims.deleting = ∅

structure NodePoolState where
  nodePoolNameToNodeClaimState : GoMap String NodeClaimState := ∅
  nodeClaimNameToNodePoolName : GoMap String String := ∅
  nodePoolNameToNodePoolLimit : GoMap String Int := ∅
  deriving DecidableEq

/-- The counter of a NodePool is missing. -/
inductive NodePoolPanic where
  | nilCounter (nodePool : String)
  deriving DecidableEq, Repr

namespace NodePoolState

variable (n : NodePoolState)

variable (nodePool : String)

def nodeClaimState : NodeClaimState :=
  (n.nodePoolNameToNodeClaimState.lookup nodePool).getD {}

def reserved : Int :=
  (n.nodePoolNameToNodePoolLimit.lookup nodePool).getD 0

def nodeCounts : Nat × Nat × Nat :=
  let claims := n.nodeClaimState nodePool
  (claims.active.card, claims.deleting.card, claims.pendingDisruption.card)

def getNodeCount : Nat × Nat × Nat := n.nodeCounts nodePool

def tracked : Nat :=
  let (active, deleting, pendingDisruption) := n.nodeCounts nodePool
  active + deleting + pendingDisruption

def ensureNodePoolEntry : NodePoolState :=
  { n with
    nodePoolNameToNodeClaimState :=
      n.nodePoolNameToNodeClaimState.alter nodePool fun stored => some (stored.getD {})
    nodePoolNameToNodePoolLimit :=
      n.nodePoolNameToNodePoolLimit.alter nodePool fun stored => some (stored.getD 0) }

variable (nodeClaim : String)

def setNodeClaimMapping : NodePoolState :=
  if nodePool = "" ∨ nodeClaim = "" then n
  else
    let n := n.ensureNodePoolEntry nodePool
    { n with
      nodeClaimNameToNodePoolName := n.nodeClaimNameToNodePoolName.insert nodeClaim nodePool }

def changeNodeClaims (change : NodeClaimState → NodeClaimState) : NodePoolState :=
  let n := n.ensureNodePoolEntry nodePool
  { n with
    nodePoolNameToNodeClaimState :=
      n.nodePoolNameToNodeClaimState.insert nodePool (change (n.nodeClaimState nodePool)) }

def markNodeClaimActive : NodePoolState :=
  n.changeNodeClaims nodePool fun claims =>
    { active := insert nodeClaim claims.active
      pendingDisruption := claims.pendingDisruption.erase nodeClaim
      deleting := claims.deleting.erase nodeClaim }

def markNodeClaimDeleting : NodePoolState :=
  n.changeNodeClaims nodePool fun claims =>
    { active := claims.active.erase nodeClaim
      pendingDisruption := claims.pendingDisruption.erase nodeClaim
      deleting := insert nodeClaim claims.deleting }

def markNodeClaimPendingDisruption : NodePoolState :=
  n.changeNodeClaims nodePool fun claims =>
    { active := claims.active.erase nodeClaim
      pendingDisruption := insert nodeClaim claims.pendingDisruption
      deleting := claims.deleting.erase nodeClaim }

/-- Track a NodeClaim under the NodePool of its label. The lock is taken for the
mapping and again for the state. -/
def updateNodeClaim (nodeClaim : NodeClaim) (markedForDeletion : Bool) : NodePoolState :=
  let nodePool := labelValue nodeClaim.labels nodePoolLabelKey
  if nodePool = "" then n
  else
    let n := n.setNodeClaimMapping nodePool nodeClaim.name
    if markedForDeletion then n.markNodeClaimDeleting nodePool nodeClaim.name
    else n.markNodeClaimActive nodePool nodeClaim.name

def nodePoolOf (nodeClaim : String) : String :=
  (n.nodeClaimNameToNodePoolName.lookup nodeClaim).getD ""

def cleanup (nodeClaim : String) : NodePoolState :=
  let nodePool := n.nodePoolOf nodeClaim
  let n : NodePoolState :=
    match n.nodePoolNameToNodeClaimState.lookup nodePool with
    | none => n
    | some claims =>
      let claims := claims.without nodeClaim
      if claims.vacant then
        { n with
          nodePoolNameToNodeClaimState := n.nodePoolNameToNodeClaimState.erase nodePool
          nodePoolNameToNodePoolLimit := n.nodePoolNameToNodePoolLimit.erase nodePool }
      else
        { n with
          nodePoolNameToNodeClaimState := n.nodePoolNameToNodeClaimState.insert nodePool claims }
  { n with nodeClaimNameToNodePoolName := n.nodeClaimNameToNodePoolName.erase nodeClaim }

/-- What a limit leaves, before its arithmetic wraps around. -/
def remainingLimit (limit : Int) : Int :=
  limit - n.tracked nodePool - n.reserved nodePool

/-- Reserve nodes within a limit: as many as wanted or left. -/
def reserveNodeCount (limit wantedLimit : Int) : Int × NodePoolState :=
  let n := n.ensureNodePoolEntry nodePool
  let remainingLimit := wrapInt64 (n.remainingLimit nodePool limit)
  if remainingLimit < 0 then (0, n)
  else
    let grantedLimit := if wantedLimit > remainingLimit then remainingLimit else wantedLimit
    (grantedLimit, { n with
      nodePoolNameToNodePoolLimit :=
        n.nodePoolNameToNodePoolLimit.insert nodePool
          (wrapInt64 (n.reserved nodePool + grantedLimit)) })

def releaseNodeCount (count : Int) : Except NodePoolPanic NodePoolState :=
  match n.nodePoolNameToNodePoolLimit.lookup nodePool with
  | none => .error (.nilCounter nodePool)
  | some currentlyReserved =>
    let left := wrapInt64 (currentlyReserved - count)
    .ok { n with
      nodePoolNameToNodePoolLimit :=
        n.nodePoolNameToNodePoolLimit.insert nodePool (if left < 0 then 0 else left) }

section Counters

variable {n}

section

variable (n) (other : String)

theorem lookup_ensureNodePoolEntry :
    (n.ensureNodePoolEntry nodePool).nodePoolNameToNodePoolLimit.lookup other =
      if other = nodePool then some (n.reserved nodePool)
      else n.nodePoolNameToNodePoolLimit.lookup other :=
  GoMap.lookup_alter _ _ _ _

@[simp] theorem reserved_ensureNodePoolEntry :
    (n.ensureNodePoolEntry nodePool).reserved other = n.reserved other := by
  unfold reserved
  rw [lookup_ensureNodePoolEntry]
  split_ifs with same
  · subst same
    rfl
  · rfl

@[simp] theorem nodeClaimState_ensureNodePoolEntry :
    (n.ensureNodePoolEntry nodePool).nodeClaimState other = n.nodeClaimState other := by
  unfold nodeClaimState ensureNodePoolEntry
  rw [GoMap.lookup_alter]
  split_ifs with same
  · subst same
    rfl
  · rfl

@[simp] theorem nodeCounts_ensureNodePoolEntry :
    (n.ensureNodePoolEntry nodePool).nodeCounts other = n.nodeCounts other := by
  simp [nodeCounts]

@[simp] theorem tracked_ensureNodePoolEntry :
    (n.ensureNodePoolEntry nodePool).tracked other = n.tracked other := by
  simp [tracked]

@[simp] theorem remainingLimit_ensureNodePoolEntry (limit : Int) :
    (n.ensureNodePoolEntry nodePool).remainingLimit other limit = n.remainingLimit other limit := by
  simp [remainingLimit]

end

/-- No counter changes its value, and none goes away. -/
structure KeepsCounters (before after : NodePoolState) : Prop where
  reserved : ∀ nodePool, after.reserved nodePool = before.reserved nodePool
  counter : ∀ nodePool, nodePool ∈ before.nodePoolNameToNodePoolLimit →
    nodePool ∈ after.nodePoolNameToNodePoolLimit

variable (n)

theorem KeepsCounters.refl : KeepsCounters n n := ⟨fun _ => rfl, fun _ => id⟩

theorem KeepsCounters.trans {first second third : NodePoolState}
    (before : KeepsCounters first second) (after : KeepsCounters second third) :
    KeepsCounters first third where
  reserved nodePool := (after.reserved nodePool).trans (before.reserved nodePool)
  counter nodePool present := after.counter nodePool (before.counter nodePool present)

section

theorem keepsCounters_ensureNodePoolEntry : KeepsCounters n (n.ensureNodePoolEntry nodePool) where
  reserved other := reserved_ensureNodePoolEntry n nodePool other
  counter other present := by
    rw [← lookup_isSome] at present ⊢
    rw [lookup_ensureNodePoolEntry]
    split_ifs
    · rfl
    · exact present

theorem mem_ensureNodePoolEntry :
    nodePool ∈ (n.ensureNodePoolEntry nodePool).nodePoolNameToNodePoolLimit := by
  rw [← lookup_isSome, lookup_ensureNodePoolEntry, if_pos rfl]
  rfl

theorem keepsCounters_setNodeClaimMapping (nodeClaim : String) :
    KeepsCounters n (n.setNodeClaimMapping nodePool nodeClaim) := by
  unfold setNodeClaimMapping
  split_ifs
  · exact .refl n
  · exact ⟨(keepsCounters_ensureNodePoolEntry n nodePool).reserved,
      (keepsCounters_ensureNodePoolEntry n nodePool).counter⟩

theorem keepsCounters_changeNodeClaims (change : NodeClaimState → NodeClaimState) :
    KeepsCounters n (n.changeNodeClaims nodePool change) :=
  ⟨(keepsCounters_ensureNodePoolEntry n nodePool).reserved,
    (keepsCounters_ensureNodePoolEntry n nodePool).counter⟩

end

theorem keepsCounters_updateNodeClaim (nodeClaim : NodeClaim) (markedForDeletion : Bool) :
    KeepsCounters n (n.updateNodeClaim nodeClaim markedForDeletion) := by
  unfold updateNodeClaim
  dsimp only
  split_ifs
  · exact .refl n
  · exact (keepsCounters_setNodeClaimMapping n _ _).trans (keepsCounters_changeNodeClaims _ _ _)
  · exact (keepsCounters_setNodeClaimMapping n _ _).trans (keepsCounters_changeNodeClaims _ _ _)

/-- Whether forgetting a NodeClaim takes the entries of its NodePool along. -/
def drops (n : NodePoolState) (nodeClaim nodePool : String) : Prop :=
  n.nodePoolOf nodeClaim = nodePool ∧
    ∃ claims ∈ n.nodePoolNameToNodeClaimState.lookup nodePool,
      (claims.without nodeClaim).vacant = true

instance (n : NodePoolState) (nodeClaim nodePool : String) :
    Decidable (n.drops nodeClaim nodePool) :=
  inferInstanceAs (Decidable (_ ∧ ∃ claims ∈ _, _))

theorem lookup_cleanup (nodeClaim nodePool : String) :
    (n.cleanup nodeClaim).nodePoolNameToNodePoolLimit.lookup nodePool =
      if n.drops nodeClaim nodePool then none
      else n.nodePoolNameToNodePoolLimit.lookup nodePool := by
  by_cases dropped : n.drops nodeClaim nodePool
  · rw [if_pos dropped]
    obtain ⟨rfl, claims, found, vacant⟩ := dropped
    simp [cleanup, Option.mem_def.mp found, vacant]
  · rw [if_neg dropped]
    unfold cleanup
    dsimp only
    cases found : n.nodePoolNameToNodeClaimState.lookup (n.nodePoolOf nodeClaim) with
    | none => rfl
    | some claims =>
      dsimp only
      by_cases vacant : (claims.without nodeClaim).vacant
      · rw [if_pos vacant]
        refine lookup_erase_ne fun same => dropped ⟨same.symm, claims, ?_, vacant⟩
        rw [same]
        exact found
      · rw [if_neg vacant]

/-- What a reservation grants, and its effect on the counters. -/
structure Reserves (before : NodePoolState) (nodePool : String) (limit wantedLimit granted : Int)
    (after : NodePoolState) : Prop where
  granted_eq : granted = if wrapInt64 (before.remainingLimit nodePool limit) < 0 then 0
    else min wantedLimit (wrapInt64 (before.remainingLimit nodePool limit))
  nodeClaims : ∀ other, after.nodeClaimState other = before.nodeClaimState other
  counter : ∀ other, other = nodePool ∨ other ∈ before.nodePoolNameToNodePoolLimit →
    other ∈ after.nodePoolNameToNodePoolLimit
  reserved_eq : after.reserved nodePool =
    if wrapInt64 (before.remainingLimit nodePool limit) < 0 then before.reserved nodePool
    else wrapInt64 (before.reserved nodePool + granted)
  others : ∀ other, other ≠ nodePool → after.reserved other = before.reserved other

theorem reserves_reserveNodeCount (nodePool : String) (limit wantedLimit : Int) :
    Reserves n nodePool limit wantedLimit (n.reserveNodeCount nodePool limit wantedLimit).1
      (n.reserveNodeCount nodePool limit wantedLimit).2 := by
  have kept := keepsCounters_ensureNodePoolEntry n nodePool
  have present : ∀ other, other = nodePool ∨ other ∈ n.nodePoolNameToNodePoolLimit →
      other ∈ (n.ensureNodePoolEntry nodePool).nodePoolNameToNodePoolLimit := by
    rintro other (rfl | before)
    · exact mem_ensureNodePoolEntry n other
    · exact kept.counter other before
  unfold reserveNodeCount
  simp only [remainingLimit_ensureNodePoolEntry, reserved_ensureNodePoolEntry]
  by_cases negative : wrapInt64 (n.remainingLimit nodePool limit) < 0
  · rw [if_pos negative]
    constructor
    · rw [if_pos negative]
    · exact nodeClaimState_ensureNodePoolEntry n nodePool
    · exact present
    · rw [if_pos negative, kept.reserved]
    · exact fun other _ => kept.reserved other
  · rw [if_neg negative]
    constructor
    · split_ifs <;> omega
    · exact nodeClaimState_ensureNodePoolEntry n nodePool
    · exact fun other before => (mem_insert _).mpr (.inr (present other before))
    · rw [if_neg negative]
      simp [reserved]
    · intro other different
      have same := kept.reserved other
      unfold reserved at same ⊢
      rw [← same]
      rw [lookup_insert_ne different]

theorem releaseNodeCount_of_mem {n : NodePoolState} {nodePool : String}
    (present : nodePool ∈ n.nodePoolNameToNodePoolLimit) (count : Int) :
    ∃ after, n.releaseNodeCount nodePool count = .ok after ∧
      ∀ other, other ∈ n.nodePoolNameToNodePoolLimit →
        other ∈ after.nodePoolNameToNodePoolLimit := by
  obtain ⟨current, found⟩ := Option.isSome_iff_exists.mp (lookup_isSome.mpr present)
  unfold releaseNodeCount
  rw [found]
  exact ⟨_, rfl, fun other before => (mem_insert _).mpr (.inr before)⟩

theorem releaseNodeCount_eq_ok {n : NodePoolState} {nodePool : String} {count : Int}
    (present : nodePool ∈ n.nodePoolNameToNodePoolLimit) (positive : 0 ≤ count)
    (within : count ≤ n.reserved nodePool) (high : n.reserved nodePool ≤ maxInt64) :
    ∃ after, n.releaseNodeCount nodePool count = .ok after ∧
      (∀ other, after.nodeClaimState other = n.nodeClaimState other) ∧
      (∀ other, other ∈ n.nodePoolNameToNodePoolLimit → other ∈ after.nodePoolNameToNodePoolLimit) ∧
      after.reserved nodePool = n.reserved nodePool - count ∧
      ∀ other, other ≠ nodePool → after.reserved other = n.reserved other := by
  obtain ⟨current, found⟩ := Option.isSome_iff_exists.mp (lookup_isSome.mpr present)
  have isCurrent : n.reserved nodePool = current := by simp [reserved, found]
  have exact' : wrapInt64 (current - count) = current - count := by
    apply wrapInt64_of_mem
    · unfold minInt64
      omega
    · omega
  unfold releaseNodeCount
  rw [found]
  refine ⟨_, rfl, fun _ => rfl, fun other before => ?_, ?_, fun other different => ?_⟩
  · exact (mem_insert _).mpr (.inr before)
  · have nonneg : ¬ current - count < 0 := by omega
    simp [reserved, exact', nonneg, found]
  · simp [reserved, lookup_insert_ne different]

end Counters

end NodePoolState

end Kraftsman.State
