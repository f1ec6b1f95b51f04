import Kraftsman.State.NodePoolState

/-!
Contract: static NodePools are scaled up to their number of replicas.

Owns: one reconciliation, the creation of NodeClaims with the release of what was
reserved, and when it creates no more than replicas and limit allow.
Does not own: scaling down, and what the API server answers.
-/

namespace Kraftsman.Provisioning

open Apis Data Data.Strconv State FallibleLoop NodePoolState List

/-- What is known of a NodeClaim that is to be created. -/
structure NodeClaimLaunch where
  nodePoolName : String
  isStaticNodeClaim : Bool

/-- Create a NodeClaim, unless that fails, and release what was reserved for it
either way. Nothing is reserved for NodePools that are not static. -/
def createNodeClaim (pools : NodePoolState) (launch : NodeClaimLaunch)
    (created : Option NodeClaim) : Except NodePoolPanic NodePoolState :=
  let pools := created.elim pools fun nodeClaim => pools.updateNodeClaim nodeClaim false
  if launch.isStaticNodeClaim then pools.releaseNodeCount launch.nodePoolName 1 else .ok pools

def createAt (create : Nat → Option NodeClaim) (launches : List NodeClaimLaunch)
    (pools : NodePoolState) (index : Nat) : Except NodePoolPanic NodePoolState :=
  (launches[index]?).elim (.ok pools) fun launch => createNodeClaim pools launch (create index)

/-- Create NodeClaims in any order. The answers say which are created, by index. -/
def createNodeClaims (order : RangeOrder Nat) (create : Nat → Option NodeClaim)
    (pools : NodePoolState) (launches : List NodeClaimLaunch) :
    Except NodePoolPanic (List NodeClaim × NodePoolState) := do
  let indices := range launches.length
  let pools ← (order.visit 0 indices).foldlM (createAt create launches) pools
  return (indices.filterMap create, pools)

variable {pools : NodePoolState} {launches : List NodeClaimLaunch}

variable {launch : NodeClaimLaunch} {nodePool : NodePool}

theorem counter_createNodeClaim (present : launch.nodePoolName ∈ pools.nodePoolNameToNodePoolLimit)
    (created : Option NodeClaim) :
    ∃ after, createNodeClaim pools launch created = .ok after ∧
      ∀ other, other ∈ pools.nodePoolNameToNodePoolLimit →
        other ∈ after.nodePoolNameToNodePoolLimit := by
  have kept : NodePoolState.KeepsCounters pools
      (created.elim pools fun nodeClaim => pools.updateNodeClaim nodeClaim false) := by
    cases created with
    | none => exact .refl pools
    | some nodeClaim => exact keepsCounters_updateNodeClaim _ _ _
  unfold createNodeClaim
  by_cases isStatic : launch.isStaticNodeClaim
  · obtain ⟨after, released, counters⟩ := releaseNodeCount_of_mem (kept.counter _ present) 1
    simp only [if_pos isStatic]
    exact ⟨after, released, fun other before => counters other (kept.counter other before)⟩
  · simp only [if_neg isStatic]
    exact ⟨_, rfl, kept.counter⟩

variable (order : RangeOrder Nat) (create : Nat → Option NodeClaim)

theorem createNodeClaims_eq_ok {nodePool : String}
    (present : nodePool ∈ pools.nodePoolNameToNodePoolLimit)
    (sameNodePool : ∀ launch ∈ launches, launch.nodePoolName = nodePool) :
    ∃ after, createNodeClaims order create pools launches =
      .ok ((range launches.length).filterMap create, after) := by
  have step : ∀ (index : Nat) (_ : List Nat) (pools : NodePoolState),
      nodePool ∈ pools.nodePoolNameToNodePoolLimit →
      ∃ after, createAt create launches pools index = .ok after ∧
        nodePool ∈ after.nodePoolNameToNodePoolLimit := by
    intro index _ pools kept
    unfold createAt
    cases isLaunch : launches[index]? with
    | none => exact ⟨pools, rfl, kept⟩
    | some launch =>
      have isNodePool := sameNodePool launch (mem_of_getElem? isLaunch)
      obtain ⟨after, created, counters⟩ :=
        counter_createNodeClaim (isNodePool ▸ kept) (create index)
      exact ⟨after, created, counters nodePool kept⟩
  obtain ⟨after, done, -⟩ := foldlM_succeeds
    (fun _ (pools : NodePoolState) => nodePool ∈ pools.nodePoolNameToNodePoolLimit) step present
  exact ⟨after, map_eq_ok.mpr ⟨after, done, rfl⟩⟩

def NodeClaimLaunch.releases (launch : NodeClaimLaunch) (nodePool : String) : Bool :=
  launch.isStaticNodeClaim && launch.nodePoolName = nodePool

theorem reserved_createNodeClaim (present : launch.isStaticNodeClaim →
      launch.nodePoolName ∈ pools.nodePoolNameToNodePoolLimit)
    (positive : launch.isStaticNodeClaim → 1 ≤ pools.reserved launch.nodePoolName)
    (high : pools.reserved launch.nodePoolName ≤ maxInt64) (created : Option NodeClaim) :
    ∃ after, createNodeClaim pools launch created = .ok after ∧
      (∀ other, other ∈ pools.nodePoolNameToNodePoolLimit →
        other ∈ after.nodePoolNameToNodePoolLimit) ∧
      ∀ other, after.reserved other =
        pools.reserved other - if launch.releases other then 1 else 0 := by
  have kept : NodePoolState.KeepsCounters pools
      (created.elim pools fun nodeClaim => pools.updateNodeClaim nodeClaim false) := by
    cases created with
    | none => exact .refl pools
    | some nodeClaim => exact keepsCounters_updateNodeClaim _ _ _
  unfold createNodeClaim
  by_cases isStatic : launch.isStaticNodeClaim
  · have held := kept.reserved launch.nodePoolName
    obtain ⟨after, released, -, counters, lowered, others⟩ :=
      releaseNodeCount_eq_ok (kept.counter _ (present isStatic)) zero_le_one
        ((positive isStatic).trans held.ge) (held.le.trans high)
    simp only [if_pos isStatic]
    refine ⟨after, released, fun other before => counters other (kept.counter other before), ?_⟩
    intro other
    by_cases same : other = launch.nodePoolName
    · subst same
      simp [NodeClaimLaunch.releases, isStatic, lowered, held]
    · have different : ¬ launch.nodePoolName = other := Ne.symm same
      simp [NodeClaimLaunch.releases, different, others other same, kept.reserved]
  · simp only [if_neg isStatic]
    refine ⟨_, rfl, kept.counter, fun other => ?_⟩
    simp [NodeClaimLaunch.releases, isStatic, kept.reserved]

def releasesAt (launches : List NodeClaimLaunch) (nodePool : String) (indices : List Nat) : Nat :=
  indices.countP fun index => (launches[index]?).any fun launch => launch.releases nodePool

theorem releasesAt_range (launches : List NodeClaimLaunch) (nodePool : String) :
    releasesAt launches nodePool (range launches.length) =
      launches.countP fun launch => launch.releases nodePool := by
  unfold releasesAt
  induction launches using reverseRecOn with
  | nil => rfl
  | append_singleton launches last ih =>
    rw [length_append, length_singleton, range_succ, countP_append, countP_append, ← ih]
    congr 1
    · apply countP_congr
      intro index inRange
      rw [getElem?_append_left (mem_range.mp inRange)]
    · simp [countP_cons]

/-- In the middle of the loop, what is left to be released is still reserved. -/
structure Owing (launches : List NodeClaimLaunch) (before : NodePoolState) (rest : List Nat)
    (current : NodePoolState) : Prop where
  counters : ∀ nodePool, nodePool ∈ before.nodePoolNameToNodePoolLimit →
    nodePool ∈ current.nodePoolNameToNodePoolLimit
  reserved : ∀ nodePool, current.reserved nodePool =
    before.reserved nodePool - launches.countP (·.releases nodePool) +
      releasesAt launches nodePool rest
  most : ∀ nodePool, releasesAt launches nodePool rest ≤ launches.countP (·.releases nodePool)

/-- What launches need: a counter and a reservation for each. -/
structure Reserved (launches : List NodeClaimLaunch) (pools : NodePoolState) : Prop where
  counter : ∀ nodePool, 0 < launches.countP (·.releases nodePool) →
    nodePool ∈ pools.nodePoolNameToNodePoolLimit
  enough : ∀ nodePool, (launches.countP (·.releases nodePool) : Int) ≤ pools.reserved nodePool
  high : ∀ nodePool, pools.reserved nodePool ≤ maxInt64

theorem Owing.step {before current : NodePoolState} {index : Nat} {rest : List Nat}
    (owing : Owing launches before (index :: rest) current) (available : Reserved launches before)
    (create : Nat → Option NodeClaim) :
    ∃ after, createAt create launches current index = .ok after ∧
      Owing launches before rest after := by
  unfold createAt
  cases isLaunch : launches[index]? with
  | none =>
    have same : ∀ nodePool, releasesAt launches nodePool (index :: rest) =
        releasesAt launches nodePool rest := by
      intro nodePool
      simp [releasesAt, isLaunch]
    exact ⟨current, rfl, owing.counters, fun nodePool => same nodePool ▸ owing.reserved nodePool,
      fun nodePool => same nodePool ▸ owing.most nodePool⟩
  | some launch =>
    have cons : ∀ nodePool, releasesAt launches nodePool (index :: rest) =
        releasesAt launches nodePool rest + if launch.releases nodePool then 1 else 0 := by
      intro nodePool
      simp [releasesAt, countP_cons, isLaunch]
    have own : launch.isStaticNodeClaim →
        0 < releasesAt launches launch.nodePoolName (index :: rest) := by
      intro isStatic
      rw [cons]
      simp [NodeClaimLaunch.releases, isStatic]
    have isReserved := owing.reserved launch.nodePoolName
    have most := owing.most launch.nodePoolName
    have enough := available.enough launch.nodePoolName
    have high := available.high launch.nodePoolName
    obtain ⟨after, created, counters, lowered⟩ := reserved_createNodeClaim
      (fun isStatic => owing.counters _ (available.counter _ (lt_of_lt_of_le (own isStatic) most)))
      (fun isStatic => by
        have positive := own isStatic
        omega) (by omega) (create index)
    refine ⟨after, created, fun nodePool known => counters nodePool (owing.counters nodePool known),
      fun nodePool => ?_, fun nodePool => ?_⟩
    · rw [lowered, owing.reserved, cons]
      push_cast
      split_ifs <;> ring
    · have bound := owing.most nodePool
      rw [cons] at bound
      omega

theorem reserved_createNodeClaims (available : Reserved launches pools) :
    ∃ after, createNodeClaims order create pools launches =
        .ok ((range launches.length).filterMap create, after) ∧
      (∀ other, other ∈ pools.nodePoolNameToNodePoolLimit →
        other ∈ after.nodePoolNameToNodePoolLimit) ∧
      ∀ nodePool, after.reserved nodePool =
        pools.reserved nodePool - launches.countP (·.releases nodePool) := by
  have all : ∀ nodePool, releasesAt launches nodePool
      (order.visit 0 (range launches.length)) = launches.countP (·.releases nodePool) := by
    intro nodePool
    rw [← releasesAt_range]
    exact (order.perm 0 _).countP_eq _
  have start : Owing launches pools (order.visit 0 (range launches.length)) pools :=
    ⟨fun _ => id, fun nodePool => by rw [all]; ring, fun nodePool => (all nodePool).le⟩
  obtain ⟨after, done, owing⟩ := foldlM_succeeds (Owing launches pools)
    (fun _ _ _ owing => owing.step available create) start
  refine ⟨after, map_eq_ok.mpr ⟨after, done, rfl⟩, owing.counters, fun nodePool => ?_⟩
  rw [owing.reserved nodePool]
  simp [releasesAt]

/-- Scale a NodePool up to its replicas, provided that it is managed, ready and
not being deleted, and that cluster state has been synced. -/
def reconcile (order : RangeOrder Nat) (eligible synced : Bool) (create : Nat → Option NodeClaim)
    (pools : NodePoolState) (nodePool : NodePool) :
    Except NodePoolPanic (List NodeClaim × NodePoolState) :=
  match nodePool.replicas with
  | none => .ok ([], pools)
  | some desiredReplicas =>
    if !eligible || !synced then .ok ([], pools)
    else
      let (runningNodeClaims, _, nodesPendingDisruption) := pools.getNodeCount nodePool.name
      if ((runningNodeClaims + nodesPendingDisruption : Nat) : Int) ≥ desiredReplicas then
        .ok ([], pools)
      else
        -- NodeClaims that are pending disruption are not subtracted here.
        let (count, pools) := pools.reserveNodeCount nodePool.name (nodeLimit nodePool)
          (desiredReplicas - runningNodeClaims)
        if count ≤ 0 then .ok ([], pools)
        else createNodeClaims order create pools (replicate count.toNat
          { nodePoolName := nodePool.name, isStaticNodeClaim := nodePool.replicas.isSome })

/-- The NodePool stays within its replicas, where those pending disruption count
as running, and within its limit together with what was reserved before. -/
def Within (pools : NodePoolState) (nodePool : NodePool) (created : Nat) : Prop :=
  let (active, deleting, pendingDisruption) := pools.getNodeCount nodePool.name
  created = 0 ∨
    ((active + pendingDisruption + created : Nat) : Int) ≤ nodePool.replicas.getD 0 ∧
      ((active + deleting + pendingDisruption + created : Nat) : Int) +
        pools.reserved nodePool.name ≤ nodeLimit nodePool

instance (pools : NodePoolState) (nodePool : NodePool) (created : Nat) :
    Decidable (Within pools nodePool created) :=
  inferInstanceAs (Decidable (_ ∨ _ ∧ _))

/-- There is nothing to create, no NodeClaim is pending disruption, or the limit
leaves no more nodes than are missing. What it leaves must not underflow. -/
def SafelyScaled (pools : NodePoolState) (nodePool : NodePool) : Prop :=
  let (active, _, pendingDisruption) := pools.getNodeCount nodePool.name
  let remaining := pools.remainingLimit nodePool.name (nodeLimit nodePool)
  nodePool.replicas.getD 0 ≤ ((active + pendingDisruption : Nat) : Int) ∨
    wrapInt64 remaining ≤ 0 ∨
    0 ≤ remaining ∧ (pendingDisruption = 0 ∨
      remaining ≤ nodePool.replicas.getD 0 - active - pendingDisruption)

instance (pools : NodePoolState) (nodePool : NodePool) : Decidable (SafelyScaled pools nodePool) :=
  inferInstanceAs (Decidable (_ ∨ _ ∨ _ ∧ (_ ∨ _)))

/-- The number of nodes reserved by a reconciliation that creates any. -/
def wantedNodeClaims (pools : NodePoolState) (nodePool : NodePool) : Int :=
  let (active, _, pendingDisruption) := pools.getNodeCount nodePool.name
  if nodePool.replicas.getD 0 ≤ ((active + pendingDisruption : Nat) : Int) then 0
  else min (nodePool.replicas.getD 0 - active)
    (wrapInt64 (pools.remainingLimit nodePool.name (nodeLimit nodePool)))

theorem reconcile_eq_ok (pools : NodePoolState) (nodePool : NodePool) :
    ∃ after, reconcile order true true create pools nodePool =
      .ok ((range (wantedNodeClaims pools nodePool).toNat).filterMap create, after) := by
  rcases counts : pools.getNodeCount nodePool.name with ⟨active, deleting, pending⟩
  unfold reconcile wantedNodeClaims
  rw [counts]
  dsimp only
  cases isStatic : nodePool.replicas with
  | none =>
    exact ⟨pools, rfl⟩
  | some desired =>
    dsimp only [Option.getD_some, Bool.not_true, Bool.or_false]
    by_cases enough : desired ≤ (active + pending : Nat)
    · rw [if_pos enough, if_pos enough]
      exact ⟨pools, rfl⟩
    · rw [if_neg enough, if_neg enough]
      have spec := pools.reserves_reserveNodeCount nodePool.name (nodeLimit nodePool)
        (desired - active)
      have isGranted := spec.granted_eq
      by_cases granted : (pools.reserveNodeCount nodePool.name (nodeLimit nodePool)
          (desired - active)).1 ≤ 0
      · rw [if_pos granted]
        have none : (min (desired - active) (wrapInt64
            (pools.remainingLimit nodePool.name (nodeLimit nodePool)))).toNat = 0 := by
          split_ifs at isGranted <;> omega
        rw [none]
        exact ⟨_, rfl⟩
      · rw [if_neg granted]
        have isWanted : (pools.reserveNodeCount nodePool.name (nodeLimit nodePool)
            (desired - active)).1 = min (desired - active) (wrapInt64
              (pools.remainingLimit nodePool.name (nodeLimit nodePool))) := by
          split_ifs at isGranted <;> omega
        have launched : ∀ launch ∈ replicate (pools.reserveNodeCount nodePool.name
            (nodeLimit nodePool) (desired - active)).1.toNat
              ({ nodePoolName := nodePool.name, isStaticNodeClaim := (some desired).isSome } :
                NodeClaimLaunch), launch.nodePoolName = nodePool.name := by
          intro launch member
          rw [eq_of_mem_replicate member]
        obtain ⟨after, done⟩ := createNodeClaims_eq_ok order create
          (spec.counter nodePool.name (.inl rfl)) launched
        rw [length_replicate] at done
        rw [← isWanted]
        exact ⟨after, done⟩

theorem Within.mono {created fewer : Nat} (within : Within pools nodePool created)
    (le : fewer ≤ created) :
    Within pools nodePool fewer := by
  unfold Within at within ⊢
  dsimp only at within ⊢
  omega

theorem within_wantedNodeClaims_iff (limited : nodeLimit nodePool ≤ maxInt64)
    (nonneg : 0 ≤ pools.reserved nodePool.name) :
    Within pools nodePool (wantedNodeClaims pools nodePool).toNat ↔ SafelyScaled pools nodePool := by
  rcases counts : pools.getNodeCount nodePool.name with ⟨active, deleting, pending⟩
  have isRemaining : pools.remainingLimit nodePool.name (nodeLimit nodePool) =
      nodeLimit nodePool - (active + deleting + pending : Nat) - pools.reserved nodePool.name := by
    unfold getNodeCount at counts
    unfold remainingLimit tracked
    rw [counts]
  -- What the limit leaves is at most the limit, so that it can only underflow.
  have exactWhenNonneg : 0 ≤ pools.remainingLimit nodePool.name (nodeLimit nodePool) →
      wrapInt64 (pools.remainingLimit nodePool.name (nodeLimit nodePool)) =
        pools.remainingLimit nodePool.name (nodeLimit nodePool) := by
    intro remains
    refine wrapInt64_of_mem ?_ ?_
    · unfold minInt64
      omega
    · omega
  unfold Within SafelyScaled wantedNodeClaims
  rw [counts]
  dsimp only
  by_cases enough : nodePool.replicas.getD 0 ≤ (active + pending : Nat)
  · rw [if_pos enough]
    exact iff_of_true (.inl rfl) (.inl enough)
  · by_cases remains : 0 ≤ pools.remainingLimit nodePool.name (nodeLimit nodePool)
    · omega
    · omega

/-- One reconciliation keeps every NodePool within its replicas and its limit,
whatever creations fail, exactly if the NodePool is safely scaled. -/
theorem reconcile_within_iff (order : RangeOrder Nat) (eligible synced : Bool)
    {pools : NodePoolState} {nodePool : NodePool} (limited : nodeLimit nodePool ≤ maxInt64)
    (nonneg : 0 ≤ pools.reserved nodePool.name) :
    (∀ create, ∃ created after,
      reconcile order eligible synced create pools nodePool = .ok (created, after) ∧
        Within pools nodePool created.length) ↔
      eligible = false ∨ synced = false ∨ SafelyScaled pools nodePool := by
  by_cases idle : eligible = false ∨ synced = false
  · have nothing : ∀ create, reconcile order eligible synced create pools nodePool =
        .ok ([], pools) := by
      intro create
      unfold reconcile
      cases nodePool.replicas with
      | none => rfl
      | some desired => rcases idle with rfl | rfl <;> simp
    refine iff_of_true (fun create => ⟨[], pools, nothing create, .inl rfl⟩) ?_
    exact idle.elim .inl fun isIdle => .inr (.inl isIdle)
  · obtain ⟨rfl, rfl⟩ : eligible ∧ synced := by simpa using idle
    simp only [Bool.true_eq_false, false_or]
    rw [← within_wantedNodeClaims_iff limited nonneg]
    constructor
    · -- If every creation succeeds, everything that is wanted is created.
      intro always
      obtain ⟨created, after, done, within⟩ := always fun _ => some { name := "node" }
      obtain ⟨after', done'⟩ := reconcile_eq_ok order (fun _ => some { name := "node" }) pools nodePool
      rw [done] at done'
      obtain ⟨rfl, rfl⟩ := Prod.mk.inj (Except.ok.inj done')
      simpa using within
    · intro within create
      obtain ⟨after, done⟩ := reconcile_eq_ok order create pools nodePool
      refine ⟨_, after, done, within.mono ?_⟩
      exact (length_filterMap_le _ _).trans length_range.le

/-- One NodeClaim is active, another pending disruption. -/
def drifting : NodePoolState :=
  (({} : NodePoolState).markNodeClaimActive "static" "a").markNodeClaimPendingDisruption "static" "b"

/-- Three replicas are reached by one more NodeClaim if the limit leaves no more. -/
theorem reconcile_within_limit :
    0 ≤ drifting.reserved "static" ∧ ∀ create, ∃ created after,
      reconcile .listed true true create drifting
          { name := "static", replicas := some 3, limits := GoMap.ofList [(Resources.node, 3)] } =
        .ok (created, after) ∧
      Within drifting
        { name := "static", replicas := some 3, limits := GoMap.ofList [(Resources.node, 3)] }
        created.length :=
  ⟨by decide +kernel, (reconcile_within_iff .listed true true (by decide +kernel)
    (by decide +kernel)).mpr (.inr (.inr (by decide +kernel)))⟩

/-- Without a limit, two NodeClaims are created for three replicas although the
replacement of the one that is pending disruption is on its way. -/
theorem reconcile_ignores_pending_disruption :
    ¬ ∀ create, ∃ created after,
      reconcile .listed true true create drifting { name := "static", replicas := some 3 } =
        .ok (created, after) ∧
      Within drifting { name := "static", replicas := some 3 } created.length := by
  intro always
  obtain ⟨created, after, done, within⟩ := always fun _ => some { name := "node" }
  obtain ⟨after', done'⟩ := reconcile_eq_ok .listed (fun _ => some { name := "node" }) drifting
    { name := "static", replicas := some 3 }
  rw [done] at done'
  obtain ⟨rfl, rfl⟩ := Prod.mk.inj (Except.ok.inj done')
  revert within
  decide +kernel

end Kraftsman.Provisioning
