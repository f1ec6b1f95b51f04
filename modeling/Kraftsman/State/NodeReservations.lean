import Kraftsman.State.NodePoolState

/-!
Contract: histories of reservations.

The totals granted and released are recorded beside the counters. A NodePool that
is dropped while nodes are reserved loses the counter.

Owns: the balance of every counter, the bound that grants keep, and that an
outstanding grant can be released, in every history that drops no counter in use.
Does not own: who reserves nodes.
-/

namespace Kraftsman.State

open Apis Data Data.Strconv NodePoolState Except Function

/-- A request that holds the lock. An update of a NodeClaim holds it twice, so
that its first half is a request of its own. -/
inductive NodePoolRequest where
  | setNodeClaimMapping (nodePool nodeClaim : String)
  | markNodeClaimActive (nodePool nodeClaim : String)
  | markNodeClaimDeleting (nodePool nodeClaim : String)
  | markNodeClaimPendingDisruption (nodePool nodeClaim : String)
  | updateNodeClaim (nodeClaim : NodeClaim) (markedForDeletion : Bool)
  | cleanup (nodeClaim : String)
  | reserveNodeCount (nodePool : String) (limit wantedLimit : Int)
  | releaseNodeCount (nodePool : String) (count : Int)

structure ReservationRun where
  pools : NodePoolState := {}
  granted : String → Int := fun _ => 0
  released : String → Int := fun _ => 0

namespace ReservationRun

variable (run : ReservationRun)

def outstanding (nodePool : String) : Int := run.granted nodePool - run.released nodePool

/-- Handle a request that cannot fail and grants nothing. -/
def move (pools : NodePoolState) : Except NodePoolPanic ReservationRun :=
  .ok { run with pools := pools }

def apply : NodePoolRequest → Except NodePoolPanic ReservationRun
  | .setNodeClaimMapping nodePool nodeClaim =>
    run.move (run.pools.setNodeClaimMapping nodePool nodeClaim)
  | .markNodeClaimActive nodePool nodeClaim =>
    run.move (run.pools.markNodeClaimActive nodePool nodeClaim)
  | .markNodeClaimDeleting nodePool nodeClaim =>
    run.move (run.pools.markNodeClaimDeleting nodePool nodeClaim)
  | .markNodeClaimPendingDisruption nodePool nodeClaim =>
    run.move (run.pools.markNodeClaimPendingDisruption nodePool nodeClaim)
  | .updateNodeClaim nodeClaim markedForDeletion =>
    run.move (run.pools.updateNodeClaim nodeClaim markedForDeletion)
  | .cleanup nodeClaim => run.move (run.pools.cleanup nodeClaim)
  | .reserveNodeCount nodePool limit wantedLimit =>
    let (granted, pools) := run.pools.reserveNodeCount nodePool limit wantedLimit
    .ok { run with
      pools := pools
      granted := update run.granted nodePool (run.granted nodePool + granted) }
  | .releaseNodeCount nodePool count => do
    let pools ← run.pools.releaseNodeCount nodePool count
    return { run with
      pools := pools
      released := update run.released nodePool (run.released nodePool + count) }

def Permitted : NodePoolRequest → Prop
  | .reserveNodeCount _ limit _ => minInt64 ≤ limit ∧ limit ≤ maxInt64
  | .releaseNodeCount nodePool count => 0 < count ∧ count ≤ run.outstanding nodePool
  | _ => True

/-- No NodePool is dropped while nodes are reserved, and a reservation asks for no
negative number and does not underflow. -/
def Careful : NodePoolRequest → Prop
  | .reserveNodeCount nodePool limit wantedLimit =>
    0 ≤ wantedLimit ∧ minInt64 ≤ run.pools.remainingLimit nodePool limit
  | .cleanup nodeClaim =>
    run.pools.drops nodeClaim (run.pools.nodePoolOf nodeClaim) →
      run.pools.reserved (run.pools.nodePoolOf nodeClaim) = 0
  | _ => True

instance : (request : NodePoolRequest) → Decidable (run.Permitted request)
  | .reserveNodeCount _ _ _ => inferInstanceAs (Decidable (_ ∧ _))
  | .releaseNodeCount _ _ => inferInstanceAs (Decidable (_ ∧ _))
  | .setNodeClaimMapping _ _ | .markNodeClaimActive _ _ | .markNodeClaimDeleting _ _
  | .markNodeClaimPendingDisruption _ _ | .updateNodeClaim _ _ | .cleanup _ => isTrue trivial

instance : (request : NodePoolRequest) → Decidable (run.Careful request)
  | .reserveNodeCount _ _ _ => inferInstanceAs (Decidable (_ ∧ _))
  | .cleanup _ => inferInstanceAs (Decidable (_ → _))
  | .setNodeClaimMapping _ _ | .markNodeClaimActive _ _ | .markNodeClaimDeleting _ _
  | .markNodeClaimPendingDisruption _ _ | .updateNodeClaim _ _ | .releaseNodeCount _ _ =>
    isTrue trivial

/-- The counter is what is outstanding, and there is one as long as anything is. -/
structure Balanced : Prop where
  reserved : ∀ nodePool, run.pools.reserved nodePool = run.outstanding nodePool
  counter : ∀ nodePool, 0 < run.outstanding nodePool →
    nodePool ∈ run.pools.nodePoolNameToNodePoolLimit
  nonneg : ∀ nodePool, 0 ≤ run.outstanding nodePool
  high : ∀ nodePool, run.outstanding nodePool ≤ maxInt64

variable {run}

theorem balanced_start : Balanced {} where
  reserved _ := rfl
  counter _ positive := absurd positive (lt_irrefl 0)
  nonneg _ := le_refl 0
  high _ := by
    unfold outstanding maxInt64
    norm_num

theorem Balanced.keepsCounters (balanced : run.Balanced) {pools : NodePoolState}
    (kept : NodePoolState.KeepsCounters run.pools pools) :
    Balanced { run with pools := pools } where
  reserved nodePool := (kept.reserved nodePool).trans (balanced.reserved nodePool)
  counter nodePool positive := kept.counter nodePool (balanced.counter nodePool positive)
  nonneg := balanced.nonneg
  high := balanced.high

theorem Balanced.cleanup (balanced : run.Balanced) {nodeClaim : String}
    (careful : run.Careful (.cleanup nodeClaim)) :
    Balanced { run with pools := run.pools.cleanup nodeClaim } := by
  -- A counter that goes away was zero.
  have unused : ∀ nodePool, run.pools.drops nodeClaim nodePool → run.outstanding nodePool = 0 := by
    intro nodePool dropped
    have isNodePool := dropped.1
    subst isNodePool
    rw [← balanced.reserved]
    exact careful dropped
  constructor
  · intro nodePool
    have before := balanced.reserved nodePool
    unfold NodePoolState.reserved at before ⊢
    rw [lookup_cleanup]
    split_ifs with dropped
    · exact (unused nodePool dropped).symm
    · exact before
  · intro nodePool positive
    have before := balanced.counter nodePool positive
    rw [← AList.lookup_isSome] at before ⊢
    rw [lookup_cleanup, if_neg fun dropped => by
      have zero := unused nodePool dropped
      unfold outstanding at positive zero
      dsimp only at positive
      omega]
    exact before
  · exact balanced.nonneg
  · exact balanced.high

variable {nodePool : String} {run' : ReservationRun}

theorem apply_reserveNodeCount {limit wantedLimit : Int}
    (done : run.apply (.reserveNodeCount nodePool limit wantedLimit) = .ok run') :
    ∃ granted pools, NodePoolState.Reserves run.pools nodePool limit wantedLimit granted pools ∧
      { run with
        pools := pools
        granted := update run.granted nodePool (run.granted nodePool + granted) } = run' :=
  ⟨_, _, run.pools.reserves_reserveNodeCount nodePool limit wantedLimit, ok.inj done⟩

theorem Balanced.reserve (balanced : run.Balanced) {limit wantedLimit : Int}
    (permitted : run.Permitted (.reserveNodeCount nodePool limit wantedLimit))
    (careful : run.Careful (.reserveNodeCount nodePool limit wantedLimit))
    (done : run.apply (.reserveNodeCount nodePool limit wantedLimit) = .ok run') :
    run'.Balanced ∧ (run.granted nodePool < run'.granted nodePool →
      run'.pools.tracked nodePool + run'.outstanding nodePool ≤ limit) := by
  obtain ⟨nonneg, inRange⟩ := careful
  obtain ⟨granted, pools, spec, isRun⟩ := apply_reserveNodeCount done
  have held := balanced.reserved nodePool
  have low := balanced.nonneg nodePool
  have exactRemaining : wrapInt64 (run.pools.remainingLimit nodePool limit) =
      run.pools.remainingLimit nodePool limit := by
    refine wrapInt64_of_mem inRange ?_
    have upper := permitted.2
    unfold remainingLimit
    omega
  have isGranted := spec.granted_eq
  have isReserved := spec.reserved_eq
  rw [exactRemaining] at isGranted isReserved
  have isTracked : pools.tracked nodePool = run.pools.tracked nodePool := by
    unfold tracked nodeCounts
    rw [spec.nodeClaims]
  unfold remainingLimit at isGranted isReserved
  have bounds : 0 ≤ granted ∧ (0 < granted →
      run.pools.tracked nodePool + (run.outstanding nodePool + granted) ≤ limit) ∧
      run.outstanding nodePool + granted ≤ maxInt64 := by
    have upper := permitted.2
    have high := balanced.high nodePool
    rw [isGranted]
    split_ifs <;> omega
  have isBalance : pools.reserved nodePool = run.outstanding nodePool + granted := by
    rw [isReserved]
    split_ifs with negative
    · rw [isGranted, if_pos negative, add_zero, held]
    · rw [held]
      refine wrapInt64_of_mem ?_ bounds.2.2
      unfold minInt64
      omega
  have isOutstanding : ∀ other, run'.outstanding other =
      if other = nodePool then run.outstanding nodePool + granted else run.outstanding other := by
    intro other
    rw [← isRun]
    unfold outstanding
    by_cases same : other = nodePool
    · subst same
      simp only [update_self, if_true]
      omega
    · simp [same]
  have isPools : run'.pools = pools := by rw [← isRun]
  refine ⟨⟨fun other => ?_, fun other positive => ?_, fun other => ?_, fun other => ?_⟩, fun grants => ?_⟩
  · rw [isPools, isOutstanding]
    split_ifs with same
    · rw [same, isBalance]
    · rw [spec.others other same, balanced.reserved]
  · rw [isPools]
    rw [isOutstanding] at positive
    split_ifs at positive with same
    · exact spec.counter other (.inl same)
    · exact spec.counter other (.inr (balanced.counter other positive))
  · rw [isOutstanding]
    split_ifs
    · omega
    · exact balanced.nonneg other
  · rw [isOutstanding]
    split_ifs
    · exact bounds.2.2
    · exact balanced.high other
  · have positive : 0 < granted := by
      rw [← isRun] at grants
      simp only [update_self] at grants
      omega
    rw [isPools, isOutstanding, if_pos rfl, isTracked]
    exact bounds.2.1 positive

theorem Balanced.release (balanced : run.Balanced) {count : Int}
    (permitted : run.Permitted (.releaseNodeCount nodePool count)) :
    ∃ run', run.apply (.releaseNodeCount nodePool count) = .ok run' ∧ run'.Balanced := by
  obtain ⟨positive, within⟩ := permitted
  have held := balanced.reserved nodePool
  have present := balanced.counter nodePool (by omega)
  have high := balanced.high nodePool
  obtain ⟨pools, done, -, counters, isReserved, others⟩ :=
    releaseNodeCount_eq_ok present positive.le (within.trans held.ge) (held.le.trans high)
  refine ⟨_, FallibleLoop.map_eq_ok.mpr ⟨pools, done, rfl⟩, ?_⟩
  have isOutstanding : ∀ other,
      outstanding { run with
        pools := pools
        released := update run.released nodePool (run.released nodePool + count) } other =
      if other = nodePool then run.outstanding nodePool - count else run.outstanding other := by
    intro other
    unfold outstanding
    by_cases same : other = nodePool
    · subst same
      simp only [update_self, if_true]
      omega
    · simp [same]
  refine ⟨fun other => ?_, fun other stillPositive => ?_, fun other => ?_, fun other => ?_⟩
  · rw [isOutstanding]
    split_ifs with same
    · rw [same, isReserved, held]
    · rw [others other same, balanced.reserved]
  · rw [isOutstanding] at stillPositive
    split_ifs at stillPositive with same
    · exact counters other (same ▸ present)
    · exact counters other (balanced.counter other stillPositive)
  · rw [isOutstanding]
    split_ifs
    · omega
    · exact balanced.nonneg other
  · rw [isOutstanding]
    have otherHigh := balanced.high other
    split_ifs <;> omega

theorem Balanced.step (balanced : run.Balanced) {request : NodePoolRequest}
    (permitted : run.Permitted request) (careful : run.Careful request)
    (done : run.apply request = .ok run') : run'.Balanced := by
  cases request with
  | setNodeClaimMapping nodePool nodeClaim =>
    exact ok.inj done ▸ balanced.keepsCounters (keepsCounters_setNodeClaimMapping _ _ _)
  | markNodeClaimActive _ _ | markNodeClaimDeleting _ _ | markNodeClaimPendingDisruption _ _ =>
    exact ok.inj done ▸ balanced.keepsCounters (keepsCounters_changeNodeClaims _ _ _)
  | updateNodeClaim nodeClaim markedForDeletion =>
    exact ok.inj done ▸ balanced.keepsCounters (keepsCounters_updateNodeClaim _ _ _)
  | cleanup nodeClaim => exact ok.inj done ▸ balanced.cleanup careful
  | reserveNodeCount nodePool limit wantedLimit =>
    exact (balanced.reserve permitted careful done).1
  | releaseNodeCount nodePool count =>
    obtain ⟨after, released, afterBalanced⟩ := balanced.release permitted
    rw [done] at released
    exact ok.inj released ▸ afterBalanced

abbrev Reached (run : ReservationRun) : Prop :=
  Reaches ReservationRun.apply
    (fun (run : ReservationRun) request => run.Permitted request ∧ run.Careful request) {} run

theorem balanced_of_reached (reached : run.Reached) : run.Balanced :=
  reached.invariant Balanced balanced_start
    fun _ _ _ balanced allowed done => balanced.step allowed.1 allowed.2 done

/-- In every history whose requests are careful, the counter of every NodePool is
what was granted less what was released, a positive grant leaves the NodePool
within its limit with everything outstanding, and an outstanding grant can be
released. -/
theorem run_balances_reservations (reached : run.Reached) (nodePool : String) :
    run.pools.reserved nodePool = run.granted nodePool - run.released nodePool ∧
      (∀ limit wantedLimit run',
        run.Permitted (.reserveNodeCount nodePool limit wantedLimit) →
        run.Careful (.reserveNodeCount nodePool limit wantedLimit) →
        run.apply (.reserveNodeCount nodePool limit wantedLimit) = .ok run' →
        run.granted nodePool < run'.granted nodePool →
          run'.pools.tracked nodePool + run'.outstanding nodePool ≤ limit) ∧
      ∀ count, 0 < count → count ≤ run.outstanding nodePool →
        ∃ pools, run.pools.releaseNodeCount nodePool count = .ok pools := by
  have balanced := balanced_of_reached reached
  refine ⟨balanced.reserved nodePool, ?_, ?_⟩
  · intro limit wantedLimit run' permitted careful done positive
    exact (balanced.reserve permitted careful done).2 positive
  · intro count positive within
    obtain ⟨run', done, -⟩ := balanced.release ⟨positive, within⟩
    obtain ⟨pools, released, -⟩ := FallibleLoop.map_eq_ok.mp done
    exact ⟨pools, released⟩

def staticNodeClaim (name : String) (named : name ≠ "") : NodeClaim :=
  { name := name, labels := GoMap.ofList [(nodePoolLabelKey, "static")], name_ne := named }

def creatingNodeClaims : List NodePoolRequest :=
  [.reserveNodeCount "static" 2 2,
    .updateNodeClaim (staticNodeClaim "a" (by decide)) false,
    .releaseNodeCount "static" 1]

/-- One node of a limit of two is still reserved after the other one was created;
releasing it is fine. -/
theorem run_balances_two_reservations :
    ∃ run, Reached run ∧ run.granted "static" = 2 ∧ run.pools.reserved "static" = 1 ∧
      run.pools.tracked "static" = 1 ∧
      ∃ pools, run.pools.releaseNodeCount "static" 1 = .ok pools := by
  obtain ⟨run, reached, granted, released, reserved, tracked⟩ : ∃ run, Reached run ∧
      run.granted "static" = 2 ∧ run.released "static" = 1 ∧ run.pools.reserved "static" = 1 ∧
      run.pools.tracked "static" = 1 :=
    Reaches.exists_of_follow creatingNodeClaims (by decide +kernel)
  refine ⟨run, reached, granted, reserved, tracked, ?_⟩
  refine (run_balances_reservations reached "static").2.2 1 (by decide) ?_
  rw [outstanding, granted, released]
  decide

/-- A NodeClaim that is forgotten takes the counter of its NodePool along although
two nodes are reserved: they cannot be released, and as many as the limit admits
are granted again. -/
theorem cleanup_loses_reservations :
    ∃ run, Reaches apply Permitted {} run ∧ run.outstanding "static" = 2 ∧
      run.pools.reserved "static" = 0 ∧
      run.pools.releaseNodeCount "static" 1 = .error (.nilCounter "static") ∧
      ∃ run', run.apply (.reserveNodeCount "static" 2 2) = .ok run' ∧
        run.granted "static" < run'.granted "static" ∧
        ¬ run'.pools.tracked "static" + run'.outstanding "static" ≤ 2 := by
  obtain ⟨run, reached, two, forgotten⟩ : ∃ run, Reaches apply Permitted {} run ∧
      run.outstanding "static" = 2 ∧ run.pools = {} :=
    Reaches.exists_of_follow [.reserveNodeCount "static" 2 2,
      .updateNodeClaim (staticNodeClaim "a" (by decide)) false, .cleanup "a"] (by decide +kernel)
  refine ⟨run, reached, two, ?_, ?_, ?_⟩
  · rw [forgotten]
    rfl
  · rw [forgotten]
    rfl
  · have granted : (run.pools.reserveNodeCount "static" 2 2).1 = 2 := by
      rw [forgotten]
      decide +kernel
    have untracked : (run.pools.reserveNodeCount "static" 2 2).2.tracked "static" = 0 := by
      rw [forgotten]
      decide +kernel
    refine ⟨{ run with
      pools := (run.pools.reserveNodeCount "static" 2 2).2
      granted := update run.granted "static"
        (run.granted "static" + (run.pools.reserveNodeCount "static" 2 2).1) }, rfl, ?_, ?_⟩
    · simp [granted]
    · unfold outstanding at two ⊢
      simp only [granted, untracked, update_self]
      omega

end ReservationRun

end Kraftsman.State
