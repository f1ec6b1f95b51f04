import Kraftsman.Provisioning.Scheduler

/-!
Contract: what one event can do to a scheduling run.

Owns: the three ways a pod is placed, the transitions of a run, the settings it
never changes, and the data cached for the pods it still has to place.
Does not own: any invariant about nodes, NodeClaims or topologies.
-/

namespace Kraftsman.Provisioning

open Apis CloudProvider Data Data.FallibleLoop Scheduling Option List

variable (tables : LabelTables)

/-- A pod is placed on an existing node, on a NodeClaim in flight, or on a new one. -/
inductive Placing (s : Scheduler) (answers : Answers) (pod : Pod) (podData : PodData) :
    Scheduler → Placed → Prop where
  | existing {volumes : Volumes} {index : Nat} {node : ExistingNode} {requirements : Requirements}
      (found : s.existingNodes[index]? = some node)
      (taken : node.canAdd tables s.config.options s.topology (answers.existing index) pod podData
        volumes = .ok requirements) :
      Placing s answers pod podData
        { s with
          existingNodes := s.existingNodes.set index (node.placed pod podData requirements volumes)
          topology := s.topology.record tables pod node.cachedTaints requirements }
        { pod := pod, target := .node node.stateNode.name, taints := node.cachedTaints,
          requirements := requirements }
  | inflight {claims : List NodeClaim} {index : Nat} {claim : NodeClaim} {placement : Placement}
      {manager : ReservationManager}
      (perm : claims.Perm s.newNodeClaims) (found : claims[index]? = some claim)
      (taken : claim.canAdd tables s.config.options s.topology s.reservationManager
        (answers.inflight index) pod podData false = .ok (.ok placement))
      (reserved : s.reservationManager.reserve tables claim.hostname placement.offeringsToReserve =
        .ok manager) :
      Placing s answers pod podData
        { s with
          newNodeClaims := claims.set index (claim.placed pod podData placement)
          topology := claim.recordIn tables s.topology pod placement
          reservationManager :=
            claim.releaseReservedOfferings tables manager placement.offeringsToReserve
          nodeID := s.nodeID + answers.drawn }
        { pod := pod, target := .claim claim.hostname, taints := claim.taints,
          requirements := placement.requirements }
  | fresh {claims : List NodeClaim} {template : NodeClaimTemplate} {index : Nat}
      {instanceTypes : List InstanceType} {claim : NodeClaim} {placement : Placement}
      {manager : ReservationManager} (perm : claims.Perm s.newNodeClaims)
      (listed : template ∈ s.config.nodeClaimTemplates)
      (within : s.instanceTypesWithinLimits template = some instanceTypes)
      (opened : claim =
        newNodeClaim tables template instanceTypes (s.nodeID + 1 + answers.draw index))
      (taken : claim.canAdd tables s.config.options s.topology s.reservationManager
        (answers.fresh index) pod podData s.config.options.bestEffortMinValues = .ok (.ok placement))
      (reserved : s.reservationManager.reserve tables claim.hostname placement.offeringsToReserve =
        .ok manager) :
      Placing s answers pod podData
        { s with
          newNodeClaims := claims ++ [claim.placed pod podData placement]
          topology := claim.recordIn tables s.topology pod placement
          reservationManager :=
            claim.releaseReservedOfferings tables manager placement.offeringsToReserve
          remainingResources := s.remainingResources.insert template.nodePoolName
            (subtractMax ((s.remainingResources.lookup template.nodePoolName).getD ∅)
              placement.instanceTypes)
          nodeID := s.nodeID + answers.drawn }
        { pod := pod, target := .claim claim.hostname, taints := claim.taints,
          requirements := placement.requirements,
          opened := some (template.nodePoolName, placement.instanceTypes) }

variable (s : Scheduler) (answers : Answers) (pod : Pod)

def Scheduler.Found (podData : PodData) (inflight : Scheduler.InflightPlacement) : Prop :=
  s.newNodeClaims[inflight.index]? = some inflight.claim ∧
    inflight.claim.canAdd tables s.config.options s.topology s.reservationManager
      (answers.inflight inflight.index) pod podData false = .ok (.ok inflight.placement)

def Scheduler.Opened (podData : PodData) (fresh : FreshPlacement) : Prop :=
  ∃ template ∈ s.config.nodeClaimTemplates, ∃ instanceTypes index,
    s.instanceTypesWithinLimits template = some instanceTypes ∧
    fresh.claim = newNodeClaim tables template instanceTypes (s.nodeID + 1 + answers.draw index) ∧
    fresh.claim.canAdd tables s.config.options s.topology s.reservationManager (answers.fresh index)
      pod podData s.config.options.bestEffortMinValues = .ok (.ok fresh.placement)

namespace Scheduler

/-- Trying a pod does not panic, and what is to be reserved can be. -/
structure Safe (tables : LabelTables) (s : Scheduler) (claim : NodeClaim) : Prop where
  tries : ∀ evaluation pod podData relaxMinValues panic,
    claim.canAdd tables s.config.options s.topology s.reservationManager evaluation pod podData
      relaxMinValues ≠ .error panic
  reserves : ∀ evaluation pod podData relaxMinValues placement,
    claim.canAdd tables s.config.options s.topology s.reservationManager evaluation pod podData
      relaxMinValues = .ok (.ok placement) →
    ∃ reserved, s.reservationManager.reserve tables claim.hostname placement.offeringsToReserve =
      .ok reserved

/-- No NodeClaim in flight and no new one misuses reservations. -/
structure AllSafe (tables : LabelTables) (s : Scheduler) : Prop where
  inflight : ∀ claim ∈ s.newNodeClaims, s.Safe tables claim
  fresh : ∀ template ∈ s.config.nodeClaimTemplates, ∀ instanceTypes,
    s.instanceTypesWithinLimits template = some instanceTypes →
      ∀ nodeID, s.Safe tables (newNodeClaim tables template instanceTypes nodeID)

/-- An attempt that places the pod if it succeeds. -/
def Places (podData : PodData) : Except PodError (Scheduler × Placed) → Prop :=
  Ensures (fun _ => True) fun result => Placing tables s answers pod podData result.1 result.2

variable {s} {tables} {s' : Scheduler} {answers : Answers} {pod : Pod} {podData : PodData}
  {placed : Placed} {inflight : InflightPlacement} {claims : List NodeClaim}
  {fresh : FreshPlacement}

theorem AllSafe.perm (safe : s.AllSafe tables) (perm : claims.Perm s.newNodeClaims) :
    AllSafe tables { s with newNodeClaims := claims } := by
  refine ⟨fun claim member => ?_, fun template listed instanceTypes within nodeID => ?_⟩
  · obtain ⟨tries, reserves⟩ := safe.inflight claim (perm.mem_iff.mp member)
    exact ⟨tries, reserves⟩
  · obtain ⟨tries, reserves⟩ := safe.fresh template listed instanceTypes within nodeID
    exact ⟨tries, reserves⟩

theorem evaluateInflight_ensures {indexed : NodeClaim × Nat}
    (listed : indexed ∈ s.newNodeClaims.zipIdx) :
    Ensures (fun _ => ¬ s.AllSafe tables)
      (fun found => ∀ inflight, found = some inflight → Found tables s answers pod podData inflight)
      (s.evaluateInflight tables answers pod podData indexed) := by
  have isListed : s.newNodeClaims[indexed.2]? = some indexed.1 := mem_zipIdx_iff_getElem?.mp listed
  unfold evaluateInflight
  cases tried : indexed.1.canAdd tables s.config.options s.topology s.reservationManager
      (answers.inflight indexed.2) pod podData false with
  | error panic =>
    exact fun safe => (safe.inflight indexed.1 (mem_of_getElem? isListed)).tries _ _ _ _ panic tried
  | ok outcome =>
    intro inflight found
    obtain ⟨placement, isPlacement, rfl⟩ := map_eq_some_iff.mp found
    exact ⟨isListed, tried.trans (congrArg _ (toOption_eq_some.mp isPlacement))⟩

theorem inflightPlacements_ensures : Ensures (fun _ => ¬ s.AllSafe tables)
      (fun placements => ∀ inflight ∈ placements, Found tables s answers pod podData inflight)
      (s.inflightPlacements tables answers pod podData) := by
  refine (parallelizeUntil.ensures (fun _ => evaluateInflight_ensures) false 0).except_map ?_
  intro outcomes _ found inflight member
  exact found (some inflight) (by simpa using member) inflight rfl

theorem firstInflight_ensures : Ensures (fun _ => ¬ s.AllSafe tables)
      (fun found => ∀ inflight, found = some inflight → Found tables s answers pod podData inflight)
      (s.firstInflight tables answers pod podData) := by
  refine (parallelizeUntil.ensures (fun _ => evaluateInflight_ensures) false 0).except_map ?_
  intro outcomes _ found inflight first
  obtain ⟨outcome, member, isInflight⟩ := exists_of_findSome?_eq_some first
  exact found outcome member inflight isInflight

theorem evaluateNewNodeClaim_ensures : Ensures (fun _ => ¬ s.AllSafe tables)
      (Ensures (fun _ => True) (Opened tables s answers pod podData))
      (s.evaluateNewNodeClaim tables answers pod podData) := by
  have each : ∀ indexed ∈ s.config.nodeClaimTemplates.zipIdx, Ensures (fun _ => ¬ s.AllSafe tables)
      (Ensures (fun _ => True) (Opened tables s answers pod podData))
      (s.evaluateTemplate tables answers pod podData indexed) := by
    intro indexed listed
    have member : indexed.1 ∈ s.config.nodeClaimTemplates :=
      mem_of_getElem? (mem_zipIdx_iff_getElem?.mp listed)
    unfold evaluateTemplate
    dsimp only
    cases within : s.instanceTypesWithinLimits indexed.1 with
    | none => trivial
    | some instanceTypes =>
      dsimp only
      cases tried : (newNodeClaim tables indexed.1 instanceTypes
          (s.nodeID + 1 + answers.draw indexed.2)).canAdd tables s.config.options s.topology
          s.reservationManager (answers.fresh indexed.2) pod podData
          s.config.options.bestEffortMinValues with
      | error panic =>
        exact fun safe => (safe.fresh indexed.1 member instanceTypes within _).tries _ _ _ _ panic tried
      | ok outcome =>
        cases outcome with
        | error error => trivial
        | ok placement =>
          exact ⟨indexed.1, member, instanceTypes, indexed.2, within, rfl, tried⟩
  refine (parallelizeUntil.ensures each false 0).except_map ?_
  intro outcomes _ opened
  cases first : outcomes.find? decides with
  | none => trivial
  | some outcome =>
    have isOpened := opened outcome (mem_of_find?_eq_some first)
    cases outcome with
    | error error => trivial
    | ok fresh => exact isOpened

theorem cheapestOf_eq_some {placements : List InflightPlacement}
    (found : s.cheapestOf placements = some inflight) :
    ∃ earlier later, placements = earlier ++ inflight :: later ∧
      (∀ best, s.cheapestOf earlier = some best →
        cheaperThan s.config.priceTieTolerance inflight.delta best.delta) ∧
      ∀ other ∈ later, cheaperThan s.config.priceTieTolerance other.delta inflight.delta = false := by
  induction placements using reverseRecOn generalizing inflight with
  | nil => cases found
  | append_singleton placements last ih =>
    unfold cheapestOf at found
    rw [foldl_append, foldl_cons, foldl_nil] at found
    change s.cheaperOf (s.cheapestOf placements) last = some inflight at found
    cases best : s.cheapestOf placements with
    | none =>
      rw [best] at found
      cases found
      exact ⟨placements, [], rfl, fun _ isBest => by simp [best] at isBest, by simp⟩
    | some kept =>
      rw [best] at found
      dsimp only [cheaperOf] at found
      split_ifs at found with cheaper
      · cases found
        exact ⟨placements, [], rfl, fun _ isBest => some.inj (best.symm.trans isBest) ▸ cheaper,
          by simp⟩
      · cases found
        obtain ⟨earlier, later, rfl, before, after⟩ := ih best
        refine ⟨earlier, later ++ [last], by simp, before, fun other member => ?_⟩
        rcases mem_append.mp member with old | new
        · exact after other old
        · rw [mem_singleton.mp new]
          exact Bool.eq_false_iff.mpr cheaper

theorem shadowMarginalCost_ensures : Ensures (fun _ => ¬ s.AllSafe tables) (fun _ => True)
      (s.shadowMarginalCost tables answers pod podData) := by
  unfold shadowMarginalCost
  split_ifs
  · trivial
  · refine inflightPlacements_ensures.bind fun placements _ _ => ?_
    have shadow : Ensures (fun _ => ¬ s.AllSafe tables) (fun _ => True)
        ((s.evaluateNewNodeClaim tables answers pod podData).map fun _ => ()) :=
      evaluateNewNodeClaim_ensures.except_map fun _ _ _ => trivial
    cases s.cheapestOf placements with
    | none => exact shadow
    | some inflight =>
      dsimp only
      split_ifs
      · exact shadow
      · trivial

section Sorted

variable (perm : claims.Perm s.newNodeClaims)

include perm

theorem commitInflight_ensures
    (found : Found tables { s with newNodeClaims := claims } answers pod podData inflight) :
    Ensures (fun _ => ¬ AllSafe tables { s with newNodeClaims := claims })
      (fun result => Placing tables s answers pod podData result.1 result.2)
      (commitInflight tables { s with newNodeClaims := claims } answers pod podData inflight) := by
  obtain ⟨listed, taken⟩ := found
  unfold commitInflight NodeClaim.add
  cases reserves : s.reservationManager.reserve tables inflight.claim.hostname
      inflight.placement.offeringsToReserve with
  | error panic =>
    intro safe
    obtain ⟨reserved, done⟩ :=
      (safe.inflight inflight.claim (mem_of_getElem? listed)).reserves _ _ _ _ _ taken
    cases reserves.symm.trans done
  | ok manager => exact .inflight perm listed taken reserves

theorem commitNewNodeClaim_ensures
    (opened : Opened tables { s with newNodeClaims := claims } answers pod podData fresh) :
    Ensures (fun _ => ¬ AllSafe tables { s with newNodeClaims := claims })
      (fun result => Placing tables s answers pod podData result.1 result.2)
      (commitNewNodeClaim tables { s with newNodeClaims := claims } answers pod podData fresh) := by
  obtain ⟨template, listed, instanceTypes, index, within, isNew, taken⟩ := opened
  unfold commitNewNodeClaim NodeClaim.add
  cases reserves : s.reservationManager.reserve tables fresh.claim.hostname
      fresh.placement.offeringsToReserve with
  | error panic =>
    intro safe
    have safeClaim := safe.fresh template listed instanceTypes within (s.nodeID + 1 + answers.draw index)
    obtain ⟨reserved, done⟩ := Safe.reserves (isNew ▸ safeClaim) _ _ _ _ _ taken
    cases reserves.symm.trans done
  | ok manager =>
    have nodePool : (fresh.claim.placed pod podData fresh.placement).nodePoolName =
        template.nodePoolName := by
      rw [isNew]
      rfl
    dsimp only [bind, Except.bind, pure, Except.pure, Except.map, Ensures]
    rw [nodePool]
    exact .fresh perm listed within isNew taken reserves

theorem addToNewNodeClaim_ensures :
    Ensures (fun _ => ¬ AllSafe tables { s with newNodeClaims := claims })
      (Places tables s answers pod podData)
      (addToNewNodeClaim tables { s with newNodeClaims := claims } answers pod podData) := by
  unfold addToNewNodeClaim
  split_ifs
  · trivial
  · refine evaluateNewNodeClaim_ensures.bind fun outcome _ opened => ?_
    cases outcome with
    | error error => trivial
    | ok fresh =>
      exact (commitNewNodeClaim_ensures perm opened).map fun _ _ placing => placing

theorem addToCheaper_ensures
    (found : Found tables { s with newNodeClaims := claims } answers pod podData inflight) :
    Ensures (fun _ => ¬ AllSafe tables { s with newNodeClaims := claims })
      (fun result => Placing tables s answers pod podData result.1 result.2)
      (addToCheaper tables { s with newNodeClaims := claims } answers pod podData inflight) := by
  unfold addToCheaper
  by_cases costs : inflight.delta > 0
  · rw [if_pos costs]
    refine evaluateNewNodeClaim_ensures.bind fun outcome _ opened => ?_
    cases outcome with
    | error error => exact commitInflight_ensures perm found
    | ok fresh =>
      dsimp only
      split_ifs
      · exact commitNewNodeClaim_ensures perm opened
      · exact commitInflight_ensures perm found
  · rw [if_neg costs]
    exact commitInflight_ensures perm found

theorem addByMarginalCost_ensures :
    Ensures (fun _ => ¬ AllSafe tables { s with newNodeClaims := claims })
      (Places tables s answers pod podData)
      (addByMarginalCost tables { s with newNodeClaims := claims } answers pod podData) := by
  refine inflightPlacements_ensures.bind fun placements _ found => ?_
  cases cheapest : cheapestOf { s with newNodeClaims := claims } placements with
  | none => exact addToNewNodeClaim_ensures perm
  | some inflight =>
    obtain ⟨earlier, later, rfl, -⟩ := cheapestOf_eq_some cheapest
    exact (addToCheaper_ensures perm (found inflight (by simp))).map fun _ _ placing => placing

theorem addByBinpacking_ensures :
    Ensures (fun _ => ¬ AllSafe tables { s with newNodeClaims := claims })
      (Places tables s answers pod podData)
      (addByBinpacking tables { s with newNodeClaims := claims } answers pod podData) := by
  unfold addByBinpacking
  split_ifs
  on_goal 1 => refine shadowMarginalCost_ensures.bind fun _ _ _ => ?_
  all_goals
    refine firstInflight_ensures.bind fun chosen _ found => ?_
    cases chosen with
    | none => exact addToNewNodeClaim_ensures perm
    | some inflight =>
      exact (commitInflight_ensures perm (found inflight rfl)).map fun _ _ placing => placing

end Sorted

theorem placing_of_addToExistingNode
    (done : s.addToExistingNode tables answers pod podData = some (s', placed)) :
    Placing tables s answers pod podData s' placed := by
  obtain ⟨volumes, -, rest⟩ := bind_eq_some_iff.mp done
  obtain ⟨⟨index, node, requirements⟩, first, same⟩ := bind_eq_some_iff.mp rest
  obtain ⟨rfl, rfl⟩ : _ ∧ _ := by simpa [commitExisting] using same
  obtain ⟨⟨tried, position⟩, member, taken⟩ := exists_of_findSome?_eq_some first
  unfold evaluateExisting at taken
  split_ifs at taken with waiting
  obtain ⟨accepted, acceptedOk, same⟩ := map_eq_some_iff.mp taken
  obtain ⟨rfl, rfl, rfl⟩ : _ ∧ _ ∧ _ := by simpa using same
  cases outcome : tried.canAdd tables s.config.options s.topology (answers.existing position) pod
      podData volumes with
  | error reason =>
    rw [outcome] at acceptedOk
    cases acceptedOk
  | ok found =>
    rw [outcome] at acceptedOk
    obtain rfl : found = accepted := some.inj acceptedOk
    exact .existing (mem_zipIdx_iff_getElem?.mp member) outcome

theorem sortNewNodeClaims_perm (order : RangeOrder NodeClaim) :
    (s.sortNewNodeClaims order).newNodeClaims.Perm s.newNodeClaims :=
  (perm_insertionSort _ _).trans (order.perm 0 _)

theorem add_ensures : Ensures (fun _ => ¬ s.AllSafe tables) (Places tables s answers pod podData)
      (s.add tables answers pod podData) := by
  have perm := @sortNewNodeClaims_perm s answers.claimOrder
  unfold add
  split_ifs
  · trivial
  · trivial
  · cases existing : s.addToExistingNode tables answers pod podData with
    | some found => exact placing_of_addToExistingNode existing
    | none =>
      dsimp only
      split_ifs
      · exact (addByMarginalCost_ensures perm).imp fun _ misused safe => misused (safe.perm perm)
      · exact (addByBinpacking_ensures perm).imp fun _ misused safe => misused (safe.perm perm)

end Scheduler

/-- The choices for the update that an event may cause. -/
def SolveEvent.update : SolveEvent → UpdateAnswers
  | .pop => {}
  | .attempt _ update | .interrupt _ update => update

/-- An event stops the run, with no pod left to try or at the deadline, pops a pod,
queues one again or relaxes it, or places it. -/
inductive Transition (run : SolveRun) (event : SolveEvent) : SolveRun → Prop where
  | idle : Transition run event run
  | stop (idle : run.current = none) (nothing : run.queue.pop = none) :
      Transition run event { run with finished := true }
  | timeOut {original pod : Pod} (deadline : event = .interrupt true event.update)
      (trying : run.current = some (original, pod)) :
      Transition run event { run with finished := true, current := none, timedOut := some original }
  | pop {pod : Pod} {queue : Queue} (idle : run.current = none)
      (popped : run.queue.pop = some (pod, queue)) :
      Transition run event { run with queue := queue, current := some (pod, pod) }
  | requeue {original pod : Pod} {error : PodError} (trying : run.current = some (original, pod))
      (failed : error = .context ∨ ∃ answers podData,
        run.scheduler.cachedPodData.lookup pod.uid = some podData ∧
        run.scheduler.add tables answers pod podData = .ok (.error error) ∧
        (error.isReservedOfferingError = true ∨ error.isDRAError = true ∨
          relax run.scheduler.config.toleratePreferNoSchedule pod = none)) :
      Transition run event (run.requeue tables event.update original error)
  | relax {original pod relaxed : Pod} (trying : run.current = some (original, pod))
      (relaxes : relax run.scheduler.config.toleratePreferNoSchedule pod = some relaxed) :
      Transition run event
        { run.refresh tables event.update relaxed with current := some (original, relaxed) }
  | place {answers : Answers} {original pod : Pod} {podData : PodData} {scheduler : Scheduler}
      {placed : Placed} (attempt : event = .attempt answers event.update)
      (trying : run.current = some (original, pod))
      (cached : run.scheduler.cachedPodData.lookup pod.uid = some podData)
      (placing : Placing tables run.scheduler answers pod podData scheduler placed) :
      Transition run event (run.succeed original scheduler placed)

variable {pod} {original : Pod} {answers : Answers}

namespace SolveRun

variable {tables} {run run' : SolveRun} {event : SolveEvent}

theorem transition_of_recover {update : UpdateAnswers} {podData : PodData} {error : PodError}
    (trying : run.current = some (original, pod))
    (cached : run.scheduler.cachedPodData.lookup pod.uid = some podData)
    (failed : run.scheduler.add tables answers pod podData = .ok (.error error)) :
    Transition tables run (.attempt answers update) (run.recover tables update original pod error) := by
  have requeued := fun kept : error.isReservedOfferingError ∨ error.isDRAError ∨
      relax run.scheduler.config.toleratePreferNoSchedule pod = none =>
    @Transition.requeue tables run (.attempt answers update) original pod error trying
      (.inr ⟨answers, podData, cached, failed, kept⟩)
  unfold recover
  by_cases kept : (error.isReservedOfferingError || error.isDRAError)
  · rw [if_pos kept]
    rcases Bool.or_eq_true_iff.mp kept with reserved | devices
    · exact requeued (.inl reserved)
    · exact requeued (.inr (.inl devices))
  · rw [if_neg kept]
    cases relaxes : relax run.scheduler.config.toleratePreferNoSchedule pod with
    | none => exact requeued (.inr (.inr relaxes))
    | some relaxed => exact .relax trying relaxes

theorem attempt_ensures (answers : Answers) (update : UpdateAnswers) :
    Ensures (fun _ => ¬ run.scheduler.AllSafe tables) (Transition tables run (.attempt answers update))
      (run.attempt tables answers update) := by
  unfold attempt
  cases trying : run.current with
  | none => exact .idle
  | some forms =>
    obtain ⟨original, pod⟩ := forms
    dsimp only
    cases cached : run.scheduler.cachedPodData.lookup pod.uid with
    | none => exact .idle
    | some podData =>
      refine Scheduler.add_ensures.except_map fun outcome added places => ?_
      cases outcome with
      | error error => exact transition_of_recover trying cached added
      | ok found => exact .place rfl trying cached places

theorem apply_ensures (run : SolveRun) (event : SolveEvent) :
    Ensures (fun _ => ¬ run.scheduler.AllSafe tables) (Transition tables run event)
      (run.apply tables event) := by
  unfold apply
  by_cases finished : run.finished
  · rw [if_pos finished]
    exact .idle
  rw [if_neg finished]
  cases event with
  | pop =>
    split_ifs with trying
    · exact .idle
    have idle : run.current = none := by simpa using trying
    cases popped : run.queue.pop with
    | none => exact .stop idle popped
    | some next => exact .pop idle popped
  | attempt answers update => exact attempt_ensures answers update
  | interrupt deadline update =>
    cases trying : run.current with
    | none => exact .idle
    | some forms =>
      dsimp only
      split_ifs with isDeadline
      · exact .timeOut (by rw [isDeadline]; rfl) trying
      · exact @Transition.requeue tables run (.interrupt deadline update) forms.1 forms.2 .context
          trying (.inl rfl)

theorem transition_of_apply (done : run.apply tables event = .ok run') :
    Transition tables run event run' :=
  (apply_ensures run event).of_ok done

end SolveRun

theorem relax_uid {tolerate : Bool} {relaxed : Pod} (relaxes : relax tolerate pod = some relaxed) :
    relaxed.uid = pod.uid := by
  unfold relax at relaxes
  simp only [orElse_eq_orElse, orElse_eq_or, or_eq_some_iff] at relaxes
  rcases relaxes with required | ⟨-, affinity | ⟨-, anti | ⟨-, preferred | ⟨-, spread | ⟨-, taints⟩⟩⟩⟩⟩
  · unfold removeRequiredNodeAffinityTerm at required
    split at required
    · split at required
      · cases required
        rfl
      · cases required
    · cases required
  · obtain ⟨_, -, rfl⟩ := map_eq_some_iff.mp affinity
    rfl
  · obtain ⟨_, -, rfl⟩ := map_eq_some_iff.mp anti
    rfl
  · unfold removePreferredNodeAffinityTerm at preferred
    split at preferred
    · split at preferred
      · cases preferred
      · cases preferred
        rfl
    · cases preferred
  · obtain ⟨_, -, rfl⟩ := map_eq_some_iff.mp spread
    rfl
  · split_ifs at taints
    unfold toleratePreferNoScheduleTaints at taints
    split_ifs at taints
    cases taints
    rfl

theorem Queue.pods_of_pop {queue queue' : Queue} (popped : queue.pop = some (pod, queue')) :
    queue.pods = pod :: queue'.pods := by
  unfold Queue.pop at popped
  cases pods : queue.pods with
  | nil =>
    rw [pods] at popped
    cases popped
  | cons first rest =>
    rw [pods] at popped
    dsimp only at popped
    split_ifs at popped
    obtain ⟨rfl, rfl⟩ := Prod.mk.inj (some.inj popped)
    rfl

namespace SolveRun

/-- The pods still to be placed, the one being placed first. -/
def waiting (run : SolveRun) : List Pod := run.current.toList.map (·.1) ++ run.queue.pods

def Cached (run : SolveRun) (pod : Pod) : Prop :=
  ∃ resolved, run.scheduler.cachedPodData.lookup pod.uid =
    some (podDataOf tables run.scheduler.config resolved pod)

/-- Settings are those of the start, waiting pods are distinct, and the data of
the forms tried next is cached. -/
structure Synced (config : SchedulerConfig) (run : SolveRun) : Prop where
  config : run.scheduler.config = config
  distinct : (run.waiting.map (·.uid)).Nodup
  queued : ∀ pod ∈ run.queue.pods, run.Cached tables pod
  trying : ∀ original pod, run.current = some (original, pod) →
    pod.uid = original.uid ∧ run.Cached tables pod

variable {tables} {run run' : SolveRun} {event : SolveEvent} {config : SchedulerConfig}

theorem Cached.of_refresh_ne {update : UpdateAnswers} {form : Pod} (cached : run.Cached tables pod)
    (other : pod.uid ≠ form.uid) : (run.refresh tables update form).Cached tables pod := by
  obtain ⟨resolved, found⟩ := cached
  refine ⟨resolved, ?_⟩
  have lookedUp : (run.refresh tables update form).scheduler.cachedPodData.lookup pod.uid =
      run.scheduler.cachedPodData.lookup pod.uid := by
    simp [refresh, Scheduler.updateCachedPodData, other]
  rw [lookedUp, found]
  rfl

theorem cached_refresh (run : SolveRun) (update : UpdateAnswers) (form : Pod) :
    (run.refresh tables update form).Cached tables form :=
  ⟨update.claimsResolved, by simp [refresh, Scheduler.updateCachedPodData]⟩

theorem Synced.queued_ne (synced : run.Synced tables config) {queued : Pod}
    (trying : run.current = some (original, pod)) (member : queued ∈ run.queue.pods) :
    queued.uid ≠ original.uid := by
  have distinct := synced.distinct
  simp only [waiting, trying, toList_some, List.map_cons, List.map_nil, List.cons_append,
    List.nil_append, List.nodup_cons, List.mem_map, not_exists, not_and] at distinct
  exact distinct.1 queued member

theorem placing_keeps_config {s s' : Scheduler} {podData : PodData} {placed : Placed}
    (placing : Placing tables s answers pod podData s' placed) :
    s'.config = s.config ∧ s'.cachedPodData = s.cachedPodData := by
  cases placing <;> exact ⟨rfl, rfl⟩

section

variable (synced : run.Synced tables config)
include synced

theorem Synced.pop {queue : Queue} (idle : run.current = none)
    (popped : run.queue.pop = some (pod, queue)) :
    Synced tables config { run with queue := queue, current := some (pod, pod) } := by
  have split := Queue.pods_of_pop popped
  have distinct := synced.distinct
  simp only [waiting, idle, toList_none, List.map_nil, List.nil_append, split] at distinct
  refine ⟨synced.config, distinct, fun queued member => ?_, ?_⟩
  · exact synced.queued queued (split ▸ mem_cons_of_mem _ member)
  · rintro original form trying
    obtain ⟨rfl, rfl⟩ := Prod.mk.inj (some.inj trying)
    exact ⟨rfl, synced.queued pod (split ▸ mem_cons_self)⟩

theorem Synced.requeue (trying : run.current = some (original, pod)) (update : UpdateAnswers)
    (error : PodError) :
    (run.requeue tables update original error).Synced tables config := by
  have distinct : ((original :: run.queue.pods).map (·.uid)).Nodup := by
    have waiting := synced.distinct
    rw [SolveRun.waiting, trying] at waiting
    exact waiting
  refine ⟨synced.config, ?_, fun queued member => ?_, ?_⟩
  · exact ((perm_append_singleton original run.queue.pods).map _).nodup_iff.mpr distinct
  · rcases mem_append.mp member with waiting | last
    · exact (synced.queued queued waiting).of_refresh_ne (synced.queued_ne trying waiting)
    · obtain rfl := mem_singleton.mp last
      exact cached_refresh run update queued
  · rintro _ _ impossible
    cases impossible

theorem Synced.relax {relaxed : Pod} {tolerate : Bool} (trying : run.current = some (original, pod))
    (relaxes : Provisioning.relax tolerate pod = some relaxed) (update : UpdateAnswers) :
    Synced tables config
      { run.refresh tables update relaxed with current := some (original, relaxed) } := by
  have sameUid : relaxed.uid = original.uid :=
    (relax_uid relaxes).trans (synced.trying original pod trying).1
  refine ⟨synced.config, ?_, fun queued member => ?_, ?_⟩
  · have distinct := synced.distinct
    rw [waiting, trying] at distinct
    exact distinct
  · exact (synced.queued queued member).of_refresh_ne (sameUid ▸ synced.queued_ne trying member)
  · rintro first form now
    obtain ⟨rfl, rfl⟩ := Prod.mk.inj (some.inj now)
    exact ⟨sameUid, cached_refresh run update relaxed⟩

theorem Synced.place {podData : PodData} {scheduler : Scheduler} {placed : Placed}
    (placing : Placing tables run.scheduler answers pod podData scheduler placed) :
    (run.succeed original scheduler placed).Synced tables config := by
  obtain ⟨sameConfig, sameData⟩ := placing_keeps_config placing
  refine ⟨sameConfig.trans synced.config, ?_, fun queued member => ?_, ?_⟩
  · exact (nodup_append.mp (map_append ▸ synced.distinct)).2.1
  · obtain ⟨resolved, found⟩ := synced.queued queued member
    refine ⟨resolved, ?_⟩
    rw [show (run.succeed original scheduler placed).scheduler = scheduler from rfl, sameData, found,
      sameConfig]
  · rintro _ _ impossible
    cases impossible

theorem Synced.step (transition : Transition tables run event run') :
    run'.Synced tables config := by
  cases transition with
  | idle => exact synced
  | stop => exact ⟨synced.config, synced.distinct, synced.queued, synced.trying⟩
  | timeOut =>
    refine ⟨synced.config, ?_, synced.queued, fun _ _ impossible => by cases impossible⟩
    exact (nodup_append.mp (map_append ▸ synced.distinct)).2.1
  | pop idle popped => exact synced.pop idle popped
  | requeue trying _ => exact synced.requeue trying event.update _
  | relax trying relaxes => exact synced.relax trying relaxes event.update
  | place _ _ _ placing => exact synced.place placing

theorem Synced.podData {podData : PodData} (trying : run.current = some (original, pod))
    (cached : run.scheduler.cachedPodData.lookup pod.uid = some podData) :
    ∃ resolved, podData = podDataOf tables config resolved pod := by
  obtain ⟨resolved, found⟩ := (synced.trying original pod trying).2
  rw [cached, synced.config] at found
  exact ⟨resolved, some.inj found⟩

end

end SolveRun

variable {input : SolveInput} {start : SolveRun}

theorem SolveInput.start_eq_some (started : input.start tables = some start) :
    ∃ topology, newTopology tables input.fails input.antiAffinityFirst input.options.preferencePolicy
        input.view input.stateNodes input.nodePools input.instanceTypes input.topologyPods =
          some topology ∧
      start =
        { scheduler :=
            { input.newScheduler tables topology with
              cachedPodData := input.pods.foldl (fun data pod => data.insert pod.uid
                (podDataOf tables (input.config tables) (input.claimsResolved pod.uid) pod)) ∅ }
          queue := newQueue input.pods } := by
  obtain ⟨topology, made, rfl⟩ := map_eq_some_iff.mp started
  have folded : ∀ (pods : List Pod) (s : Scheduler), (pods.foldl (fun scheduler pod =>
        scheduler.updateCachedPodData tables (input.claimsResolved pod.uid) pod) s) =
      { s with cachedPodData := pods.foldl (fun data pod => data.insert pod.uid
          (podDataOf tables s.config (input.claimsResolved pod.uid) pod)) s.cachedPodData } := by
    intro pods
    induction pods with
    | nil => exact fun _ => rfl
    | cons pod rest ih =>
      intro s
      rw [foldl_cons, ih]
      rfl
  refine ⟨topology, made, ?_⟩
  rw [folded]
  rfl

theorem SolveInput.start_synced (started : input.start tables = some start) :
    start.Synced tables (input.config tables) := by
  obtain ⟨topology, -, rfl⟩ := input.start_eq_some tables started
  have perm : (newQueue input.pods).pods.Perm input.pods := perm_insertionSort _ _
  refine ⟨rfl, (perm.map _).nodup_iff.mpr input.pods_distinct,
    fun pod member => ⟨input.claimsResolved pod.uid, ?_⟩, ?_⟩
  · exact GoMap.lookup_foldl_insert (fun pod : Pod => pod.uid) _ input.pods_distinct _
      (perm.mem_iff.mp member)
  · rintro _ _ impossible
    cases impossible

def SolveInput.follow (input : SolveInput) (events : List SolveEvent) : Option SolveRun :=
  (input.start tables).bind fun start =>
    Reaches.follow (SolveRun.apply tables) (fun _ _ => True) start events

theorem SolveInput.exists_of_follow {Q : SolveRun → Prop} [DecidablePred Q] (events : List SolveEvent)
    (seen : (input.follow tables events).any fun run => Q run) :
    ∃ start run, input.start tables = some start ∧
      Reaches (SolveRun.apply tables) (fun _ _ => True) start run ∧ Q run := by
  obtain ⟨run, followed, holds⟩ := (Option.any_eq_true ..).mp seen
  obtain ⟨start, started, done⟩ := bind_eq_some_iff.mp followed
  exact ⟨start, run, started, .of_follow .start done, of_decide_eq_true holds⟩

theorem SolveRun.synced_of_reached {run : SolveRun} {Allowed : SolveRun → SolveEvent → Prop}
    (started : input.start tables = some start)
    (reached : Reaches (SolveRun.apply tables) Allowed start run) :
    run.Synced tables (input.config tables) :=
  reached.invariant (SolveRun.Synced tables (input.config tables))
    (SolveInput.start_synced tables started)
    fun _ _ _ synced _ done => synced.step (SolveRun.transition_of_apply done)

end Kraftsman.Provisioning
