import Kraftsman.Provisioning.DaemonGroups
import Kraftsman.Provisioning.Transitions

/-!
Contract: NodeClaims in flight throughout a scheduling run.

Owns: the templates of a run, which of them a NodeClaim stems from, the names of
NodeClaims, the room their instance types have, and the requirements of pods that
they imply.
Does not own: topologies, reservations and limits.
-/

namespace Kraftsman.Provisioning

open Apis CloudProvider Data Scheduling Requirements Option List

variable (tables : LabelTables)

/-! ### Templates of NodePools -/

theorem templateRequirements_named (nodePool : NodePool) :
    (templateRequirements tables nodePool).Named :=
  (((Requirements.named_empty.add tables _).add tables _).add tables _).add tables _

structure TemplateOf (input : SolveInput) (nodePool : NodePool) (template : NodeClaimTemplate) :
    Prop where
  nodePoolName : template.nodePoolName = nodePool.name
  requirements : template.requirements = templateRequirements tables nodePool
  taints : template.taints = nodePool.template.taints
  instanceTypes : template.instanceTypeOptions ⊆
    (input.instanceTypes.lookup nodePool.name).getD []
  grouped : ∀ left ∈ template.daemonOverheadGroups, ∀ right ∈ template.daemonOverheadGroups,
    ∀ it ∈ left.instanceTypes, it ∈ right.instanceTypes → left = right

theorem SolveInput.mem_templates {input : SolveInput} (member : template ∈ input.templates tables) :
    ∃ nodePool ∈ input.nodePools, TemplateOf tables input nodePool template := by
  obtain ⟨bare, bareMember, rfl⟩ := mem_map.mp member
  obtain ⟨nodePool, listed, made⟩ := mem_filterMap.mp bareMember
  unfold nodeClaimTemplateForNodePool at made
  dsimp only at made
  split_ifs at made with none
  cases made
  refine ⟨nodePool, listed, rfl, rfl, rfl, fun it left => ?_, ?_⟩
  · have priced := (@suits_of_mem_filter tables _ _ _ ∅ _ _ _ _ left).1
    unfold instanceTypesBelowPrice at priced
    split_ifs at priced
    · exact priced
    · exact (mem_filter.mp priced).1
  · intro left leftMember right rightMember it inLeft inRight
    exact buildDaemonOverheadGroups_unique tables (RangeOrder.mem_visit.mp leftMember)
      (RangeOrder.mem_visit.mp rightMember) inLeft inRight

/-! ### Changed NodeClaims -/

/-- A NodeClaim that just took a pod: in flight, or a new one. -/
structure Taken (s : Scheduler) (answers : Answers) (pod : Pod) (podData : PodData) (placed : Placed)
    (claim : NodeClaim) (evaluation : Evaluation) (placement : Placement) : Prop where
  accepts : claim.Accepts tables s.topology s.reservationManager evaluation pod podData placement
  logged : placed.pod = pod ∧ placed.target = .claim claim.hostname ∧ placed.taints = claim.taints ∧
    placed.requirements = placement.requirements
  source : (claim ∈ s.newNodeClaims ∧ placed.opened = none) ∨
    ∃ template ∈ s.config.nodeClaimTemplates, ∃ instanceTypes index,
      s.instanceTypesWithinLimits template = some instanceTypes ∧
      claim = newNodeClaim tables template instanceTypes (s.nodeID + 1 + answers.draw index) ∧
      placed.opened = some (template.nodePoolName, placement.instanceTypes)

variable {tables} {answers : Answers} {podData : PodData} {s : Scheduler} {pod : Pod}

theorem Placing.mem_newNodeClaims {s' : Scheduler} {placed : Placed}
    (placing : Placing tables s answers pod podData s' placed) {claim' : NodeClaim}
    (member : claim' ∈ s'.newNodeClaims) :
    claim' ∈ s.newNodeClaims ∨ ∃ claim evaluation placement,
      claim' = claim.placed pod podData placement ∧
      Taken tables s answers pod podData placed claim evaluation placement := by
  cases placing with
  | existing => exact .inl member
  | @inflight claims index claim placement manager perm found taken reserved =>
    rcases mem_or_eq_of_mem_set member with kept | rfl
    · exact .inl (perm.mem_iff.mp kept)
    · refine .inr ⟨claim, answers.inflight index, placement, rfl, ?_⟩
      exact
        { accepts := NodeClaim.accepts_of_canAdd taken
          logged := ⟨rfl, rfl, rfl, rfl⟩
          source := .inl ⟨perm.mem_iff.mp (mem_of_getElem? found), rfl⟩ }
  | @fresh claims template index instanceTypes claim placement manager perm listed within opened
      taken reserved =>
      rcases mem_append.mp member with kept | last
      · exact .inl (perm.mem_iff.mp kept)
      · obtain rfl := mem_singleton.mp last
        refine .inr ⟨claim, answers.fresh index, placement, rfl, ?_⟩
        exact
          { accepts := NodeClaim.accepts_of_canAdd taken
            logged := ⟨rfl, rfl, rfl, rfl⟩
            source := .inr ⟨template, listed, instanceTypes, index, within, opened, rfl⟩ }

variable {instanceTypes : List InstanceType} {template : NodeClaimTemplate}

theorem Scheduler.instanceTypesWithinLimits_subset
    (within : s.instanceTypesWithinLimits template = some instanceTypes) :
    instanceTypes ⊆ template.instanceTypeOptions := by
  unfold instanceTypesWithinLimits at within
  cases limited : s.remainingResources.lookup template.nodePoolName with
  | none =>
    rw [limited] at within
    cases within
    exact List.Subset.refl _
  | some remaining =>
    rw [limited] at within
    dsimp only at within
    split_ifs at within
    cases within
    exact filter_subset_self _

/-! ### Names -/

theorem placeholder_injective : Function.Injective placeholder := by
  intro left right same
  have chars := congrArg String.toList same
  unfold placeholder at chars
  simp only [String.toList_append, String.toList_ofList] at chars
  have digits := append_cancel_left chars
  have parsed := congrArg Strconv.parseDigits digits
  rw [Strconv.parseDigits_padded, Strconv.parseDigits_padded] at parsed
  exact some.inj parsed

theorem map_set_of_eq {A B : Type*} (image : A → B) {list : List A} {index : Nat} {old new : A}
    (found : list[index]? = some old) (same : image new = image old) :
    (list.set index new).map image = list.map image := by
  apply ext_getElem?
  intro position
  rw [getElem?_map, getElem?_map, getElem?_set]
  split_ifs with here inside
  · subst here
    rw [found, map_some, map_some, same]
  · rw [getElem?_eq_none (not_lt.mp inside)] at found
    cases found
  · rfl

/-- NodeClaims have distinct names, all drawn before. -/
structure Scheduler.DistinctNames (s : Scheduler) : Prop where
  distinct : (s.newNodeClaims.map (·.hostname)).Nodup
  drawn : ∀ claim ∈ s.newNodeClaims, ∃ nodeID ≤ s.nodeID, claim.hostname = placeholder nodeID

theorem Scheduler.DistinctNames.fresh (names : s.DistinctNames) (draw : Nat) :
    ∀ claim ∈ s.newNodeClaims, claim.hostname ≠ placeholder (s.nodeID + 1 + draw) := by
  intro claim member same
  obtain ⟨nodeID, old, named⟩ := names.drawn claim member
  have := placeholder_injective (named.symm.trans same)
  omega

theorem Scheduler.DistinctNames.step {s' : Scheduler} {placed : Placed} (names : s.DistinctNames)
    (placing : Placing tables s answers pod podData s' placed) :
    s'.DistinctNames := by
  cases placing with
  | existing => exact ⟨names.distinct, names.drawn⟩
  | @inflight claims index claim placement manager perm found taken reserved =>
    have sameNames : (claims.set index (claim.placed pod podData placement)).map (·.hostname) =
        claims.map (·.hostname) := by
      apply map_set_of_eq (·.hostname) found
      rfl
    refine ⟨?_, fun other member => ?_⟩
    · rw [sameNames]
      exact (perm.map _).nodup_iff.mpr names.distinct
    · have known : other.hostname ∈ s.newNodeClaims.map (·.hostname) := by
        rw [← (perm.map _).mem_iff, ← sameNames]
        exact mem_map_of_mem member
      obtain ⟨earlier, earlierMember, sameName⟩ := mem_map.mp known
      obtain ⟨nodeID, old, named⟩ := names.drawn earlier earlierMember
      exact ⟨nodeID, old.trans (Nat.le_add_right _ _), sameName ▸ named⟩
  | @fresh claims template index instanceTypes claim placement manager perm listed within opened
      taken reserved =>
      have hostname : (claim.placed pod podData placement).hostname =
          placeholder (s.nodeID + 1 + answers.draw index) := by
        rw [opened]
        rfl
      refine ⟨?_, fun other member => ?_⟩
      · rw [map_append, map_cons, map_nil, hostname]
        apply nodup_append.mpr
        refine ⟨(perm.map _).nodup_iff.mpr names.distinct, nodup_singleton _, ?_⟩
        intro name old new isNew
        obtain rfl := mem_singleton.mp isNew
        obtain ⟨earlier, earlierMember, rfl⟩ := mem_map.mp old
        exact names.fresh _ earlier (perm.mem_iff.mp earlierMember)
      · rcases mem_append.mp member with old | new
        · obtain ⟨nodeID, drawn, named⟩ := names.drawn other (perm.mem_iff.mp old)
          exact ⟨nodeID, drawn.trans (Nat.le_add_right _ _), named⟩
        · obtain rfl := mem_singleton.mp new
          have drawn := answers.draw_lt index
          exact ⟨_, by dsimp only; omega, hostname⟩

/-! ### What NodeClaims take over from templates -/

/-- A group apart from the host ports that are taken. -/
def DaemonOverheadGroup.overhead (group : DaemonOverheadGroup) : List InstanceType × ResourceList :=
  (group.instanceTypes, group.daemonOverhead)

structure NodeClaim.StemsFrom (claim : NodeClaim) (template : NodeClaimTemplate) : Prop where
  nodePoolName : claim.nodePoolName = template.nodePoolName
  taints : claim.taints = template.taints
  instanceTypes : claim.instanceTypeOptions ⊆ template.instanceTypeOptions
  overheads : claim.daemonOverheadGroups.map (·.overhead) =
    template.daemonOverheadGroups.map (·.overhead)
  requirements : claim.requirements.Implies template.requirements

variable (tables) in
/-- A NodeClaim stems from a template; its requests are those of its pods, which
it tolerates and whose requirements it implies. -/
structure NodeClaim.Grounded (config : SchedulerConfig) (claim : NodeClaim) : Prop where
  named : claim.requirements.Named
  template : ∃ template ∈ config.nodeClaimTemplates, claim.StemsFrom template
  requests : ∀ resource, Resources.amount claim.requests resource =
    (claim.pods.map fun pod => Resources.amount (Resources.requestsForPods [pod]) resource).sum
  tolerated : ∀ pod ∈ claim.pods, toleratesPod claim.taints pod = []
  implied : ∀ pod ∈ claim.pods,
    claim.requirements.Implies (podDataOf tables config true pod).requirements

variable (tables) in
/-- Every instance type that is left suits the pods. -/
structure NodeClaim.Launchable (claim : NodeClaim) : Prop where
  nonempty : claim.instanceTypeOptions ≠ []
  suits : ∀ it ∈ claim.instanceTypeOptions, ∃ group ∈ claim.daemonOverheadGroups,
    it ∈ group.instanceTypes ∧ Suits tables claim.requirements claim.requests group it

namespace NodeClaim

variable {config : SchedulerConfig} {claim : NodeClaim} {topology : Topology}
  {manager : ReservationManager} {evaluation : Evaluation} {pod : Pod} {podData : PodData}
  {placement : Placement}

theorem baseRequirements_implies (named : claim.requirements.Named)
    (keyed : podData.requirements.Keyed tables) :
    (claim.baseRequirements tables podData).Implies claim.requirements ∧
      (claim.baseRequirements tables podData).Implies podData.requirements := by
  have copied : (newRequirements tables claim.requirements.values).Implies claim.requirements :=
    (Requirements.SameSets.of_lookup (lookup_newRequirements_values tables named)).implies
  exact ⟨(implies_add tables _ _).trans copied, implies_add_values tables _ keyed⟩

theorem baseRequirements_named (claim : NodeClaim) (podData : PodData) :
    (claim.baseRequirements tables podData).Named :=
  (named_empty.add tables _).add tables _

theorem podDataOf_keyed (config : SchedulerConfig) (resolved : Bool) (pod : Pod) :
    (podDataOf tables config resolved pod).requirements.Keyed tables :=
  keyed_newPodRequirements tables pod _

section

variable (accepts : claim.Accepts tables topology manager evaluation pod podData placement)
include accepts

theorem Accepts.implies (named : claim.requirements.Named)
    (keyed : podData.requirements.Keyed tables) :
    placement.requirements.Implies claim.requirements ∧
      placement.requirements.Implies podData.requirements := by
  obtain ⟨ofClaim, ofPod⟩ := baseRequirements_implies named keyed
  exact ⟨accepts.narrowing.implies.trans ofClaim, accepts.narrowing.implies.trans ofPod⟩

theorem Accepts.named : placement.requirements.Named :=
  accepts.narrowing.named (baseRequirements_named claim podData)

end

theorem grounded_newNodeClaim (listed : template ∈ config.nodeClaimTemplates)
    (named : template.requirements.Named) (subset : instanceTypes ⊆ template.instanceTypeOptions)
    (nodeID : Nat) :
    (newNodeClaim tables template instanceTypes nodeID).Grounded tables config where
  named := (named_empty.add tables _).add tables _
  template := by
    have copied : (newRequirements tables template.requirements.values).Implies
        template.requirements :=
      (Requirements.SameSets.of_lookup (lookup_newRequirements_values tables named)).implies
    exact ⟨template, listed, rfl, rfl, subset, rfl, (implies_add tables _ _).trans copied⟩
  requests _ := rfl
  tolerated pod impossible := by cases impossible
  implied pod impossible := by cases impossible

theorem Grounded.placed {resolved : Bool} (grounded : claim.Grounded tables config)
    (sameData : podData = podDataOf tables config resolved pod)
    (accepts : claim.Accepts tables topology manager evaluation pod podData placement) :
    (claim.placed pod podData placement).Grounded tables config := by
  subst sameData
  obtain ⟨ofClaim, ofPod⟩ := accepts.implies grounded.named (podDataOf_keyed config resolved pod)
  obtain ⟨template, listed, stems⟩ := grounded.template
  refine ⟨accepts.named, ⟨template, listed, ?_⟩, fun resource => ?_, fun other member => ?_,
    fun other member => ?_⟩
  · exact
      { nodePoolName := stems.nodePoolName
        taints := stems.taints
        instanceTypes := fun it member => stems.instanceTypes (accepts.narrowing.suits it member).1
        overheads := (List.map_map ..).trans stems.overheads
        requirements := ofClaim.trans stems.requirements }
  · have before := grounded.requests resource
    simp only [NodeClaim.placed, Resources.amount_merge, map_append, map_cons, map_nil,
      sum_append, sum_cons, sum_nil, podDataOf, before]
  · rcases mem_append.mp member with earlier | last
    · exact grounded.tolerated other earlier
    · obtain rfl := mem_singleton.mp last
      exact accepts.tolerated
  · rcases mem_append.mp member with earlier | last
    · exact ofClaim.trans (grounded.implied other earlier)
    · obtain rfl := mem_singleton.mp last
      exact ofPod

theorem Accepts.launchable (accepts : claim.Accepts tables topology manager evaluation pod podData
    placement) : (claim.placed pod podData placement).Launchable tables := by
  refine ⟨accepts.narrowing.nonempty, fun it member => ?_⟩
  obtain ⟨-, group, inGroups, ofGroup, suits⟩ := accepts.narrowing.suits it member
  refine ⟨_, mem_map_of_mem inGroups, ofGroup, suits.compatible, ?_⟩
  exact suits.room

end NodeClaim

/-! ### Runs -/

/-- The placement that opened a NodeClaim, and its instance types then. -/
def Placed.Opens (placed : Placed) (claim : NodeClaim) (instanceTypes : List InstanceType) : Prop :=
  placed.target = .claim claim.hostname ∧ placed.opened = some (claim.nodePoolName, instanceTypes)

variable (tables) in
structure SolveRun.Sound (config : SchedulerConfig) (run : SolveRun) : Prop where
  names : run.scheduler.DistinctNames
  logged : ∀ placed ∈ run.placements, ∀ hostname, placed.target = .claim hostname →
    ∃ nodeID ≤ run.scheduler.nodeID, hostname = placeholder nodeID
  grounded : ∀ claim ∈ run.scheduler.newNodeClaims, claim.Grounded tables config
  launchable : ∀ claim ∈ run.scheduler.newNodeClaims, claim.Launchable tables
  opened : ∀ claim ∈ run.scheduler.newNodeClaims,
    (∃ placed ∈ run.placements, ∃ instanceTypes, placed.Opens claim instanceTypes) ∧
    ∀ placed ∈ run.placements, ∀ instanceTypes, placed.Opens claim instanceTypes →
      claim.instanceTypeOptions ⊆ instanceTypes

variable {claim : NodeClaim}

section Placing

variable {s s' : Scheduler} {answers : Answers} {pod : Pod} {podData : PodData} {placed : Placed}
  {config : SchedulerConfig}

section

variable (placing : Placing tables s answers pod podData s' placed)
include placing

theorem Placing.nodeID_le : s.nodeID ≤ s'.nodeID := by
  cases placing with
  | existing => exact le_rfl
  | inflight | fresh => exact Nat.le_add_right _ _

theorem Placing.opened_name {opened : String × List InstanceType}
    (isOpened : placed.opened = some opened) :
    ∃ draw, placed.target = .claim (placeholder (s.nodeID + 1 + draw)) ∧
      s.nodeID + 1 + draw ≤ s'.nodeID := by
  cases placing with
  | existing | inflight => cases isOpened
  | @fresh _ _ index _ claim _ _ _ _ _ isNew =>
    subst isNew
    have drawn := answers.draw_lt index
    exact ⟨answers.draw index, rfl, by dsimp only; omega⟩

theorem Placing.target_drawn (names : s.DistinctNames) {hostname : String}
    (onClaim : placed.target = .claim hostname) :
    ∃ nodeID ≤ s'.nodeID, hostname = placeholder nodeID := by
  have names' := names.step placing
  cases placing with
  | existing => cases onClaim
  | @inflight claims index claim placement _ perm found =>
    obtain rfl := Target.claim.inj onClaim
    exact names'.drawn (claim.placed pod podData placement) (List.mem_iff_getElem?.mpr ⟨index, by
        rw [List.getElem?_set_self (List.getElem?_eq_some_iff.mp found).1]⟩)
  | @fresh claims _ _ _ claim placement _ perm =>
    obtain rfl := Target.claim.inj onClaim
    exact names'.drawn (claim.placed pod podData placement) (by simp)

end

theorem Taken.grounded {evaluation : Evaluation} {placement : Placement}
    (taken : Taken tables s answers pod podData placed claim evaluation placement)
    (sameConfig : s.config = config) (named : ∀ template ∈ config.nodeClaimTemplates,
      template.requirements.Named)
    (grounded : ∀ claim ∈ s.newNodeClaims, claim.Grounded tables config) :
    claim.Grounded tables config := by
  rcases taken.source with ⟨inFlight, -⟩ | ⟨template, listed, instanceTypes, index, within, rfl, -⟩
  · exact grounded claim inFlight
  · rw [sameConfig] at listed
    exact NodeClaim.grounded_newNodeClaim listed (named template listed)
      (Scheduler.instanceTypesWithinLimits_subset within) _

end Placing

namespace SolveRun

variable {run run' : SolveRun} {event : SolveEvent} {config : SchedulerConfig}

theorem Sound.opened_place (sound : run.Sound tables config) {scheduler : Scheduler}
    {placed : Placed} (placing : Placing tables run.scheduler answers pod podData scheduler placed)
    (member : claim ∈ scheduler.newNodeClaims) :
    (∃ other ∈ run.placements ++ [placed], ∃ instanceTypes, other.Opens claim instanceTypes) ∧
      ∀ other ∈ run.placements ++ [placed], ∀ instanceTypes, other.Opens claim instanceTypes →
        claim.instanceTypeOptions ⊆ instanceTypes := by
  -- a NodeClaim that was in flight before is not opened by this placement
  have notOpened : ∀ earlier ∈ run.scheduler.newNodeClaims, ∀ instanceTypes,
      ¬ placed.Opens earlier instanceTypes := by
    rintro earlier inFlight instanceTypes ⟨onClaim, isOpened⟩
    obtain ⟨draw, target, -⟩ := placing.opened_name isOpened
    rw [target] at onClaim
    exact sound.names.fresh draw earlier inFlight (Target.claim.inj onClaim).symm
  -- so that what the log says of it extends to a NodeClaim of the same name with fewer instance types
  have inherited : ∀ earlier ∈ run.scheduler.newNodeClaims, ∀ later : NodeClaim,
      later.hostname = earlier.hostname → later.nodePoolName = earlier.nodePoolName →
      later.instanceTypeOptions ⊆ earlier.instanceTypeOptions →
      (∃ other ∈ run.placements ++ [placed], ∃ instanceTypes, other.Opens later instanceTypes) ∧
        ∀ other ∈ run.placements ++ [placed], ∀ instanceTypes, other.Opens later instanceTypes →
          later.instanceTypeOptions ⊆ instanceTypes := by
    intro earlier inFlight later sameName samePool fewer
    have sameOpens : ∀ other : Placed, ∀ instanceTypes,
        other.Opens later instanceTypes ↔ other.Opens earlier instanceTypes := by
      intro other instanceTypes
      unfold Placed.Opens
      rw [sameName, samePool]
    obtain ⟨⟨other, logged, instanceTypes, opens⟩, all⟩ := sound.opened earlier inFlight
    refine ⟨⟨other, mem_append_left _ logged, instanceTypes, (sameOpens _ _).mpr opens⟩, ?_⟩
    intro other logged instanceTypes opens
    rw [sameOpens] at opens
    rcases mem_append.mp logged with before | now
    · exact List.Subset.trans fewer (all other before instanceTypes opens)
    · obtain rfl := mem_singleton.mp now
      exact absurd opens (notOpened earlier inFlight instanceTypes)
  rcases placing.mem_newNodeClaims member with kept | ⟨before, evaluation, placement, rfl, taken⟩
  · exact inherited claim kept claim rfl rfl (List.Subset.refl _)
  · have subset : placement.instanceTypes ⊆ before.instanceTypeOptions := fun it left =>
      (taken.accepts.narrowing.suits it left).1
    rcases taken.source with ⟨inFlight, -⟩ | ⟨template, -, instanceTypes, index, -, isNew, isOpened⟩
    · exact inherited before inFlight _ rfl rfl subset
    · -- a new NodeClaim: no earlier placement has its name
      have opens : placed.Opens (before.placed pod podData placement) placement.instanceTypes := by
        refine ⟨taken.logged.2.1, ?_⟩
        rw [isOpened, isNew]
        rfl
      refine ⟨⟨placed, mem_append_right _ mem_cons_self, _, opens⟩, ?_⟩
      rintro other logged types ⟨onClaim, otherOpened⟩
      rcases mem_append.mp logged with earlier | now
      · obtain ⟨nodeID, drawn, named⟩ := sound.logged other earlier _ onClaim
        rw [isNew] at named
        have := placeholder_injective named
        omega
      · obtain rfl := mem_singleton.mp now
        obtain ⟨-, rfl⟩ := Prod.mk.inj (some.inj (opens.2.symm.trans otherOpened))
        exact List.Subset.refl _

section

variable (synced : run.Synced tables config)
  (named : ∀ template ∈ config.nodeClaimTemplates, template.requirements.Named)
include synced named

theorem Sound.place (sound : run.Sound tables config) {original : Pod} {scheduler : Scheduler}
    {placed : Placed} (trying : run.current = some (original, pod))
    (cached : run.scheduler.cachedPodData.lookup pod.uid = some podData)
    (placing : Placing tables run.scheduler answers pod podData scheduler placed) :
    (run.succeed original scheduler placed).Sound tables config := by
  obtain ⟨resolved, sameData⟩ := synced.podData trying cached
  refine ⟨sound.names.step placing, ?_, fun claim member => ?_, fun claim member => ?_,
    fun claim member => sound.opened_place placing member⟩
  · intro other logged hostname onClaim
    rcases mem_append.mp logged with earlier | now
    · obtain ⟨nodeID, drawn, isNamed⟩ := sound.logged other earlier hostname onClaim
      exact ⟨nodeID, drawn.trans placing.nodeID_le, isNamed⟩
    · obtain rfl := mem_singleton.mp now
      exact placing.target_drawn sound.names onClaim
  · rcases placing.mem_newNodeClaims member with kept | ⟨before, evaluation, placement, rfl, taken⟩
    · exact sound.grounded claim kept
    · exact (taken.grounded synced.config named sound.grounded).placed sameData taken.accepts
  · rcases placing.mem_newNodeClaims member with kept | ⟨before, evaluation, placement, rfl, taken⟩
    · exact sound.launchable claim kept
    · exact taken.accepts.launchable

theorem Sound.step (sound : run.Sound tables config) (transition : Transition tables run event run') :
    run'.Sound tables config := by
  cases transition with
  | place _ trying cached placing => exact sound.place synced named trying cached placing
  | _ =>
    exact ⟨⟨sound.names.distinct, sound.names.drawn⟩, sound.logged, sound.grounded,
      sound.launchable, sound.opened⟩

end

theorem sound_of_reached {input : SolveInput} {start : SolveRun}
    {Allowed : SolveRun → SolveEvent → Prop} (started : input.start tables = some start)
    (reached : Reaches (SolveRun.apply tables) Allowed start run) :
    run.Sound tables (input.config tables) := by
  have named : ∀ template ∈ (input.config tables).nodeClaimTemplates, template.requirements.Named := by
    intro template listed
    obtain ⟨nodePool, -, isTemplate⟩ := SolveInput.mem_templates tables listed
    exact isTemplate.requirements ▸ templateRequirements_named tables nodePool
  have initial : start.Sound tables (input.config tables) := by
    obtain ⟨topology, -, rfl⟩ := input.start_eq_some tables started
    exact ⟨⟨nodup_nil, fun _ impossible => absurd impossible not_mem_nil⟩,
      fun _ impossible => absurd impossible not_mem_nil,
      fun _ impossible => absurd impossible not_mem_nil,
      fun _ impossible => absurd impossible not_mem_nil,
      fun _ impossible => absurd impossible not_mem_nil⟩
  exact reached.invariant_along (SolveRun.Sound tables (input.config tables)) initial
    fun _ _ _ earlier sound _ done =>
      sound.step (synced_of_reached tables started earlier) named (transition_of_apply done)

end SolveRun

theorem NodeClaim.Grounded.overhead_unique {input : SolveInput}
    (grounded : claim.Grounded tables (input.config tables)) {left right : DaemonOverheadGroup}
    (leftMember : left ∈ claim.daemonOverheadGroups)
    (rightMember : right ∈ claim.daemonOverheadGroups) {it : InstanceType}
    (inLeft : it ∈ left.instanceTypes) (inRight : it ∈ right.instanceTypes) :
    left.daemonOverhead = right.daemonOverhead := by
  obtain ⟨template, listed, stems⟩ := grounded.template
  obtain ⟨nodePool, -, isTemplate⟩ := SolveInput.mem_templates tables listed
  have ofTemplate : ∀ group ∈ claim.daemonOverheadGroups,
      ∃ original ∈ template.daemonOverheadGroups, original.overhead = group.overhead := by
    intro group member
    exact mem_map.mp (stems.overheads ▸ mem_map_of_mem member)
  obtain ⟨original, originalMember, sameLeft⟩ := ofTemplate left leftMember
  obtain ⟨other, otherMember, sameRight⟩ := ofTemplate right rightMember
  obtain ⟨leftTypes, leftOverhead⟩ := Prod.mk.inj sameLeft
  obtain ⟨rightTypes, rightOverhead⟩ := Prod.mk.inj sameRight
  have same := isTemplate.grouped original originalMember other otherMember it
    (leftTypes ▸ inLeft) (rightTypes ▸ inRight)
  rw [← leftOverhead, ← rightOverhead, same]

/-- Throughout a run, every NodeClaim in flight can be launched with all its pods:
it has instance types left, all from when it was opened, and each meets its
requirements and has an available offering with room for the pods and the daemons.
It tolerates its pods and implies their requirements. -/
theorem run_keeps_nodeClaims_launchable {input : SolveInput} {start run : SolveRun}
    (started : input.start tables = some start)
    (reached : Reaches (SolveRun.apply tables) (fun _ _ => True) start run) :
    ∀ claim ∈ run.scheduler.newNodeClaims,
      claim.instanceTypeOptions ≠ [] ∧
      ((∃ placed ∈ run.placements, ∃ instanceTypes, placed.Opens claim instanceTypes) ∧
        ∀ placed ∈ run.placements, ∀ instanceTypes, placed.Opens claim instanceTypes →
          claim.instanceTypeOptions ⊆ instanceTypes) ∧
      (∀ it ∈ claim.instanceTypeOptions,
        it.requirements.intersects tables claim.requirements = [] ∧
        (∃ group ∈ claim.daemonOverheadGroups, it ∈ group.instanceTypes) ∧
        ∀ group ∈ claim.daemonOverheadGroups, it ∈ group.instanceTypes →
          ∃ launch ∈ it.allocatableOfferingsList,
            (∃ offering ∈ launch.offerings, offering ∈ it.offerings ∧ offering.available = true ∧
              offering.compatible tables claim.requirements = true) ∧
            ∀ resource,
              (claim.pods.map fun pod =>
                  Resources.amount (Resources.requestsForPods [pod]) resource).sum +
                Resources.amount group.daemonOverhead resource ≤
                  Resources.amount launch.allocatable resource) ∧
      ∀ pod ∈ claim.pods, toleratesPod claim.taints pod = [] ∧
        claim.requirements.Implies (Requirements.newPodRequirements tables pod
          (if input.options.preferencePolicy = .ignore then .requiredOnly else .all)) := by
  intro claim member
  have sound := SolveRun.sound_of_reached started reached
  have grounded := sound.grounded claim member
  have launchable := sound.launchable claim member
  refine ⟨launchable.nonempty, sound.opened claim member, fun it left => ?_, fun pod onClaim =>
    ⟨grounded.tolerated pod onClaim, grounded.implied pod onClaim⟩⟩
  obtain ⟨own, ownMember, inOwn, suits⟩ := launchable.suits it left
  refine ⟨isEmpty_iff.mp suits.compatible, ⟨own, ownMember, inOwn⟩, fun group inGroups inGroup => ?_⟩
  obtain ⟨launch, listed, offering, room⟩ := suits.offering
  refine ⟨launch, listed, offering, fun resource => ?_⟩
  rw [← grounded.requests resource, grounded.overhead_unique inGroups ownMember inGroup inOwn]
  exact room resource

def onDemandOffering (zone : String) (price : ℚ) : Offering :=
  { requirements := .newLabelRequirements .base
      (GoMap.ofList [(capacityTypeLabelKey, capacityTypeOnDemand), (labelTopologyZone, zone)])
    price := price }

def smallInstance : InstanceType :=
  { name := "small", requirements := ∅, offerings := [onDemandOffering "a" 1],
    capacity := GoMap.ofList [("cpu", 4), ("pods", 10)] }

def podNamed (name : String) (cpu : ℚ) : Pod :=
  { uid := name, name := name, requests := GoMap.ofList [("cpu", cpu)] }

def twoPods : SolveInput :=
  { nodePools := [{ name := "default" }]
    instanceTypes := GoMap.ofList [("default", [smallInstance])]
    pods := [podNamed "first" 2, podNamed "second" 1] }

theorem run_packs_two_pods : ∃ start run claim,
    twoPods.start .base = some start ∧
    Reaches (SolveRun.apply .base) (fun _ _ => True) start run ∧
    claim ∈ run.scheduler.newNodeClaims ∧ claim.pods.map (·.uid) = ["first", "second"] ∧
    claim.instanceTypeOptions ≠ [] ∧ ∀ pod ∈ claim.pods, toleratesPod claim.taints pod = [] := by
  obtain ⟨start, run, started, reaches, claims⟩ := twoPods.exists_of_follow .base
    (Q := fun run => (run.scheduler.newNodeClaims.map fun claim => claim.pods.map (·.uid)) =
      [["first", "second"]]) [.pop, .attempt {} {}, .pop, .attempt {} {}] (by decide +kernel)
  obtain ⟨claim, listed, pods⟩ := map_eq_singleton_iff.mp claims
  have member : claim ∈ run.scheduler.newNodeClaims := by simp [listed]
  obtain ⟨nonempty, -, -, onClaim⟩ := run_keeps_nodeClaims_launchable started reaches claim member
  exact ⟨start, run, claim, started, reaches, member, pods, nonempty,
    fun pod isOn => (onClaim pod isOn).1⟩

end Kraftsman.Provisioning
