import Kraftsman.Provisioning.InFlight

/-!
Contract: the limits of NodePools throughout a scheduling run.

Owns: what is left of the limits, what opening a NodeClaim takes, and the bound
on what nodes and new NodeClaims take together.
Does not own: which NodeClaims are opened.
-/

namespace Kraftsman.Provisioning

open Apis CloudProvider Data Scheduling State Resources SolveRun SolveInput GoMap Option List

def largestCapacity (instanceTypes : List InstanceType) (resource : String) : ℚ :=
  (instanceTypes.filterMap fun it => it.capacity.lookup resource).max?.getD 0

theorem amount_maxResources (instanceTypes : List InstanceType) (resource : String) :
    amount (maxResources (instanceTypes.map (·.capacity))) resource =
      largestCapacity instanceTypes resource := by
  rw [amount, lookup_maxResources, filterMap_map]
  rfl

theorem lookup_subtractMax {remaining : ResourceList} {instanceTypes : List InstanceType}
    (nonempty : instanceTypes ≠ []) (resource : String) :
    (subtractMax remaining instanceTypes).lookup resource =
      (remaining.lookup resource).map (· - largestCapacity instanceTypes resource) := by
  unfold subtractMax
  rw [if_neg (by simpa using nonempty), lookup_subtract, amount_maxResources]

/-- The capacity of a NodePool's existing nodes, each of which counts as one node. -/
def SolveInput.existingCapacity (input : SolveInput) (nodePool resource : String) : ℚ :=
  ((input.stateNodes.filter fun node => labelValue node.labels nodePoolLabelKey = nodePool).map
    fun node => Resources.amount node.capacity resource).sum

def Placed.openedBy (nodePool : String) (placed : Placed) : Option (List InstanceType) :=
  placed.opened.bind fun opened => if opened.1 = nodePool then some opened.2 else none

/-- The instance types of a NodePool's NodeClaims when they were opened. -/
def SolveRun.openedBy (run : SolveRun) (nodePool : String) : List (List InstanceType) :=
  run.placements.filterMap (·.openedBy nodePool)

/-- The most a NodeClaim can take: one node, and the largest capacity. -/
def largestLaunch (resource : String) (instanceTypes : List InstanceType) : ℚ :=
  if resource = Resources.node then 1 else largestCapacity instanceTypes resource

def Scheduler.remainingLimit (s : Scheduler) (nodePool resource : String) : Option ℚ :=
  (s.remainingResources.lookup nodePool).bind (·.lookup resource)

variable {resource : String} {nodePool : NodePool} {limit : ℚ}

theorem remaining_foldl_updateRemainingResources (nodes : List StateNode)
    {remaining : GoMap String ResourceList} {nodePool : String} {quantity : ℚ}
    (found : (remaining.lookup nodePool).bind (·.lookup resource) = some quantity) :
    ((nodes.foldl updateRemainingResources remaining).lookup nodePool).bind (·.lookup resource) =
      some (quantity - ((nodes.filter fun node =>
        labelValue node.labels nodePoolLabelKey = nodePool).map fun node =>
          amount node.capacity resource).sum) := by
  induction nodes generalizing remaining quantity with
  | nil => simpa using found
  | cons node rest ih =>
    rw [foldl_cons]
    obtain ⟨resources, poolFound, resourceFound⟩ := bind_eq_some_iff.mp found
    by_cases own : labelValue node.labels nodePoolLabelKey = nodePool
    · have charged : ((updateRemainingResources remaining node).lookup nodePool).bind
          (·.lookup resource) = some (quantity - amount node.capacity resource) := by
        unfold updateRemainingResources
        dsimp only
        rw [own, poolFound]
        rw [lookup_insert_eq, if_pos rfl, bind_some, lookup_subtract, resourceFound, map_some]
      rw [ih charged, filter_cons_of_pos (by simpa using own), map_cons, sum_cons]
      congr 1
      ring
    · have kept : ((updateRemainingResources remaining node).lookup nodePool).bind
          (·.lookup resource) = some quantity := by
        unfold updateRemainingResources
        dsimp only
        cases remaining.lookup (labelValue node.labels nodePoolLabelKey) with
        | none => exact found
        | some other =>
          rw [lookup_insert_eq, if_neg (Ne.symm own)]
          exact found
      rw [ih kept, filter_cons_of_neg (by simpa using own)]

variable {tables : LabelTables}

/-- What is left of a limit is what neither nodes nor NodeClaims take. -/
structure SolveRun.Charged (input : SolveInput) (nodePool resource : String) (limit : ℚ)
    (run : SolveRun) : Prop where
  remaining : run.scheduler.remainingLimit nodePool resource =
    some (limit - input.existingCapacity nodePool resource -
      ((run.openedBy nodePool).map (largestCapacity · resource)).sum)
  nonneg : 0 ≤ limit - input.existingCapacity nodePool resource -
    ((run.openedBy nodePool).map (largestCapacity · resource)).sum

namespace SolveRun

variable {input : SolveInput} {nodePool : String} {run run' : SolveRun} {event : SolveEvent}

variable {s : Scheduler} {template : NodeClaimTemplate} {instanceTypes : List InstanceType}

section

variable (within : s.instanceTypesWithinLimits template = some instanceTypes)
include within

theorem largestCapacity_le_of_within {fewer : List InstanceType} {quantity : ℚ}
    (left : s.remainingLimit template.nodePoolName resource = some quantity) (nonneg : 0 ≤ quantity)
    (subset : fewer ⊆ instanceTypes) : largestCapacity fewer resource ≤ quantity := by
  obtain ⟨remaining, poolFound, resourceFound⟩ := bind_eq_some_iff.mp left
  unfold Scheduler.instanceTypesWithinLimits at within
  rw [poolFound] at within
  dsimp only at within
  split_ifs at within
  cases within
  rw [← amount_maxResources]
  apply amount_maxResources_le nonneg
  intro capacity member
  obtain ⟨it, listed, rfl⟩ := List.mem_map.mp member
  have fits := (mem_filter.mp (subset listed)).2
  have entry := all_eq_true.mp fits ⟨resource, quantity⟩ (mem_entries_iff.mpr resourceFound)
  exact decide_eq_true_iff.mp entry

theorem remainingLimit_node_ne_zero : s.remainingLimit template.nodePoolName node ≠ some 0 := by
  intro zero
  obtain ⟨remaining, poolFound, resourceFound⟩ := bind_eq_some_iff.mp zero
  unfold Scheduler.instanceTypesWithinLimits at within
  rw [poolFound] at within
  dsimp only at within
  rw [if_pos resourceFound] at within
  cases within

end

theorem openedBy_succeed (run : SolveRun) (original : Pod) (scheduler : Scheduler) (placed : Placed)
    (nodePool : String) :
    (run.succeed original scheduler placed).openedBy nodePool =
      run.openedBy nodePool ++ (placed.openedBy nodePool).toList := by
  unfold openedBy succeed
  cases found : placed.openedBy nodePool <;> simp [found]

end SolveRun

theorem Placing.remainingLimit {s s' : Scheduler} {answers : Answers} {pod : Pod} {podData : PodData}
    {placed : Placed} (placing : Placing tables s answers pod podData s' placed)
    (nodePool resource : String) :
    (placed.openedBy nodePool = none ∧
      s'.remainingLimit nodePool resource = s.remainingLimit nodePool resource) ∨
    ∃ template ∈ s.config.nodeClaimTemplates, template.nodePoolName = nodePool ∧
      ∃ instanceTypes fewer, s.instanceTypesWithinLimits template = some instanceTypes ∧
        fewer ⊆ instanceTypes ∧ placed.openedBy nodePool = some fewer ∧
        s'.remainingLimit nodePool resource =
          (s.remainingLimit nodePool resource).map (· - largestCapacity fewer resource) := by
  cases placing with
  | existing | inflight => exact .inl ⟨rfl, rfl⟩
  | @fresh claims template index instanceTypes claim placement manager perm listed within opened
      taken reserved =>
      by_cases own : template.nodePoolName = nodePool
      · right
        have accepts := NodeClaim.accepts_of_canAdd taken
        refine ⟨template, listed, own, instanceTypes, placement.instanceTypes, within,
          fun it member => ?_, ?_, ?_⟩
        · have ofClaim := (accepts.narrowing.suits it member).1
          rw [opened] at ofClaim
          exact ofClaim
        · simp [Placed.openedBy, own]
        · subst own
          unfold Scheduler.remainingLimit
          rw [lookup_insert_eq, if_pos rfl, bind_some,
            lookup_subtractMax accepts.narrowing.nonempty]
          cases s.remainingResources.lookup template.nodePoolName <;> rfl
      · left
        refine ⟨by simp [Placed.openedBy, own], ?_⟩
        unfold Scheduler.remainingLimit
        rw [lookup_insert_eq, if_neg (Ne.symm own)]

namespace SolveRun

variable {input : SolveInput} {nodePool resource : String} {limit : ℚ} {run run' : SolveRun}
  {event : SolveEvent}

theorem Charged.place (charged : run.Charged input nodePool resource limit) {answers : Answers}
    {original pod : Pod} {podData : PodData} {scheduler : Scheduler} {placed : Placed}
    (placing : Placing tables run.scheduler answers pod podData scheduler placed) :
    (run.succeed original scheduler placed).Charged input nodePool resource limit := by
  have opened := openedBy_succeed run original scheduler placed nodePool
  have limited : (run.succeed original scheduler placed).scheduler = scheduler := rfl
  rcases placing.remainingLimit nodePool resource with
    ⟨none, same⟩ | ⟨template, -, rfl, instanceTypes, fewer, within, subset, isOpened, less⟩
  · rw [none, toList_none, append_nil] at opened
    refine ⟨?_, ?_⟩
    · rw [limited, same, opened]
      exact charged.remaining
    · rw [opened]
      exact charged.nonneg
  · rw [isOpened, toList_some] at opened
    have below := largestCapacity_le_of_within within charged.remaining charged.nonneg subset
    have sum : limit - input.existingCapacity template.nodePoolName resource -
        (((run.succeed original scheduler placed).openedBy template.nodePoolName).map
          (largestCapacity · resource)).sum =
        limit - input.existingCapacity template.nodePoolName resource -
          ((run.openedBy template.nodePoolName).map (largestCapacity · resource)).sum -
          largestCapacity fewer resource := by
      rw [opened, map_append, sum_append, map_singleton, sum_singleton]
      ring
    refine ⟨?_, ?_⟩
    · rw [limited, less, charged.remaining, sum, map_some]
    · rw [sum]
      exact sub_nonneg.mpr below

theorem Charged.step (charged : run.Charged input nodePool resource limit)
    (transition : Transition tables run event run') :
    run'.Charged input nodePool resource limit := by
  cases transition with
  | place _ _ _ placing => exact charged.place placing
  | _ => exact ⟨charged.remaining, charged.nonneg⟩

end SolveRun

variable {input : SolveInput} {start run : SolveRun} {Allowed : SolveRun → SolveEvent → Prop}

theorem SolveInput.start_charged (started : input.start tables = some start)
    (listed : nodePool ∈ input.nodePools) (limited : nodePool.limits.lookup resource = some limit)
    (within : input.existingCapacity nodePool.name resource ≤ limit) :
    start.Charged input nodePool.name resource limit := by
  obtain ⟨topology, -, rfl⟩ := input.start_eq_some tables started
  have limits : (input.limits.lookup nodePool.name).bind (·.lookup resource) = some limit := by
    have found : input.limits.lookup nodePool.name = some nodePool.limits := by
      apply lookup_ofList
      · rw [List.map_map]
        exact input.nodePools_distinct
      · exact List.mem_map.mpr ⟨nodePool, listed, rfl⟩
    rw [found]
    exact limited
  have charged := remaining_foldl_updateRemainingResources input.stateNodes limits
  exact ⟨charged.trans (congrArg some (sub_zero _).symm),
    (sub_nonneg.mpr within).trans_eq (sub_zero _).symm⟩

section

variable (started : input.start tables = some start)
  (reached : Reaches (apply tables) Allowed start run)
include started reached

theorem SolveRun.placements_le :
    run.placements.length + run.waiting.length ≤ input.pods.length := by
  refine reached.invariant (fun run => run.placements.length + run.waiting.length ≤ input.pods.length)
    ?_ fun run event run' bounded _ done => ?_
  · obtain ⟨topology, -, rfl⟩ := input.start_eq_some tables started
    have queued : (newQueue input.pods).pods.length = input.pods.length :=
      (perm_insertionSort _ _).length_eq
    simp [waiting, queued]
  · unfold waiting at bounded ⊢
    cases transition_of_apply done with
    | idle | stop => exact bounded
    | timeOut =>
      simp only [length_append, toList_none, map_nil, length_nil] at bounded ⊢
      omega
    | pop idle popped =>
      rw [idle, Queue.pods_of_pop popped] at bounded
      simpa using bounded
    | requeue trying =>
      rw [trying] at bounded
      simp only [requeue, refresh, Queue.push, toList_some, toList_none, map_cons,
        map_nil, nil_append, cons_append, length_cons,
        length_append, length_nil] at bounded ⊢
      omega
    | relax trying =>
      rw [trying] at bounded
      exact bounded
    | place _ trying =>
      rw [trying] at bounded
      simp only [succeed, toList_some, toList_none, map_cons, map_nil,
        nil_append, cons_append, length_cons, length_append,
        length_nil] at bounded ⊢
      omega

theorem SolveRun.openedBy_length_le (nodePool : String) :
    (run.openedBy nodePool).length ≤ input.pods.length := by
  have placed := placements_le started reached
  have opened : (run.openedBy nodePool).length ≤ run.placements.length := length_filterMap_le _ _
  omega

theorem SolveRun.openedBy_eq_nil (listed : nodePool ∈ input.nodePools)
    (limited : nodePool.limits.lookup node = some limit)
    (usedUp : input.existingCapacity nodePool.name node = limit) :
    run.openedBy nodePool.name = [] := by
  have charged : ∀ run, Reaches (apply tables) Allowed start run →
      run.Charged input nodePool.name node limit := fun run reached =>
    reached.invariant (SolveRun.Charged input nodePool.name node limit)
      (start_charged started listed limited usedUp.le)
      fun _ _ _ charged _ done => charged.step (transition_of_apply done)
  refine reached.invariant_along (fun run => run.openedBy nodePool.name = []) ?_
    fun run event run' earlier nothing _ done => ?_
  · obtain ⟨topology, -, rfl⟩ := input.start_eq_some tables started
    rfl
  · have noneLeft : run.scheduler.remainingLimit nodePool.name node = some 0 := by
      rw [(charged run earlier).remaining, nothing, usedUp]
      simp
    cases transition_of_apply done with
    | @place answers original pod podData scheduler placed _ _ _ placing =>
      rw [openedBy_succeed, nothing]
      rcases placing.remainingLimit nodePool.name node with
        ⟨none, -⟩ | ⟨template, -, own, instanceTypes, fewer, within, -⟩
      · rw [none]
        rfl
      · exact absurd (own ▸ noneLeft) (remainingLimit_node_ne_zero within)
    | _ => exact nothing

end

/-- Throughout a run, the nodes of a NodePool and the largest launches of its new
NodeClaims stay within every limit that the nodes respect. The limit on nodes must
be used up or leave enough for all pods: it is only compared with zero and
NodeClaims are not charged to it. -/
theorem run_stays_within_limits {input : SolveInput} {start run : SolveRun} {nodePool : NodePool}
    {resource : String} {limit : ℚ} (started : input.start tables = some start)
    (reached : Reaches (SolveRun.apply tables) (fun _ _ => True) start run)
    (listed : nodePool ∈ input.nodePools) (limited : nodePool.limits.lookup resource = some limit)
    (within : input.existingCapacity nodePool.name resource ≤ limit)
    (nodes : resource = Resources.node →
      input.existingCapacity nodePool.name resource = limit ∨
        input.existingCapacity nodePool.name resource + input.pods.length ≤ limit) :
    input.existingCapacity nodePool.name resource +
      ((run.openedBy nodePool.name).map (largestLaunch resource)).sum ≤ limit := by
  by_cases isNode : resource = node
  · subst isNode
    rcases nodes rfl with usedUp | enough
    · rw [openedBy_eq_nil started reached listed limited usedUp]
      simpa using within
    · have bounded := openedBy_length_le started reached nodePool.name
      have sum : ((run.openedBy nodePool.name).map (largestLaunch node)).sum =
          (run.openedBy nodePool.name).length := by
        have one : (run.openedBy nodePool.name).map (largestLaunch node) =
            (run.openedBy nodePool.name).map fun _ => (1 : ℚ) :=
          map_congr_left fun _ _ => if_pos rfl
        simp [one]
      have cast : ((run.openedBy nodePool.name).length : ℚ) ≤ input.pods.length := by
        exact_mod_cast bounded
      linarith
  · have charged : run.Charged input nodePool.name resource limit :=
      reached.invariant (SolveRun.Charged input nodePool.name resource limit)
        (start_charged started listed limited within)
        fun _ _ _ charged _ done => charged.step (transition_of_apply done)
    have launches : (run.openedBy nodePool.name).map (largestLaunch resource) =
        (run.openedBy nodePool.name).map (largestCapacity · resource) :=
      map_congr_left fun _ _ => if_neg isNode
    rw [launches]
    linarith [charged.nonneg]

def limitedInput (limits : ResourceList) (pods : List Pod) (distinct : (pods.map (·.uid)).Nodup) :
    SolveInput :=
  { nodePools := [{ name := "default", limits := limits }]
    instanceTypes := ofList [("default", [smallInstance])]
    pods := pods
    pods_distinct := distinct
    nodePools_distinct := nodup_singleton _ }

def twoPodsFiveCPUs : SolveInput :=
  limitedInput (ofList [("cpu", 5)]) [podNamed "first" 4, podNamed "second" 4] (by decide)

theorem run_stays_within_cpu_limit : ∃ start run,
    twoPodsFiveCPUs.start .base = some start ∧
    Reaches (SolveRun.apply .base) (fun _ _ => True) start run ∧
    (run.openedBy "default").length = 1 ∧
    twoPodsFiveCPUs.existingCapacity "default" "cpu" +
      ((run.openedBy "default").map (largestLaunch "cpu")).sum ≤ 5 := by
  obtain ⟨start, run, started, reaches, opened⟩ := twoPodsFiveCPUs.exists_of_follow .base
    (Q := fun run => (run.openedBy "default").length = 1)
    [.pop, .attempt {} {}, .pop, .attempt {} {}] (by decide +kernel)
  have bounded := @run_stays_within_limits .base twoPodsFiveCPUs start run _ "cpu" 5 started reaches
    mem_cons_self (by decide) (by decide) (by decide)
  exact ⟨start, run, started, reaches, opened, bounded⟩

def threePodsTwoNodes : SolveInput :=
  limitedInput (ofList [(Resources.node, 2)])
    [podNamed "first" 4, podNamed "second" 4, podNamed "third" 4] (by decide)

theorem run_exceeds_node_limit : ∃ nodePool ∈ threePodsTwoNodes.nodePools, ∃ limit start run,
    nodePool.limits.lookup Resources.node = some limit ∧
    threePodsTwoNodes.existingCapacity nodePool.name Resources.node ≤ limit ∧
    threePodsTwoNodes.start .base = some start ∧
    Reaches (SolveRun.apply .base) (fun _ _ => True) start run ∧
    limit < threePodsTwoNodes.existingCapacity nodePool.name Resources.node +
      ((run.openedBy nodePool.name).map (largestLaunch Resources.node)).sum := by
  refine ⟨_, mem_cons_self, 2, ?_⟩
  obtain ⟨start, run, exceeds⟩ := threePodsTwoNodes.exists_of_follow .base
    (Q := fun run => 2 < threePodsTwoNodes.existingCapacity "default" node +
      ((run.openedBy "default").map (largestLaunch node)).sum)
    [.pop, .attempt {} {}, .pop, .attempt {} {}, .pop, .attempt {} {}] (by decide +kernel)
  exact ⟨start, run, by decide, by decide, exceeds⟩

end Kraftsman.Provisioning
