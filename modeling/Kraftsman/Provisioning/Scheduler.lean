import Kraftsman.Data.Runs
import Kraftsman.Data.Workers
import Kraftsman.Provisioning.ExistingNode

/-!
Contract: a scheduling run, which places pods on existing nodes, on NodeClaims in
flight and on new ones.

A run pops a pod, attempts to place it in its current form, or is interrupted. A
pod that cannot be placed gives up one constraint after another and is queued
again in its original form.

Owns: the state of a run, the order of placements, packing by price, the limits
of NodePools, and the queue.
Does not own: when a single node or NodeClaim takes a pod.
-/

namespace Kraftsman.Provisioning

open Apis CloudProvider Data Scheduling State

/-! ### Limits -/

/-- What is left of limits if the largest of the instance types is launched. -/
def subtractMax (remaining : ResourceList) (instanceTypes : List InstanceType) : ResourceList :=
  if instanceTypes.isEmpty then remaining
  else Resources.subtract remaining (Resources.maxResources (instanceTypes.map (·.capacity)))

/-- The instance types that do not exceed what is left of limits. -/
def filterByRemainingResources (instanceTypes : List InstanceType) (remaining : ResourceList) :
    List InstanceType :=
  instanceTypes.filter fun it =>
    remaining.entries.all fun entry => Resources.amount it.capacity entry.1 ≤ entry.2

/-! ### Prices -/

variable (tables : LabelTables)

/-- The cheapest price of a launch. Reserved offerings count only if reserved for it. -/
def launchPrice (instanceTypes : List InstanceType) (requirements : Requirements)
    (reserved : List Offering) : Option ℚ :=
  let ids := reserved.map (·.reservationID tables)
  let price := instanceTypes.foldl (fun price it =>
    let launchable := (availableOfferings it.offerings).filter fun offering =>
      offering.capacityType tables ≠ capacityTypeReserved || ids.contains (offering.reservationID tables)
    min price (cheapestLaunchPrice tables launchable requirements)) (⊤ : Price)
  price.recTopCoe none some

/-- How much more a narrowed NodeClaim costs; nothing if a price is unknown. -/
def marginalLaunchPrice (claim : NodeClaim) (placement : Placement) : ℚ :=
  match launchPrice tables claim.instanceTypeOptions claim.requirements claim.reservedOfferings,
      launchPrice tables placement.instanceTypes placement.requirements
        placement.offeringsToReserve with
  | some before, some after => max (after - before) 0
  | _, _ => 0

/-- Whether a price is lower by more than the tolerance of ties. -/
def cheaperThan (tolerance left right : ℚ) : Bool :=
  right - left > tolerance * max |left| |right|

/-! ### The scheduler -/

structure SchedulerConfig where
  options : Options
  nodeClaimTemplates : List NodeClaimTemplate
  toleratePreferNoSchedule : Bool
  volumeReqsByPod : String → List Requirements
  deletingNodeNames : Finset String
  priceTieTolerance : ℚ := 1 / 1000000

structure Scheduler where
  config : SchedulerConfig
  topology : Topology
  reservationManager : ReservationManager
  remainingResources : GoMap String ResourceList
  existingNodes : List ExistingNode
  newNodeClaims : List NodeClaim := []
  cachedPodData : GoMap String PodData := ∅
  nodeID : Nat := 0

/-- The choices made while a pod is tried once: the outcome on each node and
NodeClaim, what workers race for, the order of a sort, the pod's volumes, and the
numbers drawn for names. -/
structure Answers where
  volumes : Option Volumes := some ∅
  existing : Nat → Evaluation := fun _ => {}
  inflight : Nat → Evaluation := fun _ => {}
  fresh : Nat → Evaluation := fun _ => {}
  races : Nat → Bool := fun _ => false
  claimOrder : RangeOrder NodeClaim := .listed
  draw : Nat → Nat := fun _ => 0
  drawn : Nat := 1
  draw_lt : ∀ index, draw index < drawn := by exact fun _ => Nat.one_pos

inductive PodError where
  | dynamicResources
  | resourceClaims
  | noNodeClaimTemplates
  | nodePools (errors : List SchedulingError)
  | context

/-- Whether the error lets the pod keep its constraints. -/
def PodError.isReservedOfferingError : PodError → Bool
  | .nodePools errors => errors.any (·.isReservedOfferingError)
  | _ => false

def PodError.isDRAError : PodError → Bool
  | .dynamicResources => true
  | _ => false

structure FreshPlacement where
  claim : NodeClaim
  placement : Placement

/-- An existing node by its name, or a NodeClaim by its placeholder. -/
inductive Target where
  | node (name : String)
  | claim (hostname : String)
  deriving DecidableEq, Repr

/-- Where a pod was placed, and what was required from then on. A NodeClaim opened
for it is recorded with its instance types. -/
structure Placed where
  pod : Pod
  target : Target
  taints : List Taint
  requirements : Requirements
  opened : Option (String × List InstanceType) := none

def podDataOf (config : SchedulerConfig) (claimsResolved : Bool) (pod : Pod) : PodData :=
  let requirements := Requirements.newPodRequirements tables pod
    (if config.options.preferencePolicy = .ignore then .requiredOnly else .all)
  { requests := Resources.requestsForPods [pod]
    requirements := requirements
    strictRequirements :=
      if pod.hasPreferredNodeAffinity then .newStrictPodRequirements tables pod else requirements
    hasResourceClaimRequests := pod.hasDRARequirements
    volumeRequirements := config.volumeReqsByPod pod.uid
    resourceClaimError := pod.hasDRARequirements && config.options.allocator && !claimsResolved }

namespace Scheduler

variable (s : Scheduler)

def updateCachedPodData (claimsResolved : Bool) (pod : Pod) : Scheduler :=
  { s with cachedPodData :=
      s.cachedPodData.insert pod.uid (podDataOf tables s.config claimsResolved pod) }

/-- The error of a NodePool without room. A pod it could not take anyway is told so. -/
def limitRejection (template : NodeClaimTemplate) (pod : Pod) (podData : PodData) :
    SchedulingError :=
  match incompatibleIgnoringLimits tables template.requirements template.taints s.topology
      template.daemonOverheadGroups template.instanceTypeOptions pod podData
      s.config.options.bestEffortMinValues with
  | some cause => { incompatible := true, cause := cause }
  | none => { cause := .limits template.nodePoolName }

def instanceTypesWithinLimits (template : NodeClaimTemplate) : Option (List InstanceType) :=
  match s.remainingResources.lookup template.nodePoolName with
  | none => some template.instanceTypeOptions
  | some remaining =>
    if remaining.lookup Resources.node = some 0 then none
    else
      let within := filterByRemainingResources template.instanceTypeOptions remaining
      if within.isEmpty then none else some within

variable (answers : Answers) (pod : Pod) (podData : PodData)

def evaluateTemplate (indexed : NodeClaimTemplate × Nat) :
    Except ReservationPanic (Except SchedulingError FreshPlacement) :=
  let template := indexed.1
  match s.instanceTypesWithinLimits template with
  | none => .ok (.error (s.limitRejection tables template pod podData))
  | some instanceTypes =>
    let claim := newNodeClaim tables template instanceTypes (s.nodeID + 1 + answers.draw indexed.2)
    (claim.canAdd tables s.config.options s.topology s.reservationManager (answers.fresh indexed.2) pod
      podData s.config.options.bestEffortMinValues).map fun outcome =>
        outcome.map fun placement => { claim := claim, placement := placement }

/-- A NodeClaim was found, or reserved capacity must not be passed over. -/
def decides (outcome : Except SchedulingError FreshPlacement) : Bool :=
  match outcome with
  | .ok _ => true
  | .error error => error.isReservedOfferingError

def errorsOf (outcomes : List (Except SchedulingError FreshPlacement)) : List SchedulingError :=
  outcomes.filterMap fun outcome =>
    match outcome with
    | .ok _ => none
    | .error error => some error

def evaluateNewNodeClaim : Except ReservationPanic (Except PodError FreshPlacement) :=
  (parallelizeUntil answers.races decides (s.evaluateTemplate tables answers pod podData) false 0
    s.config.nodeClaimTemplates.zipIdx).map fun outcomes =>
      match outcomes.find? decides with
      | some (.ok fresh) => .ok fresh
      | _ => .error (.nodePools (errorsOf outcomes))

def commitNewNodeClaim (fresh : FreshPlacement) : Except ReservationPanic (Scheduler × Placed) :=
  (fresh.claim.add tables s.topology s.reservationManager pod podData fresh.placement).map
    fun (claim, topology, manager) =>
      let remaining := (s.remainingResources.lookup claim.nodePoolName).getD ∅
      ({ s with
          newNodeClaims := s.newNodeClaims ++ [claim]
          topology := topology
          reservationManager := manager
          remainingResources := s.remainingResources.insert claim.nodePoolName
            (subtractMax remaining claim.instanceTypeOptions)
          nodeID := s.nodeID + answers.drawn },
        { pod := pod, target := .claim claim.hostname, taints := claim.taints,
          requirements := claim.requirements,
          opened := some (claim.nodePoolName, claim.instanceTypeOptions) })

/-- A NodeClaim in flight that takes the pod, its position and how much more it costs. -/
structure InflightPlacement where
  index : Nat
  claim : NodeClaim
  placement : Placement
  delta : ℚ

def commitInflight (inflight : InflightPlacement) : Except ReservationPanic (Scheduler × Placed) :=
  (inflight.claim.add tables s.topology s.reservationManager pod podData inflight.placement).map
    fun (claim, topology, manager) =>
      ({ s with
          newNodeClaims := s.newNodeClaims.set inflight.index claim
          topology := topology
          reservationManager := manager
          nodeID := s.nodeID + answers.drawn },
        { pod := pod, target := .claim claim.hostname, taints := claim.taints,
          requirements := claim.requirements })

/-- Whether some NodePool packs by price, or would. -/
def packsBy (policy : PackingPolicy) : Bool :=
  s.config.nodeClaimTemplates.any (·.packingPolicy = policy)

def pricePlacements : Bool := s.packsBy .marginalCost

/-- Whether the comparison by price is only observed. -/
def shadowPricePlacements : Bool := !s.pricePlacements && s.packsBy .marginalCostShadow

def marginalCostPrices (claim : NodeClaim) : Bool :=
  claim.packingPolicy = .marginalCost ||
    (s.shadowPricePlacements && claim.packingPolicy = .marginalCostShadow)

def evaluateInflight (indexed : NodeClaim × Nat) :
    Except ReservationPanic (Option InflightPlacement) :=
  (indexed.1.canAdd tables s.config.options s.topology s.reservationManager (answers.inflight indexed.2) pod
    podData false).map fun outcome =>
      outcome.toOption.map fun placement =>
        { index := indexed.2, claim := indexed.1, placement := placement,
          delta :=
            if s.marginalCostPrices indexed.1 then marginalLaunchPrice tables indexed.1 placement
            else 0 }

def inflightPlacements : Except ReservationPanic (List InflightPlacement) :=
  (parallelizeUntil answers.races (fun _ => false) (s.evaluateInflight tables answers pod podData)
    false 0 s.newNodeClaims.zipIdx).map fun outcomes => outcomes.filterMap id

def cheaperOf (best : Option InflightPlacement) (candidate : InflightPlacement) :
    Option InflightPlacement :=
  match best with
  | none => some candidate
  | some best =>
    some (if cheaperThan s.config.priceTieTolerance candidate.delta best.delta then candidate
      else best)

/-- The first of the placements with the least increase in price. -/
def cheapestOf (placements : List InflightPlacement) : Option InflightPlacement :=
  placements.foldl s.cheaperOf none

def freshPrice (fresh : FreshPlacement) : Option ℚ :=
  launchPrice tables fresh.placement.instanceTypes fresh.placement.requirements
    fresh.placement.offeringsToReserve

def addToNewNodeClaim : Except ReservationPanic (Except PodError (Scheduler × Placed)) :=
  if s.config.nodeClaimTemplates.isEmpty then .ok (.error .noNodeClaimTemplates)
  else do
    match ← s.evaluateNewNodeClaim tables answers pod podData with
    | .error error => return .error error
    | .ok fresh => return .ok (← s.commitNewNodeClaim tables answers pod podData fresh)

/-- Put the pod on the NodeClaim in flight, unless a new one costs less. -/
def addToCheaper (inflight : InflightPlacement) : Except ReservationPanic (Scheduler × Placed) :=
  if inflight.delta > 0 then do
    match ← s.evaluateNewNodeClaim tables answers pod podData with
    | .error _ => s.commitInflight tables answers pod podData inflight
    | .ok fresh =>
      if (freshPrice tables fresh).any
          (cheaperThan s.config.priceTieTolerance · inflight.delta) then
        s.commitNewNodeClaim tables answers pod podData fresh
      else s.commitInflight tables answers pod podData inflight
  else s.commitInflight tables answers pod podData inflight

/-- Put the pod where it adds least to the total price. -/
def addByMarginalCost : Except ReservationPanic (Except PodError (Scheduler × Placed)) := do
  match s.cheapestOf (← s.inflightPlacements tables answers pod podData) with
  | none => s.addToNewNodeClaim tables answers pod podData
  | some inflight => return .ok (← s.addToCheaper tables answers pod podData inflight)

/-- Compute what packing by price would do, for observation only. -/
def shadowMarginalCost : Except ReservationPanic Unit :=
  if s.config.nodeClaimTemplates.isEmpty then .ok ()
  else do
    match s.cheapestOf (← s.inflightPlacements tables answers pod podData) with
    | none => (s.evaluateNewNodeClaim tables answers pod podData).map fun _ => ()
    | some inflight =>
      if inflight.delta > 0 then
        (s.evaluateNewNodeClaim tables answers pod podData).map fun _ => ()
      else return ()

def firstInflight : Except ReservationPanic (Option InflightPlacement) :=
  (parallelizeUntil answers.races (·.isSome) (s.evaluateInflight tables answers pod podData) false 0
    s.newNodeClaims.zipIdx).map fun outcomes => outcomes.findSome? id

/-- Put the pod on the first NodeClaim in flight that takes it, or on a new one. -/
def addByBinpacking : Except ReservationPanic (Except PodError (Scheduler × Placed)) := do
  if s.shadowPricePlacements then
    s.shadowMarginalCost tables answers pod podData
  match ← s.firstInflight tables answers pod podData with
  | some inflight => return .ok (← s.commitInflight tables answers pod podData inflight)
  | none => s.addToNewNodeClaim tables answers pod podData

/-- Try an existing node. Pods that stay put are not moved to nodes that wait to be consolidated. -/
def evaluateExisting (answers : Answers) (volumes : Volumes) (pod : Pod) (podData : PodData)
    (indexed : ExistingNode × Nat) : Option (Nat × ExistingNode × Requirements) :=
  if indexed.1.isUnderConsolidateAfter && !pod.isPending &&
      decide (pod.nodeName ∉ s.config.deletingNodeNames) then none
  else
    (indexed.1.canAdd tables s.config.options s.topology (answers.existing indexed.2) pod podData
      volumes).toOption.map fun requirements => (indexed.2, indexed.1, requirements)

def firstExisting (answers : Answers) (volumes : Volumes) (pod : Pod) (podData : PodData) :
    Option (Nat × ExistingNode × Requirements) :=
  s.existingNodes.zipIdx.findSome? (s.evaluateExisting tables answers volumes pod podData)

def commitExisting (volumes : Volumes) (pod : Pod) (podData : PodData) (index : Nat)
    (node : ExistingNode) (requirements : Requirements) : Scheduler × Placed :=
  ({ s with
      existingNodes := s.existingNodes.set index (node.placed pod podData requirements volumes)
      topology := s.topology.record tables pod node.cachedTaints requirements },
    { pod := pod, target := .node node.stateNode.name, taints := node.cachedTaints,
      requirements := requirements })

def addToExistingNode : Option (Scheduler × Placed) := do
  let volumes ← answers.volumes
  let (index, node, requirements) ← s.firstExisting tables answers volumes pod podData
  return s.commitExisting tables volumes pod podData index node requirements

/-- NodeClaims in flight with few pods come first. -/
def sortNewNodeClaims (order : RangeOrder NodeClaim) : Scheduler :=
  { s with newNodeClaims := (order.visit 0 s.newNodeClaims).insertionSort fun left right =>
      left.pods.length ≤ right.pods.length }

/-- Place a pod: on an existing node, on a NodeClaim in flight or on a new one. -/
def add : Except ReservationPanic (Except PodError (Scheduler × Placed)) :=
  if podData.hasResourceClaimRequests && s.config.options.ignoreDRARequests then
    .ok (.error .dynamicResources)
  else if podData.resourceClaimError then .ok (.error .resourceClaims)
  else
    match s.addToExistingNode tables answers pod podData with
    | some placed => .ok (.ok placed)
    | none =>
      let s := s.sortNewNodeClaims answers.claimOrder
      if s.pricePlacements then s.addByMarginalCost tables answers pod podData
      else s.addByBinpacking tables answers pod podData

end Scheduler

/-! ### The queue -/

/-- Pods to place. `lastLen` has the length of the queue when a pod was pushed. -/
structure Queue where
  pods : List Pod
  lastLen : GoMap String Nat := ∅

/-- More CPU first, then more memory, then older, then by UID. -/
def byCPUAndMemoryDescending (left right : Pod) : Bool :=
  let amountOf (pod : Pod) := Resources.amount (Resources.requestsForPods [pod])
  if amountOf left "cpu" ≠ amountOf right "cpu" then amountOf left "cpu" > amountOf right "cpu"
  else if amountOf left "memory" ≠ amountOf right "memory" then
    amountOf left "memory" > amountOf right "memory"
  else if left.creationTimestamp ≠ right.creationTimestamp then
    left.creationTimestamp < right.creationTimestamp
  else left.uid ≤ right.uid

def newQueue (pods : List Pod) : Queue :=
  { pods := pods.insertionSort fun left right => byCPUAndMemoryDescending left right }

namespace Queue

variable (queue : Queue)

def pop : Option (Pod × Queue) :=
  match queue.pods with
  | [] => none
  | pod :: rest =>
    if (queue.lastLen.lookup pod.uid).getD 0 = queue.pods.length then none
    else some (pod, { queue with pods := rest })

def push (pod : Pod) : Queue :=
  { pods := queue.pods ++ [pod]
    lastLen := queue.lastLen.insert pod.uid (queue.pods.length + 1) }

end Queue

/-! ### Runs -/

/-- A run. `current` is the pod being placed, in its original and current form;
`placements` records where pods went, and `timedOut` the pod that was being placed
when the deadline ended the run. -/
structure SolveRun where
  scheduler : Scheduler
  queue : Queue
  podErrors : GoMap String PodError := ∅
  current : Option (Pod × Pod) := none
  finished : Bool := false
  timedOut : Option Pod := none
  placements : List Placed := []

/-- The choices made while topologies and the data of a pod are updated. -/
structure UpdateAnswers where
  fails : ClusterRead → Bool := fun _ => false
  antiAffinityFirst : Bool := false
  claimsResolved : Bool := true

inductive SolveEvent where
  | pop
  | attempt (answers : Answers) (update : UpdateAnswers)
  | interrupt (deadline : Bool) (update : UpdateAnswers)

namespace SolveRun

variable (run : SolveRun)

def refresh (answers : UpdateAnswers) (pod : Pod) : SolveRun :=
  let topology := (run.scheduler.topology.update tables answers.fails answers.antiAffinityFirst pod).1
  let scheduler : Scheduler := { run.scheduler with topology := topology }
  { run with scheduler := scheduler.updateCachedPodData tables answers.claimsResolved pod }

def requeue (update : UpdateAnswers) (original : Pod) (error : PodError) : SolveRun :=
  { run.refresh tables update original with
    podErrors := run.podErrors.insert original.uid error
    queue := run.queue.push original
    current := none }

def recover (update : UpdateAnswers) (original pod : Pod) (error : PodError) : SolveRun :=
  if error.isReservedOfferingError || error.isDRAError then run.requeue tables update original error
  else
    match relax run.scheduler.config.toleratePreferNoSchedule pod with
    | none => run.requeue tables update original error
    | some relaxed => { run.refresh tables update relaxed with current := some (original, relaxed) }

def succeed (original : Pod) (scheduler : Scheduler) (placed : Placed) : SolveRun :=
  { run with
    scheduler := scheduler
    podErrors := run.podErrors.erase original.uid
    current := none
    placements := run.placements ++ [placed] }

def attempt (answers : Answers) (update : UpdateAnswers) : Except ReservationPanic SolveRun :=
  match run.current with
  | none => .ok run
  | some (original, pod) =>
    match run.scheduler.cachedPodData.lookup pod.uid with
    | none => .ok run
    | some podData =>
      (run.scheduler.add tables answers pod podData).map fun outcome =>
        match outcome with
        | .error error => run.recover tables update original pod error
        | .ok (scheduler, placed) => run.succeed original scheduler placed

def apply (event : SolveEvent) : Except ReservationPanic SolveRun :=
  if run.finished then .ok run
  else
    match event with
    | .pop =>
      if run.current.isSome then .ok run
      else
        match run.queue.pop with
        | none => .ok { run with finished := true }
        | some (pod, queue) => .ok { run with queue := queue, current := some (pod, pod) }
    | .attempt answers update => run.attempt tables answers update
    | .interrupt deadline update =>
      match run.current with
      | none => .ok run
      | some (original, _) =>
        if deadline then .ok { run with finished := true, current := none, timedOut := some original }
        else .ok (run.requeue tables update original .context)

end SolveRun

/-! ### The start of a run -/

/-- What a run starts from. `computeOverhead` is that of daemon pods on an
instance type. Names and UIDs are distinct. -/
structure SolveInput where
  options : Options := {}
  priceLimit : ℚ := 0
  nodePools : List NodePool
  instanceTypes : GoMap String (List InstanceType)
  daemonSetPods : List Pod := []
  computeOverhead : NodeClaimTemplate → InstanceType → List Pod → ResourceList := fun _ _ _ => ∅
  overheadOrder : RangeOrder DaemonOverheadGroup := .listed
  stateNodes : List StateNode := []
  underConsolidateAfter : String → Bool := fun _ => false
  deletingNodeNames : Finset String := ∅
  view : ClusterView := {}
  volumeLookup : String → Option (List Requirements) := fun _ => some []
  pods : List Pod
  fails : ClusterRead → Bool := fun _ => false
  antiAffinityFirst : String → Bool := fun _ => false
  claimsResolved : String → Bool := fun _ => true
  nodeID : Nat := 0
  pods_distinct : (pods.map (·.uid)).Nodup := by decide
  nodePools_distinct : (nodePools.map (·.name)).Nodup := by decide

namespace SolveInput

variable (input : SolveInput)

def topologyPods : List Pod := input.pods.filter fun pod => (input.volumeLookup pod.uid).isSome

def templates : List NodeClaimTemplate :=
  (input.nodePools.filterMap fun nodePool =>
    nodeClaimTemplateForNodePool tables input.options input.priceLimit nodePool
      ((input.instanceTypes.lookup nodePool.name).getD [])).map fun template =>
    let groups := buildDaemonOverheadGroupsForTemplate tables input.options input.computeOverhead
      template input.daemonSetPods
    { template with daemonOverheadGroups := input.overheadOrder.visit 0 groups }

def config : SchedulerConfig where
  options := input.options
  nodeClaimTemplates := input.templates tables
  toleratePreferNoSchedule := input.nodePools.any fun nodePool =>
    nodePool.template.taints.any (·.effect = .preferNoSchedule)
  volumeReqsByPod uid := (input.volumeLookup uid).getD []
  deletingNodeNames := input.deletingNodeNames

def limits : GoMap String ResourceList :=
  GoMap.ofList (input.nodePools.map fun nodePool => (nodePool.name, nodePool.limits))

def updateRemainingResources (remaining : GoMap String ResourceList) (node : StateNode) :
    GoMap String ResourceList :=
  let nodePool := labelValue node.labels nodePoolLabelKey
  match remaining.lookup nodePool with
  | none => remaining
  | some resources => remaining.insert nodePool (Resources.subtract resources node.capacity)

def newExistingNodes : List ExistingNode :=
  (input.stateNodes.map fun node => newExistingNode tables input.options input.daemonSetPods
    (input.underConsolidateAfter node.name) node).insertionSort fun left right =>
      ExistingNode.precedes left right

def newScheduler (topology : Topology) : Scheduler where
  config := input.config tables
  topology := input.stateNodes.foldl
    (fun topology node => topology.register labelHostname node.hostName) topology
  reservationManager := newReservationManager tables input.instanceTypes
  remainingResources := input.stateNodes.foldl updateRemainingResources input.limits
  existingNodes := input.newExistingNodes tables
  nodeID := input.nodeID

def start : Option SolveRun :=
  (newTopology tables input.fails input.antiAffinityFirst input.options.preferencePolicy input.view
    input.stateNodes input.nodePools input.instanceTypes input.topologyPods).map fun topology =>
      { scheduler := input.pods.foldl
          (fun scheduler pod => scheduler.updateCachedPodData tables (input.claimsResolved pod.uid) pod)
          (input.newScheduler tables topology)
        queue := newQueue input.pods }

end SolveInput

end Kraftsman.Provisioning
