import Kraftsman.Disruption.Queue
import Kraftsman.State.NodePoolState

/-!
Contract: how the disruption methods choose candidates for commands.

Owns: the walk of each method over the candidates, the allowances it spends, and
the validation and admission of what it found.
Does not own: simulations, scores and clocks, whose answers are given.
-/

namespace Kraftsman.Disruption

open Apis Data State

inductive Simulation where
  | noOp
  | delete
  | replace (replacements : Nat)
  | timedOut
  | failed
  deriving DecidableEq, Repr

inductive Verdict where
  | valid
  | invalid
  | failed
  deriving DecidableEq, Repr

/-- What a validation is told: whether it was interrupted, the candidates of the
moment, which are nominated, the nodes and NodePools, and the simulation. -/
structure Validation where
  interrupted : Bool := false
  current : Option (List Candidate) := some []
  nominated : String → Bool := fun _ => false
  snapshot : Option Snapshot
  simulation : Verdict := .valid

def commandFor (candidates : List Candidate) (replacements : Nat) : Command :=
  { candidates := candidates, replacements := List.replicate replacements {} }

abbrev PassResult := List Command × Bool

/-! ### Order of candidates -/

/-- By what is saved for each unit of disruption, in any order where it is the same. -/
def sortCandidates (order : RangeOrder Candidate) (candidates : List Candidate) : List Candidate :=
  (order.visit 0 candidates).insertionSort fun left right => right.savingsRatio ≤ left.savingsRatio

def candidatesOf (candidates : List Candidate) (nodePool : String) : List Candidate :=
  candidates.filter (·.nodePool.name = nodePool)

def nodePoolNames (candidates : List Candidate) : List String :=
  (candidates.map (·.nodePool.name)).dedup

/-- Interweave the candidates of NodePools, those not reached before first. -/
def shuffleCandidates (pools : RangeOrder String) (unseen : List String)
    (candidates : List Candidate) : List Candidate :=
  let sortedNodePools := pools.visit 0 unseen.dedup ++
    (pools.visit 1 (nodePoolNames candidates)).filter fun nodePool => !unseen.contains nodePool
  let longest := (nodePoolNames candidates).foldl
    (fun longest nodePool => max longest (candidatesOf candidates nodePool).length) 0
  (List.range longest).flatMap fun i =>
    sortedNodePools.filterMap fun nodePool => (candidatesOf candidates nodePool)[i]?

/-- Move candidates that were reached behind the others, unless all were. -/
def resumeCoverageCycle (evaluated : List String) (candidates : List Candidate) : List Candidate :=
  let evaluated := evaluated.dedup.filter fun id => candidates.any (·.providerID = id)
  if evaluated.isEmpty || candidates.length ≤ evaluated.length then candidates
  else
    candidates.filter (fun candidate => !evaluated.contains candidate.providerID) ++
      candidates.filter (fun candidate => evaluated.contains candidate.providerID)

/-! ### Validation -/

def mapCandidates (proposed current : List Candidate) : List Candidate :=
  current.filter fun candidate => proposed.any (·.name = candidate.name)

/-- Those still candidates, not nominated and within the allowances of the moment. -/
def validateEmptyCandidates (validation : Validation) (candidates : List Candidate) :
    Except Verdict (List Candidate) :=
  match validation.current, validation.snapshot with
  | none, _ => .error .failed
  | some current, snapshot =>
    let validated := mapCandidates candidates current
    if validated.isEmpty then .error .invalid
    else
      match snapshot with
      | none => .error .failed
      | some snapshot =>
        let valid := (withinBudgets (fun candidate => !validation.nominated candidate.providerID)
          (buildDisruptionBudgetMapping snapshot .empty) validated).1
        if valid.isEmpty then .error .invalid else .ok valid

/-- All must still be candidates, not nominated and within the allowances of the moment. -/
def validateCandidates (validation : Validation) (candidates : List Candidate) : Verdict :=
  match validation.current, validation.snapshot with
  | none, _ => .failed
  | some current, snapshot =>
    let validated := mapCandidates candidates current
    if validated.length ≠ candidates.length then .invalid
    else
      match snapshot with
      | none => .failed
      | some snapshot =>
        if validated.any fun candidate => validation.nominated candidate.providerID then .invalid
        else if (withinBudgets (fun _ => true)
          (buildDisruptionBudgetMapping snapshot .underutilized) validated).2 then .invalid
        else .valid

/-- Validate the candidates, the simulation, and the candidates once more. -/
def validateConsolidation (before after : Validation) (cmd : Command) : Verdict :=
  if before.interrupted then .failed
  else
    match validateCandidates before cmd.candidates with
    | .valid =>
      if (mapCandidates cmd.candidates (before.current.getD [])).isEmpty then .invalid
      else
        match before.simulation with
        | .valid =>
          validateCandidates after (mapCandidates cmd.candidates (before.current.getD []))
        | verdict => verdict
    | verdict => verdict

/-! ### Emptiness -/

/-- Delete the empty candidates that are admitted, unless nothing has changed
since there was nothing to do. -/
def Emptiness.computeCommands (consolidated : Bool) (order : RangeOrder Candidate)
    (validation : Validation) (mapping : BudgetMapping) (candidates : List Candidate) : PassResult :=
  let empty := (withinBudgets (·.isEmpty) mapping (sortCandidates order candidates)).1
  if consolidated || empty.isEmpty then ([], false)
  else if validation.interrupted then ([], true)
  else
    match validateEmptyCandidates validation empty with
    | .ok valid => ([commandFor valid 0], false)
    | .error .failed => ([], true)
    | .error _ => ([], false)

/-! ### Drift of static NodePools -/

/-- The number of drifted candidates that are replaced: none while there are more
nodes than replicas. -/
def StaticDrift.drifts (mapping : BudgetMapping) (state : NodePoolState) (nodePool : NodePool)
    (candidates : List Candidate) : Int × NodePoolState :=
  let (active, _, pendingDisruption) := state.getNodeCount nodePool.name
  if mapping.allowance nodePool.name = 0 then (0, state)
  else if ((active + pendingDisruption : Nat) : Int) > nodePool.replicas.getD 0 then (0, state)
  else
    state.reserveNodeCount nodePool.name (nodeLimit nodePool)
      (min (mapping.allowance nodePool.name) candidates.length)

def staticReplacement (nodePool : NodePool) : Replacement :=
  { nodePoolName := nodePool.name, isStaticNodeClaim := nodePool.replicas.isSome }

def StaticDrift.driftNodePool (mapping : BudgetMapping) (candidates : List Candidate)
    (found : List Command × NodePoolState) (nodePool : String) : List Command × NodePoolState :=
  let members := candidatesOf candidates nodePool
  match members.head? with
  | none => found
  | some first =>
    let (count, state) := StaticDrift.drifts mapping found.2 first.nodePool members
    let cmds := (members.take count.toNat).map fun candidate =>
      { candidates := [candidate], replacements := [staticReplacement first.nodePool] }
    (found.1 ++ cmds, state)

def StaticDrift.driftNodePools (pools : RangeOrder String) (state : NodePoolState)
    (mapping : BudgetMapping) (candidates : List Candidate) : List Command × NodePoolState :=
  (pools.visit 0 (nodePoolNames candidates)).foldl
    (StaticDrift.driftNodePool mapping candidates) ([], state)

def StaticDrift.computeCommands (pools : RangeOrder String) (state : NodePoolState)
    (mapping : BudgetMapping) (candidates : List Candidate) : PassResult :=
  ((StaticDrift.driftNodePools pools state mapping candidates).1, false)

/-! ### Drift -/

/-- Expired leases first, then the oldest drift. -/
def Drift.before (left right : Candidate) : Bool :=
  if left.leaseReclaim = right.leaseReclaim then left.driftedAt ≤ right.driftedAt
  else left.leaseReclaim

/-- The command for the first candidate that can be disrupted, given the
simulation and whether the replacements of an expired lease can be spot. -/
def Drift.firstCommand (simulate : Candidate → Simulation) (pins : Candidate → Bool)
    (mapping : BudgetMapping) : List Candidate → PassResult
  | [] => ([], false)
  | candidate :: rest =>
    if mapping.allowance candidate.nodePool.name = 0 then firstCommand simulate pins mapping rest
    else
      match simulate candidate with
      | .failed => ([], true)
      | .noOp | .timedOut => firstCommand simulate pins mapping rest
      | .delete => ([commandFor [candidate] 0], false)
      | .replace replacements =>
        if candidate.leaseReclaim && !pins candidate then
          firstCommand simulate pins mapping rest
        else ([commandFor [candidate] replacements], false)

def Drift.computeCommands (order : RangeOrder Candidate) (simulate : Candidate → Simulation)
    (pins : Candidate → Bool) (mapping : BudgetMapping) (candidates : List Candidate) : PassResult :=
  let sorted := (order.visit 0 candidates).insertionSort fun left right => Drift.before left right
  Drift.firstCommand simulate pins mapping
    (sorted.filter (·.reschedulablePods.isEmpty) ++
      sorted.filter fun candidate => !candidate.reschedulablePods.isEmpty)

/-! ### Multi-node consolidation -/

/-- What is told about a batch: the simulation, whether options are left without
those as expensive as a candidate of the same type, and whether it scores well
enough. -/
structure BatchAnswers where
  simulate : List Candidate → Simulation
  differs : List Candidate → Bool := fun _ => true
  approve : Command → Bool := fun _ => true

/-- The command for a batch: a deletion, or a replacement with options left, that
scores well enough. -/
def MultiNode.accepted (answers : BatchAnswers) (batch : List Candidate) : Option Command :=
  match answers.simulate batch with
  | .delete => if answers.approve (commandFor batch 0) then some (commandFor batch 0) else none
  | .replace replacements =>
    if answers.differs batch && answers.approve (commandFor batch replacements) then
      some (commandFor batch replacements)
    else none
  | .noOp | .timedOut | .failed => none

/-- A search: the sizes of the batches it simulates, in order, and the command it
returns, none for a failure. -/
structure BatchSearch where
  simulated : List Nat := []
  returned : Option (Option Command)

/-- Search for the largest batch of first candidates that can be consolidated,
with its last candidate from `low` to below `high`. -/
def MultiNode.search (answers : BatchAnswers) (candidates : List Candidate) (low high : Nat)
    (saved : Option Command) : BatchSearch :=
  if low < high then
    let mid := (low + high - 1) / 2
    let batch := candidates.take (mid + 1)
    let rest : BatchSearch :=
      match answers.simulate batch with
      | .failed => { returned := none }
      | .timedOut => { returned := some saved }
      | .noOp | .delete | .replace _ =>
        match accepted answers batch with
        | some cmd => search answers candidates (mid + 1) high (some cmd)
        | none => search answers candidates low mid saved
    { rest with simulated := (mid + 1) :: rest.simulated }
  else { returned := some saved }
termination_by high - low

/-- The limit is lowered to the last position only if it reaches the last
candidate: otherwise it is itself used as a position. -/
def MultiNode.firstNConsolidationOption (answers : BatchAnswers) (candidates : List Candidate)
    (max : Nat) : BatchSearch :=
  if candidates.length < 2 then { returned := some none }
  else
    let last := if candidates.length ≤ max then candidates.length - 1 else max
    search answers candidates 1 (last + 1) none

/-- Consolidate several candidates at once, at most a hundred and one. -/
def MultiNode.computeCommands (consolidated : Bool) (order : RangeOrder Candidate)
    (answers : BatchAnswers) (before after : Validation) (mapping : BudgetMapping)
    (candidates : List Candidate) : PassResult :=
  let disruptable := (withinBudgets (fun _ => true) mapping (sortCandidates order candidates)).1
  if consolidated then ([], false)
  else
    match (firstNConsolidationOption answers disruptable (min disruptable.length 100)).returned with
    | none => ([], true)
    | some none => ([], false)
    | some (some cmd) =>
      match validateConsolidation before after cmd with
      | .valid => ([cmd], false)
      | .invalid => ([], false)
      | .failed => ([], true)

/-! ### Single-node consolidation -/

/-- What is told about each candidate: whether time is over, whether it can score
well enough, whether a verdict against it is remembered, its simulation and its
score. -/
structure WalkAnswers where
  expired : Nat → Bool := fun _ => false
  canPassThreshold : Nat → Bool := fun _ => true
  remembered : Nat → Bool := fun _ => false
  simulate : Nat → Simulation
  approve : Nat → Bool := fun _ => true

/-- What a walk has collected: allowances left, proposals with their positions,
the provider ids they claim, and the balanced NodePools that have one. -/
structure Walk where
  mapping : BudgetMapping
  proposals : List (Command × Nat) := []
  claimed : List String := []
  held : List String := []

def Walk.hold (walk : Walk) (candidate : Candidate) (replacements index : Nat) : Walk :=
  { mapping := walk.mapping.spend candidate.nodePool.name
    proposals := walk.proposals ++ [(commandFor [candidate] replacements, index)]
    claimed := candidate.providerID :: walk.claimed
    held :=
      if candidate.nodePool.consolidationPolicy = .balanced then
        candidate.nodePool.name :: walk.held
      else walk.held }

/-- Whether a candidate is passed over before it is simulated. -/
def Walk.skips (walk : Walk) (answers : WalkAnswers) (index : Nat) (candidate : Candidate) : Bool :=
  walk.claimed.contains candidate.providerID || walk.held.contains candidate.nodePool.name ||
    walk.mapping.allowance candidate.nodePool.name = 0 || !answers.canPassThreshold index ||
    answers.remembered index

/-- Walk until the time is over or enough proposals are held, just one for a single command. -/
def SingleNode.walk (answers : WalkAnswers) (maxCommands : Int) :
    Nat → Walk → List Candidate → Walk
  | _, walk, [] => walk
  | index, walk, candidate :: rest =>
    let propose (replacements : Nat) : Walk :=
      if !answers.approve index then SingleNode.walk answers maxCommands (index + 1) walk rest
      else
        let held := walk.hold candidate replacements index
        if maxCommands ≤ held.proposals.length then held
        else SingleNode.walk answers maxCommands (index + 1) held rest
    if answers.expired index then walk
    else if walk.skips answers index candidate then
      SingleNode.walk answers maxCommands (index + 1) walk rest
    else
      match answers.simulate index with
      | .noOp | .timedOut | .failed =>
        SingleNode.walk answers maxCommands (index + 1) walk rest
      | .delete => propose 0
      | .replace replacements => propose replacements

/-- What the admission of a proposal meets: whether time is left, its validations,
and what starting it does. -/
structure AdmissionAnswers where
  inTime : Nat → Bool := fun _ => true
  before : Nat → Validation
  after : Nat → Validation
  marks : Nat → Candidate → Bool := fun _ _ => true
  launches : Nat → Bool := fun _ => true

def startedCommand (answers : AdmissionAnswers) (place : Nat) (cmd : Command) : Option Command :=
  let marked := cmd.candidates.filter (answers.marks place)
  if marked.length < cmd.candidates.length && (!cmd.replacements.isEmpty || marked.isEmpty) then none
  else if answers.launches place then some { cmd with candidates := marked }
  else none

/-- Validate and start proposals one by one. The first is attempted in any case. -/
def SingleNode.admitProposals (answers : AdmissionAnswers) :
    Nat → Bool → List (Command × Nat) → PassResult
  | _, _, [] => ([], false)
  | place, attempted, (cmd, _) :: rest =>
    if attempted && !answers.inTime place then
      SingleNode.admitProposals answers (place + 1) attempted rest
    else
      match validateConsolidation (answers.before place) (answers.after place) cmd with
      | .failed => ([], true)
      | .invalid => SingleNode.admitProposals answers (place + 1) true rest
      | .valid =>
        match startedCommand answers place cmd with
        | none => ([], true)
        | some started =>
          let (admitted, failed) := SingleNode.admitProposals answers (place + 1) true rest
          (started :: admitted, failed)

/-- Consolidate candidates one by one. A single command is only validated; the caller starts it. -/
def SingleNode.computeCommands (consolidated : Bool) (order : RangeOrder Candidate)
    (pools : RangeOrder String) (unseen evaluated : List String) (maxCommands : Int)
    (answers : WalkAnswers) (admission : AdmissionAnswers) (mapping : BudgetMapping)
    (candidates : List Candidate) : PassResult :=
  let sorted := resumeCoverageCycle evaluated
    (shuffleCandidates pools unseen (sortCandidates order candidates))
  let walk := SingleNode.walk answers maxCommands 0 { mapping := mapping } sorted
  if consolidated then ([], false)
  else if maxCommands ≤ 1 then
    match walk.proposals with
    | [] => ([], false)
    | (cmd, _) :: _ =>
      match validateConsolidation (admission.before 0) (admission.after 0) cmd with
      | .valid => ([cmd], false)
      | .invalid => ([], false)
      | .failed => ([], true)
  else SingleNode.admitProposals admission 0 false walk.proposals

/-! ### All methods -/

inductive Method where
  | emptiness
  | staticDrift
  | drift
  | multiNode
  | singleNode
  deriving DecidableEq, Repr

def Method.reason : Method → DisruptionReason
  | .emptiness => .empty
  | .staticDrift | .drift => .drifted
  | .multiNode | .singleNode => .underutilized

/-- Everything a pass of some method is told or remembers. -/
structure PassAnswers where
  consolidated : Bool := false
  order : RangeOrder Candidate := .listed
  pools : RangeOrder String := .listed
  validation : Validation
  revalidation : Validation
  nodePoolState : NodePoolState := {}
  simulateDrift : Candidate → Simulation
  pinsDrift : Candidate → Bool
  batches : BatchAnswers
  unseen : List String := []
  evaluated : List String := []
  maxCommands : Int := 1
  walk : WalkAnswers
  admission : AdmissionAnswers

def Method.computeCommands (method : Method) (answers : PassAnswers) (mapping : BudgetMapping)
    (candidates : List Candidate) : PassResult :=
  match method with
  | .emptiness =>
    Emptiness.computeCommands answers.consolidated answers.order answers.validation mapping
      candidates
  | .staticDrift =>
    StaticDrift.computeCommands answers.pools answers.nodePoolState mapping candidates
  | .drift =>
    Drift.computeCommands answers.order answers.simulateDrift answers.pinsDrift mapping candidates
  | .multiNode =>
    MultiNode.computeCommands answers.consolidated answers.order answers.batches
      answers.validation answers.revalidation mapping candidates
  | .singleNode =>
    SingleNode.computeCommands answers.consolidated answers.order answers.pools answers.unseen
      answers.evaluated answers.maxCommands answers.walk answers.admission mapping candidates

end Kraftsman.Disruption
