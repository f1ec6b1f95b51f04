import Kraftsman.Disruption.BudgetLimits
import Kraftsman.Provisioning.StaticProvisioning

/-!
Contract: the nodes that static drift reserves for replacements.

Static drift reserves one node for each command. The commands start at once: each
is checked against the queue, marks its candidates, creates its replacements and
enters the queue. Only the creation of a replacement releases its reservation.

Owns: the stages of the commands of a batch in any interleaving, and when a batch
returns everything it reserved.
Does not own: the candidates of static drift, and what the API server answers.
-/

namespace Kraftsman.Disruption

open Apis Data Data.Strconv Provisioning State StaticDrift Option List

/-- How far a command is. It is refused if a candidate is disrupted already or cannot be marked. -/
inductive BatchStage where
  | waiting
  | marking
  | launching
  | queueing
  | refused
  | launchFailed
  | started
  deriving DecidableEq, Repr

def BatchStage.finished : BatchStage → Bool
  | .refused | .launchFailed | .started => true
  | .waiting | .marking | .launching | .queueing => false

/-- Whether the command has yet to release its reservations. -/
def BatchStage.owes : BatchStage → Bool
  | .waiting | .marking | .launching | .refused => true
  | .queueing | .launchFailed | .started => false

/-- A batch that is being started, with the NodePools, tracked nodes and queued provider ids. -/
structure BatchRun where
  pools : NodePoolState
  cluster : Cluster := {}
  inFlight : List String := []
  commands : List (Command × BatchStage)

def Replacement.launch (replacement : Replacement) : NodeClaimLaunch :=
  { nodePoolName := replacement.nodePoolName
    isStaticNodeClaim := replacement.isStaticNodeClaim }

def Command.launches (cmd : Command) : List NodeClaimLaunch := cmd.replacements.map (·.launch)

def markPendingDisruption (pools : NodePoolState) (candidates : List Candidate) : NodePoolState :=
  candidates.foldl (fun pools candidate =>
    if candidate.ownedByStaticNodePool then
      pools.markNodeClaimPendingDisruption candidate.nodePool.name candidate.nodeClaim.name
    else pools) pools

def markDeleting (cluster : Cluster) (pools : NodePoolState) (ids : List String) : NodePoolState :=
  ids.foldl (fun pools id =>
    (((cluster.nodes.lookup id).bind (·.nodeClaim))).elim pools fun nodeClaim =>
      pools.markNodeClaimDeleting (labelValue nodeClaim.labels nodePoolLabelKey) nodeClaim.name)
    pools

/-- The next thing that happens to a command, given by its index. -/
inductive BatchEvent where
  | hasAny (index : Nat)
  | markDisrupted (index : Nat) (fails : Nat → Bool)
  | createReplacementNodeClaims (index : Nat) (order : RangeOrder Nat)
      (create : Nat → Option Apis.NodeClaim)
  | enqueue (index : Nat)

namespace BatchRun

variable (run : BatchRun)

def busy (cmd : Command) : Bool := cmd.providerIDs.any fun id => run.inFlight.contains id

def marked (cmd : Command) (fails : Nat → Bool) : List Candidate :=
  (cmd.candidates.zipIdx.filter fun entry => !fails entry.2).map (·.1)

/-- Whether a command is given up since a candidate could not be marked. Without
replacements it goes on with those that are. -/
def givesUp (cmd : Command) (fails : Nat → Bool) : Bool :=
  (marked cmd fails).length < cmd.candidates.length &&
    (!cmd.replacements.isEmpty || (marked cmd fails).isEmpty)

variable (index : Nat)

def advance (cmd : Command) (stage : BatchStage) : BatchRun :=
  { run with commands := run.commands.set index (cmd, stage) }

def atStage (stage : BatchStage) : Option Command :=
  (run.commands[index]?).bind fun entry => if entry.2 = stage then some entry.1 else none

def checkQueue (cmd : Command) : BatchRun :=
  run.advance index cmd (if run.busy cmd then .refused else .marking)

def markDisrupted (fails : Nat → Bool) (cmd : Command) : BatchRun :=
  let run := { run with pools := markPendingDisruption run.pools (marked cmd fails) }
  if givesUp cmd fails then run.advance index cmd .refused
  else run.advance index { cmd with candidates := marked cmd fails } .launching

def createReplacementNodeClaims (order : RangeOrder Nat) (create : Nat → Option Apis.NodeClaim)
    (cmd : Command) : Except NodePoolPanic BatchRun := do
  let launched ← createNodeClaims order create run.pools cmd.launches
  let run := { run with pools := launched.2 }
  return if launched.1.length < cmd.replacements.length then run.advance index cmd .launchFailed
    else
      let replacements := zipWith (fun replacement nodeClaim =>
        { replacement with name := nodeClaim.name }) cmd.replacements launched.1
      run.advance index { cmd with replacements := replacements } .queueing

def enqueue (cmd : Command) : BatchRun :=
  let run := { run with
    pools := markDeleting run.cluster run.pools cmd.providerIDs
    inFlight := run.inFlight ++ cmd.providerIDs }
  run.advance index cmd .started

def apply : BatchEvent → Except NodePoolPanic BatchRun
  | .hasAny index => .ok ((run.atStage index .waiting).elim run (run.checkQueue index))
  | .markDisrupted index fails =>
    .ok ((run.atStage index .marking).elim run (run.markDisrupted index fails))
  | .createReplacementNodeClaims index order create =>
    (run.atStage index .launching).elim (.ok run)
      (run.createReplacementNodeClaims index order create)
  | .enqueue index => .ok ((run.atStage index .queueing).elim run (run.enqueue index))

def start (cluster : Cluster) (inFlight : List String) (drift : List Command × NodePoolState) :
    BatchRun :=
  { pools := drift.2, cluster := cluster, inFlight := inFlight
    commands := drift.1.map fun cmd => (cmd, .waiting) }

/-- All commands of the batch have been started or given up. -/
def finished : Bool := run.commands.all fun entry => entry.2.finished

/-- None of the candidates is in the queue, and marking them does not fail. -/
def Admits : BatchEvent → Prop
  | .hasAny index => ∀ cmd ∈ run.atStage index .waiting, run.busy cmd = false
  | .markDisrupted index fails => ∀ cmd ∈ run.atStage index .marking, givesUp cmd fails = false
  | .createReplacementNodeClaims _ _ _ | .enqueue _ => True

instance : (event : BatchEvent) → Decidable (run.Admits event)
  | .hasAny index =>
    inferInstanceAs (Decidable (∀ cmd ∈ run.atStage index .waiting, run.busy cmd = false))
  | .markDisrupted index fails =>
    inferInstanceAs (Decidable (∀ cmd ∈ run.atStage index .marking, givesUp cmd fails = false))
  | .createReplacementNodeClaims _ _ _ | .enqueue _ => isTrue trivial

variable (nodePool : String)

/-- What a command still has reserved of a NodePool. -/
def debt (entry : Command × BatchStage) : Int :=
  if entry.2.owes then entry.1.launches.countP (·.releases nodePool) else 0

/-- What the batch still has reserved of a NodePool. -/
def owed : Int := (run.commands.map (debt nodePool)).sum

theorem debt_nonneg (entry : Command × BatchStage) : 0 ≤ debt nodePool entry := by
  unfold debt
  split_ifs <;> omega

theorem owed_nonneg : 0 ≤ run.owed nodePool := by
  apply sum_nonneg
  intro value member
  obtain ⟨entry, -, rfl⟩ := mem_map.mp member
  exact debt_nonneg nodePool entry

variable {run}

variable {index} {entry : Command × BatchStage} {before : NodePoolState} {event : BatchEvent}
variable {run' : BatchRun}

theorem getElem?_of_atStage {stage : BatchStage} {cmd : Command}
    (found : run.atStage index stage = some cmd) : run.commands[index]? = some (cmd, stage) := by
  obtain ⟨entry, isEntry, isStage⟩ := bind_eq_some_iff.mp found
  split_ifs at isStage with same
  rw [isEntry, ← some.inj isStage, ← same]

theorem owed_advance (found : run.commands[index]? = some entry) (cmd : Command)
    (stage : BatchStage) (nodePool : String) :
    (run.advance index cmd stage).owed nodePool =
      run.owed nodePool - debt nodePool entry + debt nodePool (cmd, stage) := by
  obtain ⟨inRange, isEntry⟩ := List.getElem?_eq_some_iff.mp found
  have inMapped : index < (run.commands.map (debt nodePool)).length := by simpa using inRange
  unfold owed advance
  rw [map_set, sum_set', dif_pos inMapped, getElem_map, isEntry]
  ring

theorem debt_le_owed (found : run.commands[index]? = some entry) (nodePool : String) :
    debt nodePool entry ≤ run.owed nodePool := by
  have rest := owed_nonneg (run.advance index entry.1 .started) nodePool
  rw [owed_advance found] at rest
  have none : debt nodePool (entry.1, BatchStage.started) = 0 := rfl
  omega

/-- The counters are those before static drift and what the batch owes. -/
structure Accounts (before : NodePoolState) (run : BatchRun) : Prop where
  reserved : ∀ nodePool, run.pools.reserved nodePool = before.reserved nodePool + run.owed nodePool
  counter : ∀ nodePool, 0 < run.owed nodePool → nodePool ∈ run.pools.nodePoolNameToNodePoolLimit
  high : ∀ nodePool, before.reserved nodePool + run.owed nodePool ≤ maxInt64

theorem Accounts.advance (accounts : Accounts before run)
    (found : run.commands[index]? = some entry) {pools : NodePoolState}
    (kept : NodePoolState.KeepsCounters run.pools pools) (inFlight : List String) (cmd : Command)
    (stage : BatchStage) (same : ∀ nodePool, debt nodePool (cmd, stage) = debt nodePool entry) :
    Accounts before
      (BatchRun.advance { run with pools := pools, inFlight := inFlight } index cmd stage) := by
  have owes : ∀ nodePool,
      (BatchRun.advance { run with pools := pools, inFlight := inFlight } index cmd stage).owed
        nodePool = run.owed nodePool := by
    intro nodePool
    have advanced := owed_advance found cmd stage nodePool
    rw [same nodePool, sub_add_cancel] at advanced
    exact advanced
  constructor
  · intro nodePool
    rw [owes, ← accounts.reserved]
    exact kept.reserved nodePool
  · intro nodePool positive
    rw [owes] at positive
    exact kept.counter nodePool (accounts.counter nodePool positive)
  · intro nodePool
    rw [owes]
    exact accounts.high nodePool

theorem keepsCounters_markPendingDisruption (pools : NodePoolState) (candidates : List Candidate) :
    NodePoolState.KeepsCounters pools (markPendingDisruption pools candidates) := by
  unfold markPendingDisruption
  induction candidates generalizing pools with
  | nil => exact .refl pools
  | cons candidate rest ih =>
    rw [foldl_cons]
    refine .trans ?_ (ih _)
    split_ifs
    · exact NodePoolState.keepsCounters_changeNodeClaims _ _ _
    · exact .refl pools

theorem keepsCounters_markDeleting (cluster : Cluster) (pools : NodePoolState) (ids : List String) :
    NodePoolState.KeepsCounters pools (markDeleting cluster pools ids) := by
  unfold markDeleting
  induction ids generalizing pools with
  | nil => exact .refl pools
  | cons id rest ih =>
    rw [foldl_cons]
    refine .trans ?_ (ih _)
    cases (cluster.nodes.lookup id).bind (·.nodeClaim) with
    | none => exact .refl pools
    | some nodeClaim =>
      rw [elim_some]
      exact NodePoolState.keepsCounters_changeNodeClaims pools _ _

section

variable (accounts : Accounts before run) (nonneg : ∀ nodePool, 0 ≤ before.reserved nodePool)
include accounts nonneg

theorem Accounts.pay {cmd : Command} (found : run.commands[index]? = some (cmd, .launching))
    (order : RangeOrder Nat) (create : Nat → Option Apis.NodeClaim) :
    ∃ created pools, createNodeClaims order create run.pools cmd.launches = .ok (created, pools) ∧
      ∀ (cmd' : Command) (stage : BatchStage), stage.owes = false →
        Accounts before (BatchRun.advance { run with pools := pools } index cmd' stage) := by
  have isDebt : ∀ nodePool, debt nodePool (cmd, BatchStage.launching) =
      cmd.launches.countP (·.releases nodePool) := fun _ => rfl
  have available : Reserved cmd.launches run.pools := by
    constructor
    · intro nodePool positive
      have within := debt_le_owed found nodePool
      rw [isDebt] at within
      exact accounts.counter nodePool (by omega)
    · intro nodePool
      have within := debt_le_owed found nodePool
      have before := nonneg nodePool
      rw [isDebt] at within
      rw [accounts.reserved]
      omega
    · intro nodePool
      rw [accounts.reserved]
      exact accounts.high nodePool
  obtain ⟨pools, done, counters, lowered⟩ := reserved_createNodeClaims order create available
  refine ⟨_, pools, done, fun cmd' stage paid => ?_⟩
  have owes : ∀ nodePool, (BatchRun.advance { run with pools := pools } index cmd' stage).owed
      nodePool = run.owed nodePool - cmd.launches.countP (·.releases nodePool) := by
    intro nodePool
    have advanced := owed_advance found cmd' stage nodePool
    have none : debt nodePool (cmd', stage) = 0 := by simp [debt, paid]
    rw [none, add_zero, isDebt] at advanced
    exact advanced
  constructor
  · intro nodePool
    rw [owes, ← add_sub_assoc, ← accounts.reserved]
    exact lowered nodePool
  · intro nodePool positive
    rw [owes] at positive
    exact counters nodePool (accounts.counter nodePool (by omega))
  · intro nodePool
    have high := accounts.high nodePool
    rw [owes]
    omega

theorem Accounts.step (event : BatchEvent) :
    ∃ run', run.apply event = .ok run' ∧ Accounts before run' := by
  cases event with
  | hasAny index =>
    refine ⟨_, rfl, ?_⟩
    cases found : run.atStage index .waiting with
    | none => exact accounts
    | some cmd =>
      refine accounts.advance (getElem?_of_atStage found) (.refl _) run.inFlight cmd _ ?_
      intro nodePool
      split_ifs <;> rfl
  | markDisrupted index fails =>
    refine ⟨_, rfl, ?_⟩
    cases found : run.atStage index .marking with
    | none => exact accounts
    | some cmd =>
      have kept := keepsCounters_markPendingDisruption run.pools (marked cmd fails)
      dsimp only [elim_some, markDisrupted]
      split_ifs
      · exact accounts.advance (getElem?_of_atStage found) kept _ _ _ fun _ => rfl
      · exact accounts.advance (getElem?_of_atStage found) kept _ _ _ fun _ => rfl
  | createReplacementNodeClaims index order create =>
    dsimp only [apply]
    cases found : run.atStage index .launching with
    | none => exact ⟨run, rfl, accounts⟩
    | some cmd =>
      obtain ⟨created, pools, done, paid⟩ :=
        accounts.pay nonneg (getElem?_of_atStage found) order create
      refine ⟨_, FallibleLoop.map_eq_ok.mpr ⟨(created, pools), done, rfl⟩, ?_⟩
      split_ifs
      · exact paid cmd .launchFailed rfl
      · exact paid _ .queueing rfl
  | enqueue index =>
    refine ⟨_, rfl, ?_⟩
    cases found : run.atStage index .queueing with
    | none => exact accounts
    | some cmd =>
      exact accounts.advance (getElem?_of_atStage found)
        (keepsCounters_markDeleting run.cluster run.pools cmd.providerIDs) _ _ _ fun _ => rfl

end

def Refuses (run : BatchRun) : Prop := ∃ entry ∈ run.commands, entry.2 = .refused

/-- Every command that has not paid yet owes something. -/
def Indebted (run : BatchRun) : Prop :=
  ∀ entry ∈ run.commands, entry.2.owes = true → ∃ nodePool, 0 < debt nodePool entry

/-- What an event does: nothing, or one command goes on from a stage that was not
the end. It is refused exactly if it is not admitted, and owes what it owed while
it still owes something. -/
theorem apply_cases (done : run.apply event = .ok run') :
    run'.commands = run.commands ∧ run.Admits event ∨
      ∃ index cmd stage cmd' stage', run.commands[index]? = some (cmd, stage) ∧
        stage.finished = false ∧ run'.commands = run.commands.set index (cmd', stage') ∧
        (stage' = .refused ↔ ¬ run.Admits event) ∧
        (stage'.owes → stage.owes ∧ cmd'.launches = cmd.launches) := by
  cases event with
  | hasAny index =>
    cases done
    cases found : run.atStage index .waiting with
    | none => exact .inl ⟨rfl, by simp [Admits, found]⟩
    | some cmd =>
      refine .inr ⟨index, cmd, _, cmd, _, getElem?_of_atStage found, rfl, rfl, ?_, fun _ => ⟨rfl, rfl⟩⟩
      cases isBusy : run.busy cmd <;> simp [Admits, found, isBusy]
  | markDisrupted index fails =>
    cases done
    cases found : run.atStage index .marking with
    | none => exact .inl ⟨rfl, by simp [Admits, found]⟩
    | some cmd =>
      dsimp only [elim_some, BatchRun.markDisrupted]
      cases stops : givesUp cmd fails with
      | true =>
        exact .inr ⟨index, cmd, _, cmd, _, getElem?_of_atStage found, rfl, rfl,
          by simp [Admits, found, stops], fun _ => ⟨rfl, rfl⟩⟩
      | false =>
        exact .inr ⟨index, cmd, _, { cmd with candidates := marked cmd fails }, _,
          getElem?_of_atStage found, rfl, rfl, by simp [Admits, found, stops],
          fun _ => ⟨rfl, rfl⟩⟩
  | createReplacementNodeClaims index order create =>
    dsimp only [apply] at done
    cases found : run.atStage index .launching with
    | none =>
      rw [found] at done
      cases done
      exact .inl ⟨rfl, trivial⟩
    | some cmd =>
      rw [found] at done
      obtain ⟨launched, -, rfl⟩ := FallibleLoop.map_eq_ok.mp done
      refine .inr ⟨index, cmd, .launching, ?_⟩
      split_ifs
      · exact ⟨cmd, .launchFailed, getElem?_of_atStage found, rfl, rfl,
          by simp [Admits], fun owes => by cases owes⟩
      · exact ⟨_, .queueing, getElem?_of_atStage found, rfl, rfl,
          by simp [Admits], fun owes => by cases owes⟩
  | enqueue index =>
    cases done
    cases found : run.atStage index .queueing with
    | none => exact .inl ⟨rfl, trivial⟩
    | some cmd =>
      exact .inr ⟨index, cmd, _, cmd, .started, getElem?_of_atStage found, rfl, rfl,
        by simp [Admits], fun owes => by cases owes⟩

theorem Refuses.step (refuses : run.Refuses) (done : run.apply event = .ok run') :
    run'.Refuses := by
  obtain ⟨entry, member, isRefused⟩ := refuses
  rcases apply_cases done with ⟨same, -⟩ | ⟨index, cmd, stage, cmd', stage', found, going, changed, -, -⟩
  · exact ⟨entry, same ▸ member, isRefused⟩
  · refine ⟨entry, ?_, isRefused⟩
    obtain ⟨place, isEntry⟩ := mem_iff_getElem?.mp member
    have elsewhere : index ≠ place := by
      rintro rfl
      rw [found] at isEntry
      cases isEntry
      dsimp only at isRefused
      rw [isRefused] at going
      cases going
    rw [changed]
    exact mem_iff_getElem?.mpr ⟨place, by rw [getElem?_set_ne elsewhere, isEntry]⟩

theorem refuses_step_iff (unrefused : ¬ run.Refuses) (done : run.apply event = .ok run') :
    run'.Refuses ↔ ¬ run.Admits event := by
  rcases apply_cases done with ⟨same, admits⟩ | ⟨index, cmd, stage, cmd', stage', found, -, changed,
    refused, -⟩
  · refine iff_of_false ?_ (not_not.mpr admits)
    rintro ⟨entry, member, isRefused⟩
    exact unrefused ⟨entry, same ▸ member, isRefused⟩
  · rw [← refused]
    obtain ⟨inRange, -⟩ := List.getElem?_eq_some_iff.mp found
    constructor
    · rintro ⟨entry, member, isRefused⟩
      rw [changed] at member
      rcases mem_or_eq_of_mem_set member with before | rfl
      · exact absurd ⟨entry, before, isRefused⟩ unrefused
      · exact isRefused
    · intro isRefused
      refine ⟨(cmd', stage'), ?_, isRefused⟩
      rw [changed]
      exact mem_set inRange _

theorem Indebted.step (indebted : run.Indebted) (done : run.apply event = .ok run') :
    run'.Indebted := by
  rcases apply_cases done with ⟨same, -⟩ | ⟨index, cmd, stage, cmd', stage', found, -, changed, -, owed⟩
  · unfold Indebted
    rw [same]
    exact indebted
  · intro entry member owes
    rw [changed] at member
    rcases mem_or_eq_of_mem_set member with before | rfl
    · exact indebted entry before owes
    · obtain ⟨stillOwes, sameLaunches⟩ := owed owes
      obtain ⟨nodePool, positive⟩ := indebted _ (mem_of_getElem? found) stillOwes
      refine ⟨nodePool, ?_⟩
      unfold debt at positive ⊢
      rw [if_pos stillOwes] at positive
      rw [if_pos owes, sameLaunches]
      exact positive

theorem owed_eq_zero_iff (indebted : run.Indebted) (finished : run.finished) :
    (∀ nodePool, run.owed nodePool = 0) ↔ ¬ run.Refuses := by
  constructor
  · rintro settled ⟨entry, member, isRefused⟩
    obtain ⟨nodePool, positive⟩ := indebted entry member (by rw [isRefused]; rfl)
    obtain ⟨index, found⟩ := mem_iff_getElem?.mp member
    have within := debt_le_owed found nodePool
    rw [settled nodePool] at within
    omega
  · intro unrefused nodePool
    apply sum_eq_zero
    intro value member
    obtain ⟨⟨cmd, stage⟩, isCommand, rfl⟩ := mem_map.mp member
    have ended := all_eq_true.mp finished _ isCommand
    cases stage with
    | waiting | marking | launching | queueing => cases ended
    | refused => exact absurd ⟨_, isCommand, rfl⟩ unrefused
    | launchFailed | started => rfl

theorem reaches_admits_iff {begin : BatchRun} (unrefused : ¬ begin.Refuses)
    (reached : Reaches BatchRun.apply (fun _ _ => True) begin run) :
    Reaches BatchRun.apply BatchRun.Admits begin run ↔ ¬ run.Refuses := by
  constructor
  · intro admitted
    refine admitted.invariant (fun run => ¬ run.Refuses) unrefused ?_
    intro state event state' before admits done refuses
    exact (refuses_step_iff before done).mp refuses admits
  · intro still
    induction reached with
    | start => exact .start
    | step earlier _ done ih =>
      have before := fun refuses => still (Refuses.step refuses done)
      refine .step (ih before) ?_ done
      by_contra notAdmitted
      exact still ((refuses_step_iff before done).mpr notAdmitted)

end BatchRun

def reservedFor (nodePool : String) (cmds : List Command) : Int :=
  (cmds.map fun cmd => (cmd.launches.countP (·.releases nodePool) : Int)).sum

theorem reservedFor_append (nodePool : String) (cmds others : List Command) :
    reservedFor nodePool (cmds ++ others) = reservedFor nodePool cmds + reservedFor nodePool others := by
  simp [reservedFor]

variable {nodePool : NodePool} {state : NodePoolState}

theorem releases_staticReplacement (isStatic : nodePool.replicas.isSome) (candidate : Candidate)
    (name : String) :
    (Command.launches { candidates := [candidate], replacements := [staticReplacement nodePool] }).countP
      (·.releases name) = if nodePool.name = name then 1 else 0 := by
  simp [Command.launches, Replacement.launch, staticReplacement, NodeClaimLaunch.releases, isStatic,
    countP_cons]

theorem reservedFor_staticReplacements (isStatic : nodePool.replicas.isSome)
    (candidates : List Candidate) (name : String) :
    reservedFor name (candidates.map fun candidate =>
        { candidates := [candidate], replacements := [staticReplacement nodePool] }) =
      if nodePool.name = name then (candidates.length : Int) else 0 := by
  unfold reservedFor
  rw [List.map_map]
  induction candidates with
  | nil => simp
  | cons candidate rest ih =>
    rw [map_cons, sum_cons, ih, Function.comp_apply, releases_staticReplacement isStatic]
    split_ifs
    · push_cast [length_cons]
      ring
    · simp

/-- No counter is negative or close to the largest number. -/
structure Countable (candidates : List Candidate) (state : NodePoolState) : Prop where
  nonneg : ∀ nodePool, 0 ≤ state.reserved nodePool
  room : ∀ nodePool, state.reserved nodePool + candidates.length ≤ maxInt64

/-- In the middle of the loop over NodePools, with what the commands release. -/
structure Drifting (candidates : List Candidate) (before : NodePoolState) (rest : List String)
    (found : List Command × NodePoolState) : Prop where
  reserved : ∀ nodePool, found.2.reserved nodePool =
    before.reserved nodePool + reservedFor nodePool found.1
  counter : ∀ nodePool, 0 < reservedFor nodePool found.1 →
    nodePool ∈ found.2.nodePoolNameToNodePoolLimit
  most : ∀ nodePool, reservedFor nodePool found.1 ≤ candidates.length
  fresh : ∀ nodePool ∈ rest, reservedFor nodePool found.1 = 0
  owing : ∀ cmd ∈ found.1, ∃ nodePool, 0 < cmd.launches.countP (·.releases nodePool)

structure Reserving (state : NodePoolState) (nodePool : String) (most : Nat) (count : Int)
    (after : NodePoolState) : Prop where
  nonneg : 0 ≤ count
  le : count ≤ most
  counters : ∀ other, other ∈ state.nodePoolNameToNodePoolLimit →
    other ∈ after.nodePoolNameToNodePoolLimit
  counter : 0 < count → nodePool ∈ after.nodePoolNameToNodePoolLimit
  reserved : ∀ other, after.reserved other =
    state.reserved other + if nodePool = other then count else 0

theorem Reserving.nothing (state : NodePoolState) (nodePool : String) (most : Nat) :
    Reserving state nodePool most 0 state where
  nonneg := le_refl 0
  le := Int.natCast_nonneg most
  counters _ := id
  counter positive := absurd positive (lt_irrefl 0)
  reserved other := by simp

variable {mapping : BudgetMapping} {candidates : List Candidate}

theorem StaticDrift.reserving_drifts (nonneg : mapping.Nonneg) (nodePool : NodePool)
    (low : 0 ≤ state.reserved nodePool.name)
    (high : state.reserved nodePool.name + candidates.length ≤ maxInt64) :
    Reserving state nodePool.name candidates.length (drifts mapping state nodePool candidates).1
      (drifts mapping state nodePool candidates).2 := by
  have allowed := nonneg nodePool.name
  unfold drifts
  dsimp only
  split_ifs with exhausted scaling
  · exact .nothing _ _ _
  · exact .nothing _ _ _
  · have spec := state.reserves_reserveNodeCount nodePool.name (nodeLimit nodePool)
      (min (mapping.allowance nodePool.name) candidates.length)
    have isGranted := spec.granted_eq
    have bounds : 0 ≤ (state.reserveNodeCount nodePool.name (nodeLimit nodePool)
          (min (mapping.allowance nodePool.name) candidates.length)).1 ∧
        (state.reserveNodeCount nodePool.name (nodeLimit nodePool)
          (min (mapping.allowance nodePool.name) candidates.length)).1 ≤ candidates.length := by
      split_ifs at isGranted <;> omega
    refine ⟨bounds.1, bounds.2, fun other before => spec.counter other (.inr before),
      fun _ => spec.counter _ (.inl rfl), fun other => ?_⟩
    by_cases same : nodePool.name = other
    · subst same
      rw [if_pos rfl, spec.reserved_eq]
      split_ifs with negative
      · rw [if_pos negative] at isGranted
        rw [isGranted, add_zero]
      · refine wrapInt64_of_mem ?_ (by omega)
        unfold minInt64
        omega
    · rw [if_neg same, add_zero]
      exact spec.others other (Ne.symm same)

theorem Drifting.step {before : NodePoolState} {name : String} {rest : List String}
    {found : List Command × NodePoolState}
    (drifting : Drifting candidates before (name :: rest) found) (distinct : name ∉ rest)
    (nonneg : mapping.Nonneg) (countable : Countable candidates before)
    (isStatic : ∀ candidate ∈ candidates, candidate.nodePool.replicas.isSome) :
    Drifting candidates before rest (driftNodePool mapping candidates found name) := by
  have others : ∀ nodePool ∈ rest, reservedFor nodePool found.1 = 0 :=
    fun nodePool member => drifting.fresh nodePool (mem_cons_of_mem _ member)
  unfold driftNodePool
  dsimp only
  cases isFirst : (candidatesOf candidates name).head? with
  | none => exact { drifting with fresh := others }
  | some first =>
    have member := mem_filter.mp (mem_of_mem_head? isFirst)
    have isName : first.nodePool.name = name := of_decide_eq_true member.2
    have firstStatic := isStatic first member.1
    have fewer : (candidatesOf candidates name).length ≤ candidates.length := length_filter_le _ _
    have untouched : found.2.reserved first.nodePool.name =
        before.reserved first.nodePool.name := by
      rw [drifting.reserved, isName, drifting.fresh name mem_cons_self, add_zero]
    have low := countable.nonneg first.nodePool.name
    have room := countable.room first.nodePool.name
    have spec : Reserving found.2 first.nodePool.name (candidatesOf candidates name).length _ _ :=
      reserving_drifts nonneg first.nodePool (by omega) (by omega)
    dsimp only
    generalize drifts mapping found.2 first.nodePool (candidatesOf candidates name) =
      result at spec ⊢
    obtain ⟨count, after⟩ := result
    rw [isName] at spec
    have nonneg := spec.nonneg
    have le := spec.le
    have released : ∀ nodePool, reservedFor nodePool (found.1 ++
        ((candidatesOf candidates name).take count.toNat).map fun candidate =>
          { candidates := [candidate], replacements := [staticReplacement first.nodePool] }) =
        reservedFor nodePool found.1 + if name = nodePool then count else 0 := by
      intro nodePool
      rw [reservedFor_append, reservedFor_staticReplacements firstStatic, isName,
        length_take_of_le (by omega), Int.toNat_of_nonneg nonneg]
    constructor
    · intro nodePool
      rw [released, spec.reserved, drifting.reserved]
      ring
    · intro nodePool positive
      dsimp only at positive ⊢
      rw [released] at positive
      split_ifs at positive with same
      · subst same
        rw [drifting.fresh name mem_cons_self, zero_add] at positive
        exact spec.counter positive
      · rw [add_zero] at positive
        exact spec.counters nodePool (drifting.counter nodePool positive)
    · intro nodePool
      have most := drifting.most nodePool
      dsimp only
      rw [released]
      split_ifs with same
      · subst same
        rw [drifting.fresh name mem_cons_self]
        omega
      · omega
    · intro nodePool isRest
      have different : name ≠ nodePool := fun same => distinct (same ▸ isRest)
      dsimp only
      rw [released, others nodePool isRest, if_neg different, add_zero]
    · intro cmd isCmd
      rcases mem_append.mp isCmd with earlier | new
      · exact drifting.owing cmd earlier
      · obtain ⟨candidate, -, rfl⟩ := mem_map.mp new
        refine ⟨first.nodePool.name, ?_⟩
        rw [releases_staticReplacement firstStatic, if_pos rfl]
        exact Nat.one_pos

theorem drifting_driftNodePools (pools : RangeOrder String) (nonneg : mapping.Nonneg)
    (countable : Countable candidates state)
    (isStatic : ∀ candidate ∈ candidates, candidate.nodePool.replicas.isSome) :
    Drifting candidates state [] (driftNodePools pools state mapping candidates) := by
  have loop : ∀ (names : List String) (found : List Command × NodePoolState), names.Nodup →
      Drifting candidates state names found →
      Drifting candidates state [] (names.foldl (driftNodePool mapping candidates) found) := by
    intro names
    induction names with
    | nil => exact fun _ _ drifting => drifting
    | cons name rest ih =>
      intro found nodup drifting
      obtain ⟨distinct, nodup⟩ := nodup_cons.mp nodup
      exact ih _ nodup (drifting.step distinct nonneg countable isStatic)
  refine loop _ _ ((pools.perm 0 _).nodup_iff.mpr (nodup_dedup _)) ?_
  exact ⟨fun _ => by simp [reservedFor], fun _ positive => absurd positive (lt_irrefl 0),
    fun _ => Int.natCast_nonneg _, fun _ _ => rfl, fun _ isCmd => absurd isCmd not_mem_nil⟩

namespace BatchRun

theorem owed_start (cluster : Cluster) (inFlight : List String)
    (drift : List Command × NodePoolState) (nodePool : String) :
    (start cluster inFlight drift).owed nodePool = reservedFor nodePool drift.1 := by
  unfold owed start reservedFor
  rw [List.map_map]
  rfl

/-- In any interleaving of static drift's commands no event crashes, and once all
are started or given up, every NodePool has as many nodes reserved as before
exactly if no command was refused. -/
theorem drift_returns_reservations_iff (pools : RangeOrder String) (cluster : Cluster)
    (inFlight : List String) {mapping : BudgetMapping} (nonneg : mapping.Nonneg)
    {candidates : List Candidate} {state : NodePoolState} (countable : Countable candidates state)
    (isStatic : ∀ candidate ∈ candidates, candidate.nodePool.replicas.isSome) {run : BatchRun}
    (reached : Reaches BatchRun.apply (fun _ _ => True)
      (start cluster inFlight (StaticDrift.driftNodePools pools state mapping candidates)) run) :
    (∀ event, ∃ run', run.apply event = .ok run') ∧
      (run.finished = true →
        ((∀ nodePool, run.pools.reserved nodePool = state.reserved nodePool) ↔
          Reaches BatchRun.apply BatchRun.Admits
            (start cluster inFlight (StaticDrift.driftNodePools pools state mapping candidates))
            run)) := by
  have drifting := drifting_driftNodePools pools nonneg countable isStatic
  generalize driftNodePools pools state mapping candidates = drift at reached drifting ⊢
  have accounts : Accounts state run := by
    refine reached.invariant (Accounts state) ?_ ?_
    · refine ⟨fun nodePool => ?_, fun nodePool positive => ?_, fun nodePool => ?_⟩
      · rw [owed_start]
        exact drifting.reserved nodePool
      · rw [owed_start] at positive
        exact drifting.counter nodePool positive
      · have most := drifting.most nodePool
        have room := countable.room nodePool
        rw [owed_start]
        omega
    · intro before event after kept _ done
      obtain ⟨run', isRun, keeps⟩ := kept.step countable.nonneg event
      rw [done] at isRun
      exact Except.ok.inj isRun ▸ keeps
  have indebted : run.Indebted := by
    refine reached.invariant Indebted ?_ fun _ _ _ kept _ done => kept.step done
    intro entry member owes
    obtain ⟨cmd, isCmd, rfl⟩ := mem_map.mp member
    obtain ⟨nodePool, positive⟩ := drifting.owing cmd isCmd
    refine ⟨nodePool, ?_⟩
    unfold debt
    exact_mod_cast positive
  have unrefused : ¬ (start cluster inFlight drift).Refuses := by
    rintro ⟨entry, member, isRefused⟩
    obtain ⟨cmd, -, rfl⟩ := mem_map.mp member
    cases isRefused
  refine ⟨fun event => ?_, fun finished => ?_⟩
  · obtain ⟨run', done, -⟩ := accounts.step countable.nonneg event
    exact ⟨run', done⟩
  · rw [reaches_admits_iff unrefused reached, ← owed_eq_zero_iff indebted finished]
    refine forall_congr' fun nodePool => ?_
    rw [accounts.reserved]
    omega

def driftedCandidate : Candidate :=
  { stateNode := readyNode "drifted" (by decide) false
    nodeClaim := { name := "drifted", providerID := "drifted" }
    nodePool := { name := "static", replicas := some 1 } }

def oneDrift : List Command × NodePoolState :=
  StaticDrift.driftNodePools .listed {} (AList.insert "static" 1 ∅) [driftedCandidate]

theorem oneDrift_countable : Countable [driftedCandidate] {} :=
  ⟨fun _ => le_refl 0, fun _ => show (0 : Int) + 1 ≤ maxInt64 by decide⟩

theorem oneDrift_nonneg : BudgetMapping.Nonneg (AList.insert "static" 1 ∅) := by
  intro nodePool
  unfold BudgetMapping.allowance
  rw [GoMap.lookup_insert_eq]
  split_ifs <;> simp

/-- A replacement that cannot be created does not keep its reservation. -/
theorem drift_returns_one_reservation :
    ∃ run, Reaches BatchRun.apply BatchRun.Admits (start {} [] oneDrift) run ∧
      run.finished = true ∧ oneDrift.2.reserved "static" = 1 ∧
      ∀ nodePool, run.pools.reserved nodePool = 0 := by
  obtain ⟨run, admitted, finished⟩ : ∃ run,
      Reaches BatchRun.apply BatchRun.Admits (start {} [] oneDrift) run ∧ run.finished :=
    Reaches.exists_of_follow [.hasAny 0, .markDisrupted 0 fun _ => false,
      .createReplacementNodeClaims 0 .listed fun _ => none] (by decide +kernel)
  refine ⟨run, admitted, finished, by decide +kernel, fun nodePool => ?_⟩
  exact ((drift_returns_reservations_iff .listed {} [] oneDrift_nonneg oneDrift_countable
    (by decide) (admitted.mono fun _ _ _ => trivial)).2 finished).mpr admitted nodePool

/-- The command for a node that is in the queue already gives up without releasing
what static drift reserved for it. -/
theorem refused_drift_keeps_reservation :
    ∃ run, Reaches BatchRun.apply (fun _ _ => True) (start {} ["drifted"] oneDrift) run ∧
      run.finished = true ∧ ({} : NodePoolState).reserved "static" = 0 ∧
      run.pools.reserved "static" = 1 :=
  ⟨_, .step .start trivial (show BatchRun.apply _ (.hasAny 0) = .ok _ from rfl),
    by decide +kernel, rfl, by decide +kernel⟩

end BatchRun

end Kraftsman.Disruption
