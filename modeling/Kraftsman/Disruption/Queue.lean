import Kraftsman.Data.Runs
import Kraftsman.Disruption.Candidates
import Kraftsman.State.Cluster

/-!
Contract: the queue that carries disruption commands out.

A command is started in stages, between which the queue handles other requests.
Its NodeClaims are deleted once all of its replacements are ready.

Owns: the commands in flight by provider id, the stages of a start, and one
reconciliation.
Does not own: how commands are found, and what the API server answers.
-/

namespace Kraftsman.Disruption

open Data State

/-- A NodeClaim to launch, with its NodePool. -/
structure Replacement where
  name : String := ""
  initialized : Bool := false
  nodePoolName : String := ""
  isStaticNodeClaim : Bool := false
  deriving DecidableEq

/-- A command to disrupt candidates once their replacements are ready. -/
structure Command where
  candidates : List Candidate
  replacements : List Replacement := []
  creationTimestamp : Int := 0
  succeeded : Bool := false

def Command.providerIDs (cmd : Command) : List String := cmd.candidates.map (·.providerID)

inductive StartStage where
  | marking
  | launching
  | queueing
  deriving DecidableEq, Repr

structure Starting where
  command : Command
  stage : StartStage

inductive QueuePanic where
  | cluster (panic : ClusterPanic)
  | noCandidates
  deriving DecidableEq, Repr

/-- What the API server answers about a replacement. -/
inductive ReplacementRead where
  | found (initialized : Bool)
  | notFound
  | failed
  deriving DecidableEq, Repr

/-- What the API server answers during a reconciliation, by index, and the time at the end. -/
structure Responses where
  get : Nat → ReplacementRead := fun _ => .failed
  deleteFails : Nat → Bool := fun _ => false
  now : Int := 0

inductive Outcome where
  | succeeded
  | recoverable
  | unrecoverable
  deriving DecidableEq, Repr

def minRetryDuration : Int := 600000

def maxRetryDuration : Int := 3600000

def retryDurationScale : Int := 80

/-- How long a command is retried, in milliseconds, by the candidates in flight. -/
def getMaxRetryDuration (numCommands : Nat) : Int :=
  max minRetryDuration (min maxRetryDuration (retryDurationScale * numCommands))

inductive Readiness where
  | ready
  | waiting
  | deleted
  deriving DecidableEq, Repr

/-- What is known once a replacement that is not ready is followed by others. -/
def Readiness.orWaiting : Readiness → Readiness
  | .deleted => .deleted
  | _ => .waiting

/-- The replacements after one look at each, the answers read, and how far they
are. The loop ends at one that is gone. -/
def observeReplacements (nodeClaimExists : String → Bool) (get : Nat → ReplacementRead) :
    Nat → List Replacement → List Replacement × List (Nat × ReplacementRead) × Readiness
  | _, [] => ([], [], .ready)
  | index, replacement :: rest =>
    let (others, reads, readiness) := observeReplacements nodeClaimExists get (index + 1) rest
    if replacement.initialized then (replacement :: others, reads, readiness)
    else if get index = .notFound ∧ !nodeClaimExists replacement.name then
      (replacement :: rest, [(index, .notFound)], .deleted)
    else if get index = .found true then
      ({ replacement with initialized := true } :: others, (index, .found true) :: reads, readiness)
    else (replacement :: others, (index, get index) :: reads, readiness.orWaiting)

/-- One attempt: the command after it, the answers read, whether NodeClaims were
deleted, and how it ends. -/
def waitOrTerminate (nodeClaimExists : String → Bool) (retryDuration : Int) (responses : Responses)
    (cmd : Command) : Command × List (Nat × ReplacementRead) × Bool × Outcome :=
  let (replacements, reads, readiness) :=
    observeReplacements nodeClaimExists responses.get 0 cmd.replacements
  let outcome : Outcome :=
    match readiness with
    | .deleted => .unrecoverable
    | .waiting => .recoverable
    | .ready =>
      if (List.range cmd.candidates.length).any responses.deleteFails then .recoverable
      else .succeeded
  -- A timeout turns every outcome into a failure, also a success.
  let outcome :=
    if responses.now - cmd.creationTimestamp > retryDuration then .unrecoverable else outcome
  ({ cmd with replacements := replacements }, reads, readiness = .ready, outcome)

inductive QueueAction where
  | read (command index : Nat) (answer : ReplacementRead)
  | delete (command : Nat) (nodeClaim : String)
  | complete (command : Nat) (success : Bool)
  deriving DecidableEq, Repr

/-- The queue, the cluster state it marks nodes in, and what it has done. Commands
are shared, so the map holds their identities. -/
structure QueueRun where
  cluster : Cluster
  providerIDToCommand : GoMap String Nat := ∅
  commands : GoMap Nat Command := ∅
  nextID : Nat := 0
  starting : Option Starting := none
  trace : List QueueAction := []

namespace QueueRun

variable (run : QueueRun)

def hasAny (ids : List String) : Bool := ids.any fun id => (run.providerIDToCommand.lookup id).isSome

/-- Begin to start a command, unless a candidate is already being disrupted. -/
def startCommand (candidates : List Candidate) (replacements : Nat) (creationTimestamp : Int) :
    QueueRun :=
  let cmd : Command :=
    { candidates := candidates, replacements := List.replicate replacements {},
      creationTimestamp := creationTimestamp }
  if run.starting.isSome || run.hasAny cmd.providerIDs then run
  else { run with starting := some { command := cmd, stage := .marking } }

/-- Mark the candidates as disrupted. A command with replacements gives up if one
cannot be marked. -/
def markDisrupted (fails : Nat → Bool) : QueueRun :=
  match run.starting with
  | some ⟨cmd, .marking⟩ =>
    let marked := (cmd.candidates.zipIdx.filter fun entry => !fails entry.2).map (·.1)
    if marked.length < cmd.candidates.length && (!cmd.replacements.isEmpty || marked.isEmpty) then
      { run with starting := none }
    else
      { run with starting := some ⟨{ cmd with candidates := marked }, .launching⟩ }
  | _ => run

/-- Launch the replacements, all or none, and mark the candidates for deletion. -/
def createReplacementNodeClaims (nodeClaimNames : Option (List String)) :
    Except QueuePanic QueueRun :=
  match run.starting with
  | some ⟨cmd, .launching⟩ =>
    match nodeClaimNames with
    | none => .ok { run with starting := none }
    | some names =>
      if names.length ≠ cmd.replacements.length then .ok { run with starting := none }
      else do
        let replacements := List.zipWith (fun replacement name =>
          { replacement with name := name }) cmd.replacements names
        let cluster ← (run.cluster.markForDeletion cmd.providerIDs).mapError .cluster
        return { run with
          cluster := cluster
          starting := some ⟨{ cmd with replacements := replacements }, .queueing⟩ }
  | _ => .ok run

def enqueue : Except QueuePanic QueueRun :=
  match run.starting with
  | some ⟨cmd, .queueing⟩ =>
    if cmd.candidates.isEmpty then .error .noCandidates
    else .ok { run with
      providerIDToCommand := run.providerIDToCommand.insertAll cmd.providerIDs run.nextID
      commands := run.commands.insert run.nextID cmd
      nextID := run.nextID + 1
      starting := none }
  | _ => .ok run

def commandForNodeClaim (order : RangeOrder String) (name : String) : Option (Nat × Command) :=
  (order.visit 0 run.providerIDToCommand.keys).findSome? fun id => do
    let k ← run.providerIDToCommand.lookup id
    let cmd ← run.commands.lookup k
    if cmd.candidates.any (·.nodeClaim.name = name) then some (k, cmd) else none

/-- Take a command out of the queue. Unless it has succeeded, its candidates are unmarked. -/
def completeCommand (k : Nat) (cmd : Command) (success : Bool) : Except QueuePanic QueueRun := do
  let cluster ←
    if cmd.succeeded then .ok run.cluster
    else (run.cluster.unmarkForDeletion cmd.providerIDs).mapError .cluster
  return { run with
    cluster := cluster
    providerIDToCommand := run.providerIDToCommand.eraseAll cmd.providerIDs
    trace := run.trace ++ [.complete k success] }

def attempted (k : Nat) (cmd : Command) (reads : List (Nat × ReplacementRead)) (deletes : Bool) :
    List QueueAction :=
  reads.map (fun read => .read k read.1 read.2) ++
    if deletes then cmd.candidates.map fun candidate => .delete k candidate.nodeClaim.name else []

def reconcile (order : RangeOrder String) (name : String) (responses : Responses) :
    Except QueuePanic QueueRun :=
  match run.commandForNodeClaim order name with
  | none => .ok run
  | some (k, cmd) =>
    let nodeClaimExists name := (run.cluster.nodeClaimNameToProviderID.lookup name).isSome
    let retryDuration := getMaxRetryDuration run.providerIDToCommand.keys.length
    let (cmd, reads, deletes, outcome) :=
      waitOrTerminate nodeClaimExists retryDuration responses cmd
    let cmd := if outcome = .succeeded then { cmd with succeeded := true } else cmd
    let run := { run with
      commands := run.commands.insert k cmd
      trace := run.trace ++ attempted k cmd reads deletes }
    if outcome = .recoverable then .ok run
    else run.completeCommand k cmd (outcome = .succeeded)

end QueueRun

/-- The stages of a start, a reconciliation, or a change of cluster state by someone else. -/
inductive QueueEvent where
  | startCommand (candidates : List Candidate) (replacements : Nat) (creationTimestamp : Int)
  | markDisrupted (fails : Nat → Bool)
  | createReplacementNodeClaims (nodeClaimNames : Option (List String))
  | enqueue
  | reconcile (order : RangeOrder String) (nodeClaimName : String) (responses : Responses)
  | clusterChanges (cluster : Cluster)

def QueueRun.apply (run : QueueRun) : QueueEvent → Except QueuePanic QueueRun
  | .startCommand candidates replacements creationTimestamp =>
    .ok (run.startCommand candidates replacements creationTimestamp)
  | .markDisrupted fails => .ok (run.markDisrupted fails)
  | .createReplacementNodeClaims nodeClaimNames => run.createReplacementNodeClaims nodeClaimNames
  | .enqueue => run.enqueue
  | .reconcile order nodeClaimName responses => run.reconcile order nodeClaimName responses
  | .clusterChanges cluster => .ok { run with cluster := cluster }

end Kraftsman.Disruption
