import Kraftsman.Apis.NodePool
import Kraftsman.State.StateNode

/-!
Contract: the nodes considered for disruption, and how many of each NodePool may
be disrupted.

Owns: what is known of a candidate, how candidates are compared, and how a pass
spends the allowances of the budgets.
Does not own: which nodes become candidates and are disrupted.
-/

namespace Kraftsman.Disruption

open Apis Data State

/-- A tracked node with a NodeClaim that may be disrupted. -/
structure Candidate where
  stateNode : StateNode
  nodeClaim : NodeClaim
  nodePool : NodePool
  price : ℚ := 0
  rescheduleDisruptionCost : ℚ := 1
  reschedulablePods : List Pod := []
  /-- When the node drifted, and whether its lease of on-demand capacity expired. -/
  driftedAt : Int := 0
  leaseReclaim : Bool := false

namespace Candidate

variable (candidate : Candidate)

def name : String := candidate.stateNode.name

def providerID : String := candidate.stateNode.providerID

def ownedByStaticNodePool : Bool := candidate.nodePool.replicas.isSome

def perNodeBaseDisruptionCost : ℚ := 1

def isEmpty : Bool := candidate.rescheduleDisruptionCost ≤ perNodeBaseDisruptionCost

def savingsRatio : ℚ := candidate.price / candidate.rescheduleDisruptionCost

end Candidate

/-- What allowances are computed from. NodePools have distinct names. -/
structure Snapshot where
  nodes : List StateNode
  nodePools : List NodePool
  clock : Clock
  nodup : (nodePools.map (·.name)).Nodup

abbrev BudgetMapping := GoMap String Int

def increment (counts : GoMap String Nat) (key : String) : GoMap String Nat :=
  counts.insert key ((counts.lookup key).getD 0 + 1)

/-- Whether a node counts: managed, initialized and not terminating. -/
def countsTowardsTotal (n : StateNode) : Bool :=
  n.managed && n.initialized && !n.nodeClaim.any (·.instanceTerminating)

def isDisrupting (n : StateNode) : Bool := !n.node.any (·.ready) || n.isMarkedForDeletion

def countNodes (nodes : List StateNode) : GoMap String Nat × GoMap String Nat :=
  nodes.foldl (fun (numNodes, disrupting) n =>
    if !countsTowardsTotal n then (numNodes, disrupting)
    else
      let nodePool := labelValue n.labels nodePoolLabelKey
      (increment numNodes nodePool,
        if isDisrupting n then increment disrupting nodePool else disrupting)) (∅, ∅)

def buildDisruptionBudgetMapping (snapshot : Snapshot) (reason : DisruptionReason) :
    BudgetMapping :=
  let (numNodes, disrupting) := countNodes snapshot.nodes
  snapshot.nodePools.foldl (fun mapping nodePool =>
    let allowed := nodePool.mustGetAllowedDisruptions snapshot.clock
      ((numNodes.lookup nodePool.name).getD 0) reason
    mapping.insert nodePool.name
      (max (allowed - ((disrupting.lookup nodePool.name).getD 0 : Nat)) 0)) ∅

def BudgetMapping.allowance (mapping : BudgetMapping) (nodePool : String) : Int :=
  (mapping.lookup nodePool).getD 0

def BudgetMapping.spend (mapping : BudgetMapping) (nodePool : String) : BudgetMapping :=
  mapping.insert nodePool (mapping.allowance nodePool - 1)

/-- The eligible candidates that are admitted, and whether one was kept back. -/
def withinBudgets (eligible : Candidate → Bool) :
    BudgetMapping → List Candidate → List Candidate × Bool
  | _, [] => ([], false)
  | mapping, candidate :: rest =>
    if !eligible candidate then withinBudgets eligible mapping rest
    else if mapping.allowance candidate.nodePool.name = 0 then
      ((withinBudgets eligible mapping rest).1, true)
    else
      let (others, constrained) :=
        withinBudgets eligible (mapping.spend candidate.nodePool.name) rest
      (candidate :: others, constrained)

end Kraftsman.Disruption
