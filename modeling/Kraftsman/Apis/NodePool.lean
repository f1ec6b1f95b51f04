import Kraftsman.Apis.Objects

/-!
Contract: NodePools and the budgets that limit how many of their nodes are
disrupted.

Owns: when a budget is active, what its value stands for, and what all budgets of
a NodePool allow.
Does not own: how cron schedules are parsed, and which nodes belong to a
NodePool.
-/

namespace Kraftsman.Apis

open Data Data.Strconv

inductive DisruptionReason where
  | underutilized
  | empty
  | drifted
  deriving DecidableEq, Repr

/-- A limit on nodes disrupted at once. Without reasons it applies to all of them. -/
structure Budget where
  reasons : Option (List DisruptionReason) := none
  nodes : String := "10%"
  schedule : Option String := none
  duration : Option Int := none
  deriving DecidableEq

inductive IntOrString where
  | int (value : Int)
  | string (text : String)
  deriving DecidableEq, Repr

/-- What is used of the Kubernetes library for integers and percentages: an integer
is cut to 32 bits, and stands for itself; a percentage of a total is rounded up. -/
structure IntStr where
  fromInt : Int → Int
  getScaledValueFromIntOrPercent : IntOrString → Nat → Option Int
  fromInt_eq : ∀ value, fromInt value = Int.bmod value (2 ^ 32)
  scaled_int : ∀ value total, getScaledValueFromIntOrPercent (.int value) total = some value
  scaled_percent : ∀ text percentage total, parseInt64 text = some percentage →
    getScaledValueFromIntOrPercent (.string (text ++ "%")) total =
      some ⌈(percentage * total : ℚ) / 100⌉

/-- The library that rejects every other text. -/
def IntStr.strict : IntStr where
  fromInt value := Int.bmod value (2 ^ 32)
  getScaledValueFromIntOrPercent
    | .int value, _ => some value
    | .string text, total =>
      if text.toList.getLast? = some '%' then
        (parseInt64 (String.ofList text.toList.dropLast)).map fun percentage =>
          ⌈(percentage * total : ℚ) / 100⌉
      else none
  fromInt_eq _ := rfl
  scaled_int _ _ := rfl
  scaled_percent text percentage total parsed := by simp [parsed]

/-- The current time, the next hit of a cron schedule after a time, and the library
that budgets are read with. -/
structure Clock where
  now : Int
  parseSchedule : String → Option (Int → Int)
  intStr : IntStr := .strict

def maxInt32 : Int := 2 ^ 31 - 1

def getIntStrFromValue (intStr : IntStr) (text : String) : IntOrString :=
  match parseInt64 text with
  | some value => .int (intStr.fromInt value)
  | none => .string text

namespace Budget

/-- Whether the budget is active, for its duration after each hit of its schedule;
none if that is invalid. -/
def isActive (budget : Budget) (clock : Clock) : Option Bool :=
  if budget.schedule.isNone && budget.duration.isNone then some true
  else
    (clock.parseSchedule (budget.schedule.getD "")).map fun next =>
      next (clock.now - budget.duration.getD 0) ≤ clock.now

def getAllowedDisruptions (budget : Budget) (clock : Clock) (numNodes : Nat) : Option Int := do
  if ← budget.isActive clock then
    clock.intStr.getScaledValueFromIntOrPercent (getIntStrFromValue clock.intStr budget.nodes) numNodes
  else return maxInt32

def appliesTo (budget : Budget) (reason : DisruptionReason) : Bool :=
  budget.reasons.all (·.contains reason)

end Budget

inductive ConsolidationPolicy where
  | whenEmpty
  | whenEmptyOrUnderutilized
  | balanced
  deriving DecidableEq, Repr

structure NodeSelectorRequirementWithMinValues extends NodeSelectorRequirement where
  minValues : Option Int := none
  deriving DecidableEq

/-- What the nodes of a pool have in common. `nodeClassRef` is the label of its node class. -/
structure NodeClaimSpec where
  labels : GoMap String String := ∅
  requirements : List NodeSelectorRequirementWithMinValues := []
  taints : List Taint := []
  nodeClassRef : Option (String × String) := none

inductive PackingPolicy where
  | binpack
  | marginalCost
  | marginalCostShadow
  deriving DecidableEq, Repr

/-- The policy an annotation names, by default bin packing. -/
def packingPolicyForNodePool (policy : String) : PackingPolicy :=
  if policy = "marginal-cost" then .marginalCost
  else if policy = "marginal-cost-shadow" then .marginalCostShadow
  else .binpack

structure NodePool where
  name : String
  uid : String := ""
  replicas : Option Int := none
  limits : ResourceList := ∅
  budgets : List Budget := []
  consolidationPolicy : ConsolidationPolicy := .whenEmptyOrUnderutilized
  template : NodeClaimSpec := {}
  packingPolicyAnnotation : String := ""

namespace NodePool

/-- The fewest disruptions a budget for the reason allows, and whether all budgets are valid. -/
def getAllowedDisruptionsByReason (nodePool : NodePool) (clock : Clock) (numNodes : Nat)
    (reason : DisruptionReason) : Int × Bool :=
  nodePool.budgets.foldl (fun (allowedNodes, valid) budget =>
    let allowed := budget.getAllowedDisruptions clock numNodes
    (if budget.appliesTo reason then min allowedNodes (allowed.getD 0) else allowedNodes,
      valid && allowed.isSome)) (maxInt32, true)

def mustGetAllowedDisruptions (nodePool : NodePool) (clock : Clock) (numNodes : Nat)
    (reason : DisruptionReason) : Int :=
  match nodePool.getAllowedDisruptionsByReason clock numNodes reason with
  | (allowed, true) => allowed
  | (_, false) => 0

end NodePool

end Kraftsman.Apis
