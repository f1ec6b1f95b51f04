import Kraftsman.Data.GoMap
import Mathlib.Data.Rat.Floor

/-!
Contract: the API values every scheduler reads.

Owns: quantities, label tables and node selector expressions.
Does not own: how any of them is interpreted.
-/

namespace Kraftsman.Apis

open Data

/-- A resource quantity, an exact decimal number. Subtracting -2^63, the only amount
that a 64-bit quantity cannot negate, is exact here, unlike in the API machinery. -/
abbrev Quantity := ℚ

/-- The integer value of a quantity, rounded away from zero. -/
def Quantity.value (q : Quantity) : Int := if 0 ≤ q then ⌈q⌉ else ⌊q⌋

structure NamespacedName where
  nameSpace : String
  name : String
  deriving DecidableEq, Repr

abbrev ResourceList := GoMap String Quantity

inductive NodeSelectorOperator where
  | opIn
  | opNotIn
  | opExists
  | opDoesNotExist
  | opGt
  | opLt
  | opGte
  | opLte
  deriving DecidableEq, Repr

/-- The number of values an operator may take. -/
def NodeSelectorOperator.accepts (operator : NodeSelectorOperator) (values : List String) : Bool :=
  match operator with
  | .opIn | .opNotIn => !values.isEmpty
  | .opExists | .opDoesNotExist => values.isEmpty
  | .opGt | .opLt | .opGte | .opLte => values.length = 1

theorem NodeSelectorOperator.opExists_accepts : NodeSelectorOperator.opExists.accepts [] := rfl

/-- A validated node selector expression. -/
structure NodeSelectorRequirement where
  key : String
  operator : NodeSelectorOperator
  values : List String
  accepted : operator.accepts values = true
  deriving DecidableEq

structure NodeSelectorTerm where
  matchExpressions : List NodeSelectorRequirement
  deriving DecidableEq

structure PreferredSchedulingTerm where
  weight : Int
  preference : NodeSelectorTerm
  deriving DecidableEq

structure NodeAffinity where
  required : Option (List NodeSelectorTerm) := none
  preferred : List PreferredSchedulingTerm := []
  deriving DecidableEq

/-- The label tables of the API package. Aliases translate to keys that are none. -/
structure LabelTables where
  normalizedLabels : GoMap String String
  normalizedLabelValues : GoMap String (GoMap String String)
  wellKnownLabels : Finset String
  /-- The label by which a provider tells reservations apart. -/
  reservationIDLabel : String := ""
  target_not_alias : ∀ target ∈ normalizedLabels.values, normalizedLabels.lookup target = none

def labelHostname : String := "kubernetes.io/hostname"

def labelTopologyZone : String := "topology.kubernetes.io/zone"

def nodePoolLabelKey : String := "karpenter.sh/nodepool"

def capacityTypeLabelKey : String := "karpenter.sh/capacity-type"

namespace LabelTables

/-- The tables of the API package, without a provider's additions. -/
def base : LabelTables where
  normalizedLabels := GoMap.ofList [
    ("failure-domain.beta.kubernetes.io/zone", "topology.kubernetes.io/zone"),
    ("beta.kubernetes.io/arch", "kubernetes.io/arch"),
    ("beta.kubernetes.io/os", "kubernetes.io/os"),
    ("beta.kubernetes.io/instance-type", "node.kubernetes.io/instance-type"),
    ("failure-domain.beta.kubernetes.io/region", "topology.kubernetes.io/region")]
  normalizedLabelValues := ∅
  wellKnownLabels := {
    "karpenter.sh/nodepool", "topology.kubernetes.io/zone", "topology.kubernetes.io/region",
    "node.kubernetes.io/instance-type", "kubernetes.io/arch", "kubernetes.io/os",
    "karpenter.sh/capacity-type", "node.kubernetes.io/windows-build"}
  target_not_alias := by decide

variable (tables : LabelTables)

def normalizeKey (key : String) : String :=
  (tables.normalizedLabels.lookup key).getD key

def normalizeValue (key value : String) : String :=
  match tables.normalizedLabelValues.lookup key with
  | none => value
  | some valueMap => (valueMap.lookup value).getD value

@[simp] theorem normalizeKey_idem (key : String) :
    tables.normalizeKey (tables.normalizeKey key) = tables.normalizeKey key := by
  unfold normalizeKey
  cases found : tables.normalizedLabels.lookup key with
  | none => simp [found]
  | some target =>
    have member : target ∈ tables.normalizedLabels.values := GoMap.mem_values_iff.mpr ⟨key, found⟩
    simp [tables.target_not_alias target member]

end LabelTables

end Kraftsman.Apis
