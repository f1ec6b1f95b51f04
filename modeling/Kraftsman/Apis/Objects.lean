import Kraftsman.Apis.Core
import Kraftsman.Data.Strconv

/-!
Contract: pods, the terms by which they choose nodes and each other, and nodes.

Owns: taints and tolerations, selectors, affinity terms, spread constraints and
the fields of objects that scheduling and cluster state read.
Does not own: when a term holds of a placement.
-/

namespace Kraftsman.Apis

open Data Data.Strconv

/-! ### Taints and tolerations -/

/-- What a taint does to pods that do not tolerate it. -/
inductive TaintEffect where
  | noSchedule
  | preferNoSchedule
  | noExecute
  deriving DecidableEq, Repr

structure Taint where
  key : String
  value : String := ""
  effect : TaintEffect
  deriving DecidableEq

def Taint.matchTaint (taint other : Taint) : Bool :=
  taint.key = other.key && taint.effect = other.effect

/-- How a toleration compares values; by equality by default. -/
inductive TolerationOperator where
  | opEqual
  | opExists
  | opLt
  | opGt
  deriving DecidableEq, Repr

/-- A toleration. An empty key or a missing effect matches any. -/
structure Toleration where
  key : String := ""
  operator : TolerationOperator := .opEqual
  value : String := ""
  effect : Option TaintEffect := none
  deriving DecidableEq

def Toleration.admits (toleration : Toleration) (value : String) : Bool :=
  match toleration.operator, parseInt64 toleration.value, parseInt64 value with
  | .opEqual, _, _ => toleration.value = value
  | .opExists, _, _ => true
  | .opLt, some bound, some number => number < bound
  | .opGt, some bound, some number => number > bound
  | _, _, _ => false

def Toleration.toleratesTaint (toleration : Toleration) (taint : Taint) : Bool :=
  toleration.effect.all (· = taint.effect) &&
    (toleration.key.isEmpty || toleration.key = taint.key) &&
    toleration.admits taint.value

/-! ### Label selectors -/

inductive LabelSelectorOperator where
  | opIn
  | opNotIn
  | opExists
  | opDoesNotExist
  deriving DecidableEq, Repr

structure LabelSelectorRequirement where
  key : String
  operator : LabelSelectorOperator
  values : List String := []
  deriving DecidableEq

def LabelSelectorRequirement.parses (expression : LabelSelectorRequirement) : Bool :=
  match expression.operator with
  | .opIn | .opNotIn => !expression.values.isEmpty
  | .opExists | .opDoesNotExist => expression.values.isEmpty

def LabelSelectorRequirement.holds (expression : LabelSelectorRequirement)
    (labels : GoMap String String) : Bool :=
  match expression.operator, labels.lookup expression.key with
  | .opIn, some value => expression.values.contains value
  | .opIn, none => false
  | .opNotIn, some value => !expression.values.contains value
  | .opNotIn, none => true
  | .opExists, found => found.isSome
  | .opDoesNotExist, found => found.isNone

/-- All labels and expressions of a selector must hold. -/
structure LabelSelector where
  matchLabels : GoMap String String := ∅
  matchExpressions : List LabelSelectorRequirement := []
  deriving DecidableEq

namespace LabelSelector

def parses (selector : LabelSelector) : Bool :=
  selector.matchExpressions.all (·.parses)

/-- Whether labels satisfy a well-formed selector. -/
def holds (selector : LabelSelector) (labels : GoMap String String) : Bool :=
  (selector.matchLabels.entries.all fun label => labels.lookup label.1 = some label.2) &&
    selector.matchExpressions.all (·.holds labels)

/-- The predicate of an API selector: a missing one selects nothing. -/
def asSelector : Option LabelSelector → Option (GoMap String String → Bool)
  | none => some fun _ => false
  | some selector => if selector.parses then some selector.holds else none

end LabelSelector

/-! ### Terms about other pods -/

/-- A term that relates a pod to the pods a selector matches. -/
structure PodAffinityTerm where
  topologyKey : String
  labelSelector : Option LabelSelector := none
  namespaces : List String := []
  namespaceSelector : Option LabelSelector := none
  deriving DecidableEq

structure WeightedPodAffinityTerm where
  weight : Int
  podAffinityTerm : PodAffinityTerm
  deriving DecidableEq

structure PodAffinity where
  required : List PodAffinityTerm := []
  preferred : List WeightedPodAffinityTerm := []
  deriving DecidableEq

inductive UnsatisfiableConstraintAction where
  | doNotSchedule
  | scheduleAnyway
  deriving DecidableEq, Repr

/-- Whether a node property decides which nodes count. -/
inductive NodeInclusionPolicy where
  | honor
  | ignore
  deriving DecidableEq, Repr

/-- How the selected pods spread over the domains of a key. -/
structure TopologySpreadConstraint where
  maxSkew : Int
  topologyKey : String
  whenUnsatisfiable : UnsatisfiableConstraintAction := .doNotSchedule
  labelSelector : Option LabelSelector := none
  minDomains : Option Int := none
  nodeAffinityPolicy : Option NodeInclusionPolicy := none
  nodeTaintsPolicy : Option NodeInclusionPolicy := none
  matchLabelKeys : List String := []
  deriving DecidableEq

/-! ### Pods -/

structure PodResourceClaim where
  name : String
  resourceClaimName : Option String := none
  deriving DecidableEq

/-- The claim that was generated for a reference, if one was needed. -/
structure PodResourceClaimStatus where
  name : String
  resourceClaimName : Option String := none
  deriving DecidableEq

/-- A port of a container; `hostPort` is zero when it is not on the host. -/
structure ContainerPort where
  hostPort : Nat := 0
  hostIP : String := ""
  protocol : String := "TCP"
  deriving DecidableEq

inductive PodPhase where
  | pending
  | running
  | succeeded
  | failed
  | unknown
  deriving DecidableEq, Repr

/-- A pod. `requests` are its effective requests. -/
structure Pod where
  uid : String := ""
  name : String := ""
  nameSpace : String := "default"
  labels : GoMap String String := ∅
  creationTimestamp : Int := 0
  terminating : Bool := false
  phase : PodPhase := .pending
  nodeName : String := ""
  requests : ResourceList := ∅
  ports : List ContainerPort := []
  tolerations : List Toleration := []
  nodeSelector : GoMap String String := ∅
  nodeAffinity : Option NodeAffinity := none
  podAffinity : Option PodAffinity := none
  podAntiAffinity : Option PodAffinity := none
  topologySpreadConstraints : List TopologySpreadConstraint := []
  resourceClaims : List PodResourceClaim := []
  resourceClaimStatuses : List PodResourceClaimStatus := []
  containerClaims : List String := []
  ownedByDaemonSet : Bool := false

namespace Pod

variable (pod : Pod)

def isScheduled : Bool := !pod.nodeName.isEmpty

def isPending : Bool := pod.phase = .pending

def isTerminal : Bool := pod.phase = .failed || pod.phase = .succeeded

def hasPodAntiAffinity : Bool :=
  pod.podAntiAffinity.any fun affinity => !affinity.required.isEmpty || !affinity.preferred.isEmpty

def hasRequiredPodAntiAffinity : Bool :=
  pod.hasPodAntiAffinity && pod.podAntiAffinity.any fun affinity => !affinity.required.isEmpty

def hasDRARequirements : Bool :=
  !pod.resourceClaims.isEmpty || !pod.containerClaims.isEmpty

def hasPreferredNodeAffinity : Bool :=
  pod.nodeAffinity.any fun affinity => !affinity.preferred.isEmpty

end Pod

/-! ### Nodes -/

def nodeRegisteredLabelKey : String := "karpenter.sh/registered"

/-- The label a node carries once it is ready for pods. -/
def nodeInitializedLabelKey : String := "karpenter.sh/initialized"

def labelInstanceTypeStable : String := "node.kubernetes.io/instance-type"

def labelValue (labels : GoMap String String) (key : String) : String :=
  (labels.lookup key).getD ""

/-- A node object. API objects have a name. -/
structure Node where
  name : String
  providerID : String := ""
  labels : GoMap String String := ∅
  taints : List Taint := []
  capacity : ResourceList := ∅
  allocatable : ResourceList := ∅
  ready : Bool := true
  deleting : Bool := false
  name_ne : name ≠ "" := by decide

structure NodeClaim where
  name : String
  providerID : String := ""
  labels : GoMap String String := ∅
  taints : List Taint := []
  startupTaints : List Taint := []
  capacity : ResourceList := ∅
  allocatable : ResourceList := ∅
  deleting : Bool := false
  instanceTerminating : Bool := false
  name_ne : name ≠ "" := by decide

end Kraftsman.Apis
