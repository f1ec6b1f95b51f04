import Kraftsman.Scheduling.Requirements
import Kraftsman.Scheduling.Usage

/-!
Contract: one topology, the pods counted in its domains and the domains it still
allows.

Owns: node filters, the identity of groups, the domains of a new group, counting,
and the domain a pod may go to next.
Does not own: which groups exist and which pods are counted in them.
-/

namespace Kraftsman.Provisioning

open Apis Data Scheduling

inductive TopologyType where
  | spread
  | podAffinity
  | podAntiAffinity
  deriving DecidableEq, Repr

/-! ### Node filters -/

/-- Which nodes a topology counts. The empty filter counts all. -/
structure TopologyNodeFilter where
  requirements : List Requirements := []
  taintPolicy : Option NodeInclusionPolicy := none
  affinityPolicy : Option NodeInclusionPolicy := none
  tolerations : List Toleration := []

variable (tables : LabelTables)

def makeTopologyNodeFilter (pod : Pod) (taintPolicy affinityPolicy : NodeInclusionPolicy) :
    TopologyNodeFilter :=
  let selector := Requirements.newLabelRequirements tables pod.nodeSelector
  { requirements :=
      match pod.nodeAffinity.bind (·.required) with
      | none => [selector]
      | some terms => terms.map fun term =>
        ((Requirements.newRequirements tables selector.values).add tables
          (Requirements.newNodeSelectorRequirements tables term.matchExpressions).values)
    taintPolicy := some taintPolicy
    affinityPolicy := some affinityPolicy
    tolerations := pod.tolerations }

namespace TopologyNodeFilter

variable (filter : TopologyNodeFilter)

def matchesRequirements (requirements : Requirements) : Bool :=
  filter.requirements.isEmpty || filter.affinityPolicy = some .ignore ||
    filter.requirements.any fun term => requirements.isCompatible tables term ∅

/-- Whether a node takes part in the topology. -/
def matchesNode (taints : List Taint) (requirements : Requirements) : Bool :=
  (filter.affinityPolicy ≠ some .honor || filter.matchesRequirements tables requirements) &&
    (filter.taintPolicy ≠ some .honor || (untolerated taints filter.tolerations).isEmpty)

/-- Whether no term can be met by a node with the requirements. An open key is no conflict. -/
def conflictsWithRequirements (requirements : Requirements) : Bool :=
  !filter.requirements.isEmpty && filter.affinityPolicy ≠ some .ignore &&
    filter.requirements.all fun term => !(requirements.intersects tables term).isEmpty

end TopologyNodeFilter

/-! ### Domains -/

structure TopologyDomainSource where
  taints : List Taint
  requirements : Requirements

/-- The domains of a key, and the NodePools that can supply each. -/
abbrev TopologyDomainGroup := GoMap String (GoMap String TopologyDomainSource)

def TopologyDomainGroup.domainsFor (domainGroup : TopologyDomainGroup) (pod : Pod)
    (filter : TopologyNodeFilter) : List String :=
  (domainGroup.entries.filter fun entry => entry.2.values.any fun source =>
    (filter.taintPolicy = some .ignore || (toleratesPod source.taints pod).isEmpty) &&
      !(filter.affinityPolicy = some .honor &&
        filter.conflictsWithRequirements tables source.requirements)).map (·.1)

/-! ### Groups -/

/-- A topology: the pods it selects, the nodes it counts and the pods in each
domain. `emptyDomains` are the known ones without a pod. Counts are exact; the
source has 32-bit ones, so results about them stay below that limit. -/
structure TopologyGroup where
  key : String
  type : TopologyType
  maxSkew : Int
  minDomains : Option Int
  namespaces : Finset String
  rawSelector : Option LabelSelector
  nodeFilter : TopologyNodeFilter
  owners : Finset String
  domains : GoMap String Nat
  emptyDomains : Finset String

/-- The largest 32-bit integer, the skew of a term that bounds none. -/
def maxInt32 : Int := 2 ^ 31 - 1

/-- A group without counted pods. Only spread constraints filter nodes; they
ignore taints and honor affinity unless told otherwise. -/
def newTopologyGroup (type : TopologyType) (key : String) (pod : Pod) (namespaces : Finset String)
    (labelSelector : Option LabelSelector) (maxSkew : Int) (minDomains : Option Int)
    (taintPolicy affinityPolicy : Option NodeInclusionPolicy) (domainGroup : TopologyDomainGroup) :
    TopologyGroup :=
  let nodeFilter :=
    match type with
    | .spread => makeTopologyNodeFilter tables pod (taintPolicy.getD .ignore)
        (affinityPolicy.getD .honor)
    | _ => {}
  let domains := domainGroup.domainsFor tables pod nodeFilter
  { key := key, type := type, maxSkew := maxSkew, minDomains := minDomains,
    namespaces := namespaces, rawSelector := labelSelector, nodeFilter := nodeFilter, owners := ∅,
    domains := GoMap.ofList (domains.map fun domain => (domain, 0)),
    emptyDomains := domains.toFinset }

namespace TopologyGroup

variable (group : TopologyGroup)

/-- Whether the pod is selected. A selector that does not parse selects nothing. -/
def selects (pod : Pod) : Bool :=
  decide (pod.nameSpace ∈ group.namespaces) &&
    ((LabelSelector.asSelector group.rawSelector).getD fun _ => false) pod.labels

def counts (pod : Pod) (taints : List Taint) (requirements : Requirements) : Bool :=
  group.selects pod && group.nodeFilter.matchesNode tables taints requirements

def count (domain : String) : Nat := (group.domains.lookup domain).getD 0

def record (domains : List String) : TopologyGroup :=
  domains.foldl (fun group domain =>
    { group with
      domains := group.domains.insert domain (group.count domain + 1)
      emptyDomains := group.emptyDomains.erase domain }) group

def register (domain : String) : TopologyGroup :=
  if domain ∈ group.domains then group
  else
    { group with
      domains := group.domains.insert domain 0
      emptyDomains := insert domain group.emptyDomains }

def addOwner (uid : String) : TopologyGroup := { group with owners := insert uid group.owners }

def removeOwner (uid : String) : TopologyGroup := { group with owners := group.owners.erase uid }

def isOwnedBy (uid : String) : Bool := uid ∈ group.owners

/-! ### Identity -/

/-- A list hashed as a set: an element listed an even number of times cancels out. -/
def hashedSet {A : Type} [DecidableEq A] (list : List A) : Finset A :=
  list.toFinset.filter fun element => list.count element % 2 = 1

structure RequirementID where
  key : String
  complement : Bool
  values : Finset String
  gte : Option Int
  lte : Option Int
  deriving DecidableEq

/-- What the hash of a selector covers; repeated expressions count once. -/
structure SelectorID where
  matchLabels : Finset (String × String)
  matchExpressions : Finset (String × LabelSelectorOperator × Finset String)
  deriving DecidableEq

/-- What the hash of a group covers: groups that agree on it are one. -/
structure ID where
  key : String
  type : TopologyType
  namespaces : Finset String
  maxSkew : Int
  terms : Finset (Finset RequirementID)
  taintPolicy : Option NodeInclusionPolicy
  affinityPolicy : Option NodeInclusionPolicy
  tolerations : Finset Toleration
  selector : Option SelectorID
  deriving DecidableEq

/-- What the hash of a term of a node filter covers. -/
def termID (term : Requirements) : Finset RequirementID :=
  (term.values.map fun requirement =>
    { key := requirement.key, complement := requirement.complement,
      values := requirement.values, gte := requirement.gte, lte := requirement.lte }).toFinset

def selectorID (selector : LabelSelector) : SelectorID where
  matchLabels := (selector.matchLabels.entries.map fun label => (label.1, label.2)).toFinset
  matchExpressions := (selector.matchExpressions.map fun expression =>
    (expression.key, expression.operator, hashedSet expression.values)).toFinset

def hash : ID where
  key := group.key
  type := group.type
  namespaces := group.namespaces
  maxSkew := group.maxSkew
  terms := hashedSet (group.nodeFilter.requirements.map termID)
  taintPolicy := group.nodeFilter.taintPolicy
  affinityPolicy := group.nodeFilter.affinityPolicy
  tolerations := hashedSet group.nodeFilter.tolerations
  selector := group.rawSelector.map selectorID

/-! ### The next domain -/

def options (values : Finset String) : Requirement :=
  { Requirement.newRequirement tables group.key .opDoesNotExist [] with values := values }

def onlyValue (requirement : Requirement) : Option String :=
  if requirement.values.card = 1 then (sortedStrings requirement.values).head? else none

/-- The node in question, for topologies over single nodes. A node to come is no
known domain before a pod is placed on it. -/
def hostName (nodeDomains : Requirement) : Option String :=
  if group.key = labelHostname then onlyValue nodeDomains else none

def domainMinCount (podDomains : Requirement) : Int :=
  if group.key = labelHostname then 0
  else
    let supported := group.domains.entries.filter fun entry => podDomains.has entry.1
    if group.minDomains.any fun minDomains => (supported.length : Int) < minDomains then 0
    else supported.foldl (fun least entry => min least entry.2) maxInt32

def candidateDomains (order : RangeOrder String) (nodeDomains : Requirement) : List String :=
  if nodeDomains.operator = .opIn then
    (order.visit 0 (sortedStrings nodeDomains.values)).filter (· ∈ group.domains)
  else (order.visit 0 group.domains.keys).filter (nodeDomains.has ·)

variable (order : RangeOrder String) (pod : Pod) (podDomains nodeDomains : Requirement)

/-- A domain within the skew, with the fewest pods, and all the domains within it. -/
def nextDomainTopologySpread : Requirement × Finset String :=
  let self : Int := if group.selects pod then 1 else 0
  match group.hostName nodeDomains with
  | some hostName =>
    -- a node can always be added, so the smallest count is zero
    if group.count hostName + self ≤ group.maxSkew then
      (.newRequirement tables group.key .opIn [hostName], {hostName})
    else (.newRequirement tables group.key .opDoesNotExist [], ∅)
  | none =>
    let least := group.domainMinCount podDomains
    let valid := (group.candidateDomains order nodeDomains).filter fun domain =>
      group.count domain + self - least ≤ group.maxSkew
    let chosen := valid.foldl (fun (chosen : String × Int) domain =>
      let count := group.count domain + self
      if count < chosen.2 then (domain, count) else chosen) ("", maxInt32)
    if chosen.1 = "" then (.newRequirement tables group.key .opDoesNotExist [], valid.toFinset)
    else (.newRequirement tables group.key .opIn [chosen.1], valid.toFinset)

/-- Whether a pod is counted in some domain the pod supports. -/
def anyCompatiblePodDomain (podDomains : Requirement) : Bool :=
  group.domains.entries.any fun entry => podDomains.has entry.1 && 0 < entry.2

def mayBootstrap (pod : Pod) (podDomains : Requirement) : Bool :=
  group.selects pod &&
    (decide (group.domains.entries.length = group.emptyDomains.card) ||
      !group.anyCompatiblePodDomain podDomains)

def nextDomainAffinity : Requirement :=
  match group.hostName nodeDomains with
  | some hostName =>
    if !podDomains.has hostName then group.options tables ∅
    else if 0 < group.count hostName || group.mayBootstrap pod podDomains then
      group.options tables {hostName}
    else group.options tables ∅
  | none =>
    let occupied := (group.candidateDomains order nodeDomains).filter fun domain =>
      podDomains.has domain && 0 < group.count domain
    if !occupied.isEmpty then group.options tables occupied.toFinset
    else if group.mayBootstrap pod podDomains then
      let intersected := podDomains.intersection tables nodeDomains
      -- the node's own domain if it has one, and the first one the pod supports
      let first := (order.visit 1 group.domains.keys).find? (intersected.has ·)
      let second := (order.visit 2 group.domains.keys).find? (podDomains.has ·)
      group.options tables (first.toList ++ second.toList).toFinset
    else group.options tables ∅

def nextDomainAntiAffinity (podDomains nodeDomains : Requirement) : Requirement :=
  match group.hostName nodeDomains with
  | some hostName =>
    if group.count hostName = 0 then group.options tables {hostName}
    else group.options tables ∅
  | none =>
    if nodeDomains.operator = .opIn ∧ nodeDomains.len < group.emptyDomains.card then
      group.options tables (nodeDomains.values.filter fun domain =>
        domain ∈ group.emptyDomains ∧ podDomains.has domain = true)
    else
      group.options tables (group.emptyDomains.filter fun domain =>
        nodeDomains.has domain = true ∧ podDomains.has domain = true)

def get : Requirement × Finset String :=
  match group.type with
  | .spread => group.nextDomainTopologySpread tables order pod podDomains nodeDomains
  | .podAffinity =>
    let requirement := group.nextDomainAffinity tables order pod podDomains nodeDomains
    (requirement, requirement.values)
  | .podAntiAffinity =>
    let requirement := group.nextDomainAntiAffinity tables podDomains nodeDomains
    (requirement, requirement.values)

end TopologyGroup

end Kraftsman.Provisioning
