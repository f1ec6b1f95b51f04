import Kraftsman.CloudProvider.InstanceTypes
import Kraftsman.Provisioning.TopologyGroup
import Kraftsman.State.StateNode

/-!
Contract: the topologies of one scheduling run.

They come from the spread constraints and affinity terms of the pods to schedule;
inverse ones from the required anti-affinity of any pod.

Owns: which groups exist, which pods own them, what they have counted, and the
requirements they add to a node.
Does not own: the counts of a single group, and when pods are placed or relaxed.
-/

namespace Kraftsman.Provisioning

open Apis CloudProvider Data Scheduling State

inductive PreferencePolicy where
  | respect
  | ignore
  deriving DecidableEq, Repr

/-- The pods, nodes, labelled namespaces, and bound pods with required
anti-affinity during a run. -/
structure ClusterView where
  pods : List Pod := []
  nodes : List Node := []
  namespaces : List (String × GoMap String String) := []
  antiAffinityPods : List (Pod × Node) := []

/-- A read of the API server. -/
inductive ClusterRead where
  | namespaces (selector : LabelSelector)
  | pods (nameSpace : String) (selector : Option LabelSelector)
  | node (name : String)
  deriving DecidableEq

/-- Whether topologies leave a pod out of their counts. -/
def ignoredForTopology (pod : Pod) : Bool :=
  !pod.isScheduled || pod.isTerminal || pod.terminating

/-- Whether a listing has pods with the labels; without a selector it has all. -/
def topologyListOptions (selector : Option LabelSelector) (labels : GoMap String String) : Bool :=
  selector.all fun selector => selector.parses && selector.holds labels

variable (tables : LabelTables)

namespace ClusterView

variable (view : ClusterView)

def node (name : String) : Option Node := view.nodes.find? (·.name = name)

variable (group : TopologyGroup)

/-- The domain of a node's pods. A node without the label of its name is known by the name. -/
def nodeDomain (node : Node) : Option String :=
  match node.labels.lookup group.key with
  | some domain => some domain
  | none => if group.key = labelHostname then some node.name else none

def podDomain (pod : Pod) : Option String := do
  let node ← view.node pod.nodeName
  let domain ← nodeDomain group node
  if group.nodeFilter.matchesNode tables node.taints
      (.newLabelRequirements tables node.labels) then some domain
  else none

def listedPods : List Pod :=
  (sortedStrings group.namespaces).flatMap fun nameSpace =>
    view.pods.filter fun pod => decide (pod.nameSpace = nameSpace) &&
      topologyListOptions group.rawSelector pod.labels && !ignoredForTopology pod

def scanReads : List ClusterRead :=
  (sortedStrings group.namespaces).map (.pods · group.rawSelector) ++
    (view.listedPods group).map fun pod => .node pod.nodeName

def podDomainRecords : List (String × String) :=
  (view.listedPods group).filterMap fun pod =>
    (view.podDomain tables group pod).map fun domain => (pod.uid, domain)

def scanTopologyPodDomains (fails : ClusterRead → Bool) (group : TopologyGroup) :
    Option (List (String × String)) :=
  if (view.scanReads group).any fails then none else some (view.podDomainRecords tables group)

/-- The namespaces of a term, by default the pod's own. None if the selector does
not parse or the read fails. -/
def buildNamespaceList (fails : ClusterRead → Bool) (pod : Pod) (term : PodAffinityTerm) :
    Option (Finset String) :=
  match term.namespaceSelector with
  | none =>
    some (if term.namespaces.isEmpty then {pod.nameSpace} else term.namespaces.toFinset)
  | some selector =>
    if !selector.parses || fails (.namespaces selector) then none
    else
      some (((view.namespaces.filter fun nameSpace => selector.holds nameSpace.2).map (·.1) ++
        term.namespaces).toFinset)

end ClusterView

/-- What a NodePool's nodes have in common, whatever their instance type. -/
def nodePoolRequirements (nodePool : NodePool) : Requirements :=
  (Requirements.newNodeSelectorRequirementsWithMinValues tables nodePool.template.requirements).add
    tables (Requirements.newLabelRequirements tables nodePool.template.labels).values

def nodePoolDomainRequirements (nodePool : NodePool) : Requirements :=
  let labels : GoMap String String := (∅ : GoMap String String).insert nodePoolLabelKey nodePool.name
  let labels := nodePool.template.nodeClassRef.elim labels fun ref => labels.insert ref.1 ref.2
  (nodePoolRequirements tables nodePool).add tables
    (Requirements.newLabelRequirements tables labels).values

def insertDomain (nodePool : String) (source : TopologyDomainSource) (key : String)
    (groups : GoMap String TopologyDomainGroup) (domain : String) :
    GoMap String TopologyDomainGroup :=
  groups.alter key fun group => some ((group.getD ∅).alter domain fun sources =>
    some ((sources.getD ∅).insert nodePool source))

def insertDomains (nodePool : String) (source : TopologyDomainSource)
    (groups : GoMap String TopologyDomainGroup) (requirement : Requirement) :
    GoMap String TopologyDomainGroup :=
  (sortedStrings requirement.values).foldl
    (insertDomain nodePool source requirement.key) groups

/-- The domains NodePools can supply, by key. Instance types are limited by their NodePool. -/
def buildDomainGroups (nodePools : List NodePool)
    (instanceTypes : GoMap String (List InstanceType)) : GoMap String TopologyDomainGroup :=
  nodePools.foldl (fun groups nodePool =>
    match instanceTypes.lookup nodePool.name with
    | none => groups
    | some its =>
      let source : TopologyDomainSource :=
        { taints := nodePool.template.taints
          requirements := nodePoolDomainRequirements tables nodePool }
      let requirements := nodePoolRequirements tables nodePool
      let groups := its.foldl (fun groups it =>
        (requirements.add tables it.requirements.values).values.foldl
          (insertDomains nodePool.name source) groups) groups
      (requirements.values.filter (·.operator = .opIn)).foldl
        (insertDomains nodePool.name source) groups) ∅

/-- What tells the inverse groups apart: key, namespaces and selector. -/
structure InverseID where
  key : String
  namespaces : Finset String
  selector : Option (Finset (String × String) ×
    Finset (String × LabelSelectorOperator × Multiset String))
  deriving DecidableEq

def inverseTopologyGroupKey (key : String) (namespaces : Finset String)
    (selector : Option LabelSelector) : InverseID where
  key := key
  namespaces := namespaces
  selector := selector.map fun selector =>
    ((selector.matchLabels.entries.map fun label => (label.1, label.2)).toFinset,
      (selector.matchExpressions.map fun expression =>
        (expression.key, expression.operator, (expression.values : Multiset String))).toFinset)

/-- The topologies of a run. `excludedPods`, those to schedule, are not counted
where they are bound. -/
structure Topology where
  preferencePolicy : PreferencePolicy
  view : ClusterView
  stateNodes : List StateNode
  domainGroups : GoMap String TopologyDomainGroup
  excludedPods : Finset String
  topologyGroups : GoMap TopologyGroup.ID TopologyGroup := ∅
  inverseTopologyGroups : GoMap InverseID TopologyGroup := ∅

structure TopologyError where
  key : String
  type : TopologyType
  podDomains : Requirement
  nodeDomains : Requirement

namespace TopologyGroup

variable (group : TopologyGroup)

/-- Know the domain of a node, unless it is in flight or filtered out. -/
def registerNode (stateNode : StateNode) : TopologyGroup :=
  match stateNode.node with
  | none => group
  | some node =>
    if group.nodeFilter.matchesNode tables node.taints
        (.newLabelRequirements tables node.labels) then
      (stateNode.labels.lookup group.key).elim group group.register
    else group

/-- Count a placed pod. Anti-affinity blocks all the domains it may be in;
otherwise only a known domain counts. -/
def recordPlacement (pod : Pod) (taints : List Taint) (requirements : Requirements) :
    TopologyGroup :=
  if group.counts tables pod taints requirements then
    let domains := requirements.get tables group.key
    if group.type = .podAntiAffinity then group.record (sortedStrings domains.values)
    else if domains.len = 1 then group.record ((sortedStrings domains.values).take 1)
    else group
  else group

/-- Block the domains an owner of the group may be in. -/
def recordOwner (pod : Pod) (requirements : Requirements) : TopologyGroup :=
  if group.isOwnedBy pod.uid then
    group.record (sortedStrings (requirements.get tables group.key).values)
  else group

end TopologyGroup

namespace Topology

variable (t : Topology)

variable (fails : ClusterRead → Bool)

/-- Know the nodes' domains and count bound pods that are not excluded; none if a read fails. -/
def countDomains (group : TopologyGroup) : Option TopologyGroup :=
  let known := t.stateNodes.foldl (fun group stateNode => group.registerNode tables stateNode) group
  (t.view.scanTopologyPodDomains tables fails known).map fun records =>
    known.record ((records.filter fun record => record.1 ∉ t.excludedPods).map (·.2))

variable (pod : Pod)

/-- The groups of spread constraints. Match label keys are folded into the selector. -/
def newForTopologies : List TopologyGroup :=
  (pod.topologySpreadConstraints.filter fun constraint =>
    !(t.preferencePolicy = .ignore && constraint.whenUnsatisfiable ≠ .doNotSchedule)).map
    fun constraint =>
      let selector := constraint.labelSelector.map fun selector =>
        { selector with
          matchExpressions := selector.matchExpressions ++
            constraint.matchLabelKeys.filterMap fun key => (pod.labels.lookup key).map fun value =>
              { key := key, operator := .opIn, values := [value] } }
      newTopologyGroup tables .spread constraint.topologyKey pod {pod.nameSpace} selector
        constraint.maxSkew constraint.minDomains constraint.nodeTaintsPolicy
        constraint.nodeAffinityPolicy ((t.domainGroups.lookup constraint.topologyKey).getD ∅)

def newForTerm (type : TopologyType) (pod : Pod) (namespaces : Finset String)
    (term : PodAffinityTerm) : TopologyGroup :=
  newTopologyGroup tables type term.topologyKey pod namespaces term.labelSelector maxInt32 none none
    none ((t.domainGroups.lookup term.topologyKey).getD ∅)

def affinityTerms (affinity : Option PodAffinity) : List PodAffinityTerm :=
  affinity.elim [] fun affinity => affinity.required ++
    if t.preferencePolicy = .respect then affinity.preferred.map (·.podAffinityTerm) else []

/-- The groups of affinity and anti-affinity terms, the two kinds in any order. -/
def newForAffinities (antiAffinityFirst : Bool) (pod : Pod) : Option (List TopologyGroup) :=
  let affinity := (t.affinityTerms pod.podAffinity).map (TopologyType.podAffinity, ·)
  let antiAffinity := (t.affinityTerms pod.podAntiAffinity).map (TopologyType.podAntiAffinity, ·)
  (if antiAffinityFirst then antiAffinity ++ affinity else affinity ++ antiAffinity).mapM
    fun (type, term) => (t.view.buildNamespaceList fails pod term).map fun namespaces =>
      t.newForTerm tables type pod namespaces term

def trackTerm (domains : GoMap String String) (term : PodAffinityTerm) (namespaces : Finset String) :
    Topology :=
  let id := inverseTopologyGroupKey term.topologyKey namespaces term.labelSelector
  let group := (t.inverseTopologyGroups.lookup id).getD
    (t.newForTerm tables .podAntiAffinity pod namespaces term)
  let group := (domains.lookup group.key).elim group fun domain => group.record [domain]
  { t with inverseTopologyGroups := t.inverseTopologyGroups.insert id (group.addOwner pod.uid) }

def trackTerms (fails : ClusterRead → Bool) (pod : Pod) (domains : GoMap String String) :
    Topology → List PodAffinityTerm → Topology × Bool
  | t, [] => (t, true)
  | t, term :: rest =>
    match t.view.buildNamespaceList fails pod term with
    | none => (t, false)
    | some namespaces =>
      trackTerms fails pod domains (t.trackTerm tables pod domains term namespaces) rest

def updateInverseAntiAffinity (domains : GoMap String String) : Topology × Bool :=
  trackTerms tables fails pod domains t (pod.podAntiAffinity.elim [] (·.required))

/-- Make the pod an owner of groups, counting new ones, up to the first failure. -/
def ownGroups (fails : ClusterRead → Bool) (pod : Pod) :
    Topology → List TopologyGroup → Topology × Bool
  | t, [] => (t, true)
  | t, group :: rest =>
    match t.topologyGroups.lookup group.hash with
    | some existing =>
      ownGroups fails pod
        { t with topologyGroups :=
            t.topologyGroups.insert group.hash (existing.addOwner pod.uid) } rest
    | none =>
      match t.countDomains tables fails group with
      | none => (t, false)
      | some counted =>
        ownGroups fails pod
          { t with topologyGroups :=
              t.topologyGroups.insert group.hash (counted.addOwner pod.uid) } rest

/-- Stop a pod from owning groups. Inverse groups keep their owners. -/
def removeOwner (uid : String) : Topology :=
  { t with topologyGroups := t.topologyGroups.mapValues (·.removeOwner uid) }

def tracksAntiAffinity : Bool :=
  match t.preferencePolicy with
  | .ignore => pod.hasRequiredPodAntiAffinity
  | .respect => pod.hasPodAntiAffinity

/-- Give up the groups of a pod for those its terms stand for now. After a failure
the rest is left as it is. -/
def update (antiAffinityFirst : Bool) (pod : Pod) : Topology × Bool :=
  let t := t.removeOwner pod.uid
  let (t, tracked) :=
    if t.tracksAntiAffinity pod then t.updateInverseAntiAffinity tables fails pod ∅ else (t, true)
  if !tracked then (t, false)
  else
    match t.newForAffinities tables fails antiAffinityFirst pod with
    | none => (t, false)
    | some affinities =>
      ownGroups tables fails pod t (t.newForTopologies tables pod ++ affinities)

def record (taints : List Taint) (requirements : Requirements) : Topology :=
  { t with
    topologyGroups := t.topologyGroups.mapValues (·.recordPlacement tables pod taints requirements)
    inverseTopologyGroups := t.inverseTopologyGroups.mapValues
      (·.recordOwner tables pod requirements) }

def register (key domain : String) : Topology :=
  let registered (group : TopologyGroup) := if group.key = key then group.register domain else group
  { t with
    topologyGroups := t.topologyGroups.mapValues registered
    inverseTopologyGroups := t.inverseTopologyGroups.mapValues registered }

/-- Whether some topology could restrict where the pod goes. -/
def constrains : Bool :=
  (t.topologyGroups.values.any (·.isOwnedBy pod.uid)) ||
    t.inverseTopologyGroups.values.any (·.selects pod)

/-- The groups a pod owns, and the inverse ones that count it. -/
def getMatchingTopologies (taints : List Taint) (requirements : Requirements) :
    List TopologyGroup :=
  t.topologyGroups.values.filter (·.isOwnedBy pod.uid) ++
    t.inverseTopologyGroups.values.filter (·.counts tables pod taints requirements)

def addGroup (podRequirements nodeRequirements : Requirements) (order : Nat → RangeOrder String)
    (requirements : Requirements) (indexed : TopologyGroup × Nat) :
    Except TopologyError Requirements :=
  let group := indexed.1
  let podDomains := podRequirements.get tables group.key
  let nodeDomains := nodeRequirements.get tables group.key
  let domains := (group.get tables (order indexed.2) pod podDomains nodeDomains).1
  if domains.len = 0 then
    .error { key := group.key, type := group.type, podDomains := podDomains, nodeDomains := nodeDomains }
  else .ok (requirements.add tables [domains])

/-- A node's requirements with those that topologies add. Groups and their domains
are visited in any order. -/
def addRequirements (groupOrder : RangeOrder TopologyGroup) (order : Nat → RangeOrder String)
    (pod : Pod) (taints : List Taint) (podRequirements nodeRequirements : Requirements) :
    Except TopologyError Requirements :=
  (groupOrder.visit 0 (t.getMatchingTopologies tables pod taints nodeRequirements)).zipIdx.foldlM
    (addGroup tables pod podRequirements nodeRequirements order)
    (.newRequirements tables nodeRequirements.values)

end Topology

def updateInverseAffinities (fails : ClusterRead → Bool) (t : Topology) : Topology × Bool :=
  (t.view.antiAffinityPods.filter fun bound => bound.1.uid ∉ t.excludedPods).foldl
    (fun (t, tracked) bound =>
      let (t, done) := t.updateInverseAntiAffinity tables fails bound.1 bound.2.labels
      (t, tracked && done)) (t, true)

def newTopology (fails : ClusterRead → Bool) (antiAffinityFirst : String → Bool)
    (preferencePolicy : PreferencePolicy) (view : ClusterView) (stateNodes : List StateNode)
    (nodePools : List NodePool) (instanceTypes : GoMap String (List InstanceType))
    (pods : List Pod) : Option Topology :=
  let empty : Topology :=
    { preferencePolicy := preferencePolicy, view := view, stateNodes := stateNodes,
      domainGroups := buildDomainGroups tables nodePools instanceTypes,
      excludedPods := (pods.map (·.uid)).toFinset }
  let (t, done) := pods.foldl (fun (t, done) pod =>
      let (t, updated) := t.update tables fails (antiAffinityFirst pod.uid) pod
      (t, done && updated))
    (updateInverseAffinities tables fails empty)
  if done then some t else none

end Kraftsman.Provisioning
