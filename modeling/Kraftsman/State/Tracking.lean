import Kraftsman.State.Events

/-!
Contract: cluster state keeps track of every node and NodeClaim that exists.

Owns: when handlers find the state they look for, and that forgetting one object
does not blank the state of another.
Does not own: the resources and pods of the tracked nodes.
-/

namespace Kraftsman.State

open Apis Data Data.FallibleLoop Scheduling GoMap Cluster ClusterRun Option

section Named

variable {O : Type} (idOf : O → String)

/-- Names lead to the provider ids of live objects, and an object is stored there. -/
structure Tracked (live : String → Option O) (names : String → Option String)
    (stored : String → Option O) : Prop where
  names_eq : ∀ name, names name = (live name).map idOf
  stored_of_live : ∀ name object, live name = some object → idOf object ≠ "" →
    ∃ latest, stored (idOf object) = some latest ∧ idOf latest = idOf object

/-- No other live object has the provider id. -/
def SoleHolder (live : GoMap String O) (name id : String) : Prop :=
  id ≠ "" → ∀ entry ∈ live.entries, idOf entry.2 = id → entry.1 = name

instance (live : GoMap String O) (name id : String) : Decidable (SoleHolder idOf live name id) :=
  inferInstanceAs (Decidable (_ → _))

theorem SoleHolder.eq_of_lookup {idOf : O → String} {live : GoMap String O} {name id : String}
    (sole : SoleHolder idOf live name id) (launched : id ≠ "") (other : String) (object : O)
    (isLive : live.lookup other = some object) (sameID : idOf object = id) : other = name :=
  sole launched ⟨other, object⟩ (mem_entries_iff.mpr isLive) sameID

variable {idOf} {live live' : String → Option O} {names names' : String → Option String}
variable {stored stored' : String → Option O} {name id : String}

section

variable (tracked : Tracked idOf live names stored)
include tracked

theorem Tracked.forget
    (sole : id ≠ "" → ∀ other object, live other = some object → idOf object = id → other = name)
    (liveAfter : ∀ other, live' other = if other = name then none else live other)
    (namesAfter : ∀ other, names' other = if other = name then none else names other)
    (storedAfter : ∀ other, other ≠ id → stored' other = stored other) :
    Tracked idOf live' names' stored' where
  names_eq other := by
    rw [liveAfter, namesAfter, tracked.names_eq other]
    split_ifs <;> rfl
  stored_of_live other object isLive launched := by
    rw [liveAfter] at isLive
    split_ifs at isLive with isName
    have elsewhere : idOf object ≠ id := fun same =>
      isName (sole (same ▸ launched) other object isLive same)
    rw [storedAfter _ elsewhere]
    exact tracked.stored_of_live other object isLive launched

theorem Tracked.join (name : String) (object : O)
    (liveAfter : ∀ other, live' other = if other = name then some object else live other)
    (namesAfter : ∀ other, names' other = if other = name then some (idOf object) else names other)
    (storedAfter : ∀ other, other ≠ "" →
      stored' other = if other = idOf object then some object else stored other) :
    Tracked idOf live' names' stored' where
  names_eq other := by
    rw [liveAfter, namesAfter, tracked.names_eq other]
    split_ifs <;> rfl
  stored_of_live other found isLive launched := by
    rw [storedAfter _ launched]
    split_ifs with here
    · exact ⟨object, rfl, here.symm⟩
    · rw [liveAfter] at isLive
      split_ifs at isLive with isName
      · exact absurd (congrArg idOf (some.inj isLive)).symm here
      · exact tracked.stored_of_live other found isLive launched

theorem Tracked.of_stored_eq (same : ∀ id, stored' id = stored id) :
    Tracked idOf live names stored' where
  names_eq := tracked.names_eq
  stored_of_live name object isLive launched := by
    rw [same]
    exact tracked.stored_of_live name object isLive launched

end

end Named

variable (evictionCost : Pod → ℚ)

namespace Cluster

def nodeAt (c : Cluster) (id : String) : Option Node := (c.nodes.lookup id).bind (·.node)

def nodeClaimAt (c : Cluster) (id : String) : Option NodeClaim :=
  (c.nodes.lookup id).bind (·.nodeClaim)

variable {c c' : Cluster} {id name : String} {oldNode : StateNode} {newNode : Option StateNode}
variable {live liveNodes : GoMap String Node} {nodeClaim : NodeClaim}
variable {liveNodeClaims : GoMap String NodeClaim}

theorem SameObjects.nodeAt (same : c.SameObjects c') (id : String) :
    c'.nodeAt id = c.nodeAt id := by
  have objects := same.objects id
  unfold Cluster.nodeAt
  cases before : c.nodes.lookup id <;> cases after : c'.nodes.lookup id <;>
    simp_all [StateNode.objects]

theorem SameObjects.nodeClaimAt (same : c.SameObjects c') (id : String) :
    c'.nodeClaimAt id = c.nodeClaimAt id := by
  have objects := same.objects id
  unfold Cluster.nodeClaimAt
  cases before : c.nodes.lookup id <;> cases after : c'.nodes.lookup id <;>
    simp_all [StateNode.objects]

theorem nodeAt_replaceNode (done : c.replaceNode id oldNode newNode = .ok c') (other : String) :
    c'.nodeAt other = if other = id then newNode.bind (·.node) else c.nodeAt other := by
  unfold nodeAt
  rw [lookup_replaceNode done]
  split_ifs <;> rfl

theorem nodeClaimAt_replaceNode (done : c.replaceNode id oldNode newNode = .ok c') (other : String) :
    c'.nodeClaimAt other = if other = id then newNode.bind (·.nodeClaim) else c.nodeClaimAt other := by
  unfold nodeClaimAt
  rw [lookup_replaceNode done]
  split_ifs <;> rfl

/-- Nodes are tracked as the live ones, which all have a provider id. -/
structure TracksNodes (live : GoMap String Node) (c : Cluster) : Prop where
  tracked : Tracked Node.providerID (fun name => live.lookup name)
    (fun name => c.nodeNameToProviderID.lookup name) c.nodeAt
  launched : ∀ name node, live.lookup name = some node → node.providerID ≠ ""

def TracksNodeClaims (live : GoMap String NodeClaim) (c : Cluster) : Prop :=
  Tracked NodeClaim.providerID (fun name => live.lookup name)
    (fun name => c.nodeClaimNameToProviderID.lookup name) c.nodeClaimAt

theorem TracksNodes.frame (tracks : c.TracksNodes live)
    (sameNodes : ∀ id, c'.nodeAt id = c.nodeAt id)
    (sameNames : c'.nodeNameToProviderID = c.nodeNameToProviderID) : c'.TracksNodes live := by
  have kept := tracks.tracked.of_stored_eq sameNodes
  rw [← sameNames] at kept
  exact ⟨kept, tracks.launched⟩

theorem TracksNodeClaims.frame {live : GoMap String NodeClaim} (tracks : c.TracksNodeClaims live)
    (sameClaims : ∀ id, c'.nodeClaimAt id = c.nodeClaimAt id)
    (sameNames : c'.nodeClaimNameToProviderID = c.nodeClaimNameToProviderID) :
    c'.TracksNodeClaims live := by
  have kept := Tracked.of_stored_eq tracks sameClaims
  rw [← sameNames] at kept
  exact kept

theorem SameObjects.tracksNodes (same : c.SameObjects c') (tracks : c.TracksNodes live) :
    c'.TracksNodes live :=
  tracks.frame same.nodeAt same.nodeNames

theorem SameObjects.tracksNodeClaims {live : GoMap String NodeClaim} (same : c.SameObjects c')
    (tracks : c.TracksNodeClaims live) : c'.TracksNodeClaims live :=
  tracks.frame same.nodeClaimAt same.nodeClaimNames

/-- The panics that the objects alone do not rule out. -/
def TotalsPanic (panic : ClusterPanic) : Prop := ∃ nodePool, panic = .nilNodePoolResources nodePool

theorem replaceNode_ensures {Post : Cluster → Prop}
    (post : ∀ c', c.replaceNode id oldNode newNode = .ok c' → Post c') :
    Ensures TotalsPanic Post (c.replaceNode id oldNode newNode) := by
  cases done : c.replaceNode id oldNode newNode with
  | ok c' => exact post c' done
  | error panic => exact updateNodePoolResources_eq_error (replaceNode_eq_error done)

theorem cleanupNode_nodeClaims (done : c.cleanupNode name = .ok c') :
    (∀ id, c'.nodeClaimAt id = c.nodeClaimAt id) ∧
      c'.nodeClaimNameToProviderID = c.nodeClaimNameToProviderID := by
  rcases c.cleanupNode_cases name with ⟨_, same⟩ | ⟨id, _, _, ⟨_, failed⟩ | ⟨n, found, replaces⟩⟩
  · obtain rfl := Except.ok.inj (same.symm.trans done)
    exact ⟨fun _ => rfl, rfl⟩
  · cases failed.symm.trans done
  · obtain ⟨middle, replaced, rfl⟩ := map_eq_ok.mp (replaces.symm.trans done)
    refine ⟨fun other => ?_, (replaceNode_eq_ok replaced).2.2.2⟩
    have atOther := nodeClaimAt_replaceNode replaced other
    refine atOther.trans ?_
    split_ifs with isId
    · rw [isId, nodeClaimAt, found]
      cases claimed : n.nodeClaim <;> simp [claimed]
    · rfl

theorem cleanupNodeClaim_nodes (done : c.cleanupNodeClaim name = .ok c') :
    (∀ id, c'.nodeAt id = c.nodeAt id) ∧ c'.nodeNameToProviderID = c.nodeNameToProviderID := by
  rcases c.cleanupNodeClaim_cases name with
    ⟨_, same⟩ | ⟨id, _, _, ⟨_, failed⟩ | ⟨n, found, replaces⟩⟩
  · obtain rfl := Except.ok.inj (same.symm.trans done)
    exact ⟨fun _ => rfl, rfl⟩
  · cases failed.symm.trans done
  · obtain ⟨middle, replaced, rfl⟩ := map_eq_ok.mp (replaces.symm.trans done)
    refine ⟨fun other => ?_, (replaceNode_eq_ok replaced).2.2.1⟩
    have atOther := nodeAt_replaceNode replaced other
    refine atOther.trans ?_
    split_ifs with isId
    · rw [isId, nodeAt, found]
      cases registered : n.node <;> simp [registered]
    · rfl

theorem updateNodeClaim_nodes (done : c.updateNodeClaim nodeClaim = .ok c') (id : String) :
    c'.nodeAt id = c.nodeAt id := by
  obtain ⟨c₂, rfl, ⟨_, rfl⟩ | ⟨_, c₁, moved, replaced⟩⟩ := updateNodeClaim_eq_ok done
  · rfl
  · have cleaned : c₁.nodeAt id = c.nodeAt id := by
      rcases c.cleanupMovedNodeClaim_cases nodeClaim.name nodeClaim.providerID with
        ⟨_, stays⟩ | ⟨_, _, _, moves⟩
      · rw [Except.ok.inj (stays.symm.trans moved)]
      · exact (cleanupNodeClaim_nodes (moves.symm.trans moved)).1 id
    refine (nodeAt_replaceNode replaced id).trans ?_
    split_ifs with isID
    · rw [isID, nodeAt]
      cases c.nodes.lookup nodeClaim.providerID <;> rfl
    · exact cleaned

theorem cleanupNode_ensures (nodes : c.TracksNodes live)
    (sole : ∀ node ∈ live.lookup name, SoleHolder Node.providerID live name node.providerID) :
    Ensures TotalsPanic (TracksNodes (live.erase name)) (c.cleanupNode name) := by
  have named := nodes.tracked.names_eq name
  have stillLaunched : ∀ other node, (live.erase name).lookup other = some node →
      node.providerID ≠ "" := by
    intro other node isLive
    rw [lookup_erase_eq] at isLive
    split_ifs at isLive
    exact nodes.launched other node isLive
  rcases c.cleanupNode_cases name with ⟨unlaunched, done⟩ | ⟨id, launched, isNamed, outcome⟩
  · have unknown : live.lookup name = none := by
      cases isLive : live.lookup name with
      | none => rfl
      | some node => simp [named, isLive, nodes.launched name node isLive] at unlaunched
    have unnamed : c.nodeNameToProviderID.lookup name = none := by
      rw [named, unknown]
      rfl
    rw [done]
    refine ⟨nodes.tracked.forget nofun (lookup_erase_eq _ _) ?_ fun _ _ => rfl, stillLaunched⟩
    intro other
    split_ifs with same
    · rw [same, unnamed]
    · rfl
  · obtain ⟨node, isLive, rfl⟩ := map_eq_some_iff.mp (named.symm.trans isNamed)
    rcases outcome with ⟨missing, done⟩ | ⟨n, found, done⟩
    · obtain ⟨latest, stored, _⟩ := nodes.tracked.stored_of_live name node isLive launched
      simp [nodeAt, missing] at stored
    · rw [done]
      refine (replaceNode_ensures fun c' replaced => replaced).map fun c' replaced _ =>
        ⟨?_, stillLaunched⟩
      refine nodes.tracked.forget (fun _ => (sole node isLive).eq_of_lookup launched)
        (lookup_erase_eq _ _) ?_ ?_
      · intro other
        rw [(replaceNode_eq_ok replaced).2.2.1]
        exact lookup_erase_eq _ _ other
      · intro other elsewhere
        exact (nodeAt_replaceNode replaced other).trans (if_neg elsewhere)

theorem cleanupNodeClaim_ensures {live : GoMap String NodeClaim}
    (nodeClaims : c.TracksNodeClaims live)
    (sole : ∀ nodeClaim ∈ live.lookup name,
      SoleHolder NodeClaim.providerID live name nodeClaim.providerID) :
    Ensures TotalsPanic (TracksNodeClaims (live.erase name)) (c.cleanupNodeClaim name) := by
  rcases c.cleanupNodeClaim_cases name with
    ⟨unlaunched, done⟩ | ⟨id, launched, isNamed, outcome⟩
  · rw [done]
    exact nodeClaims.forget nofun (lookup_erase_eq _ _) (lookup_erase_eq _ _) fun _ _ => rfl
  · obtain ⟨nodeClaim, isLive, rfl⟩ :=
      map_eq_some_iff.mp ((nodeClaims.names_eq name).symm.trans isNamed)
    rcases outcome with ⟨missing, done⟩ | ⟨n, found, done⟩
    · obtain ⟨latest, stored, _⟩ := nodeClaims.stored_of_live name nodeClaim isLive launched
      simp [nodeClaimAt, missing] at stored
    · rw [done]
      refine (replaceNode_ensures fun c' replaced => replaced).map fun c' replaced _ => ?_
      refine nodeClaims.forget (fun _ => (sole nodeClaim isLive).eq_of_lookup launched)
        (lookup_erase_eq _ _) ?_ ?_
      · intro other
        rw [(replaceNode_eq_ok replaced).2.2.2]
        exact lookup_erase_eq _ _ other
      · intro other elsewhere
        exact (nodeClaimAt_replaceNode replaced other).trans (if_neg elsewhere)

theorem joinNode_ensures (pods : List (Pod × Volumes)) (limits : GoMap String Nat) {node : Node}
    (nodes : c.TracksNodes liveNodes) (nodeClaims : c.TracksNodeClaims liveNodeClaims)
    (launched : node.providerID ≠ "") (isOld : c.nodeClaimAt node.providerID = oldNode.nodeClaim)
    (sole : ∀ old ∈ liveNodes.lookup node.name, old.providerID ≠ node.providerID →
      SoleHolder Node.providerID liveNodes node.name old.providerID) :
    Ensures TotalsPanic (fun c' => c'.TracksNodes (liveNodes.insert node.name node) ∧
        c'.TracksNodeClaims liveNodeClaims)
      (c.joinNode evictionCost oldNode node pods limits) := by
  have cleaned : Ensures TotalsPanic (fun c₁ =>
      (∃ live, (∀ other, other ≠ node.name → live.lookup other = liveNodes.lookup other) ∧
        c₁.TracksNodes live) ∧
      (∀ id, c₁.nodeClaimAt id = c.nodeClaimAt id) ∧
      c₁.nodeClaimNameToProviderID = c.nodeClaimNameToProviderID)
      (c.cleanupMovedNode node.name node.providerID) := by
    rcases c.cleanupMovedNode_cases node.name node.providerID with ⟨_, stays⟩ | ⟨id, named, moved, moves⟩
    · rw [stays]
      exact ⟨⟨liveNodes, fun _ _ => rfl, nodes⟩, fun _ => rfl, rfl⟩
    · rw [moves]
      have forgets := cleanupNode_ensures nodes fun old isLive => sole old isLive (by
        rw [nodes.tracked.names_eq, isLive] at named
        exact some.inj named ▸ moved)
      cases done : c.cleanupNode node.name with
      | error panic => exact forgets.of_error done
      | ok c₁ =>
        refine ⟨⟨liveNodes.erase node.name, fun other different => ?_, forgets.of_ok done⟩,
          cleanupNode_nodeClaims done⟩
        rw [lookup_erase_eq, if_neg different]
  refine cleaned.bind fun c₁ _ ⟨⟨live, sameElsewhere, tracked⟩, sameClaims, sameClaimNames⟩ => ?_
  refine (replaceNode_ensures fun c' replaced => replaced).map fun c₂ replaced _ => ⟨⟨?_, ?_⟩, ?_⟩
  · refine tracked.tracked.join node.name node ?_ ?_ ?_
    · intro other
      rw [lookup_insert_eq]
      split_ifs with same
      · rfl
      · exact (sameElsewhere other same).symm
    · intro other
      rw [(replaceNode_eq_ok replaced).2.2.1]
      exact lookup_insert_eq _ _ other _
    · intro other _
      refine (nodeAt_replaceNode replaced other).trans ?_
      congr 1
      exact congrArg Prod.fst (objects_rebuiltNode evictionCost oldNode node pods limits)
  · intro other found isLive
    rw [lookup_insert_eq] at isLive
    split_ifs at isLive with same
    · exact some.inj isLive ▸ launched
    · exact nodes.launched other found isLive
  · refine nodeClaims.frame ?_ (((replaceNode_eq_ok replaced).2.2.2).trans sameClaimNames)
    intro other
    refine (nodeClaimAt_replaceNode replaced other).trans ?_
    split_ifs with isId
    · have rebuilt := congrArg (fun objects => objects.2.1)
        (objects_rebuiltNode evictionCost oldNode node pods limits)
      rw [isId, isOld]
      exact rebuilt
    · exact sameClaims other

section

variable (nodes : c.TracksNodes liveNodes) (nodeClaims : c.TracksNodeClaims liveNodeClaims)
include nodes nodeClaims

theorem joinNodeClaim_ensures (sole : ∀ old ∈ liveNodeClaims.lookup nodeClaim.name,
      old.providerID ≠ nodeClaim.providerID →
      SoleHolder NodeClaim.providerID liveNodeClaims nodeClaim.name old.providerID) :
    Ensures TotalsPanic (fun c' => c'.TracksNodes liveNodes ∧
        TracksNodeClaims (liveNodeClaims.insert nodeClaim.name nodeClaim) { c' with
          nodeClaimNameToProviderID :=
            c'.nodeClaimNameToProviderID.insert nodeClaim.name nodeClaim.providerID })
      (c.joinNodeClaim nodeClaim) := by
  have cleaned : Ensures TotalsPanic (fun c₁ =>
      (∃ live, (∀ other, other ≠ nodeClaim.name →
        live.lookup other = liveNodeClaims.lookup other) ∧ c₁.TracksNodeClaims live) ∧
      (∀ id, c₁.nodeAt id = c.nodeAt id) ∧
      c₁.nodeNameToProviderID = c.nodeNameToProviderID)
      (c.cleanupMovedNodeClaim nodeClaim.name nodeClaim.providerID) := by
    rcases c.cleanupMovedNodeClaim_cases nodeClaim.name nodeClaim.providerID with
      ⟨_, stays⟩ | ⟨id, named, moved, moves⟩
    · rw [stays]
      exact ⟨⟨liveNodeClaims, fun _ _ => rfl, nodeClaims⟩, fun _ => rfl, rfl⟩
    · rw [moves]
      have forgets := cleanupNodeClaim_ensures nodeClaims fun old isLive => sole old isLive (by
        rw [nodeClaims.names_eq, isLive] at named
        exact some.inj named ▸ moved)
      cases done : c.cleanupNodeClaim nodeClaim.name with
      | error panic => exact forgets.of_error done
      | ok c₁ =>
        refine ⟨⟨liveNodeClaims.erase nodeClaim.name, fun other different => ?_,
          forgets.of_ok done⟩, cleanupNodeClaim_nodes done⟩
        rw [lookup_erase_eq, if_neg different]
  refine cleaned.bind fun c₁ _ ⟨⟨live, sameElsewhere, tracked⟩, sameNodes, sameNames⟩ => ?_
  refine replaceNode_ensures fun c₂ replaced => ⟨?_, ?_⟩
  · refine nodes.frame ?_ (((replaceNode_eq_ok replaced).2.2.1).trans sameNames)
    intro other
    refine (nodeAt_replaceNode replaced other).trans ?_
    split_ifs with isId
    · rw [isId, nodeAt]
      cases c.nodes.lookup nodeClaim.providerID <;> rfl
    · exact sameNodes other
  · refine tracked.join nodeClaim.name nodeClaim ?_ ?_ ?_
    · intro other
      rw [lookup_insert_eq]
      split_ifs with same
      · rfl
      · exact (sameElsewhere other same).symm
    · intro other
      rw [(replaceNode_eq_ok replaced).2.2.2]
      exact lookup_insert_eq _ _ other _
    · intro other _
      exact nodeClaimAt_replaceNode replaced other

theorem updateNodeClaim_ensures
    (sole : ∀ old ∈ liveNodeClaims.lookup nodeClaim.name, nodeClaim.providerID ≠ "" →
      old.providerID ≠ nodeClaim.providerID →
      SoleHolder NodeClaim.providerID liveNodeClaims nodeClaim.name old.providerID) :
    Ensures TotalsPanic (fun c' => c'.TracksNodes liveNodes ∧
        c'.TracksNodeClaims (liveNodeClaims.insert nodeClaim.name nodeClaim))
      (c.updateNodeClaim nodeClaim) := by
  unfold updateNodeClaim
  by_cases unlaunched : nodeClaim.providerID = ""
  · rw [if_pos unlaunched]
    refine ⟨nodes.frame (fun _ => rfl) rfl, nodeClaims.join nodeClaim.name nodeClaim
      (lookup_insert_eq _ _ · _) (lookup_insert_eq _ _ · _) ?_⟩
    intro other elsewhere
    rw [unlaunched, if_neg elsewhere]
    rfl
  · rw [if_neg unlaunched]
    have joined := joinNodeClaim_ensures nodes nodeClaims fun old isLive =>
      sole old isLive unlaunched
    exact joined.map fun c' _ ⟨nodes', nodeClaims'⟩ => ⟨nodes'.frame (fun _ => rfl) rfl, nodeClaims'⟩

end

theorem setMarkedForDeletion_ensures_tracks (marked : Bool) (nodes : c.TracksNodes liveNodes)
    (nodeClaims : c.TracksNodeClaims liveNodeClaims) (ids : List String) :
    Ensures TotalsPanic (fun c' => c'.TracksNodes liveNodes ∧ c'.TracksNodeClaims liveNodeClaims)
      (c.setMarkedForDeletion marked ids) := by
  refine setMarkedForDeletion_ensures marked
    (fun c => c.TracksNodes liveNodes ∧ c.TracksNodeClaims liveNodeClaims) ?_
    ⟨nodes, nodeClaims⟩ ids
  intro c id n ⟨nodes, nodeClaims⟩ found
  refine replaceNode_ensures fun c' replaced => ⟨?_, ?_⟩
  · refine nodes.frame (fun other => ?_) (replaceNode_eq_ok replaced).2.2.1
    refine (nodeAt_replaceNode replaced other).trans ?_
    split_ifs with isId
    · rw [isId, nodeAt, found]
      rfl
    · rfl
  · refine nodeClaims.frame (fun other => ?_) (replaceNode_eq_ok replaced).2.2.2
    refine (nodeClaimAt_replaceNode replaced other).trans ?_
    split_ifs with isId
    · rw [isId, nodeClaimAt, found]
      rfl
    · rfl

end Cluster

/-- An object is forgotten under a provider id only if no other live object of its kind has it. -/
def ForgetsSole (run : ClusterRun) : ClusterEvent → Prop
  | .updateNode node _ =>
    ∀ old ∈ run.liveNodes.lookup node.name,
      old.providerID ≠ (Cluster.identified node).providerID →
      SoleHolder Node.providerID run.liveNodes node.name old.providerID
  | .deleteNode name =>
    ∀ old ∈ run.liveNodes.lookup name,
      SoleHolder Node.providerID run.liveNodes name old.providerID
  | .updateNodeClaim nodeClaim =>
    ∀ old ∈ run.liveNodeClaims.lookup nodeClaim.name, nodeClaim.providerID ≠ "" →
      old.providerID ≠ nodeClaim.providerID →
      SoleHolder NodeClaim.providerID run.liveNodeClaims nodeClaim.name old.providerID
  | .deleteNodeClaim name =>
    ∀ old ∈ run.liveNodeClaims.lookup name,
      SoleHolder NodeClaim.providerID run.liveNodeClaims name old.providerID
  | _ => True

instance (run : ClusterRun) : (event : ClusterEvent) → Decidable (ForgetsSole run event)
  | .updateNode _ _ => inferInstanceAs (Decidable (∀ _ ∈ _, _ → _))
  | .deleteNode _ => inferInstanceAs (Decidable (∀ _ ∈ _, _))
  | .updateNodeClaim _ => inferInstanceAs (Decidable (∀ _ ∈ _, _ → _ → _))
  | .deleteNodeClaim _ => inferInstanceAs (Decidable (∀ _ ∈ _, _))
  | .markForDeletion _ | .unmarkForDeletion _ | .updatePod _ _ | .deletePod _ | .simulationCopyNodes
  | .deepCopyNodes | .updateCopy _ _ _ | .cleanupCopy _ _ => .isTrue trivial

structure ClusterRun.Tracks (run : ClusterRun) : Prop where
  nodes : run.cluster.TracksNodes run.liveNodes
  nodeClaims : run.cluster.TracksNodeClaims run.liveNodeClaims

theorem Cluster.SameObjects.tracks {run : ClusterRun} {c' : Cluster}
    {boundPods : GoMap PodKey Pod} {copies : List StateNode}
    (same : run.cluster.SameObjects c') (tracks : run.Tracks) :
    ClusterRun.Tracks { run with cluster := c', boundPods := boundPods, copies := copies } :=
  ⟨same.tracksNodes tracks.nodes, same.tracksNodeClaims tracks.nodeClaims⟩

theorem Cluster.identified_providerID_ne (node : Node) : (identified node).providerID ≠ "" := by
  unfold identified
  split_ifs with missing
  · exact node.name_ne
  · exact missing

theorem Cluster.identified_name (node : Node) : (identified node).name = node.name := by
  unfold identified
  split_ifs <;> rfl

theorem Cluster.getD_nodeClaim (c : Cluster) (id : String) :
    ((c.nodes.lookup id).getD {}).nodeClaim = c.nodeClaimAt id := by
  unfold Cluster.nodeClaimAt
  cases c.nodes.lookup id <;> rfl

theorem ClusterRun.apply_ensures_tracks {run : ClusterRun} {event : ClusterEvent}
    (tracks : run.Tracks) (sole : ForgetsSole run event) :
    Ensures Cluster.TotalsPanic ClusterRun.Tracks (run.apply evictionCost event) := by
  cases event with
  | updateNode node reads =>
    have bound := sameObjects_bindPods (podsBoundBy node reads) run.cluster
    rcases run.apply_updateNode_cases evictionCost node reads with
      ⟨_, done⟩ | ⟨listing, limits, accepted, _, _, _, joins⟩
    · rw [done]
      exact bound.tracks tracks
    · rw [joins]
      have named := identified_name node
      have joined := joinNode_ensures evictionCost (podsBoundBy node reads) limits
        (bound.tracksNodes tracks.nodes) (bound.tracksNodeClaims tracks.nodeClaims) (identified_providerID_ne node)
        ((bound.nodeClaimAt _).trans (run.cluster.getD_nodeClaim _).symm)
        (named.symm ▸ sole)
      rw [named] at joined
      exact joined.map fun c' _ ⟨nodes, nodeClaims⟩ => ⟨nodes, nodeClaims⟩
  | deleteNode name =>
    exact (cleanupNode_ensures tracks.nodes sole).map fun c' done nodes =>
      have frame := cleanupNode_nodeClaims done
      ⟨nodes, tracks.nodeClaims.frame frame.1 frame.2⟩
  | updateNodeClaim nodeClaim =>
    exact (updateNodeClaim_ensures tracks.nodes tracks.nodeClaims sole).map
      fun c' _ ⟨nodes, nodeClaims⟩ => ⟨nodes, nodeClaims⟩
  | deleteNodeClaim name =>
    exact (cleanupNodeClaim_ensures tracks.nodeClaims sole).map fun c' done nodeClaims =>
      have frame := cleanupNodeClaim_nodes done
      ⟨tracks.nodes.frame frame.1 frame.2, nodeClaims⟩
  | markForDeletion ids =>
    exact (setMarkedForDeletion_ensures_tracks true tracks.nodes tracks.nodeClaims ids).map
      fun c' _ ⟨nodes, nodeClaims⟩ => ⟨nodes, nodeClaims⟩
  | unmarkForDeletion ids =>
    exact (setMarkedForDeletion_ensures_tracks false tracks.nodes tracks.nodeClaims ids).map
      fun c' _ ⟨nodes, nodeClaims⟩ => ⟨nodes, nodeClaims⟩
  | updatePod pod volumes =>
    exact (sameObjects_updatePod evictionCost run.cluster pod volumes).tracks tracks
  | deletePod key => exact (sameObjects_deletePod run.cluster key).tracks tracks
  | simulationCopyNodes =>
    exact (sameObjects_simulationCopyNodes run.cluster).tracks tracks
  | deepCopyNodes | updateCopy _ _ _ | cleanupCopy _ _ => exact ⟨tracks.nodes, tracks.nodeClaims⟩

theorem ClusterRun.tracks_start : ClusterRun.Tracks {} where
  nodes := ⟨⟨fun _ => rfl, nofun⟩, nofun⟩
  nodeClaims := ⟨fun _ => rfl, nofun⟩

/-- In every run that forgets only objects which alone have their provider id,
each live node and each live, launched NodeClaim is tracked with an object of
its provider id, and no handler looks for a state node that is missing. -/
theorem run_tracks_live_objects (evictionCost : Pod → ℚ) {run : ClusterRun}
    (reached : Reaches (ClusterRun.apply evictionCost) ForgetsSole {} run) :
    (∀ name node, run.liveNodes.lookup name = some node →
      ∃ n tracked, run.cluster.nodes.lookup node.providerID = some n ∧ n.node = some tracked ∧
        tracked.providerID = node.providerID) ∧
    (∀ name nodeClaim, run.liveNodeClaims.lookup name = some nodeClaim →
      nodeClaim.providerID ≠ "" →
      ∃ n tracked, run.cluster.nodes.lookup nodeClaim.providerID = some n ∧
        n.nodeClaim = some tracked ∧ tracked.providerID = nodeClaim.providerID) ∧
    ∀ event id, ForgetsSole run event →
      run.apply evictionCost event ≠ .error (.missingStateNode id) := by
  have tracks : run.Tracks := reached.invariant ClusterRun.Tracks tracks_start
    fun _ _ _ tracks sole done => (apply_ensures_tracks evictionCost tracks sole).of_ok done
  refine ⟨?_, ?_, ?_⟩
  · intro name node isLive
    obtain ⟨tracked, stored, sameID⟩ := tracks.nodes.tracked.stored_of_live name node isLive
      (tracks.nodes.launched name node isLive)
    obtain ⟨n, found, isNode⟩ := bind_eq_some_iff.mp stored
    exact ⟨n, tracked, found, isNode, sameID⟩
  · intro name nodeClaim isLive launched
    obtain ⟨tracked, stored, sameID⟩ :=
      tracks.nodeClaims.stored_of_live name nodeClaim isLive launched
    obtain ⟨n, found, isNodeClaim⟩ := bind_eq_some_iff.mp stored
    exact ⟨n, tracked, found, isNodeClaim, sameID⟩
  · intro event id sole failed
    obtain ⟨nodePool, isTotals⟩ := (apply_ensures_tracks evictionCost tracks sole).of_error failed
    cases isTotals

def instanceNode (name id : String) (named : name ≠ "") : Node :=
  { name := name, providerID := id, name_ne := named }

/-- A node is replaced by one of another name on the same instance after it was
deleted, and a second instance joins and leaves. -/
theorem run_tracks_replacement :
    ∃ run, Reaches (ClusterRun.apply fun _ => 1) ForgetsSole {} run ∧
      (run.liveNodes.lookup "b").isSome = true ∧
      (∃ n tracked, run.cluster.nodes.lookup "i-1" = some n ∧ n.node = some tracked ∧
        tracked.providerID = "i-1") ∧
      run.apply (fun _ => 1) (.deleteNode "b") ≠ .error (.missingStateNode "i-1") := by
  obtain ⟨run, node, reached, found, sameID, sole⟩ : ∃ run node,
      Reaches (apply fun _ => 1) ForgetsSole {} run ∧ run.liveNodes.lookup "b" = some node ∧
      node.providerID = "i-1" ∧ ForgetsSole run (.deleteNode "b") :=
    Reaches.exists_of_follow_some [.updateNode (instanceNode "a" "i-1" (by decide)) {},
      .deleteNode "a", .updateNode (instanceNode "b" "i-1" (by decide)) {},
      .updateNode (instanceNode "c" "i-2" (by decide)) {}, .deleteNode "c"] (by decide +kernel)
  obtain ⟨tracksNodes, -, finds⟩ := run_tracks_live_objects (fun _ => 1) reached
  exact ⟨run, reached, by rw [found]; rfl, sameID ▸ tracksNodes "b" node found, finds _ _ sole⟩

/-- A node is replaced by one of another name on the same instance, and the
delete event of the old name arrives late. The new node is forgotten, and its
own delete event crashes. -/
theorem lateDelete_forgets_replacement :
    ∃ run node, Reaches (ClusterRun.apply fun _ => 1) (fun _ _ => True) {} run ∧
      run.liveNodes.lookup "b" = some node ∧ node.providerID = "i-1" ∧
      run.cluster.nodes.lookup "i-1" = none ∧
      run.apply (fun _ => 1) (.deleteNode "b") = .error (.missingStateNode "i-1") := by
  obtain ⟨run, node, reached, isLive, sameID, missing, named⟩ : ∃ run node,
      Reaches (apply fun _ => 1) (fun _ _ => True) {} run ∧ run.liveNodes.lookup "b" = some node ∧
      node.providerID = "i-1" ∧ (run.cluster.nodes.lookup "i-1").isNone ∧
      run.cluster.nodeNameToProviderID.lookup "b" = some "i-1" :=
    Reaches.exists_of_follow_some [.updateNode (instanceNode "a" "i-1" (by decide)) {},
      .updateNode (instanceNode "b" "i-1" (by decide)) {}, .deleteNode "a"] (by decide +kernel)
  rw [isNone_iff_eq_none] at missing
  have crashes : run.cluster.cleanupNode "b" = .error (.missingStateNode "i-1") := by
    unfold cleanupNode
    rw [named, getD_some, if_neg (by decide), missing]
  refine ⟨run, node, reached, isLive, sameID, missing, ?_⟩
  simp [apply, crashes, bind, Except.bind]

end Kraftsman.State
