import Kraftsman.State.PodBindings

/-!
Contract: what is tracked for the pods of a node agrees with the pods bound to
it.

Owns: the pods a tracked node hosts, the maps it keeps by pod, and when the
handlers keep them in step with the bindings.
Does not own: the sums over these maps.
-/

namespace Kraftsman.State

open Apis Data Data.FallibleLoop Scheduling GoMap Cluster StateNode Except Option List

def StateNode.isNamed (n : StateNode) (name : String) : Bool := n.node.any fun node => node.name = name

/-- Whether a pod runs on the node object of a tracked node. -/
def StateNode.hosts (n : StateNode) (pod : Pod) : Bool := n.isNamed pod.nodeName

variable {n : StateNode} {name : String} {pods : List (Pod × Volumes)} {evictionCost : Pod → ℚ}
variable {V : Type} {run run' : ClusterRun}

theorem StateNode.isNamed_iff : n.isNamed name ↔ ∃ node, n.node = some node ∧ node.name = name := by
  simp [isNamed, Option.any_eq_true]

theorem StateNode.isNamed_inj {other : String} (isName : n.isNamed name)
    (isOther : n.isNamed other) : name = other := by
  obtain ⟨node, found, rfl⟩ := isNamed_iff.mp isName
  obtain ⟨node', found', rfl⟩ := isNamed_iff.mp isOther
  rw [some.inj (found.symm.trans found')]

theorem StateNode.isNamed_of_objects {n' : StateNode} (same : n'.objects = n.objects)
    (name : String) : n'.isNamed name = n.isNamed name := by
  unfold isNamed
  rw [show n'.node = n.node from congrArg Prod.fst same]

/-! ### Names -/

variable {oldNode : StateNode} {limits : GoMap String Nat} {pods : List (Pod × Volumes)}

namespace Cluster

/-- Each tracked node object is known by its name and no other one is. -/
structure Named (c : Cluster) : Prop where
  names : ∀ name id, c.nodeNameToProviderID.lookup name = some id ↔
    ∃ n, c.nodes.lookup id = some n ∧ n.isNamed name = true
  unknown : c.nodes.lookup "" = none

variable {c c' : Cluster} {id name : String} {n : StateNode}

theorem SameObjects.lookup (same : c.SameObjects c') (found : c.nodes.lookup id = some n) :
    ∃ n', c'.nodes.lookup id = some n' ∧ n'.objects = n.objects := by
  have objects := same.objects id
  rw [found] at objects
  exact map_eq_some_iff.mp objects

theorem SameObjects.symm (same : c.SameObjects c') : c'.SameObjects c :=
  ⟨fun id => (same.objects id).symm, same.nodeNames.symm, same.nodeClaimNames.symm, same.totals.symm⟩

theorem SameObjects.named (same : c.SameObjects c') (named : c.Named) : c'.Named where
  names name id := by
    rw [same.nodeNames, named.names]
    constructor
    · rintro ⟨n, found, isName⟩
      obtain ⟨n', found', objects⟩ := same.lookup found
      exact ⟨n', found', (isNamed_of_objects objects name).trans isName⟩
    · rintro ⟨n, found, isName⟩
      obtain ⟨n', found', objects⟩ := same.symm.lookup found
      exact ⟨n', found', (isNamed_of_objects objects name).trans isName⟩
  unknown := by
    have objects := same.objects ""
    rwa [named.unknown, map_none, map_eq_none_iff] at objects

theorem Named.nodeByName_iff (named : c.Named) :
    c.nodeByName name = some (id, n) ↔ c.nodes.lookup id = some n ∧ n.isNamed name := by
  constructor
  · intro found
    obtain ⟨isID, tracked⟩ := nodeByName_eq_some found
    cases known : c.nodeNameToProviderID.lookup name with
    | none =>
      rw [known] at isID
      rw [isID, getD_none, named.unknown] at tracked
      cases tracked
    | some id' =>
      rw [known, getD_some] at isID
      obtain ⟨n', tracked', isName⟩ := (named.names name id').mp known
      rw [← isID, tracked] at tracked'
      exact ⟨tracked, some.inj tracked' ▸ isName⟩
  · rintro ⟨tracked, isName⟩
    have known := (named.names name id).mpr ⟨n, tracked, isName⟩
    unfold nodeByName
    dsimp only
    rw [known, getD_some, tracked]
    rfl

theorem Named.nodeByName_eq_none (named : c.Named) (unknown : c.nodeByName name = none)
    (tracked : c.nodes.lookup id = some n) :
    n.isNamed name = false := by
  by_contra isName
  rw [Bool.not_eq_false] at isName
  rw [named.nodeByName_iff.mpr ⟨tracked, isName⟩] at unknown
  cases unknown

/-! ### Pods leave nodes -/

theorem Named.lookup_cleanup (named : c.Named) (name : String) (key : PodKey) (id : String) :
    (match c.nodeByName name with
      | none => c
      | some (id, n) => c.setNode id (some (n.cleanupForPod key))).nodes.lookup id =
    (c.nodes.lookup id).map fun n => if n.isNamed name then n.cleanupForPod key else n := by
  cases found : c.nodeByName name with
  | none =>
    cases tracked : c.nodes.lookup id with
    | none => rfl
    | some n =>
      rw [map_some, named.nodeByName_eq_none found tracked]
      rfl
  | some pair =>
    obtain ⟨tracked, isName⟩ := named.nodeByName_iff.mp found
    rw [lookup_setNode]
    split_ifs with same
    · rw [same, tracked, map_some, if_pos isName]
    · cases other : c.nodes.lookup id with
      | none => rfl
      | some n' =>
        rw [map_some, if_neg]
        intro isName'
        have found' := named.nodeByName_iff.mpr ⟨other, isName'⟩
        rw [found] at found'
        exact same (Prod.mk.inj (some.inj found')).1.symm

theorem Named.lookup_bindPod (named : c.Named) (pod : Pod) (id : String) :
    (c.bindPod pod).nodes.lookup id = (c.nodes.lookup id).map fun n =>
      if (c.bindings.lookup (podKey pod)).any fun old => old ≠ pod.nodeName && n.isNamed old then
        n.cleanupForPod (podKey pod)
      else n := by
  unfold bindPod cleanupOldBindings
  cases c.bindings.lookup (podKey pod) with
  | none => simp
  | some old =>
    dsimp only
    split_ifs with same
    · simp [same]
    · have cleaned := named.lookup_cleanup old (podKey pod) id
      simp only [any_some, ne_eq, same, not_false_eq_true, decide_true, Bool.true_and]
      rw [← cleaned]
      cases c.nodeByName old <;> rfl

theorem Named.lookup_completion (named : c.Named) (key : PodKey) (id : String) :
    (c.updateNodeUsageFromPodCompletion key).nodes.lookup id = (c.nodes.lookup id).map fun n =>
      if (c.bindings.lookup key).any n.isNamed then n.cleanupForPod key else n := by
  unfold updateNodeUsageFromPodCompletion
  cases c.bindings.lookup key with
  | none => simp
  | some nodeName =>
    have same : Cluster.SameObjects c { c with bindings := c.bindings.erase key } :=
      ⟨fun _ => rfl, rfl, rfl, rfl⟩
    exact (same.named named).lookup_cleanup nodeName key id

/-! ### Names after the handlers of nodes and NodeClaims -/

section

variable (named : c.Named)
include named

theorem Named.replaceNode (launched : id ≠ "") {newNode : Option StateNode}
    (done : c.replaceNode id oldNode newNode = .ok c')
    (same : ∀ name, (∃ n, newNode = some n ∧ n.isNamed name) ↔
      ∃ n, c.nodes.lookup id = some n ∧ n.isNamed name) : c'.Named where
  names name other := by
    rw [(replaceNode_eq_ok done).2.2.1, named.names, lookup_replaceNode done]
    split_ifs with isId
    · rw [isId]
      exact (same name).symm
    · rfl
  unknown := by
    rw [lookup_replaceNode done, if_neg (Ne.symm launched), named.unknown]

theorem Named.cleanupNode (done : c.cleanupNode name = .ok c') : c'.Named := by
  rcases c.cleanupNode_cases name with
    ⟨_, same⟩ | ⟨id, launched, isID, ⟨_, failed⟩ | ⟨n, found, replaces⟩⟩
  · exact ok.inj (same.symm.trans done) ▸ named
  · cases failed.symm.trans done
  · obtain ⟨middle, replaced, rfl⟩ := map_eq_ok.mp (replaces.symm.trans done)
    obtain ⟨n', found', isName⟩ := (named.names name id).mp isID
    obtain rfl := some.inj (found.symm.trans found')
    refine ⟨fun other id' => ?_, ?_⟩
    · rw [(replaceNode_eq_ok replaced).2.2.1, lookup_erase_eq]
      refine Iff.trans ?_ (exists_congr fun n' => by rw [lookup_replaceNode replaced])
      by_cases isId : id' = id
      · subst isId
        constructor
        · intro known
          split_ifs at known with isSame
          obtain ⟨n', found', isOther⟩ := (named.names other id').mp known
          obtain rfl := some.inj (found.symm.trans found')
          exact absurd (isNamed_inj isOther isName) isSame
        · rintro ⟨n', isNew, isOther⟩
          rw [if_pos rfl] at isNew
          obtain ⟨_, _, rfl⟩ := map_eq_some_iff.mp isNew
          cases isOther
      · rw [if_neg isId, ← named.names]
        split_ifs with isSame
        · rw [isSame, isID]
          simp [Ne.symm isId]
        · rfl
    · exact (lookup_replaceNode replaced "").trans ((if_neg (Ne.symm launched)).trans named.unknown)

theorem Named.cleanupNodeClaim (done : c.cleanupNodeClaim name = .ok c') : c'.Named := by
  rcases c.cleanupNodeClaim_cases name with
    ⟨_, same⟩ | ⟨id, launched, isID, ⟨_, failed⟩ | ⟨n, found, replaces⟩⟩
  · obtain rfl := ok.inj (same.symm.trans done)
    exact ⟨named.names, named.unknown⟩
  · cases failed.symm.trans done
  · obtain ⟨middle, replaced, rfl⟩ := map_eq_ok.mp (replaces.symm.trans done)
    have kept := named.replaceNode launched replaced fun other => by
      rw [found]
      cases registered : n.node with
      | none | some _ => simp [isNamed, registered]
    exact ⟨kept.names, kept.unknown⟩

theorem Named.cleanupMovedNode_names (done : c.cleanupMovedNode name id = .ok c') :
    (∀ other, c'.nodeNameToProviderID.lookup name = some other → other = id) ∧
      ∀ other, other ≠ name →
        c'.nodeNameToProviderID.lookup other = c.nodeNameToProviderID.lookup other := by
  rcases c.cleanupMovedNode_cases name id with ⟨isID, stays⟩ | ⟨oldID, known, moved, moves⟩
  · obtain rfl := ok.inj (stays.symm.trans done)
    exact ⟨isID, fun _ _ => rfl⟩
  · rw [moves] at done
    rcases c.cleanupNode_cases name with
      ⟨unlaunched, same⟩ | ⟨_, _, _, ⟨_, failed⟩ | ⟨n, _, replaces⟩⟩
    · rw [known, getD_some] at unlaunched
      obtain ⟨n, found, _⟩ := (named.names name oldID).mp known
      rw [unlaunched, named.unknown] at found
      cases found
    · cases failed.symm.trans done
    · obtain ⟨middle, replaced, rfl⟩ := map_eq_ok.mp (replaces.symm.trans done)
      have names := (replaceNode_eq_ok replaced).2.2.1
      refine ⟨fun other known' => ?_, fun other different => ?_⟩
      · rw [lookup_erase_eq, if_pos rfl] at known'
        cases known'
      · rw [lookup_erase_eq, if_neg different, names]

theorem Named.cleanupMovedNode (done : c.cleanupMovedNode name id = .ok c') : c'.Named := by
  rcases c.cleanupMovedNode_cases name id with ⟨_, stays⟩ | ⟨_, _, _, moves⟩
  · exact ok.inj (stays.symm.trans done) ▸ named
  · exact named.cleanupNode (moves.symm.trans done)

theorem Named.joinNode {evictionCost : Pod → ℚ} {node : Node} (launched : node.providerID ≠ "")
    (sole : ∀ name, c.nodeNameToProviderID.lookup name = some node.providerID → name = node.name)
    (done : c.joinNode evictionCost oldNode node pods limits = .ok c') : c'.Named := by
  obtain ⟨c₁, c₂, moved, replaced, rfl⟩ := joinNode_eq_ok done
  have named₁ := named.cleanupMovedNode moved
  obtain ⟨ownName, otherNames⟩ := named.cleanupMovedNode_names moved
  have isNamed : ∀ name, (rebuiltNode evictionCost oldNode node pods limits).isNamed name ↔
      name = node.name := by
    intro name
    rw [isNamed_iff, show (rebuiltNode evictionCost oldNode node pods limits).node = some node
      from congrArg Prod.fst (objects_rebuiltNode evictionCost oldNode node pods limits)]
    simp [eq_comm]
  refine ⟨fun name id => ?_, ?_⟩
  · rw [(replaceNode_eq_ok replaced).2.2.1, lookup_insert_eq]
    refine Iff.trans ?_ (exists_congr fun n => by rw [lookup_replaceNode replaced])
    by_cases isID : id = node.providerID
    · subst isID
      simp only [if_true, some.injEq, exists_eq_left', isNamed]
      split_ifs with isName
      · exact ⟨fun _ => isName, fun _ => rfl⟩
      · rw [otherNames name isName]
        exact ⟨sole name, fun same => absurd same isName⟩
    · rw [if_neg isID, ← named₁.names]
      split_ifs with isName
      · rw [isName]
        exact ⟨fun same => absurd (some.inj same).symm isID,
          fun known => absurd (ownName id known) isID⟩
      · rfl
  · exact (lookup_replaceNode replaced "").trans ((if_neg (Ne.symm launched)).trans named₁.unknown)

theorem Named.updateNodeClaim {nodeClaim : NodeClaim} (done : c.updateNodeClaim nodeClaim = .ok c') :
    c'.Named := by
  obtain ⟨c₂, rfl, ⟨_, rfl⟩ | ⟨launched, c₁, moved, replaced⟩⟩ := updateNodeClaim_eq_ok done
  · exact ⟨named.names, named.unknown⟩
  · have named₁ : c₁.Named := by
      rcases c.cleanupMovedNodeClaim_cases nodeClaim.name nodeClaim.providerID with
        ⟨_, stays⟩ | ⟨_, _, _, moves⟩
      · exact ok.inj (stays.symm.trans moved) ▸ named
      · exact named.cleanupNodeClaim (moves.symm.trans moved)
    have kept := named₁.replaceNode launched replaced fun name => by
      rw [lookup_cleanupMovedNodeClaim moved]
      cases c.nodes.lookup nodeClaim.providerID with
      | none | some _ => simp [isNamed, withNodeClaim]
    exact ⟨kept.names, kept.unknown⟩

theorem Named.setMarkedForDeletion {marked : Bool} {ids : List String}
    (done : c.setMarkedForDeletion marked ids = .ok c') : c'.Named := by
  have kept := @setMarkedForDeletion_ensures marked (fun _ => True) Named ?_ c named ids
  · exact kept.of_ok done
  · intro c₁ id n named₁ found
    cases replaced : c₁.replaceNode id n (some { n with markedForDeletion := marked }) with
    | error panic => trivial
    | ok c₂ =>
      have launched : id ≠ "" := by
        rintro rfl
        rw [named₁.unknown] at found
        cases found
      refine named₁.replaceNode launched replaced fun name => ?_
      rw [found]
      simp [isNamed]

end

end Cluster

/-! ### Maps by pod -/

structure PodMaps where
  podRequests : GoMap PodKey ResourceList
  daemonSetRequests : GoMap PodKey ResourceList
  podDisruptionCosts : GoMap PodKey ℚ

def StateNode.podMaps (n : StateNode) : PodMaps :=
  { podRequests := n.podRequests
    daemonSetRequests := n.daemonSetRequests
    podDisruptionCosts := n.podDisruptionCosts }

/-- One of the maps, with what it holds for a pod. A pod may be passed over if it
holds nothing for pods of that kind. -/
structure PodField (evictionCost : Pod → ℚ) (V : Type) where
  read : PodMaps → GoMap PodKey V
  entry : Pod → Option V
  read_empty : read ⟨∅, ∅, ∅⟩ = ∅
  read_cleanup : ∀ (n : StateNode) key, read (n.cleanupForPod key).podMaps = (read n.podMaps).erase key
  read_update_ne : ∀ (n : StateNode) pod volumes key, key ≠ podKey pod →
    (read (n.updateForPod evictionCost pod volumes).podMaps).lookup key = (read n.podMaps).lookup key
  read_update : ∀ (n : StateNode) pod volumes,
    (read (n.updateForPod evictionCost pod volumes).podMaps).lookup (podKey pod) = entry pod ∨
    (read (n.updateForPod evictionCost pod volumes).podMaps).lookup (podKey pod) =
        (read n.podMaps).lookup (podKey pod) ∧
      ∀ other, other.ownedByDaemonSet = pod.ownedByDaemonSet → entry other = none
  read_withNodeClaim : ∀ (n : StateNode) nodeClaim,
    read (Cluster.StateNode.withNodeClaim n nodeClaim).podMaps = read n.podMaps ∨
    read (Cluster.StateNode.withNodeClaim n nodeClaim).podMaps = ∅

namespace PodField

variable (field : PodField evictionCost V)

def Matches (bound : GoMap PodKey Pod) (n : StateNode) : Prop :=
  ∀ key, (field.read n.podMaps).lookup key = ((bound.lookup key).filter n.hosts).bind field.entry

variable {field} {bound : GoMap PodKey Pod} {n : StateNode}

theorem Matches.of_same {n' : StateNode} (holds : field.Matches bound n)
    (sameMaps : n'.podMaps = n.podMaps) (sameNode : n'.node = n.node) : field.Matches bound n' := by
  intro key
  have sameHosts : n'.hosts = n.hosts := by
    funext pod
    unfold hosts isNamed
    rw [sameNode]
  rw [sameMaps, sameHosts]
  exact holds key

theorem Matches.lookup_left (holds : field.Matches bound n) (key other : PodKey) :
    (field.read (if (bound.lookup key).any n.hosts then n.cleanupForPod key else n).podMaps).lookup
        other = if other = key then none
      else ((bound.lookup other).filter n.hosts).bind field.entry := by
  split_ifs with left same same
  · rw [field.read_cleanup, lookup_erase_eq, if_pos same]
  · rw [field.read_cleanup, lookup_erase_eq, if_neg same]
    exact holds other
  · rw [holds other, same, filter_eq_none_iff.mpr]
    · rfl
    · intro old found hosted
      simp [found, hosted] at left
  · exact holds other

theorem hosts_left (key : PodKey) :
    hosts (if (bound.lookup key).any n.hosts then n.cleanupForPod key else n) = n.hosts := by
  split_ifs <;> rfl

section

variable (holds : field.Matches bound n)
include holds

theorem Matches.bound_elsewhere {pod : Pod} (elsewhere : n.hosts pod = false) :
    field.Matches (bound.insert (podKey pod) pod)
      (if (bound.lookup (podKey pod)).any n.hosts then n.cleanupForPod (podKey pod) else n) := by
  intro key
  rw [holds.lookup_left, hosts_left, lookup_insert_eq]
  split_ifs
  · rw [filter_some, elsewhere]
    rfl
  · rfl

theorem Matches.bound_here {pod : Pod} (here : n.hosts pod)
    (sameKind : ∀ old, bound.lookup (podKey pod) = some old → n.hosts old →
      old.ownedByDaemonSet = pod.ownedByDaemonSet) (volumes : Volumes) :
    field.Matches (bound.insert (podKey pod) pod) (n.updateForPod evictionCost pod volumes) := by
  intro key
  have sameHosts : (n.updateForPod evictionCost pod volumes).hosts = n.hosts := rfl
  rw [lookup_insert_eq, sameHosts]
  split_ifs with same
  · rw [same, filter_some, if_pos here, bind_some]
    rcases field.read_update n pod volumes with isEntry | ⟨unchanged, noEntry⟩
    · exact isEntry
    · rw [unchanged, noEntry pod rfl, holds]
      cases found : bound.lookup (podKey pod) with
      | none => rfl
      | some old =>
        rw [filter_some]
        split_ifs with hosted
        · exact noEntry old (sameKind old found hosted)
        · rfl
  · rw [field.read_update_ne n pod volumes key same]
    exact holds key

theorem Matches.gone (key : PodKey) : field.Matches (bound.erase key)
      (if (bound.lookup key).any n.hosts then n.cleanupForPod key else n) := by
  intro other
  rw [holds.lookup_left, hosts_left, lookup_erase_eq]
  split_ifs <;> rfl

theorem Matches.node_gone (noPods : ∀ key pod, bound.lookup key = some pod → n.hosts pod = false)
    (bound' : GoMap PodKey Pod) : field.Matches bound' { n with node := none } := by
  intro key
  have nothing : (field.read n.podMaps).lookup key = none := by
    rw [holds key, filter_eq_none_iff.mpr]
    · rfl
    · exact fun pod found hosted => absurd hosted (by simp [noPods key pod found])
  rw [filter_eq_none_iff.mpr fun _ _ hosted => by cases hosted]
  exact nothing

end

end PodField

/-! ### Listings -/

theorem lookup_recordPods (bound : GoMap PodKey Pod) (pods : List (Pod × Volumes)) (key : PodKey) :
    (recordPods bound pods).lookup key =
      ((recordPods ∅ pods).lookup key).or (bound.lookup key) := by
  induction pods generalizing bound with
  | nil => simp [recordPods]
  | cons pod rest ih =>
    have unfolded : ∀ start : GoMap PodKey Pod, recordPods start (pod :: rest) =
        recordPods (start.insert (podKey pod.1) pod.1) rest := fun _ => rfl
    rw [unfolded, unfolded, ih, ih (AList.insert _ _ ∅), Option.or_assoc]
    rw [lookup_insert_eq, lookup_insert_eq]
    split_ifs <;> simp

variable {key : PodKey} {node : Node} {event : ClusterEvent}

theorem lookup_recordPods_cons (head : Pod × Volumes) (rest : List (Pod × Volumes)) (key : PodKey) :
    (recordPods ∅ (head :: rest)).lookup key = ((recordPods ∅ rest).lookup key).or
      (if key = podKey head.1 then some head.1 else none) := by
  have unfolded : recordPods ∅ (head :: rest) =
      recordPods ((∅ : GoMap PodKey Pod).insert (podKey head.1) head.1) rest := rfl
  rw [unfolded, lookup_recordPods, lookup_insert_eq]
  rfl

theorem lookup_recordPods_eq_some {pod : Pod} (found : (recordPods ∅ pods).lookup key = some pod) :
    ∃ volumes, (pod, volumes) ∈ pods := by
  induction pods with
  | nil => cases found
  | cons head rest ih =>
    rw [lookup_recordPods_cons, or_eq_some_iff] at found
    rcases found with later | ⟨_, isHead⟩
    · obtain ⟨volumes, member⟩ := ih later
      exact ⟨volumes, mem_cons_of_mem _ member⟩
    · split_ifs at isHead
      cases isHead
      exact ⟨head.2, mem_cons_self⟩

theorem lookup_recordPods_isSome (listed : key ∈ pods.map fun pod => podKey pod.1) :
    ((recordPods ∅ pods).lookup key).isSome := by
  induction pods with
  | nil => cases listed
  | cons head rest ih =>
    rw [lookup_recordPods_cons, isSome_or, Bool.or_eq_true]
    rcases mem_cons.mp listed with isHead | later
    · exact .inr (by rw [if_pos isHead]; rfl)
    · exact .inl (ih later)

theorem PodField.read_listing (field : PodField evictionCost V) (pods : List (Pod × Volumes))
    (n : StateNode) (recorded : GoMap PodKey Pod)
    (distinct : (pods.map fun pod => podKey pod.1).Nodup)
    (fresh : ∀ pod ∈ pods, recorded.lookup (podKey pod.1) = none)
    (start : ∀ key, (field.read n.podMaps).lookup key = (recorded.lookup key).bind field.entry)
    (key : PodKey) :
    (field.read (pods.foldl (fun n pod => n.updateForPod evictionCost pod.1 pod.2) n).podMaps).lookup
        key = ((recordPods recorded pods).lookup key).bind field.entry := by
  induction pods generalizing n recorded with
  | nil => exact start key
  | cons pod rest ih =>
    rw [map_cons, nodup_cons] at distinct
    refine ih _ (recorded.insert (podKey pod.1) pod.1) distinct.2 ?_ ?_
    · intro other inRest
      rw [lookup_insert_eq, if_neg, fresh other (mem_cons_of_mem _ inRest)]
      intro same
      exact distinct.1 (mem_map.mpr ⟨other, inRest, same⟩)
    · intro key
      rw [lookup_insert_eq]
      split_ifs with same
      · rw [same, bind_some]
        rcases field.read_update n pod.1 pod.2 with isEntry | ⟨unchanged, noEntry⟩
        · exact isEntry
        · rw [unchanged, start, fresh pod mem_cons_self, noEntry pod.1 rfl]
          rfl
      · rw [field.read_update_ne n pod.1 pod.2 key same]
        exact start key

theorem PodField.matches_rebuiltNode (field : PodField evictionCost V) {bound : GoMap PodKey Pod}
    (onNode : ∀ pod ∈ pods, pod.1.nodeName = node.name)
    (distinct : (pods.map fun pod => podKey pod.1).Nodup)
    (all : ∀ key pod, bound.lookup key = some pod → pod.nodeName = node.name →
      key ∈ pods.map fun pod => podKey pod.1) :
    field.Matches (recordPods bound pods) (rebuiltNode evictionCost oldNode node pods limits) := by
  intro key
  have isNode : (rebuiltNode evictionCost oldNode node pods limits).node = some node :=
    congrArg Prod.fst (objects_rebuiltNode evictionCost oldNode node pods limits)
  have hosts : ∀ pod, (rebuiltNode evictionCost oldNode node pods limits).hosts pod =
      decide (node.name = pod.nodeName) := by
    intro pod
    unfold hosts isNamed
    rw [isNode]
    rfl
  have listed := field.read_listing pods
    { node := some node, nodeClaim := oldNode.nodeClaim,
      markedForDeletion := oldNode.markedForDeletion } ∅ distinct (fun _ _ => rfl)
    (fun other => by
      have noPods : ∀ n : StateNode, n.podMaps = ⟨∅, ∅, ∅⟩ →
          (field.read n.podMaps).lookup other = none := by
        intro n empty
        rw [empty, field.read_empty]
        rfl
      exact noPods _ rfl) key
  refine Eq.trans listed ?_
  rw [lookup_recordPods bound]
  cases recorded : (recordPods ∅ pods).lookup key with
  | some pod =>
    obtain ⟨volumes, member⟩ := lookup_recordPods_eq_some recorded
    have hosted : decide (node.name = pod.nodeName) := decide_eq_true (onNode _ member).symm
    rw [some_or, filter_some, hosts, if_pos hosted]
  | none =>
    rw [none_or]
    cases found : bound.lookup key with
    | none => rfl
    | some pod =>
      have elsewhere : decide (node.name = pod.nodeName) = false := by
        refine decide_eq_false fun same => ?_
        have isListed := lookup_recordPods_isSome (all key pod found same.symm)
        rw [recorded] at isListed
        cases isListed
      rw [filter_some, hosts, elsewhere]
      rfl

/-! ### Consistent events -/

/-- No NodeClaim keeps the state of the instance, or no pod is bound to it. -/
def LeavesNoPods (run : ClusterRun) (name : String) : Prop :=
  (∀ id ∈ run.cluster.nodeNameToProviderID.lookup name, ∀ n ∈ run.cluster.nodes.lookup id,
    n.nodeClaim.isNone = true) ∨
  ∀ entry ∈ run.boundPods.entries, entry.2.nodeName ≠ name

/-- A listing that agrees with the pods bound to the node, whose instance no other name leads to. -/
structure ListsPods (run : ClusterRun) (node : Node) (pods : List (Pod × Volumes)) : Prop where
  onNode : ∀ pod ∈ pods, pod.1.nodeName = node.name
  distinct : (pods.map fun pod => podKey pod.1).Nodup
  all : ∀ entry ∈ run.boundPods.entries, entry.2.nodeName = node.name →
    entry.1 ∈ pods.map fun pod => podKey pod.1
  sole : ∀ entry ∈ run.cluster.nodeNameToProviderID.entries,
    entry.2 = (Cluster.identified node).providerID → entry.1 = node.name
  moved : ∀ oldID ∈ run.cluster.nodeNameToProviderID.lookup node.name,
    oldID ≠ (Cluster.identified node).providerID → LeavesNoPods run node.name

/-- The update of a node lists the pods bound to it, or fails before it binds one;
a node that is forgotten leaves no pods behind; a pod bound again to its node is
again one of a DaemonSet or not. -/
def Consistent (run : ClusterRun) : ClusterEvent → Prop
  | .updateNode node reads => Cluster.accepts node = true →
      (reads.succeed = true → ListsPods run node (podsBoundBy node reads)) ∧
      (reads.succeed = false → podsBoundBy node reads = [])
  | .deleteNode name => LeavesNoPods run name
  | .updatePod pod _ => ∀ old ∈ run.boundPods.lookup (podKey pod),
      old.nodeName = pod.nodeName → old.ownedByDaemonSet = pod.ownedByDaemonSet
  | _ => True

instance (run : ClusterRun) (name : String) : Decidable (LeavesNoPods run name) :=
  inferInstanceAs (Decidable (_ ∨ _))

instance (run : ClusterRun) (node : Node) (pods : List (Pod × Volumes)) :
    Decidable (ListsPods run node pods) :=
  decidable_of_iff
    ((∀ pod ∈ pods, pod.1.nodeName = node.name) ∧ (pods.map fun pod => podKey pod.1).Nodup ∧
      (∀ entry ∈ run.boundPods.entries, entry.2.nodeName = node.name →
        entry.1 ∈ pods.map fun pod => podKey pod.1) ∧
      (∀ entry ∈ run.cluster.nodeNameToProviderID.entries,
        entry.2 = (Cluster.identified node).providerID → entry.1 = node.name) ∧
      ∀ oldID ∈ run.cluster.nodeNameToProviderID.lookup node.name,
        oldID ≠ (Cluster.identified node).providerID → LeavesNoPods run node.name)
    ⟨fun ⟨onNode, distinct, all, sole, moved⟩ => ⟨onNode, distinct, all, sole, moved⟩,
      fun lists => ⟨lists.onNode, lists.distinct, lists.all, lists.sole, lists.moved⟩⟩

instance (run : ClusterRun) : (event : ClusterEvent) → Decidable (Consistent run event)
  | .updateNode _ _ => inferInstanceAs (Decidable (_ → (_ → _) ∧ (_ → _)))
  | .deleteNode _ => inferInstanceAs (Decidable (LeavesNoPods _ _))
  | .updatePod _ _ => inferInstanceAs (Decidable (∀ _ ∈ _, _ → _))
  | .updateNodeClaim _ | .deleteNodeClaim _ | .markForDeletion _ | .unmarkForDeletion _
  | .deletePod _ | .simulationCopyNodes | .deepCopyNodes | .updateCopy _ _ _
  | .cleanupCopy _ _ => .isTrue trivial

theorem LeavesNoPods.cases (leaves : LeavesNoPods run name) {id : String}
    (known : run.cluster.nodeNameToProviderID.lookup name = some id)
    (found : run.cluster.nodes.lookup id = some n) :
    n.nodeClaim = none ∨ ∀ key pod, run.boundPods.lookup key = some pod → pod.nodeName ≠ name := by
  rcases leaves with unclaimed | noPods
  · exact .inl (isNone_iff_eq_none.mp (unclaimed id known n found))
  · exact .inr fun key pod isBound => noPods ⟨key, pod⟩ (mem_entries_iff.mpr isBound)

theorem Consistent.updateNode_cases {reads : NodeReads}
    (consistent : Consistent run (.updateNode node reads))
    (done : run.apply evictionCost (.updateNode node reads) = .ok run') :
    run'.cluster = run.cluster ∧ run'.boundPods = run.boundPods ∨
    ∃ limits, ListsPods run node (podsBoundBy node reads) ∧
      run'.boundPods = recordPods run.boundPods (podsBoundBy node reads) ∧
      (run.cluster.bindPods (podsBoundBy node reads)).joinNode evictionCost
        ((run.cluster.nodes.lookup (identified node).providerID).getD {})
        (identified node) (podsBoundBy node reads) limits = .ok run'.cluster := by
  rcases run.apply_updateNode_cases evictionCost node reads with
    ⟨notJoined, same⟩ | ⟨listing, limits, accepted, listed, complete, limited, joins⟩
  · have nothing : podsBoundBy node reads = [] := by
      cases accepted : accepts node with
      | false => simp [podsBoundBy, accepted]
      | true =>
        rw [accepted, Bool.true_and] at notJoined
        exact (consistent accepted).2 notJoined
    rw [nothing] at same
    obtain rfl := ok.inj (same.symm.trans done)
    exact .inl ⟨rfl, rfl⟩
  · have succeed : reads.succeed := by
      simp [NodeReads.succeed, listed, complete, limited]
    obtain ⟨c', joined, rfl⟩ := map_eq_ok.mp (joins.symm.trans done)
    exact .inr ⟨limits, (consistent accepted).1 succeed, rfl, joined⟩

theorem Cluster.Named.apply (named : run.cluster.Named) (consistent : Consistent run event)
    (done : run.apply evictionCost event = .ok run') :
    run'.cluster.Named := by
  cases event with
  | updateNode node reads =>
    rcases consistent.updateNode_cases done with ⟨same, _⟩ | ⟨limits, lists, _, joined⟩
    · exact same ▸ named
    · have bound := sameObjects_bindPods (podsBoundBy node reads) run.cluster
      refine (bound.named named).joinNode (identified_providerID_ne node) ?_ joined
      intro name known
      rw [bound.nodeNames] at known
      rw [identified_name]
      exact lists.sole ⟨name, _⟩ (mem_entries_iff.mpr known) rfl
  | deleteNode name =>
    obtain ⟨c', cleaned, rfl⟩ := map_eq_ok.mp done
    exact named.cleanupNode cleaned
  | updateNodeClaim nodeClaim =>
    obtain ⟨c', updated, rfl⟩ := map_eq_ok.mp done
    exact named.updateNodeClaim updated
  | deleteNodeClaim name =>
    obtain ⟨c', cleaned, rfl⟩ := map_eq_ok.mp done
    exact named.cleanupNodeClaim cleaned
  | markForDeletion _ | unmarkForDeletion _ =>
    obtain ⟨c', marked, rfl⟩ := map_eq_ok.mp done
    exact named.setMarkedForDeletion marked
  | updatePod pod volumes =>
    cases done
    exact (sameObjects_updatePod evictionCost run.cluster pod volumes).named named
  | deletePod key =>
    cases done
    exact (sameObjects_deletePod run.cluster key).named named
  | simulationCopyNodes =>
    cases done
    exact (sameObjects_simulationCopyNodes run.cluster).named named
  | deepCopyNodes | updateCopy _ _ _ | cleanupCopy _ _ =>
    cases done
    exact named

/-! ### Maps by pod after the handlers -/

section Handlers

variable {evictionCost : Pod → ℚ} {V : Type} {field : PodField evictionCost V}
variable {bound : GoMap PodKey Pod} {c : Cluster}

theorem any_isNamed_eq (bindings : ∀ key, c.bindings.lookup key = (bound.lookup key).map (·.nodeName))
    (key : PodKey) (n : StateNode) :
    (c.bindings.lookup key).any n.isNamed = (bound.lookup key).any n.hosts := by
  rw [bindings]
  cases bound.lookup key <;> rfl

theorem PodField.matches_bindPod (named : c.Named)
    (bindings : ∀ key, c.bindings.lookup key = (bound.lookup key).map (·.nodeName)) {pod : Pod}
    {id : String} {n' : StateNode} (found' : (c.bindPod pod).nodes.lookup id = some n') :
    ∃ n, c.nodes.lookup id = some n ∧ n'.objects = n.objects ∧ (n.isNamed pod.nodeName → n' = n) ∧
      (n.isNamed pod.nodeName = false → field.Matches bound n →
        field.Matches (bound.insert (podKey pod) pod) n') := by
  rw [named.lookup_bindPod] at found'
  obtain ⟨n, found, rfl⟩ := map_eq_some_iff.mp found'
  refine ⟨n, found, ?_, fun here => if_neg ?_, fun elsewhere holds => ?_⟩
  · split_ifs <;> rfl
  · cases c.bindings.lookup (podKey pod) with
    | none => simp
    | some old =>
      simp only [any_some, Bool.and_eq_true, decide_eq_true_eq, not_and]
      exact fun different isOld => different (isNamed_inj isOld here)
  · have sameTest : ((c.bindings.lookup (podKey pod)).any fun old =>
        decide (old ≠ pod.nodeName) && n.isNamed old) = (bound.lookup (podKey pod)).any n.hosts := by
      rw [← any_isNamed_eq bindings]
      cases c.bindings.lookup (podKey pod) with
      | none => rfl
      | some old =>
        cases isOld : n.isNamed old with
        | false => simp [isOld]
        | true =>
          have different : old ≠ pod.nodeName := by
            rintro rfl
            rw [elsewhere] at isOld
            cases isOld
          simp [isOld, different]
    rw [sameTest]
    exact holds.bound_elsewhere elsewhere

theorem PodField.matches_bindPods {target : String} (pods : List (Pod × Volumes)) (named : c.Named)
    (bindings : ∀ key, c.bindings.lookup key = (bound.lookup key).map (·.nodeName))
    (onTarget : ∀ pod ∈ pods, pod.1.nodeName = target)
    (holds : ∀ id n, c.nodes.lookup id = some n → n.isNamed target = false → field.Matches bound n) :
    ∀ id n', (c.bindPods pods).nodes.lookup id = some n' →
      (n'.isNamed target → c.nodes.lookup id = some n') ∧
      (n'.isNamed target = false → field.Matches (recordPods bound pods) n') := by
  induction pods generalizing c bound with
  | nil => exact fun id n' found => ⟨fun _ => found, holds id n' found⟩
  | cons pod rest ih =>
    have isTarget : pod.1.nodeName = target := onTarget pod mem_cons_self
    have step := @PodField.matches_bindPod _ _ field _ _ named bindings pod.1
    rw [isTarget] at step
    have bindings' : ∀ key, (c.bindPod pod.1).bindings.lookup key =
        ((bound.insert (podKey pod.1) pod.1).lookup key).map (·.nodeName) := by
      intro key
      rw [lookup_bindPod_bindings, lookup_insert_eq]
      split_ifs
      · rfl
      · exact bindings key
    have rested := ih ((sameObjects_bindPod c pod.1).named named) bindings'
      (fun other member => onTarget other (mem_cons_of_mem _ member)) ?_
    · intro id n' found'
      obtain ⟨same, elsewhere⟩ := rested id n' found'
      refine ⟨fun here => ?_, elsewhere⟩
      obtain ⟨n, found, objects, unchanged, _⟩ := step (same here)
      have isHere : n.isNamed target := (isNamed_of_objects objects target).symm.trans here
      rw [unchanged isHere]
      exact found
    · intro id n' found' elsewhere
      obtain ⟨n, found, objects, _, moved⟩ := step found'
      have isElsewhere : n.isNamed target = false :=
        (isNamed_of_objects objects target).symm.trans elsewhere
      exact moved isElsewhere (holds id n found isElsewhere)

variable {c' : Cluster} {run : ClusterRun}

theorem PodField.matches_cleanupNode {bound' : GoMap PodKey Pod} {name : String} (named : c.Named)
    (own : ∀ id n, c.nodeNameToProviderID.lookup name = some id → c.nodes.lookup id = some n →
      field.Matches bound n ∧ (n.nodeClaim = none ∨
        ∀ key pod, bound.lookup key = some pod → pod.nodeName ≠ name))
    (others : ∀ id n, c.nodes.lookup id = some n → n.isNamed name = false → field.Matches bound' n)
    (done : c.cleanupNode name = .ok c') : c'.AllNodes (field.Matches bound') := by
  rcases c.cleanupNode_cases name with
    ⟨unlaunched, same⟩ | ⟨id, _, isID, ⟨_, failed⟩ | ⟨n, found, replaces⟩⟩
  · obtain rfl := ok.inj (same.symm.trans done)
    refine fun id n found => others id n found (Bool.eq_false_iff.mpr fun isName => ?_)
    have known := (named.names name id).mpr ⟨n, found, isName⟩
    rw [known, getD_some] at unlaunched
    rw [unlaunched, named.unknown] at found
    cases found
  · cases failed.symm.trans done
  · obtain ⟨middle, replaced, rfl⟩ := map_eq_ok.mp (replaces.symm.trans done)
    obtain ⟨n', found', isName⟩ := (named.names name id).mp isID
    obtain rfl := some.inj (found.symm.trans found')
    suffices kept : middle.AllNodes (field.Matches bound') from kept
    intro other n' found'
    rw [lookup_replaceNode replaced] at found'
    split_ifs at found' with isId
    · obtain ⟨nodeClaim, claimed, rfl⟩ := map_eq_some_iff.mp found'
      obtain ⟨holds, unclaimed | noPods⟩ := own id n isID found
      · rw [unclaimed] at claimed
        cases claimed
      · refine holds.node_gone (fun key pod isBound => Bool.eq_false_iff.mpr fun hosted => ?_) bound'
        exact noPods key pod isBound (isNamed_inj hosted isName)
    · refine others other n' found' (Bool.eq_false_iff.mpr fun isName' => isId ?_)
      have known := (named.names name other).mpr ⟨n', found', isName'⟩
      exact some.inj (known.symm.trans isID)

theorem PodField.matches_joinNode {node : Node} (binds : run.Binds) (named : run.cluster.Named)
    (holds : run.cluster.AllNodes (field.Matches run.boundPods)) (lists : ListsPods run node pods)
    (done : (run.cluster.bindPods pods).joinNode evictionCost oldNode (identified node)
      pods limits = .ok c') :
    c'.AllNodes (field.Matches (recordPods run.boundPods pods)) := by
  have bound := sameObjects_bindPods pods run.cluster
  have namedBound := bound.named named
  have split := @PodField.matches_bindPods _ _ field _ _ _ pods named binds.bindings lists.onNode
    fun id n found _ => holds id n found
  have isName := identified_name node
  obtain ⟨c₁, c₂, moved, replaced, rfl⟩ := joinNode_eq_ok done
  rw [isName] at moved
  have others : ∀ id n, c₁.nodes.lookup id = some n → id ≠ (identified node).providerID →
      field.Matches (recordPods run.boundPods pods) n := by
    rcases (run.cluster.bindPods pods).cleanupMovedNode_cases node.name
      (identified node).providerID with ⟨isID, stays⟩ | ⟨oldID, known, isMoved, moves⟩
    · obtain rfl := ok.inj (stays.symm.trans moved)
      intro id n found elsewhere
      refine (split id n found).2 (Bool.eq_false_iff.mpr fun here => elsewhere ?_)
      exact isID id ((namedBound.names node.name id).mpr ⟨n, found, here⟩)
    · have own : ∀ id n,
          (run.cluster.bindPods pods).nodeNameToProviderID.lookup node.name = some id →
          (run.cluster.bindPods pods).nodes.lookup id = some n →
          field.Matches run.boundPods n ∧ (n.nodeClaim = none ∨
            ∀ key pod, run.boundPods.lookup key = some pod → pod.nodeName ≠ node.name) := by
        intro id n known' found
        obtain rfl := some.inj (known.symm.trans known')
        obtain ⟨n', found', here⟩ := (namedBound.names node.name oldID).mp known
        obtain rfl := some.inj (found.symm.trans found')
        have original := (split oldID n found).1 here
        rw [bound.nodeNames] at known
        exact ⟨holds oldID n original, (lists.moved oldID known isMoved).cases known original⟩
      intro id n found _
      exact PodField.matches_cleanupNode namedBound own (fun id n found => (split id n found).2)
        (moves.symm.trans moved) id n found
  intro id n found
  rw [show (nodes { c₂ with nodeNameToProviderID := _ }) = c₂.nodes from rfl,
    lookup_replaceNode replaced] at found
  split_ifs at found with isID
  · cases found
    refine field.matches_rebuiltNode ?_ lists.distinct ?_
    · intro pod member
      rw [isName]
      exact lists.onNode pod member
    · intro key pod isBound onNode
      rw [isName] at onNode
      exact lists.all ⟨key, pod⟩ (mem_entries_iff.mpr isBound) onNode
  · exact others id n found isID

theorem PodField.matches_cleanupNodeClaim {name : String} (holds : c.AllNodes (field.Matches bound))
    (done : c.cleanupNodeClaim name = .ok c') :
    c'.AllNodes (field.Matches bound) := by
  rcases c.cleanupNodeClaim_cases name with
    ⟨_, same⟩ | ⟨id, _, _, ⟨_, failed⟩ | ⟨n, found, replaces⟩⟩
  · exact ok.inj (same.symm.trans done) ▸ holds
  · cases failed.symm.trans done
  · obtain ⟨middle, replaced, rfl⟩ := map_eq_ok.mp (replaces.symm.trans done)
    suffices kept : middle.AllNodes (field.Matches bound) from kept
    refine holds.replaceNode (fun tracked isNew => ?_) replaced
    obtain ⟨_, _, rfl⟩ := map_eq_some_iff.mp isNew
    exact (holds id n found).of_same rfl rfl

theorem PodField.matches_of_empty {n : StateNode} (noNode : n.node = none)
    (empty : field.read n.podMaps = ∅) : field.Matches bound n := by
  intro key
  rw [empty, filter_eq_none_iff.mpr]
  · rfl
  · simp [hosts, isNamed, noNode]

/-- Joining a NodeClaim keeps what is tracked for the pods, or there is nothing. -/
def PodField.KeptBy (field : PodField evictionCost V) (run : ClusterRun) (nodeClaim : NodeClaim) :
    Prop :=
  ∀ n, run.cluster.nodes.lookup nodeClaim.providerID = some n →
    field.read (Cluster.StateNode.withNodeClaim n nodeClaim).podMaps = field.read n.podMaps ∨
    ∀ key pod, run.boundPods.lookup key = some pod → n.hosts pod = true → field.entry pod = none

theorem PodField.matches_updateNodeClaim {nodeClaim : NodeClaim}
    (holds : run.cluster.AllNodes (field.Matches run.boundPods)) (kept : field.KeptBy run nodeClaim)
    (done : run.cluster.updateNodeClaim nodeClaim = .ok c') :
    c'.AllNodes (field.Matches run.boundPods) := by
  obtain ⟨c₂, rfl, ⟨_, rfl⟩ | ⟨_, c₁, moved, replaced⟩⟩ := updateNodeClaim_eq_ok done
  · exact holds
  · have cleaned : c₁.AllNodes (field.Matches run.boundPods) := by
      rcases run.cluster.cleanupMovedNodeClaim_cases nodeClaim.name nodeClaim.providerID with
        ⟨_, stays⟩ | ⟨_, _, _, moves⟩
      · exact ok.inj (stays.symm.trans moved) ▸ holds
      · exact PodField.matches_cleanupNodeClaim holds (moves.symm.trans moved)
    suffices joined : c₂.AllNodes (field.Matches run.boundPods) from joined
    refine cleaned.replaceNode (fun tracked isNew => ?_) replaced
    cases isNew
    cases found : run.cluster.nodes.lookup nodeClaim.providerID with
    | none =>
      refine PodField.matches_of_empty rfl ?_
      rcases field.read_withNodeClaim {} nodeClaim with same | empty
      · exact same.trans field.read_empty
      · exact empty
    | some n =>
      rw [getD_some]
      have unchanged : field.read (Cluster.StateNode.withNodeClaim n nodeClaim).podMaps =
          field.read n.podMaps → field.Matches run.boundPods
            (Cluster.StateNode.withNodeClaim n nodeClaim) := by
        intro same key
        rw [same]
        exact holds _ n found key
      rcases field.read_withNodeClaim n nodeClaim with same | empty
      · exact unchanged same
      rcases kept n found with same | nothing
      · exact unchanged same
      intro key
      rw [empty]
      cases isBound : run.boundPods.lookup key with
      | none => rfl
      | some pod =>
        rw [filter_some]
        split_ifs with hosted
        · exact (nothing key pod isBound hosted).symm
        · rfl

theorem PodField.matches_setMarkedForDeletion {marked : Bool} {ids : List String}
    (holds : c.AllNodes (field.Matches bound)) (done : c.setMarkedForDeletion marked ids = .ok c') :
    c'.AllNodes (field.Matches bound) := by
  have kept := @Cluster.setMarkedForDeletion_ensures marked (fun _ => True)
    (Cluster.AllNodes (field.Matches bound)) ?_ c holds ids
  · exact kept.of_ok done
  · intro c₁ id n holds₁ found
    cases replaced : c₁.replaceNode id n (some { n with markedForDeletion := marked }) with
    | error panic => trivial
    | ok c₂ =>
      refine holds₁.replaceNode (fun tracked isNew => ?_) replaced
      cases isNew
      exact (holds₁ id n found).of_same rfl rfl

theorem PodField.matches_completion (named : c.Named)
    (bindings : ∀ key, c.bindings.lookup key = (bound.lookup key).map (·.nodeName))
    (holds : c.AllNodes (field.Matches bound)) (key : PodKey) :
    (c.updateNodeUsageFromPodCompletion key).AllNodes (field.Matches (bound.erase key)) := by
  intro id n' found'
  rw [named.lookup_completion] at found'
  obtain ⟨n, found, rfl⟩ := map_eq_some_iff.mp found'
  rw [any_isNamed_eq bindings]
  exact (holds id n found).gone key

theorem PodField.matches_updatePod (binds : run.Binds) (named : run.cluster.Named)
    (holds : run.cluster.AllNodes (field.Matches run.boundPods)) {pod : Pod} {id : String}
    {n : StateNode} {volumes : Volumes}
    (sameKind : ∀ old ∈ run.boundPods.lookup (podKey pod), old.nodeName = pod.nodeName →
      old.ownedByDaemonSet = pod.ownedByDaemonSet)
    (found : run.cluster.nodeByName pod.nodeName = some (id, n)) :
    ((run.cluster.setNode id (some (n.updateForPod evictionCost pod volumes))).bindPod pod).AllNodes
      (field.Matches (run.boundPods.insert (podKey pod) pod)) := by
  obtain ⟨tracked, here⟩ := named.nodeByName_iff.mp found
  have same := sameObjects_setNode tracked (objects_updateForPod n evictionCost pod volumes)
  intro other n' found'
  obtain ⟨n₁, found₁, objects, unchanged, moved⟩ :=
    @PodField.matches_bindPod _ _ field _ _ (same.named named) binds.bindings _ _ _ found'
  rw [lookup_setNode] at found₁
  split_ifs at found₁ with isID
  · cases found₁
    rw [unchanged here]
    refine (holds id n tracked).bound_here here (fun old isOld hosted => ?_) volumes
    exact sameKind old isOld (isNamed_inj hosted here)
  · have elsewhere : n₁.isNamed pod.nodeName = false := by
      refine Bool.eq_false_iff.mpr fun isName => isID ?_
      have found₂ := named.nodeByName_iff.mpr ⟨found₁, isName⟩
      exact (Prod.mk.inj (some.inj (found₂.symm.trans found))).1
    exact moved elsewhere (holds other n₁ found₁)

end Handlers

theorem PodField.matches_apply {field : PodField evictionCost V} (binds : run.Binds)
    (named : run.cluster.Named) (holds : run.cluster.AllNodes (field.Matches run.boundPods))
    (consistent : Consistent run event)
    (kept : ∀ nodeClaim, event = .updateNodeClaim nodeClaim → field.KeptBy run nodeClaim)
    (done : run.apply evictionCost event = .ok run') :
    run'.cluster.AllNodes (field.Matches run'.boundPods) := by
  cases event with
  | updateNode node reads =>
    rcases consistent.updateNode_cases done with ⟨same, samePods⟩ | ⟨limits, lists, pods, joined⟩
    · rw [same, samePods]
      exact holds
    · rw [pods]
      exact PodField.matches_joinNode binds named holds lists joined
  | deleteNode name =>
    obtain ⟨c', cleaned, rfl⟩ := map_eq_ok.mp done
    exact PodField.matches_cleanupNode named
      (fun id n known found => ⟨holds id n found, LeavesNoPods.cases consistent known found⟩)
      (fun id n found _ => holds id n found) cleaned
  | updateNodeClaim nodeClaim =>
    obtain ⟨c', updated, rfl⟩ := map_eq_ok.mp done
    have joined := PodField.matches_updateNodeClaim holds (kept nodeClaim rfl) updated
    exact joined
  | deleteNodeClaim name =>
    obtain ⟨c', cleaned, rfl⟩ := map_eq_ok.mp done
    exact PodField.matches_cleanupNodeClaim holds cleaned
  | markForDeletion _ | unmarkForDeletion _ =>
    obtain ⟨c', marked, rfl⟩ := map_eq_ok.mp done
    exact PodField.matches_setMarkedForDeletion holds marked
  | updatePod pod volumes =>
    rcases run.apply_updatePod_cases evictionCost pod volumes with
      ⟨_, completes⟩ | same | ⟨id, n, used, _, found, tracks⟩
    · obtain rfl := ok.inj (completes.symm.trans done)
      exact PodField.matches_completion named binds.bindings holds (podKey pod)
    · obtain rfl := ok.inj (same.symm.trans done)
      exact holds
    · obtain rfl := ok.inj (tracks.symm.trans done)
      exact PodField.matches_updatePod binds named holds consistent found
  | deletePod key =>
    cases done
    have same : Cluster.SameObjects run.cluster { run.cluster with
        antiAffinityPods := run.cluster.antiAffinityPods.erase key } :=
      ⟨fun _ => rfl, rfl, rfl, rfl⟩
    exact PodField.matches_completion (same.named named) binds.bindings holds key
  | simulationCopyNodes =>
    cases done
    intro id n found
    rw [lookup_mapValues] at found
    obtain ⟨before, tracked, rfl⟩ := map_eq_some_iff.mp found
    exact (holds id before tracked).of_same rfl rfl
  | deepCopyNodes | updateCopy _ _ _ | cleanupCopy _ _ =>
    cases done
    exact holds

end Kraftsman.State
