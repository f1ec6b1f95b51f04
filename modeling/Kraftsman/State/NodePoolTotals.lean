import Kraftsman.State.Events

/-!
Contract: the resources that cluster state keeps for a NodePool are those of the
nodes it tracks.

Owns: what a tracked node adds to its NodePool, and that every handler replaces
its old share by the new one.
Does not own: the limits that the totals are compared with.
-/

namespace Kraftsman.State

open Apis Data Data.FallibleLoop Scheduling GoMap Resources Option
open Kraftsman.Resources (amount)

def totalOf (totals : GoMap String ResourceList) (nodePool resource : String) : Quantity :=
  amount ((totals.lookup nodePool).getD ∅) resource

variable (totals : GoMap String ResourceList) (target : String)

theorem totalOf_insert (nodePool resource : String) (list : ResourceList) :
    totalOf (totals.insert target list) nodePool resource =
      if nodePool = target then amount list resource else totalOf totals nodePool resource := by
  unfold totalOf
  rw [lookup_insert_eq]
  split_ifs <;> rfl

theorem totalOf_addNodePool (nodePool resource : String) :
    totalOf (addNodePool totals target) nodePool resource = totalOf totals nodePool resource := by
  unfold addNodePool
  split_ifs with isNew
  · rw [totalOf_insert]
    split_ifs with same
    · have absent : totals.lookup nodePool = none := by
        rw [same]
        exact AList.lookup_eq_none.mpr isNew.2
      simp [totalOf, absent]
    · rfl
  · rfl

variable {resources : ResourceList} {nodePool : String}

theorem amount_of_entries_nil (empty : resources.entries = []) (resource : String) :
    amount resources resource = 0 := by
  unfold amount
  rw [lookup_eq_none_of_entries_nil empty]
  rfl

theorem totalOf_subtractResources {totals totals' : GoMap String ResourceList}
    {target resource : String} (isPool : nodePool ≠ "")
    (done : subtractResources totals target resources = .ok totals') :
    totalOf totals' nodePool resource = totalOf totals nodePool resource -
        if nodePool = target then amount resources resource else 0 := by
  unfold subtractResources at done
  split_ifs at done with nothing
  · cases done
    rcases nothing with unnamed | empty
    · rw [if_neg (fun same => isPool (same.trans unnamed)), sub_zero]
    · rw [amount_of_entries_nil empty, ite_self, sub_zero]
  · split at done
    · cases done
    · next current found =>
        cases done
        rw [totalOf_insert]
        split_ifs with same
        · rw [amount_subtractFrom, same, totalOf, found]
          rfl
        · rw [sub_zero]

theorem totalOf_addResources {target resource : String} (isPool : nodePool ≠ "") :
    totalOf (addResources totals target resources) nodePool resource =
      totalOf totals nodePool resource +
        if nodePool = target then amount resources resource else 0 := by
  unfold addResources
  split_ifs with unnamed same same
  · exact absurd (same.trans unnamed) isPool
  · rw [add_zero]
  · rw [totalOf_insert, if_pos same, amount_mergeInto, same]
    rfl
  · rw [totalOf_insert, if_neg same, add_zero]

theorem totalOf_collectGarbage (nodePool resource : String) :
    totalOf (collectGarbage totals target) nodePool resource = totalOf totals nodePool resource := by
  unfold collectGarbage
  split_ifs with allZero
  · unfold totalOf
    rw [lookup_erase_eq]
    split_ifs with same
    · rw [same]
      cases found : ((totals.lookup target).getD ∅).lookup resource with
      | none => simp [amount, found]
      | some quantity =>
        have isZero := List.all_eq_true.mp allZero ⟨resource, quantity⟩ (mem_entries_iff.mpr found)
        simp only [decide_eq_true_eq] at isZero
        simp [amount, found, isZero]
    · rfl
  · rfl

def share (nodePool resource : String) (n : StateNode) : Quantity :=
  if labelValue n.labels nodePoolLabelKey = nodePool ∧ n.isMarkedForDeletion = false then
    amount n.capacity resource
  else 0

theorem share_eq_of_objects {n n' : StateNode} (same : n.objects = n'.objects)
    (nodePool resource : String) : share nodePool resource n = share nodePool resource n' := by
  obtain ⟨node', nodeClaim'⟩ := n'
  obtain ⟨rfl, rest⟩ := Prod.mk.inj same
  obtain ⟨rfl, rfl⟩ := Prod.mk.inj rest
  rfl

theorem capacity_node (n : StateNode) : amount n.capacity node = 1 := by
  unfold StateNode.capacity
  rw [amount_insert, if_pos rfl]

theorem share_node_nonneg (nodePool : String) (n : StateNode) : 0 ≤ share nodePool node n := by
  unfold share
  split_ifs
  · exact zero_le_one
  · exact le_rfl

theorem amount_contribution_snd {n : StateNode} (hasObject : (n.node.isNone && n.nodeClaim.isNone) = false)
    (resource : String) :
    amount (contribution (some n)).2 resource =
      if n.isMarkedForDeletion = false then amount n.capacity resource else 0 := by
  simp only [contribution, hasObject, Bool.false_eq_true, if_false]
  cases n.isMarkedForDeletion with
  | true => rfl
  | false =>
    have again : ∀ list : ResourceList, amount list node = 1 →
        amount (if list.entries.isEmpty then list else list.insert node 1) resource =
          amount list resource := by
      intro list isOne
      split_ifs
      · rfl
      · rw [amount_insert]
        split_ifs with same
        · rw [same, isOne]
        · rfl
    exact again n.capacity (capacity_node n)

theorem amount_contribution (n : StateNode) (isPool : nodePool ≠ "") (resource : String) :
    (if nodePool = (contribution (some n)).1 then amount (contribution (some n)).2 resource else 0) =
      share nodePool resource n := by
  cases hasObject : n.node.isNone && n.nodeClaim.isNone with
  | true =>
    obtain ⟨noNode, noNodeClaim⟩ := Bool.and_eq_true_iff.mp hasObject
    have unlabelled : labelValue n.labels nodePoolLabelKey = "" := by
      simp only [isNone_iff_eq_none] at noNode noNodeClaim
      simp [StateNode.labels, noNode, noNodeClaim, labelValue]
    have noShare : share nodePool resource n = 0 := by
      rw [share, unlabelled, if_neg fun both => isPool both.1.symm]
    have unnamed : (contribution (some n)).1 = "" := by simp [contribution, hasObject]
    rw [noShare, unnamed, if_neg isPool]
  | false =>
    have named : (contribution (some n)).1 = labelValue n.labels nodePoolLabelKey := by
      simp [contribution, hasObject]
    rw [amount_contribution_snd hasObject, named, share]
    by_cases same : nodePool = labelValue n.labels nodePoolLabelKey
    · simp [← same]
    · rw [if_neg same, if_neg fun both => same both.1.symm]

def shareOf (nodePool resource : String) (n : Option StateNode) : Quantity :=
  n.elim 0 (share nodePool resource)

theorem amount_contribution_option (n : Option StateNode) (isPool : nodePool ≠ "")
    (resource : String) :
    (if nodePool = (contribution n).1 then amount (contribution n).2 resource else 0) =
      shareOf nodePool resource n := by
  cases n with
  | none =>
    rw [if_neg (show nodePool ≠ (contribution none).1 from isPool)]
    rfl
  | some n => exact amount_contribution n isPool resource

namespace Cluster

variable {c c' : Cluster} {id : String} {n : StateNode}

theorem totalOf_updateNodePoolResources {oldNode newNode : Option StateNode}
    (done : c.updateNodePoolResources oldNode newNode = .ok c') {nodePool : String}
    (isPool : nodePool ≠ "") (resource : String) :
    totalOf c'.nodePoolResources nodePool resource =
      totalOf c.nodePoolResources nodePool resource - shareOf nodePool resource oldNode +
        shareOf nodePool resource newNode := by
  obtain ⟨totals, subtracted, rfl⟩ := map_eq_ok.mp done
  rw [totalOf_collectGarbage, totalOf_collectGarbage, totalOf_addResources _ isPool,
    totalOf_subtractResources isPool subtracted, totalOf_addNodePool,
    amount_contribution_option oldNode isPool, amount_contribution_option newNode isPool]

def TotalsExact (c : Cluster) : Prop :=
  ∀ nodePool resource, nodePool ≠ "" →
    totalOf c.nodePoolResources nodePool resource =
      GoMap.sumOver (fun _ => share nodePool resource) c.nodes

/-- A node at hand has the share of what is tracked at a provider id. -/
def SharesWith (c : Cluster) (id : String) (n : StateNode) : Prop :=
  ∀ nodePool resource, nodePool ≠ "" →
    GoMap.weightAt (fun _ => share nodePool resource) c.nodes id = share nodePool resource n

theorem share_empty {nodePool : String} (isPool : nodePool ≠ "") (resource : String) :
    share nodePool resource {} = 0 := by
  have unlabelled : labelValue (StateNode.labels {}) nodePoolLabelKey = "" := rfl
  rw [share, unlabelled, if_neg fun both => isPool both.1.symm]

theorem sharesWith_getD : c.SharesWith id ((c.nodes.lookup id).getD {}) := by
  intro nodePool resource isPool
  unfold weightAt
  cases c.nodes.lookup id with
  | none => exact (share_empty isPool resource).symm
  | some n => rfl

/-- The panics that exact totals alone do not rule out. -/
def LookupPanic (panic : ClusterPanic) : Prop := ∃ id, panic = .missingStateNode id

theorem share_node_of_contribution (isPool : (contribution (some n)).1 ≠ "")
    (nonempty : (contribution (some n)).2.entries ≠ []) :
    share (contribution (some n)).1 node n = 1 := by
  cases hasObject : n.node.isNone && n.nodeClaim.isNone with
  | true => simp [contribution, hasObject] at isPool
  | false =>
    have unmarked : n.isMarkedForDeletion = false := by
      by_contra marked
      apply nonempty
      simp only [Bool.not_eq_false] at marked
      simp [contribution, hasObject, marked]
    rw [← amount_contribution n isPool, if_pos rfl, amount_contribution_snd hasObject,
      if_pos unmarked, capacity_node]

/-- Replacing a tracked node keeps the totals exact, and subtracts from an entry
that exists: the node itself counts there. -/
theorem TotalsExact.replaceNode (exact : c.TotalsExact) {oldNode : StateNode}
    (isOld : c.SharesWith id oldNode) (newNode : Option StateNode) :
    Ensures LookupPanic TotalsExact (c.replaceNode id oldNode newNode) := by
  have updated : Ensures LookupPanic (fun _ => True)
      (c.updateNodePoolResources (some oldNode) newNode) := by
    cases done : c.updateNodePoolResources (some oldNode) newNode with
    | ok c' => trivial
    | error panic =>
      exfalso
      unfold updateNodePoolResources subtractResources at done
      have failed := map_eq_error.mp done
      split_ifs at failed with nothing
      split at failed
      · next missing =>
          obtain ⟨isPool, nonempty⟩ := not_or.mp nothing
          have counted := isOld _ node isPool
          rw [share_node_of_contribution isPool nonempty] at counted
          have total := exact _ node isPool
          rw [← totalOf_addNodePool _ (contribution newNode).1, totalOf, missing] at total
          have bound := weightAt_le_sumOver (m := c.nodes)
            (fun (_ : String) => share_node_nonneg (contribution (some oldNode)).1) id
          rw [counted, ← total] at bound
          exact absurd bound (by decide)
      · cases failed
  refine updated.map fun c₁ done _ nodePool resource isPool => ?_
  have nodes : c₁.nodes = c.nodes := by
    obtain ⟨totals, _, rfl⟩ := map_eq_ok.mp done
    rfl
  change totalOf c₁.nodePoolResources nodePool resource =
    sumOver _ (c₁.nodes.alter id fun _ => newNode)
  rw [sumOver_alter, nodes, isOld nodePool resource isPool, ← exact nodePool resource isPool]
  exact totalOf_updateNodePoolResources done isPool resource

theorem SameObjects.sharesWith (same : c.SameObjects c') (shares : c.SharesWith id n) :
    c'.SharesWith id n := by
  intro nodePool resource isPool
  rw [← shares nodePool resource isPool]
  have objects := same.objects id
  unfold weightAt
  cases before : c.nodes.lookup id with
  | none =>
    rw [before, map_none, map_eq_none_iff] at objects
    rw [objects]
  | some n =>
    rw [before] at objects
    obtain ⟨n', after, sameObjects⟩ := map_eq_some_iff.mp objects
    rw [after]
    exact share_eq_of_objects sameObjects nodePool resource

theorem SameObjects.totalsExact (same : c.SameObjects c') (exact : c.TotalsExact) :
    c'.TotalsExact := by
  intro nodePool resource isPool
  rw [same.totals, exact nodePool resource isPool]
  apply sumOver_eq_of_weightAt
  intro id
  rw [sharesWith_getD nodePool resource isPool]
  exact (same.sharesWith sharesWith_getD nodePool resource isPool).symm

theorem TotalsExact.keeps (evictionCost : Pod → ℚ) : Keeps evictionCost LookupPanic TotalsExact where
  missing id := ⟨id, rfl⟩
  renamed exact := exact
  replaced := by
    intro c id oldNode newNode exact replacement
    refine exact.replaceNode (fun nodePool resource isPool => ?_) newNode
    have sameObjects : ((c.nodes.lookup id).getD {}).objects = oldNode.objects := by
      cases replacement with
      | forgetNode found | forgetNodeClaim found | mark found => rw [found, getD_some]
      | joinNode isOld => exact isOld.symm
      | joinNodeClaim isOld => rw [isOld]
    rw [sharesWith_getD nodePool resource isPool]
    exact share_eq_of_objects sameObjects nodePool resource

end Cluster

theorem ClusterRun.apply_ensures_totalsExact (evictionCost : Pod → ℚ) {run : ClusterRun}
    (exact : run.cluster.TotalsExact) (event : ClusterEvent) :
    Ensures Cluster.LookupPanic (fun run' => run'.cluster.TotalsExact)
      (run.apply evictionCost event) := by
  cases binding : event.binding with
  | some pods =>
    have bound := (Cluster.sameObjects_bindPods pods run.cluster).totalsExact exact
    have kept := run.apply_binding (Cluster.TotalsExact.keeps evictionCost) binding bound
    cases done : run.apply evictionCost event with
    | error panic => exact kept.of_error done
    | ok run' => exact (kept.of_ok done).1
  | none =>
  cases event with
  | updateNode _ _ | deleteNode _ | updateNodeClaim _ | deleteNodeClaim _ | markForDeletion _
  | unmarkForDeletion _ => cases binding
  | updatePod pod volumes =>
    exact (Cluster.sameObjects_updatePod evictionCost run.cluster pod volumes).totalsExact exact
  | deletePod key => exact (Cluster.sameObjects_deletePod run.cluster key).totalsExact exact
  | simulationCopyNodes =>
    exact (Cluster.sameObjects_simulationCopyNodes run.cluster).totalsExact exact
  | deepCopyNodes | updateCopy _ _ _ | cleanupCopy _ _ => exact exact

def Cluster.nodePoolCapacity (c : Cluster) (nodePool resource : String) : Quantity :=
  ((c.nodes.values.filter fun n =>
    labelValue n.labels nodePoolLabelKey = nodePool && !n.isMarkedForDeletion).map fun n =>
      amount n.capacity resource).sum

theorem Cluster.sumOver_share (c : Cluster) (nodePool resource : String) :
    sumOver (fun _ => share nodePool resource) c.nodes = c.nodePoolCapacity nodePool resource := by
  have filtered : ∀ nodes : List StateNode, (nodes.map (share nodePool resource)).sum =
        ((nodes.filter fun n =>
          labelValue n.labels nodePoolLabelKey = nodePool && !n.isMarkedForDeletion).map fun n =>
            amount n.capacity resource).sum := by
    intro nodes
    induction nodes with
    | nil => rfl
    | cons n rest ih =>
      rw [List.map_cons, List.sum_cons, ih, List.filter_cons, share]
      by_cases counts : labelValue n.labels nodePoolLabelKey = nodePool ∧ n.isMarkedForDeletion = false
      · simp [counts]
      · rw [if_neg counts, if_neg (by simpa using counts), zero_add]
  rw [nodePoolCapacity, ← filtered, values, List.map_map]
  rfl

/-- In every run the resources kept for a NodePool are those of the tracked nodes
that carry its label and are not marked for deletion, and no event writes to an
entry that was collected. -/
theorem run_keeps_nodePool_totals (evictionCost : Pod → ℚ) {run : ClusterRun}
    (reached : Reaches (ClusterRun.apply evictionCost) (fun _ _ => True) {} run) :
    (∀ nodePool resource, nodePool ≠ "" →
      totalOf run.cluster.nodePoolResources nodePool resource =
        run.cluster.nodePoolCapacity nodePool resource) ∧
    ∀ event nodePool, run.apply evictionCost event ≠ .error (.nilNodePoolResources nodePool) := by
  have exact : run.cluster.TotalsExact :=
    reached.invariant (fun run => run.cluster.TotalsExact) (fun _ _ _ => rfl)
      fun _ event _ exact _ done =>
        (ClusterRun.apply_ensures_totalsExact evictionCost exact event).of_ok done
  refine ⟨fun nodePool resource isPool => ?_, fun event nodePool failed => ?_⟩
  · rw [exact nodePool resource isPool, Cluster.sumOver_share]
  · obtain ⟨id, isLookup⟩ :=
      (ClusterRun.apply_ensures_totalsExact evictionCost exact event).of_error failed
    cases isLookup

def launchedNodeClaim (name id : String) (named : name ≠ "") : NodeClaim :=
  { name := name, providerID := id, name_ne := named
    labels := GoMap.ofList [(nodePoolLabelKey, "default")]
    capacity := GoMap.ofList [("cpu", 4)] }

/-- Two NodeClaims launch, one of them moves to another instance and the other
one is marked for deletion. -/
theorem run_keeps_totals_of_moved_nodeClaim :
    ∃ run, Reaches (ClusterRun.apply fun _ => 1) (fun _ _ => True) {} run ∧
      totalOf run.cluster.nodePoolResources "default" "cpu" = 4 ∧
      run.cluster.nodePoolCapacity "default" "cpu" = 4 ∧
      run.apply (fun _ => 1) (.unmarkForDeletion ["i-2"]) ≠
        .error (.nilNodePoolResources "default") := by
  obtain ⟨run, reached, total⟩ : ∃ run,
      Reaches (ClusterRun.apply fun _ => 1) (fun _ _ => True) {} run ∧
      totalOf run.cluster.nodePoolResources "default" "cpu" = 4 :=
    Reaches.exists_of_follow [.updateNodeClaim (launchedNodeClaim "a" "i-1" (by decide)),
      .updateNodeClaim (launchedNodeClaim "b" "i-2" (by decide)),
      .updateNodeClaim (launchedNodeClaim "a" "i-3" (by decide)), .markForDeletion ["i-2"]]
      (by decide +kernel)
  obtain ⟨totals, writes⟩ := run_keeps_nodePool_totals (fun _ => 1) reached
  exact ⟨run, reached, total, (totals "default" "cpu" (by decide)).symm.trans total, writes _ _⟩

end Kraftsman.State
