import Kraftsman.Provisioning.Acceptance

/-!
Contract: the instance types of a template by the daemon pods that run on them.

Owns: that the groups partition the instance types and agree with each about its
daemon pods.
Does not own: the overhead of daemon pods on one instance type.
-/

namespace Kraftsman.Provisioning

open Apis CloudProvider Data Scheduling State Resources Requirements NodeClaim List

structure OverheadClass where
  daemons : List PodKey
  overhead : ResourceList

def OverheadClass.Alike (left right : OverheadClass) : Prop :=
  left.daemons.Perm right.daemons ∧ left.overhead.entries.Perm right.overhead.entries

theorem OverheadClass.Alike.symm {left right : OverheadClass} (alike : left.Alike right) :
    right.Alike left := ⟨alike.1.symm, alike.2.symm⟩

theorem OverheadClass.Alike.trans {left middle right : OverheadClass} (first : left.Alike middle)
    (second : middle.Alike right) : left.Alike right :=
  ⟨first.1.trans second.1, first.2.trans second.2⟩

def groupClass (entry : List Pod × DaemonOverheadGroup) : OverheadClass :=
  { daemons := entry.1.map podKey, overhead := entry.2.daemonOverhead }

def hostPortsOf (daemons : List Pod) : HostPortUsage :=
  daemons.foldl (fun usage pod => usage.add pod (getHostPorts pod)) ∅

section Grouping

variable {groups : List (List Pod × DaemonOverheadGroup)} {daemons : List Pod}
variable {overhead : ResourceList} {it : InstanceType}

theorem insertByOverhead_cases (daemons : List Pod) (overhead : ResourceList) (it : InstanceType)
    (groups : List (List Pod × DaemonOverheadGroup)) :
    (∃ before old after, groups = before ++ old :: after ∧
      (groupClass old).Alike { daemons := daemons.map podKey, overhead := overhead } ∧
      insertByOverhead daemons overhead it groups =
        before ++ (old.1, { old.2 with instanceTypes := old.2.instanceTypes ++ [it] }) :: after) ∨
    (∀ old ∈ groups,
      ¬ (groupClass old).Alike { daemons := daemons.map podKey, overhead := overhead }) ∧
      insertByOverhead daemons overhead it groups =
        groups ++ [(daemons, ⟨[it], overhead, hostPortsOf daemons⟩)] := by
  induction groups with
  | nil => exact .inr ⟨by simp, rfl⟩
  | cons first rest ih =>
    obtain ⟨grouped, group⟩ := first
    have alikeIff : (decide ((grouped.map podKey).Perm (daemons.map podKey)) &&
        sameResources group.daemonOverhead overhead) ↔
        (groupClass (grouped, group)).Alike { daemons := daemons.map podKey, overhead := overhead } := by
      simp [sameResources, OverheadClass.Alike, groupClass]
    unfold insertByOverhead
    split_ifs with alike
    · exact .inl ⟨[], (grouped, group), rest, rfl, alikeIff.mp alike, rfl⟩
    · rcases ih with ⟨before, old, after, split, same, inserted⟩ | ⟨apart, inserted⟩
      · exact .inl ⟨(grouped, group) :: before, old, after, by rw [split]; rfl, same,
          by rw [inserted]; rfl⟩
      · refine .inr ⟨fun old member => ?_, by rw [inserted]; rfl⟩
        rcases mem_cons.mp member with rfl | later
        · exact fun same => alike (alikeIff.mpr same)
        · exact apart old later

/-- Groups agree with every instance type about its daemon pods and overhead. -/
structure Grouped (daemonsOf : InstanceType → List Pod) (overheadOf : InstanceType → ResourceList)
    (its : List InstanceType) (groups : List (List Pod × DaemonOverheadGroup)) : Prop where
  opened : ∀ entry ∈ groups, (∃ it, entry.1 = daemonsOf it) ∧
    entry.2.hostPortUsage = hostPortsOf entry.1
  listed : its ⊆ groups.flatMap fun entry => entry.2.instanceTypes
  covered : ∀ entry ∈ groups, ∀ it ∈ entry.2.instanceTypes, it ∈ its ∧
    (groupClass entry).Alike { daemons := (daemonsOf it).map podKey, overhead := overheadOf it }
  apart : (groups.map groupClass).Pairwise fun left right => ¬ left.Alike right

variable {daemonsOf : InstanceType → List Pod} {overheadOf : InstanceType → ResourceList}
variable {its : List InstanceType}

theorem Grouped.insert (grouped : Grouped daemonsOf overheadOf its groups) (it : InstanceType) :
    Grouped daemonsOf overheadOf (its ++ [it])
      (insertByOverhead (daemonsOf it) (overheadOf it) it groups) := by
  obtain ⟨opened, listed, covered, apart⟩ := grouped
  replace covered : ∀ entry ∈ groups, ∀ other ∈ entry.2.instanceTypes, other ∈ its ++ [it] ∧
      (groupClass entry).Alike
        { daemons := (daemonsOf other).map podKey, overhead := overheadOf other } :=
    fun entry member other inGroup =>
      (covered entry member other inGroup).imp (mem_append_left _) id
  rcases insertByOverhead_cases (daemonsOf it) (overheadOf it) it groups with
    ⟨before, old, after, rfl, alike, inserted⟩ | ⟨none, inserted⟩
  · rw [inserted]
    simp only [forall_mem_append, forall_mem_cons] at opened covered
    refine ⟨?_, ?_, ?_, by simpa [groupClass] using apart⟩
    · exact forall_mem_append.mpr ⟨opened.1, forall_mem_cons.mpr opened.2⟩
    · intro other member
      rcases mem_append.mp member with earlier | new
      · have before := listed earlier
        simp only [flatMap_append, flatMap_cons, mem_append] at before ⊢
        tauto
      · simp [mem_singleton.mp new]
    · refine forall_mem_append.mpr ⟨covered.1, forall_mem_cons.mpr ⟨?_, covered.2.2⟩⟩
      exact forall_mem_append.mpr ⟨covered.2.1, forall_mem_singleton.mpr ⟨by simp, alike⟩⟩
  · rw [inserted]
    refine ⟨?_, ?_, ?_, ?_⟩
    · exact forall_mem_append.mpr ⟨opened, by simp⟩
    · rw [flatMap_append]
      exact append_subset.mpr ⟨subset_append_of_subset_left _ listed, by simp⟩
    · exact forall_mem_append.mpr ⟨covered, by simpa using ⟨.refl _, .refl _⟩⟩
    · rw [map_append]
      refine pairwise_append.mpr ⟨apart, pairwise_singleton _ _, fun left inLeft right new => ?_⟩
      obtain ⟨entry, member, rfl⟩ := mem_map.mp inLeft
      obtain rfl := mem_singleton.mp new
      exact none entry member

theorem Grouped.unique (grouped : Grouped daemonsOf overheadOf its groups)
    {left right : List Pod × DaemonOverheadGroup} (leftMember : left ∈ groups)
    (rightMember : right ∈ groups) (inLeft : it ∈ left.2.instanceTypes)
    (inRight : it ∈ right.2.instanceTypes) : left = right := by
  have symmetric : Std.Symm fun left right : List Pod × DaemonOverheadGroup =>
      ¬ (groupClass left).Alike (groupClass right) := ⟨fun _ _ apart same => apart same.symm⟩
  by_contra different
  have apart := (pairwise_map.mp grouped.apart).forall leftMember rightMember different
  exact apart ((grouped.covered left leftMember it inLeft).2.trans
    (grouped.covered right rightMember it inRight).2.symm)

end Grouping

variable (tables : LabelTables)

section Template

variable {options : Options} {template : NodeClaimTemplate} {daemonSetPods : List Pod}
variable {computeOverhead : NodeClaimTemplate → InstanceType → List Pod → ResourceList}

theorem grouped_build : ∃ groups,
    buildDaemonOverheadGroupsForTemplate tables options computeOverhead template daemonSetPods =
      groups.map (·.2) ∧
    Grouped (compatibleDaemonPods tables options template daemonSetPods)
      (fun it => computeOverhead template it
        (compatibleDaemonPods tables options template daemonSetPods it))
      template.instanceTypeOptions groups := by
  refine ⟨_, rfl, ?_⟩
  induction template.instanceTypeOptions using reverseRecOn with
  | nil => exact ⟨by simp, by simp, by simp, .nil⟩
  | append_singleton its it ih =>
    rw [foldl_append]
    exact ih.insert it

theorem buildDaemonOverheadGroups_unique {left right : DaemonOverheadGroup} {it : InstanceType}
    (leftMember : left ∈ buildDaemonOverheadGroupsForTemplate tables options computeOverhead template
      daemonSetPods)
    (rightMember : right ∈ buildDaemonOverheadGroupsForTemplate tables options computeOverhead template
      daemonSetPods) (inLeft : it ∈ left.instanceTypes) (inRight : it ∈ right.instanceTypes) :
    left = right := by
  obtain ⟨groups, isBuilt, grouped⟩ := @grouped_build tables options template
    daemonSetPods computeOverhead
  rw [isBuilt] at leftMember rightMember
  obtain ⟨leftEntry, leftListed, rfl⟩ := mem_map.mp leftMember
  obtain ⟨rightEntry, rightListed, rfl⟩ := mem_map.mp rightMember
  rw [grouped.unique leftListed rightListed inLeft inRight]

end Template

end Kraftsman.Provisioning
