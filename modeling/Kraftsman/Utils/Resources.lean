import Kraftsman.Apis.Objects

/-!
Contract: arithmetic on resource lists.

A resource that a list does not name counts as zero, except where an operation
only keeps the resources a list names.

Owns: sums, differences, maxima and minima, and the fit test.
Does not own: where the lists come from.
-/

namespace Kraftsman.Resources

open Apis Data GoMap List

/-- The resource that counts nodes. -/
def node : String := "nodes"

def amount (list : ResourceList) (name : String) : Quantity :=
  (list.lookup name).getD 0

variable (dest src : ResourceList)

def mergeInto : ResourceList :=
  GoMap.rangeAlter (fun _ quantity current => some (current.getD 0 + quantity)) src dest

variable (lists : List ResourceList)

def merge : ResourceList :=
  lists.foldl mergeInto ∅

/-- The total requests of pods, each of which takes one of the node's pods. -/
def requestsForPods (pods : List Pod) : ResourceList :=
  (merge (pods.map (·.requests))).insert "pods" pods.length

def subtract (lhs rhs : ResourceList) : ResourceList :=
  GoMap.rangeAlter (fun name quantity _ => some (quantity - amount rhs name)) lhs ∅

def subtractFrom : ResourceList :=
  GoMap.rangeAlter (fun _ quantity current => some (current.getD 0 - quantity)) src dest

def maxResources : ResourceList :=
  lists.foldl (fun largest list => GoMap.merge max list largest) ∅

def fits (candidate total : ResourceList) : Bool :=
  (total.entries.all fun entry => 0 ≤ entry.2) &&
    candidate.entries.all fun entry => entry.2 ≤ amount total entry.1

theorem lookup_subtract (lhs rhs : ResourceList) (name : String) :
    (subtract lhs rhs).lookup name = (lhs.lookup name).map (· - amount rhs name) := by
  rw [subtract, lookup_rangeAlter]
  cases lhs.lookup name <;> simp

theorem amount_insert (list : ResourceList) (key name : String) (quantity : Quantity) :
    amount (list.insert key quantity) name = if name = key then quantity else amount list name := by
  unfold amount
  rw [lookup_insert_eq]
  split_ifs <;> rfl

theorem amount_mergeInto (name : String) :
    amount (mergeInto dest src) name = amount dest name + amount src name := by
  unfold amount mergeInto
  rw [lookup_rangeAlter]
  cases src.lookup name <;> simp

theorem amount_subtractFrom (name : String) :
    amount (subtractFrom dest src) name = amount dest name - amount src name := by
  unfold amount subtractFrom
  rw [lookup_rangeAlter]
  cases src.lookup name <;> simp

theorem amount_merge (name : String) :
    amount (merge lists) name = (lists.map (amount · name)).sum := by
  induction lists using reverseRecOn with
  | nil => rfl
  | append_singleton lists list ih =>
    have unfolded : merge (lists ++ [list]) = mergeInto (merge lists) list := by simp [merge]
    rw [unfolded, amount_mergeInto, ih]
    simp

theorem lookup_maxResources (name : String) :
    (maxResources lists).lookup name = (lists.filterMap (·.lookup name)).max? := by
  induction lists using reverseRecOn with
  | nil => rfl
  | append_singleton lists last ih =>
    have unfolded : maxResources (lists ++ [last]) = GoMap.merge max last (maxResources lists) := by
      simp [maxResources]
    rw [unfolded, lookup_merge, ih, filterMap_append]
    cases found : last.lookup name with
    | none => simp [found]
    | some quantity =>
      simp only [filterMap_cons, found, filterMap_nil]
      cases (lists.filterMap (·.lookup name)) with
      | nil => rfl
      | cons first rest =>
        rw [cons_append, max?_cons', max?_cons', foldl_append]
        rfl

variable {lists} {name : String}

theorem amount_maxResources_le {bound : Quantity} (nonneg : 0 ≤ bound)
    (all : ∀ list ∈ lists, amount list name ≤ bound) :
    amount (maxResources lists) name ≤ bound := by
  rw [amount, lookup_maxResources]
  cases largest : (lists.filterMap (·.lookup name)).max? with
  | none => exact nonneg
  | some quantity =>
    obtain ⟨list, member, found⟩ := mem_filterMap.mp (max?_mem largest)
    simpa [amount, found] using all list member

variable {list : ResourceList} {quantity : Quantity}

theorem amount_le_of_fits {candidate total : ResourceList} (fitting : fits candidate total)
    (name : String) : amount candidate name ≤ amount total name := by
  obtain ⟨nonneg, below⟩ := Bool.and_eq_true_iff.mp fitting
  cases found : candidate.lookup name with
  | some quantity =>
    have entry := all_eq_true.mp below ⟨name, quantity⟩ (mem_entries_iff.mpr found)
    rw [amount, found]
    exact decide_eq_true_iff.mp entry
  | none =>
    rw [amount, found, Option.getD_none]
    cases present : total.lookup name with
    | none => simp [amount, present]
    | some quantity =>
      have entry := all_eq_true.mp nonneg ⟨name, quantity⟩ (mem_entries_iff.mpr present)
      rw [amount, present]
      exact decide_eq_true_iff.mp entry

end Kraftsman.Resources
