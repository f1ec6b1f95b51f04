import Kraftsman.DynamicResources.Allocator
import Kraftsman.DynamicResources.DeviceAllocation

/-!
Contract: which of the devices that claims hold a scheduling run may hand out
again.

Owns: the devices and capacities a run starts from, what is left of a shared
device, and when leaving a device out agrees with the claims allocated again.
Does not own: how the controller keeps track of claims.
-/

namespace Kraftsman.Provisioning

open Apis Data DynamicResources GoMap Option List Bool

/-! ### The seed of a run -/

def allConsumersDeleting (podUIDs : List String) (deletingPodUIDs : Finset String) : Bool :=
  podUIDs.all (· ∈ deletingPodUIDs)

variable (deletingPodUIDs : Finset String)

/-- Whether a contribution goes away with its pods. -/
def freed (contribution : ContributionMetadata) : Bool :=
  !contribution.podUIDs.isEmpty && allConsumersDeleting contribution.podUIDs deletingPodUIDs

/-- Take what a contribution consumes from what is left. -/
def subtractContribution (effective : Capacities) (contribution : ContributionMetadata) :
    Capacities :=
  rangeAlter (fun _ consumed remaining => remaining.bind fun remaining =>
    if remaining - consumed ≤ 0 then none else some (remaining - consumed))
    contribution.consumedCapacity effective

def effectiveConsumedCapacity (metadata : DeviceMetadata) (deletingPodUIDs : Finset String) :
    Capacities :=
  metadata.contributions.foldl (fun effective contribution =>
    if freed deletingPodUIDs contribution then subtractContribution effective contribution
    else effective) metadata.consumedCapacity

/-- Add a device to the seed unless it can be handed out again. -/
def gatherDevice (state : AllocatedDeviceState) (id : CloudDeviceID) (metadata : DeviceMetadata) :
    AllocatedDeviceState :=
  if metadata.releasable && metadata.podUIDs.isEmpty then state
  else if !metadata.podUIDs.isEmpty && allConsumersDeleting metadata.podUIDs deletingPodUIDs then state
  else if metadata.shared then
    let effective := effectiveConsumedCapacity metadata deletingPodUIDs
    if effective.entries.isEmpty then state
    else { state with consumedCapacity := state.consumedCapacity.insert id effective }
  else { state with exclusiveDevices := state.exclusiveDevices ++ [id] }

/-- The devices and capacities that a run takes as allocated. -/
def gatherAllocatedDevices (controller : DeviceAllocationController)
    (deletingPodUIDs : Finset String) : AllocatedDeviceState :=
  controller.allocatedDevices.entries.foldl (fun state entry =>
    gatherDevice deletingPodUIDs state entry.1 entry.2) {}

def Seeded (state : AllocatedDeviceState) (device : CloudDeviceID) : Prop :=
  device ∈ state.exclusiveDevices ∨ device ∈ state.consumedCapacity

/-! ### Which devices are part of the seed -/

/-- Whether a device with some metadata is part of the seed. -/
def keeps (metadata : DeviceMetadata) : Bool :=
  !(metadata.releasable && metadata.podUIDs.isEmpty) &&
    !(!metadata.podUIDs.isEmpty && allConsumersDeleting metadata.podUIDs deletingPodUIDs) &&
    (!metadata.shared || !(effectiveConsumedCapacity metadata deletingPodUIDs).entries.isEmpty)

variable {deletingPodUIDs}

theorem gatherDevice_eq (state : AllocatedDeviceState) (id : CloudDeviceID)
    (metadata : DeviceMetadata) :
    gatherDevice deletingPodUIDs state id metadata =
      if !keeps deletingPodUIDs metadata then state
      else if metadata.shared then
        { state with
          consumedCapacity := state.consumedCapacity.insert id
            (effectiveConsumedCapacity metadata deletingPodUIDs) }
      else { state with exclusiveDevices := state.exclusiveDevices ++ [id] } := by
  unfold gatherDevice keeps
  dsimp only
  cases metadata.releasable && metadata.podUIDs.isEmpty <;>
    cases !metadata.podUIDs.isEmpty && allConsumersDeleting metadata.podUIDs deletingPodUIDs <;>
    cases metadata.shared <;>
    cases (effectiveConsumedCapacity metadata deletingPodUIDs).entries.isEmpty <;> rfl

theorem seeded_gatherDevice {state : AllocatedDeviceState} {id device : CloudDeviceID}
    {metadata : DeviceMetadata} :
    Seeded (gatherDevice deletingPodUIDs state id metadata) device ↔
      Seeded state device ∨ (device = id ∧ keeps deletingPodUIDs metadata) := by
  rw [gatherDevice_eq]
  split_ifs with left shared
  · simp_all
  · have kept : device ∈ state.consumedCapacity.insert id
        (effectiveConsumedCapacity metadata deletingPodUIDs) ↔
          device = id ∨ device ∈ state.consumedCapacity := AList.mem_insert _
    simp_all [Seeded]
    tauto
  · simp_all [Seeded]
    tauto

theorem seeded_gatherAllocatedDevices (controller : DeviceAllocationController)
    (deletingPodUIDs : Finset String) (device : CloudDeviceID) :
    Seeded (gatherAllocatedDevices controller deletingPodUIDs) device ↔
      ∃ metadata, controller.allocatedDevices.lookup device = some metadata ∧
        keeps deletingPodUIDs metadata := by
  have nothing : ¬ Seeded {} device := by
    rintro (inList | inMap)
    · cases inList
    · exact AList.notMem_empty _ inMap
  refine (iff_of_eq (read_range (Seeded · device) _ device
    (fun metadata seeded => seeded ∨ keeps deletingPodUIDs metadata)
    (fun state metadata => ?_) (fun state entry different => ?_) _ _)).trans ?_
  · simp [seeded_gatherDevice]
  · simp [seeded_gatherDevice, Ne.symm different]
  · cases controller.allocatedDevices.lookup device <;> simp [nothing]

/-! ### What is left of a shared device -/

def freedAmounts (deletingPodUIDs : Finset String) (metadata : DeviceMetadata)
    (dimension : QualifiedName) : List Quantity :=
  (metadata.contributions.filter (freed deletingPodUIDs)).filterMap
    (·.consumedCapacity.lookup dimension)

/-- A dimension that is not used up by the claims that go away. -/
def DimensionLasts (deletingPodUIDs : Finset String) (metadata : DeviceMetadata)
    (dimension : QualifiedName) : Prop :=
  ∃ amount, metadata.consumedCapacity.lookup dimension = some amount ∧
    ∀ taken, taken <+: freedAmounts deletingPodUIDs metadata dimension → taken ≠ [] →
      taken.sum < amount

/-- Subtract an amount from a dimension unless it is used up. -/
def subtractAmount (remaining : Option Quantity) (consumed : Quantity) : Option Quantity :=
  remaining.bind fun remaining => if remaining - consumed ≤ 0 then none else some (remaining - consumed)

theorem lookup_subtractContribution (effective : Capacities) (contribution : ContributionMetadata)
    (dimension : QualifiedName) :
    (subtractContribution effective contribution).lookup dimension =
      match contribution.consumedCapacity.lookup dimension with
      | none => effective.lookup dimension
      | some consumed => subtractAmount (effective.lookup dimension) consumed := by
  unfold subtractContribution
  rw [lookup_rangeAlter]
  cases contribution.consumedCapacity.lookup dimension <;> rfl

theorem lookup_effectiveConsumedCapacity (metadata : DeviceMetadata)
    (deletingPodUIDs : Finset String) (dimension : QualifiedName) :
    (effectiveConsumedCapacity metadata deletingPodUIDs).lookup dimension =
      (freedAmounts deletingPodUIDs metadata dimension).foldl subtractAmount
        (metadata.consumedCapacity.lookup dimension) := by
  unfold effectiveConsumedCapacity freedAmounts
  generalize metadata.consumedCapacity = start
  induction metadata.contributions generalizing start with
  | nil => rfl
  | cons contribution rest ih =>
    rw [foldl_cons, ih]
    split_ifs with isFreed
    · rw [lookup_subtractContribution, filter_cons_of_pos isFreed, filterMap_cons]
      cases contribution.consumedCapacity.lookup dimension <;> rfl
    · rw [filter_cons_of_neg isFreed]

theorem foldl_subtractAmount_none (amounts : List Quantity) :
    amounts.foldl subtractAmount none = none := by
  induction amounts with
  | nil => rfl
  | cons _ _ ih => exact ih

theorem isSome_foldl_subtractAmount (amounts : List Quantity) (amount : Quantity) :
    (amounts.foldl subtractAmount (some amount)).isSome ↔
      ∀ taken, taken <+: amounts → taken ≠ [] → taken.sum < amount := by
  induction amounts generalizing amount with
  | nil => simp
  | cons first rest ih =>
    have one : subtractAmount (some amount) first =
        if amount - first ≤ 0 then none else some (amount - first) := rfl
    rw [foldl_cons, one]
    split_ifs with used
    · rw [foldl_subtractAmount_none]
      simp only [isSome_none, false_eq_true, false_iff, not_forall]
      refine ⟨[first], prefix_append [first] rest, cons_ne_nil _ _, ?_⟩
      simpa using used
    · rw [ih]
      constructor
      · intro lasts taken isInitial nonempty
        obtain ⟨head, tail, rfl⟩ := exists_cons_of_ne_nil nonempty
        obtain ⟨rfl, isTail⟩ := cons_prefix_cons.mp isInitial
        rw [sum_cons]
        rcases eq_or_ne tail [] with rfl | tailNonempty
        · simpa using used
        · linarith [lasts tail isTail tailNonempty]
      · intro lasts taken isInitial nonempty
        have whole := lasts (first :: taken) (cons_prefix_cons.mpr ⟨rfl, isInitial⟩)
          (cons_ne_nil _ _)
        rw [sum_cons] at whole
        linarith

theorem entries_ne_nil_iff {K V : Type} [DecidableEq K] (m : GoMap K V) :
    m.entries ≠ [] ↔ ∃ key, (m.lookup key).isSome := by
  constructor
  · intro nonempty
    obtain ⟨entry, member⟩ := List.exists_mem_of_ne_nil _ nonempty
    exact ⟨entry.1, by rw [mem_entries_iff.mp member]; rfl⟩
  · rintro ⟨key, isSome⟩ empty
    rw [lookup_eq_none_of_entries_nil empty] at isSome
    cases isSome

theorem effective_ne_nil_iff (metadata : DeviceMetadata) (deletingPodUIDs : Finset String) :
    (effectiveConsumedCapacity metadata deletingPodUIDs).entries ≠ [] ↔
      ∃ dimension, DimensionLasts deletingPodUIDs metadata dimension := by
  rw [entries_ne_nil_iff]
  apply exists_congr
  intro dimension
  rw [lookup_effectiveConsumedCapacity]
  unfold DimensionLasts
  cases metadata.consumedCapacity.lookup dimension with
  | none => simp [foldl_subtractAmount_none]
  | some amount => simp [isSome_foldl_subtractAmount]

/-! ### What the claims that stay consume -/

def contributed (dimension : QualifiedName) (contribution : ContributionMetadata) : Quantity :=
  (contribution.consumedCapacity.lookup dimension).getD 0

/-- What contributions consume that have no pods or some that stays. -/
def keptAmount (deletingPodUIDs : Finset String) (metadata : DeviceMetadata)
    (dimension : QualifiedName) : Quantity :=
  ((metadata.contributions.filter (!freed deletingPodUIDs ·)).map (contributed dimension)).sum

/-- A device's consumption is what its contributions add up to. -/
structure Aggregated (metadata : DeviceMetadata) : Prop where
  nonneg : ∀ contribution ∈ metadata.contributions, ∀ dimension, 0 ≤ contributed dimension contribution
  total : ∀ dimension, (metadata.consumedCapacity.lookup dimension).getD 0 =
    (metadata.contributions.map (contributed dimension)).sum

/-- Whether a device is passed over, whatever its contributions. -/
def passesOver (deletingPodUIDs : Finset String) (metadata : DeviceMetadata) : Bool :=
  (metadata.releasable && metadata.podUIDs.isEmpty) ||
    (!metadata.podUIDs.isEmpty && allConsumersDeleting metadata.podUIDs deletingPodUIDs)

theorem foldl_subtractAmount_eq {amounts : List Quantity} (nonneg : ∀ amount ∈ amounts, 0 ≤ amount)
    {start : Quantity} (subtracts : amounts ≠ [] ∨ 0 < start) :
    amounts.foldl subtractAmount (some start) =
      if start - amounts.sum ≤ 0 then none else some (start - amounts.sum) := by
  induction amounts generalizing start with
  | nil => simpa using subtracts
  | cons first rest ih =>
    obtain ⟨firstNonneg, restNonneg⟩ := forall_mem_cons.mp nonneg
    have one : subtractAmount (some start) first =
        if start - first ≤ 0 then none else some (start - first) := rfl
    rw [foldl_cons, one, sum_cons, ← sub_sub]
    split_ifs with used left left
    · exact foldl_subtractAmount_none rest
    · have := sum_nonneg restNonneg
      linarith
    · rw [ih restNonneg (.inr (not_le.mp used)), if_pos left]
    · rw [ih restNonneg (.inr (not_le.mp used)), if_neg left]

theorem sum_freedAmounts_add_keptAmount (metadata : DeviceMetadata) (dimension : QualifiedName) :
    (freedAmounts deletingPodUIDs metadata dimension).sum +
        keptAmount deletingPodUIDs metadata dimension =
      (metadata.contributions.map (contributed dimension)).sum := by
  unfold freedAmounts keptAmount
  induction metadata.contributions with
  | nil => simp
  | cons contribution rest ih =>
    rw [map_cons, sum_cons, ← ih]
    cases isFreed : freed deletingPodUIDs contribution with
    | true =>
      cases found : contribution.consumedCapacity.lookup dimension <;>
        simp [isFreed, found, contributed, add_assoc]
    | false => simp [isFreed, add_left_comm]

variable {metadata : DeviceMetadata}

theorem Aggregated.lookup_effective_iff (aggregated : Aggregated metadata) (dimension : QualifiedName) :
    (effectiveConsumedCapacity metadata deletingPodUIDs).lookup dimension =
        (if keptAmount deletingPodUIDs metadata dimension = 0 then none
        else some (keptAmount deletingPodUIDs metadata dimension)) ↔
      (metadata.consumedCapacity.lookup dimension = some 0 →
        freedAmounts deletingPodUIDs metadata dimension ≠ []) := by
  have sum := @sum_freedAmounts_add_keptAmount deletingPodUIDs metadata dimension
  have freedNonneg : ∀ amount ∈ freedAmounts deletingPodUIDs metadata dimension, 0 ≤ amount := by
    intro amount member
    obtain ⟨contribution, isFreed, found⟩ := mem_filterMap.mp member
    have nonneg := aggregated.nonneg contribution (mem_of_mem_filter isFreed) dimension
    rwa [contributed, found] at nonneg
  have keptNonneg : 0 ≤ keptAmount deletingPodUIDs metadata dimension := by
    refine sum_nonneg fun amount member => ?_
    obtain ⟨contribution, isKept, rfl⟩ := mem_map.mp member
    exact aggregated.nonneg contribution (mem_of_mem_filter isKept) dimension
  rw [← aggregated.total] at sum
  rw [lookup_effectiveConsumedCapacity]
  cases found : metadata.consumedCapacity.lookup dimension with
  | none =>
    have := sum_nonneg freedNonneg
    rw [found, getD_none] at sum
    rw [foldl_subtractAmount_none, if_pos (by linarith)]
    simp
  | some total =>
    rw [found, getD_some] at sum
    rcases eq_or_ne (freedAmounts deletingPodUIDs metadata dimension) [] with nothing | some
    · rw [nothing, sum_nil, zero_add] at sum
      rw [nothing, sum]
      by_cases isZero : total = 0 <;> simp [isZero]
    · rw [foldl_subtractAmount_eq freedNonneg (.inl some), ← sum, add_sub_cancel_left]
      refine iff_of_true (if_congr ?_ rfl rfl) fun _ => some
      exact ⟨fun le => le_antisymm le keptNonneg, Eq.le⟩

theorem Aggregated.isEmpty_effective_iff (aggregated : Aggregated metadata)
    (freed : ∀ dimension, metadata.consumedCapacity.lookup dimension = some 0 →
      freedAmounts deletingPodUIDs metadata dimension ≠ []) :
    (effectiveConsumedCapacity metadata deletingPodUIDs).entries.isEmpty = true ↔
      ∀ dimension, keptAmount deletingPodUIDs metadata dimension = 0 := by
  rw [List.isEmpty_iff, ← not_ne_iff, entries_ne_nil_iff, not_exists]
  refine forall_congr' fun dimension => ?_
  rw [(aggregated.lookup_effective_iff dimension).mpr (freed dimension)]
  split_ifs with nothing <;> simp [nothing]

/-- A shared device is seeded with what the contributions that stay consume,
exactly if every dimension that nothing is consumed of is freed by some
contribution, and of a device that is passed over no contribution stays. -/
theorem seeds_kept_amounts_iff {controller : DeviceAllocationController} {device : CloudDeviceID}
    (found : controller.allocatedDevices.lookup device = some metadata)
    (shared : metadata.shared = true) (aggregated : Aggregated metadata)
    (deletingPodUIDs : Finset String) :
    ((∀ dimension, (effectiveConsumedCapacity metadata deletingPodUIDs).lookup dimension =
        (if keptAmount deletingPodUIDs metadata dimension = 0 then none
        else some (keptAmount deletingPodUIDs metadata dimension))) ∧
      (gatherAllocatedDevices controller deletingPodUIDs).consumedCapacity.lookup device =
        if (effectiveConsumedCapacity metadata deletingPodUIDs).entries.isEmpty then none
        else some (effectiveConsumedCapacity metadata deletingPodUIDs)) ↔
    (∀ dimension, metadata.consumedCapacity.lookup dimension = some 0 →
        freedAmounts deletingPodUIDs metadata dimension ≠ []) ∧
      (passesOver deletingPodUIDs metadata = true →
        ∀ dimension, keptAmount deletingPodUIDs metadata dimension = 0) := by
  have gathered : (gatherAllocatedDevices controller deletingPodUIDs).consumedCapacity.lookup device =
      if keeps deletingPodUIDs metadata then
        some (effectiveConsumedCapacity metadata deletingPodUIDs) else none := by
    refine (read_range (fun state : AllocatedDeviceState =>
      state.consumedCapacity.lookup device) _ device (fun metadata before =>
      if keeps deletingPodUIDs metadata && metadata.shared then
        some (effectiveConsumedCapacity metadata deletingPodUIDs)
      else before) (fun state metadata => ?_) (fun state entry different => ?_) _ _).trans ?_
    · rw [gatherDevice_eq]
      split_ifs <;> simp_all
    · rw [gatherDevice_eq]
      split_ifs <;> simp [Ne.symm different]
    · rw [found]
      dsimp only
      rw [shared, Bool.and_true]
      rfl
  rw [forall_congr' aggregated.lookup_effective_iff]
  refine and_congr_right fun freed => ?_
  rw [← aggregated.isEmpty_effective_iff freed, gathered, keeps, ← Bool.not_or, ← passesOver, shared]
  cases passesOver deletingPodUIDs metadata <;>
    cases (effectiveConsumedCapacity metadata deletingPodUIDs).entries.isEmpty <;> simp

def memory (amount : Quantity) : Capacities := .ofList [("memory", amount)]

/-- A device shared by a claim with a pod and by claims with other pods. -/
def sharedDevice (others : List (List String)) : DeviceMetadata where
  releasable := false
  podUIDs := "pod" :: others.flatten
  shared := true
  consumedCapacity := memory (1 + 2 * others.length)
  contributions := ⟨["pod"], memory 1⟩ :: others.map fun podUIDs => ⟨podUIDs, memory 2⟩

theorem lookup_memory (amount : Quantity) (dimension : QualifiedName) :
    (memory amount).lookup dimension = if dimension = "memory" then some amount else none :=
  lookup_insert_eq ∅ _ _ _

theorem aggregated_sharedDevice (others : List (List String)) : Aggregated (sharedDevice others) := by
  constructor
  · intro contribution member dimension
    obtain ⟨podUIDs, amount, nonneg, rfl⟩ : ∃ podUIDs amount, 0 ≤ amount ∧
        contribution = ⟨podUIDs, memory amount⟩ := by
      rcases mem_cons.mp member with rfl | other
      · exact ⟨_, 1, by decide, rfl⟩
      · obtain ⟨podUIDs, -, rfl⟩ := mem_map.mp other
        exact ⟨podUIDs, 2, by decide, rfl⟩
    rw [contributed, lookup_memory]
    split_ifs
    · exact nonneg
    · exact le_rfl
  · intro dimension
    simp only [sharedDevice, map_cons, List.map_map, Function.comp_def, contributed, lookup_memory,
      map_const', sum_cons, sum_replicate]
    split_ifs <;> simp [mul_comm]

def sharedGpu (device : String) : CloudDeviceID := ⟨"gpu", "rack", device⟩

/-- Of three devices, the first is also held by a claim without pods, the second
by another pod, and the third by nobody else. -/
def sharing : DeviceAllocationController where
  allocatedDevices := .ofList [(sharedGpu "a", sharedDevice [[]]),
    (sharedGpu "b", sharedDevice [["other"], []]), (sharedGpu "c", sharedDevice [])]

/-- What the pod consumed is subtracted from the second device, and the third one
is left out. -/
theorem seeds_sharing_without_pod :
    let seed := (gatherAllocatedDevices sharing {"pod"}).consumedCapacity
    (∃ effective : Capacities, seed.lookup (sharedGpu "b") = some effective ∧
      effective.lookup "memory" = some 4) ∧ seed.lookup (sharedGpu "c") = none := by
  have freed : ∀ others dimension,
      (sharedDevice others).consumedCapacity.lookup dimension = some 0 →
        freedAmounts {"pod"} (sharedDevice others) dimension ≠ [] := by
    intro others dimension isZero
    rw [sharedDevice, lookup_memory] at isZero
    split_ifs at isZero
    exact absurd (some.inj isZero) (by positivity)
  have staying : sharing.allocatedDevices.lookup (sharedGpu "b") =
    some (sharedDevice [["other"], []]) := lookup_ofList (by decide) (by simp)
  have leaving : sharing.allocatedDevices.lookup (sharedGpu "c") = some (sharedDevice []) :=
    lookup_ofList (by decide) (by simp)
  obtain ⟨amounts, seeded⟩ := (seeds_kept_amounts_iff staying rfl (aggregated_sharedDevice _)
    {"pod"}).mpr ⟨freed _, fun passes => absurd passes (by decide)⟩
  obtain ⟨-, left⟩ := (seeds_kept_amounts_iff leaving rfl (aggregated_sharedDevice _)
    {"pod"}).mpr ⟨freed _, fun _ dimension => rfl⟩
  refine ⟨⟨_, seeded.trans (if_neg (by decide +kernel)), (amounts "memory").trans ?_⟩,
    left.trans (if_pos (by decide +kernel))⟩
  decide +kernel

/-- The first device is handed out with all its memory once the pod goes away,
although the claim without pods holds some of it. -/
theorem shared_device_not_seeded :
    Aggregated (sharedDevice [[]]) ∧ keptAmount {"pod"} (sharedDevice [[]]) "memory" = 2 ∧
      (gatherAllocatedDevices sharing {"pod"}).consumedCapacity.lookup (sharedGpu "a") = none :=
  ⟨aggregated_sharedDevice _, by decide +kernel, by decide +kernel⟩

/-! ### Agreement with the allocator -/

/-- The claims have pods as consumers, all of them going away. -/
def AllPodsDeleting (deletingPodUIDs : Finset String) (claims : List ObservedClaim) : Prop :=
  (∃ claim ∈ claims, claim.podUIDs ≠ []) ∧
    ∀ claim ∈ claims, ∀ uid ∈ claim.podUIDs, uid ∈ deletingPodUIDs

/-- A reason to keep a device: some pod stays or there is none, and something is
left of its capacity. -/
def KeptByClaims (deletingPodUIDs : Finset String) (controller : DeviceAllocationController)
    (device : CloudDeviceID) (claims : List ObservedClaim) : Prop :=
  ¬ AllPodsDeleting deletingPodUIDs claims ∧
    ∀ metadata, controller.allocatedDevices.lookup device = some metadata →
      metadata.shared = true → ∃ dimension, DimensionLasts deletingPodUIDs metadata dimension

theorem podUIDs_ne_nil_of_releasable {claim : ObservedClaim} (releasable : claim.releasable) :
    claim.podUIDs ≠ [] := by
  unfold ObservedClaim.releasable at releasable
  obtain ⟨reserved, pods⟩ := and_eq_true_iff.mp releasable
  unfold ObservedClaim.podUIDs
  rw [List.filter_eq_self.mpr (List.all_eq_true.mp pods)]
  simpa [List.isEmpty_iff] using reserved

theorem allPodsDeleting_iff {claims : List ObservedClaim} {podUIDs : List String}
    (perm : podUIDs.Perm (claims.flatMap (·.podUIDs))) :
    (!podUIDs.isEmpty && allConsumersDeleting podUIDs deletingPodUIDs) ↔
      AllPodsDeleting deletingPodUIDs claims := by
  unfold allConsumersDeleting AllPodsDeleting
  rw [and_eq_true_iff, List.all_eq_true]
  apply and_congr
  · have empty : podUIDs = [] ↔ ∀ claim ∈ claims, claim.podUIDs = [] := by
      rw [← length_eq_zero_iff, perm.length_eq, length_eq_zero_iff, flatMap_eq_nil_iff]
    rw [not_eq_true', ← not_eq_true, List.isEmpty_iff, empty]
    push Not
    rfl
  · constructor
    · intro deleting claim member uid isPod
      have listed : uid ∈ podUIDs := perm.mem_iff.mpr (mem_flatMap.mpr ⟨claim, member, isPod⟩)
      exact of_decide_eq_true (deleting uid listed)
    · intro deleting uid listed
      obtain ⟨claim, member, isPod⟩ := mem_flatMap.mp (perm.mem_iff.mp listed)
      exact decide_eq_true (deleting claim member uid isPod)

section Agreement

variable {controller : DeviceAllocationController} {observed : GoMap ResourceClaimID ObservedClaim}

theorem seeded_iff (knows : controller.Knows observed) {device : CloudDeviceID}
    (held : holders observed device ≠ []) (deletingPodUIDs : Finset String) :
    Seeded (gatherAllocatedDevices controller deletingPodUIDs) device ↔
      KeptByClaims deletingPodUIDs controller device (holders observed device) := by
  obtain ⟨-, empty⟩ | ⟨-, claims, -, found⟩ := knows.entry device
  · exact absurd empty held
  generalize claims.foldl (addClaim device) {} = metadata at found
  obtain ⟨podUIDs, releasable, -⟩ := knows.metadata found
  have unreleased : ¬ ((metadata.releasable && metadata.podUIDs.isEmpty)) := by
    intro released
    obtain ⟨isReleasable, noPods⟩ := and_eq_true_iff.mp released
    obtain ⟨claim, member⟩ := List.exists_mem_of_ne_nil _ held
    rw [releasable, List.all_eq_true] at isReleasable
    rw [List.isEmpty_iff] at noPods
    rw [noPods] at podUIDs
    have none := flatMap_eq_nil_iff.mp podUIDs.nil_eq.symm claim member
    exact podUIDs_ne_nil_of_releasable (isReleasable claim member) none
  have kept : keeps deletingPodUIDs metadata ↔
      ¬ AllPodsDeleting deletingPodUIDs (holders observed device) ∧
        (metadata.shared → ∃ dimension, DimensionLasts deletingPodUIDs metadata dimension) := by
    unfold keeps
    rw [← allPodsDeleting_iff podUIDs, ← effective_ne_nil_iff]
    simp only [not_eq_true] at unreleased
    rw [unreleased]
    simp [List.isEmpty_iff, imp_iff_not_or]
  rw [seeded_gatherAllocatedDevices]
  unfold KeptByClaims
  constructor
  · rintro ⟨other, isOther, keepsIt⟩
    obtain rfl := some.inj (found.symm.trans isOther)
    obtain ⟨staying, lasts⟩ := kept.mp keepsIt
    refine ⟨staying, fun other isOther => ?_⟩
    obtain rfl := some.inj (found.symm.trans isOther)
    exact lasts
  · exact fun agrees => ⟨metadata, found, kept.mpr ⟨agrees.1, agrees.2 metadata found⟩⟩

end Agreement

/-- Leaving a device out of the seed agrees with the allocator, which allocates
every claim of the device again, exactly if it does so or the claims give a reason
to keep the device. -/
theorem leftOut_agrees_iff (events : List ClaimObservation) (env : Environment) (device : CloudDeviceID) :
    ((¬ Seeded (gatherAllocatedDevices (controllerAfter events) env.deletingPodUIDs) device →
        ∀ claim ∈ holders (observedAfter events) device,
          claimReservedEntirelyByDeletingPods env claim.toResourceClaim = true ∨
            (claim.releasable = true ∧ claim.podUIDs = [])) ∧
      (∀ claim ∈ holders (observedAfter events) device,
        claimReservedEntirelyByDeletingPods env claim.toResourceClaim = false →
          Seeded (gatherAllocatedDevices (controllerAfter events) env.deletingPodUIDs) device)) ↔
      ((∀ claim ∈ holders (observedAfter events) device,
          claimReservedEntirelyByDeletingPods env claim.toResourceClaim = true) ∨
        KeptByClaims env.deletingPodUIDs (controllerAfter events) device
          (holders (observedAfter events) device)) := by
  by_cases held : holders (observedAfter events) device = []
  · simp [held]
  rw [← seeded_iff (DeviceAllocationController.knows_after events) held]
  constructor
  · rintro ⟨leftOut, -⟩
    by_cases seeded : Seeded (gatherAllocatedDevices (controllerAfter events) env.deletingPodUIDs) device
    · exact .inr seeded
    · refine .inl fun claim member => ?_
      rcases leftOut seeded claim member with again | ⟨releasable, noPods⟩
      · exact again
      · exact absurd noPods (podUIDs_ne_nil_of_releasable releasable)
  · rintro (again | seeded)
    · refine ⟨fun _ claim member => .inl (again claim member), fun claim member stays => ?_⟩
      rw [again claim member] at stays
      cases stays
    · exact ⟨fun leftOut => absurd seeded leftOut, fun _ _ _ => seeded⟩

def claimOfTwoKinds : ObservedClaim where
  id := { nameSpace := "default", name := "gpu" }
  allocation := some none
  reservedFor := [{ resource := "pods", uid := "leaving" },
    { apiGroup := "scheduling.k8s.io", resource := "workloads", uid := "training" }]
  results := [{ device := { driver := "gpu.example.com", pool := "rack", device := "gpu-0" } }]

/-- The device of the claim is handed out again once the pod goes away, although the
allocator leaves the claim where it is. -/
theorem leftOut_disagrees_with_workload : ∃ (env : Environment) (device : CloudDeviceID),
    claimOfTwoKinds ∈ holders (observedAfter [.reconcile claimOfTwoKinds fun _ => .listed]) device ∧
      claimReservedEntirelyByDeletingPods env claimOfTwoKinds.toResourceClaim = false ∧
      claimOfTwoKinds.releasable = false ∧
      ¬ Seeded (gatherAllocatedDevices
        (controllerAfter [.reconcile claimOfTwoKinds fun _ => .listed]) env.deletingPodUIDs) device := by
  refine ⟨⟨.base, fun _ => none, fun _ => true, fun _ _ _ => none, [], ∅, {"leaving"}⟩,
    { driver := "gpu.example.com", pool := "rack", device := "gpu-0" }, ?_, ?_, ?_, ?_⟩
  · exact mem_singleton.mpr rfl
  · decide +kernel
  · decide +kernel
  · rintro (exclusive | shared)
    · exact absurd exclusive (by decide +kernel)
    · exact absurd shared (by decide +kernel)

end Kraftsman.Provisioning
