import Kraftsman.Scheduling.Requirements

/-!
Contract: how sets of requirements narrow as more requirements are added.

Owns: when requirements imply others, the keys they are stored under, and that
minimum numbers of values do not matter for compatibility.
Does not own: which requirements are added, and when.
-/

namespace Kraftsman.Scheduling

open Apis Data GoMap Option List

namespace Requirement

variable (tables : LabelTables)

theorem has_of_intersection {r requirement : Requirement} {value : String}
    (allowed : (r.intersection tables requirement).has value) :
    r.has value ∧ requirement.has value :=
  (has_intersection tables r requirement value).mp allowed

theorem intersection_key (r requirement : Requirement) :
    (r.intersection tables requirement).key = r.key ∨
      ((r.intersection tables requirement).key = tables.normalizeKey r.key ∧
        ∀ value, (r.intersection tables requirement).has value = false) := by
  unfold intersection
  by_cases conflict : boundsConflict (maxIntPtr r.gte requirement.gte)
      (minIntPtr r.lte requirement.lte)
  · simp [conflict, doesNotExist, has]
  · simp [conflict]

theorem newRequirementWithFlexibility_key (key : String) (operator : NodeSelectorOperator)
    (minValues : Option Int) (values : List String) :
    (newRequirementWithFlexibility tables key operator minValues values).key =
      tables.normalizeKey key := by
  unfold newRequirementWithFlexibility
  cases operator
  case opGt =>
    dsimp only
    split_ifs
    · exact LabelTables.normalizeKey_idem tables key
    · rfl
  all_goals rfl

theorem newRequirement_key (key : String) (operator : NodeSelectorOperator) (values : List String) :
    (newRequirement tables key operator values).key = tables.normalizeKey key :=
  newRequirementWithFlexibility_key tables key operator none values

end Requirement

namespace Requirements

variable (tables : LabelTables)

/-- Every key that the others constrain is constrained to values they allow. -/
def Implies (r other : Requirements) : Prop :=
  ∀ key requirement, other.lookup key = some requirement →
    ∃ narrowed, r.lookup key = some narrowed ∧
      ∀ value, narrowed.has value = true → requirement.has value = true

theorem Implies.refl (r : Requirements) : r.Implies r :=
  fun _ requirement found => ⟨requirement, found, fun _ allowed => allowed⟩

variable {r other : Requirements} {requirement : Requirement}

variable {middle : Requirements} {value : String} {added : List Requirement}

theorem Implies.trans (first : r.Implies middle) (second : middle.Implies other) :
    r.Implies other := by
  intro key requirement found
  obtain ⟨between, betweenFound, below⟩ := second key requirement found
  obtain ⟨narrowed, narrowedFound, belowBetween⟩ := first key between betweenFound
  exact ⟨narrowed, narrowedFound, fun value allowed => below value (belowBetween value allowed)⟩

def stored (r : Requirements) (requirement : Requirement) : Requirement :=
  match r.lookup requirement.key with
  | none => requirement
  | some existing => requirement.intersection tables existing

theorem addOne_eq_insert (r : Requirements) (requirement : Requirement) :
    r.addOne tables requirement =
      r.insert (r.stored tables requirement).key (r.stored tables requirement) := by
  unfold addOne stored
  cases r.lookup requirement.key <;> rfl

theorem lookup_addOne (r : Requirements) (requirement : Requirement) (key : String) :
    (r.addOne tables requirement).lookup key =
      if key = (r.stored tables requirement).key then some (r.stored tables requirement)
      else r.lookup key := by
  rw [addOne_eq_insert, lookup_insert_eq]

theorem has_of_stored (allowed : (r.stored tables requirement).has value) :
    requirement.has value := by
  unfold stored at allowed
  cases found : r.lookup requirement.key with
  | none => simpa [found] using allowed
  | some existing =>
    rw [found] at allowed
    exact (Requirement.has_of_intersection tables allowed).1

theorem has_of_stored_existing {existing : Requirement}
    (found : r.lookup (r.stored tables requirement).key = some existing)
    (allowed : (r.stored tables requirement).has value) : existing.has value := by
  cases there : r.lookup requirement.key with
  | none =>
    have same : r.stored tables requirement = requirement := by simp [stored, there]
    rw [same, there] at found
    cases found
  | some previous =>
    have same : r.stored tables requirement = requirement.intersection tables previous := by
      simp [stored, there]
    rw [same] at found allowed
    rcases Requirement.intersection_key tables requirement previous with kept | ⟨-, nothing⟩
    · rw [kept, there] at found
      cases found
      exact (Requirement.has_of_intersection tables allowed).2
    · rw [nothing] at allowed
      cases allowed

theorem implies_addOne (r : Requirements) (requirement : Requirement) :
    (r.addOne tables requirement).Implies r := by
  intro key existing found
  rw [lookup_addOne]
  split_ifs with same
  · subst same
    exact ⟨_, rfl, fun value allowed => has_of_stored_existing tables found allowed⟩
  · exact ⟨existing, found, fun _ allowed => allowed⟩

theorem implies_add (r : Requirements) (added : List Requirement) :
    (r.add tables added).Implies r := by
  induction added generalizing r with
  | nil => exact .refl r
  | cons requirement rest ih =>
    exact (ih (r.addOne tables requirement)).trans (implies_addOne tables r requirement)

def Named (r : Requirements) : Prop :=
  ∀ key requirement, r.lookup key = some requirement → requirement.key = key

/-- Every requirement is stored under its own key, which is no alias. -/
def Keyed (r : Requirements) : Prop :=
  ∀ key requirement, r.lookup key = some requirement →
    requirement.key = key ∧ tables.normalizeKey key = key

theorem Keyed.named (keyed : r.Keyed tables) : r.Named :=
  fun key requirement found => (keyed key requirement found).1

theorem named_empty : (∅ : Requirements).Named := by
  intro key requirement found
  cases found

theorem keyed_empty : (∅ : Requirements).Keyed tables := by
  intro key requirement found
  cases found

theorem Named.add {r : Requirements} (named : r.Named) (added : List Requirement) :
    (r.add tables added).Named := by
  induction added generalizing r with
  | nil => exact named
  | cons requirement rest ih =>
    apply ih
    intro key other found
    rw [lookup_addOne] at found
    split_ifs at found with same
    · cases found
      exact same.symm
    · exact named key other found

theorem stored_key (normalized : tables.normalizeKey requirement.key = requirement.key) :
    (r.stored tables requirement).key = requirement.key := by
  unfold stored
  cases r.lookup requirement.key with
  | none => rfl
  | some existing =>
    rcases Requirement.intersection_key tables requirement existing with same | ⟨same, -⟩
    · exact same
    · exact same.trans normalized

theorem Keyed.add {r : Requirements} (keyed : r.Keyed tables) {added : List Requirement}
    (normalized : ∀ requirement ∈ added, tables.normalizeKey requirement.key = requirement.key) :
    (r.add tables added).Keyed tables := by
  induction added generalizing r with
  | nil => exact keyed
  | cons requirement rest ih =>
    have head := normalized requirement mem_cons_self
    apply ih _ fun other member => normalized other (mem_cons_of_mem _ member)
    intro key other found
    rw [lookup_addOne] at found
    split_ifs at found with same
    · cases found
      rw [stored_key tables head] at same ⊢
      subst same
      exact ⟨rfl, head⟩
    · exact keyed key other found

theorem Keyed.normalized (keyed : r.Keyed tables) (member : requirement ∈ r.values) :
    tables.normalizeKey requirement.key = requirement.key := by
  obtain ⟨key, found⟩ := GoMap.mem_values_iff.mp member
  obtain ⟨rfl, normalized⟩ := keyed key requirement found
  exact normalized

theorem Keyed.add_values (keyed : r.Keyed tables) (otherKeyed : other.Keyed tables) :
    (r.add tables other.values).Keyed tables :=
  keyed.add tables fun _ member => otherKeyed.normalized tables member

theorem keyed_newRequirements
    (normalized : ∀ requirement ∈ added, tables.normalizeKey requirement.key = requirement.key) :
    (newRequirements tables added).Keyed tables :=
  (keyed_empty tables).add tables normalized

theorem keyed_newNodeSelectorRequirements (expressions : List NodeSelectorRequirement) :
    (newNodeSelectorRequirements tables expressions).Keyed tables := by
  apply keyed_newRequirements
  intro requirement member
  obtain ⟨expression, -, rfl⟩ := mem_map.mp member
  rw [Requirement.newRequirement_key, LabelTables.normalizeKey_idem]

theorem keyed_newLabelRequirements (labels : GoMap String String) :
    (newLabelRequirements tables labels).Keyed tables := by
  apply keyed_newRequirements
  intro requirement member
  obtain ⟨label, -, rfl⟩ := mem_map.mp member
  rw [Requirement.newRequirement_key, LabelTables.normalizeKey_idem]

theorem keyed_newPodRequirements (pod : Pod) (typ : PodRequirementType) :
    (newPodRequirements tables pod typ).Keyed tables := by
  have selector := keyed_newLabelRequirements tables pod.nodeSelector
  unfold newPodRequirements
  cases pod.nodeAffinity with
  | none => exact selector
  | some affinity =>
    dsimp only
    split
    · refine Keyed.add_values tables ?_ (keyed_newNodeSelectorRequirements tables _)
      split
      · exact selector.add_values tables (keyed_newNodeSelectorRequirements tables _)
      · exact selector
    · split
      · exact selector.add_values tables (keyed_newNodeSelectorRequirements tables _)
      · exact selector

theorem implies_added (normalized : tables.normalizeKey requirement.key = requirement.key)
    (member : requirement ∈ added) :
    ∃ narrowed, (r.add tables added).lookup requirement.key = some narrowed ∧
      ∀ value, narrowed.has value → requirement.has value := by
  induction added generalizing r with
  | nil => cases member
  | cons head rest ih =>
    rcases mem_cons.mp member with rfl | inRest
    · have here : (r.addOne tables requirement).lookup requirement.key =
          some (r.stored tables requirement) := by
        rw [lookup_addOne, stored_key tables normalized, if_pos rfl]
      obtain ⟨narrowed, found, below⟩ :=
        implies_add tables (r.addOne tables requirement) rest requirement.key _ here
      exact ⟨narrowed, found, fun value allowed => has_of_stored tables (below value allowed)⟩
    · exact ih inRest

theorem implies_add_values (r : Requirements) (keyed : other.Keyed tables) :
    (r.add tables other.values).Implies other := by
  intro key requirement found
  obtain ⟨rfl, normalized⟩ := keyed key requirement found
  exact implies_added tables normalized (GoMap.mem_values_iff.mpr ⟨_, found⟩)

theorem lookup_add_fresh {entries : List (Sigma fun _ : String => Requirement)}
    {done : Requirements} (nodup : entries.NodupKeys)
    (fresh : ∀ entry ∈ entries, entry.2.key = entry.1 ∧ done.lookup entry.1 = none) (key : String) :
    (done.add tables (entries.map fun entry => entry.2)).lookup key =
      (entries.dlookup key).or (done.lookup key) := by
  induction entries generalizing done with
  | nil => rfl
  | cons entry rest ih =>
    obtain ⟨headFresh, restNodup⟩ := nodupKeys_cons.mp nodup
    obtain ⟨ownKey, absent⟩ := fresh entry mem_cons_self
    have step : done.addOne tables entry.2 = done.insert entry.1 entry.2 := by
      unfold addOne
      rw [ownKey, absent]
    have unfolded : done.add tables ((entry :: rest).map fun entry => entry.2) =
        add tables (done.insert entry.1 entry.2) (rest.map fun entry => entry.2) := by
      rw [← step]
      rfl
    have restFresh : ∀ other ∈ rest, other.2.key = other.1 ∧
        (done.insert entry.1 entry.2).lookup other.1 = none := by
      intro other member
      obtain ⟨otherKey, otherAbsent⟩ := fresh other (mem_cons_of_mem _ member)
      have different : other.1 ≠ entry.1 := fun same =>
        headFresh (same ▸ mem_map_of_mem member)
      rw [lookup_insert_eq, if_neg different]
      exact ⟨otherKey, otherAbsent⟩
    rw [unfolded, ih restNodup restFresh, lookup_insert_eq]
    by_cases same : key = entry.1
    · subst same
      rw [dlookup_eq_none.mpr headFresh, if_pos rfl, none_or]
      rw [dlookup_cons_eq rest entry.1 entry.2, some_or]
    · rw [if_neg same, dlookup_cons_ne rest entry same]

theorem lookup_newRequirements_filter (named : r.Named) (keep : Requirement → Bool) (key : String) :
    (newRequirements tables (r.values.filter keep)).lookup key = (r.lookup key).filter keep := by
  have kept : r.values.filter keep =
      (r.entries.filter fun entry => keep entry.2).map fun entry => entry.2 := by
    unfold values
    rw [List.filter_map]
    rfl
  have nodup : (r.entries.filter fun entry => keep entry.2).NodupKeys :=
    r.nodupKeys.sublist filter_sublist
  have applied := @lookup_add_fresh tables _ ∅ nodup (fun entry member => ⟨named entry.1 entry.2
    (mem_entries_iff.mp (mem_filter.mp member).1), AList.lookup_empty entry.1⟩) key
  rw [AList.lookup_empty, or_none, ← kept] at applied
  rw [newRequirements, applied]
  ext requirement
  rw [← mem_def, mem_dlookup_iff nodup, mem_filter, mem_entries_iff, filter_eq_some_iff]

theorem lookup_newRequirements_values (named : r.Named) (key : String) :
    (newRequirements tables r.values).lookup key = r.lookup key := by
  have applied := lookup_newRequirements_filter tables named (fun _ => true) key
  rw [filter_true] at applied
  rw [applied]
  cases r.lookup key <;> rfl

/-- Requirements that differ only in minimum numbers of values. -/
def SameSets (r other : Requirements) : Prop :=
  ∀ key, (r.lookup key).map ({ · with minValues := none }) =
    (other.lookup key).map ({ · with minValues := none })

theorem SameSets.refl (r : Requirements) : r.SameSets r := fun _ => rfl

theorem SameSets.symm (same : r.SameSets other) : other.SameSets r := fun key => (same key).symm

theorem SameSets.trans (first : r.SameSets middle) (second : middle.SameSets other) :
    r.SameSets other :=
  fun key => (first key).trans (second key)

theorem SameSets.of_lookup (same : ∀ key, r.lookup key = other.lookup key) :
    r.SameSets other := fun key => by rw [same]

section

variable (same : r.SameSets other)
include same

theorem SameSets.lookup {key : String} (found : r.lookup key = some requirement) :
    ∃ minValues, other.lookup key = some { requirement with minValues := minValues } := by
  have here := same key
  rw [found] at here
  cases there : other.lookup key with
  | none =>
    rw [there] at here
    cases here
  | some present =>
    refine ⟨present.minValues, ?_⟩
    cases present
    cases requirement
    simp_all

theorem SameSets.implies : r.Implies other := by
  intro key requirement found
  obtain ⟨minValues, there⟩ := same.symm.lookup found
  exact ⟨_, there, fun value allowed => allowed⟩

theorem SameSets.isCompatible (requirements : Requirements) (allowUndefined : Finset String) :
    r.isCompatible tables requirements allowUndefined =
      other.isCompatible tables requirements allowUndefined := by
  rw [Bool.eq_iff_iff, isCompatible_iff, isCompatible_iff]
  refine forall_congr' fun key => forall_congr' fun incoming => imp_congr_right fun _ => ?_
  cases found : r.lookup key with
  | none =>
    have here := same key
    rw [found] at here
    have absent : other.lookup key = none := by simpa using here.symm
    rw [absent]
  | some existing =>
    obtain ⟨minValues, there⟩ := same.lookup found
    rw [there]
    exact Iff.rfl

theorem SameSets.intersects {requirements : Requirements}
    (apart : requirements.intersects tables r = []) :
    requirements.intersects tables other = [] := by
  rw [intersects_eq_nil] at apart ⊢
  intro key existing incoming existingFound incomingFound
  obtain ⟨minValues, there⟩ := same.symm.lookup incomingFound
  have overlapping := apart key existing _ existingFound there
  exact overlapping

end

end Requirements

end Kraftsman.Scheduling
