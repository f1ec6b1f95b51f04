import Kraftsman.Scheduling.Merging
import Kraftsman.Scheduling.Narrowing

/-!
Contract: the algebra of intersections.

Owns: the requirements that can be built, the laws of intersection up to what a
requirement means, and that sets of requirements do not depend on order and
grouping.
Does not own: the relation between a requirement and the parts it merges.
-/

namespace Kraftsman.Scheduling

open Apis Data Data.Strconv Requirements Requirement Finset

/-! ### Optional minima -/

def AsksFor (minValues : Option Int) (number : Int) : Prop :=
  ∃ minimum, minValues = some minimum ∧ number ≤ minimum

variable {left right gte lte : Option Int} {r : Requirement} {parts : Set Requirement}
variable {tables : LabelTables} {requirements : Requirements}

variable {number : Int} {gte' lte' : Option Int} {leaves : List Requirement}

theorem asksFor_maxIntPtr :
    AsksFor (maxIntPtr left right) number ↔ AsksFor left number ∨ AsksFor right number := by
  rcases left with _ | left <;> rcases right with _ | right <;> simp only [AsksFor, maxIntPtr] <;>
    try simp
  split_ifs <;> simp <;> omega

theorem eq_of_asksFor (same : ∀ number, AsksFor left number ↔ AsksFor right number) :
    left = right := by
  have below : ∀ {left right : Option Int}, (∀ number, AsksFor left number → AsksFor right number) →
        ∀ minimum, left = some minimum → ∃ other, right = some other ∧ minimum ≤ other :=
    fun sub minimum found => sub minimum ⟨minimum, found, le_rfl⟩
  rcases left with _ | left
  · rcases right with _ | right
    · rfl
    · obtain ⟨_, absurdity, -⟩ := below (fun number => (same number).mpr) right rfl
      cases absurdity
  · obtain ⟨right, rfl, leftLe⟩ := below (fun number => (same number).mp) left rfl
    obtain ⟨_, equal, rightLe⟩ := below (fun number => (same number).mpr) right rfl
    cases equal
    rw [le_antisymm leftLe rightLe]

theorem maxIntPtr_comm (left right : Option Int) : maxIntPtr left right = maxIntPtr right left :=
  eq_of_asksFor fun number => by simp only [asksFor_maxIntPtr, or_comm]

theorem maxIntPtr_assoc (first second third : Option Int) :
    maxIntPtr (maxIntPtr first second) third = maxIntPtr first (maxIntPtr second third) :=
  eq_of_asksFor fun number => by simp only [asksFor_maxIntPtr, or_assoc]

theorem maxIntPtr_self (minimum : Option Int) : maxIntPtr minimum minimum = minimum :=
  eq_of_asksFor fun number => by simp only [asksFor_maxIntPtr, or_self]

theorem maxIntPtr_eq_some_iff : maxIntPtr left right = some number ↔
      IsGreatest {minimum | left = some minimum ∨ right = some minimum} number := by
  rcases left with _ | left <;> rcases right with _ | right <;>
    simp only [maxIntPtr, IsGreatest, upperBounds, Set.mem_ofPred_eq] <;> try simp
  · exact fun same => same.le
  · exact fun same => same.le
  · simp only [or_imp, forall_and, forall_eq']
    split_ifs <;> simp only [Option.some.injEq] <;> omega

theorem minIntPtr_comm (left right : Option Int) : minIntPtr left right = minIntPtr right left := by
  unfold minIntPtr
  grind

theorem minIntPtr_assoc (first second third : Option Int) :
    minIntPtr (minIntPtr first second) third = minIntPtr first (minIntPtr second third) := by
  unfold minIntPtr
  grind

theorem minIntPtr_self (bound : Option Int) : minIntPtr bound bound = bound := by
  cases bound <;> simp [minIntPtr]

theorem boundsConflict_eq_false_iff : boundsConflict gte lte = false ↔
      ∃ number, (∀ low, gte = some low → low ≤ number) ∧ (∀ high, lte = some high → number ≤ high) := by
  rcases gte with _ | low <;> rcases lte with _ | high <;> simp only [boundsConflict]
  · simp
  · simpa using ⟨high, le_rfl⟩
  · simpa using ⟨low, le_rfl⟩
  · simp only [decide_eq_false_iff_not, Option.some.injEq, forall_eq']
    constructor
    · exact fun ordered => ⟨low, le_rfl, by omega⟩
    · rintro ⟨_, above, below⟩
      omega

theorem boundsConflict_merge_left
    (consistent : boundsConflict (maxIntPtr gte gte') (minIntPtr lte lte') = false) :
    boundsConflict gte lte = false := by
  obtain ⟨number, above, below⟩ := boundsConflict_eq_false_iff.mp consistent
  exact boundsConflict_eq_false_iff.mpr
    ⟨number, (maxIntPtr_le_iff.mp above).1, (le_minIntPtr_iff.mp below).1⟩

/-! ### Intersection -/

namespace Requirement

/-- Two requirements that mean the same. -/
structure Alike (r s : Requirement) : Prop where
  has : ∀ value, r.has value = s.has value
  operator : r.operator = s.operator
  minValues : r.minValues = s.minValues

section Intersection

variable (tables) (r s t : Requirement)

theorem minValues_intersection :
    (r.intersection tables s).minValues = maxIntPtr r.minValues s.minValues := by
  unfold intersection
  cases conflict : boundsConflict (maxIntPtr r.gte s.gte) (minIntPtr r.lte s.lte) <;>
    simp [doesNotExist, conflict]

variable {r s}

theorem operator_eq_of_has (representation : r.complement = s.complement)
    (same : ∀ value, r.has value = s.has value)
    (concrete : r.complement = false → r.gte = none ∧ r.lte = none)
    (concrete' : s.complement = false → s.gte = none ∧ s.lte = none)
    (excluded : r.complement → r.values = s.values) : r.operator = s.operator := by
  have sameValues : r.values = s.values := by
    cases complement : r.complement with
    | true => exact excluded complement
    | false =>
      have complement' := representation.symm.trans complement
      ext value
      have allowed := same value
      simpa [has, complement, complement', concrete complement, concrete' complement'] using allowed
  unfold operator
  rw [representation, sameValues]

variable (r s)

theorem complement_intersection_comm :
    (r.intersection tables s).complement = (s.intersection tables r).complement := by
  rw [complement_intersection, complement_intersection, maxIntPtr_comm, minIntPtr_comm,
    Bool.and_comm r.complement]

theorem intersection_comm_alike : Alike (r.intersection tables s) (s.intersection tables r) := by
  have same : ∀ value, (r.intersection tables s).has value = (s.intersection tables r).has value := by
    intro value
    rw [Bool.eq_iff_iff, has_intersection, has_intersection, and_comm]
  have representation := complement_intersection_comm tables r s
  refine ⟨same, ?_, ?_⟩
  · apply operator_eq_of_has representation same (bounds_intersection_of_concrete tables r s)
      (bounds_intersection_of_concrete tables s r)
    intro complement
    obtain ⟨-, -, -, -, values⟩ := intersection_of_complement tables complement
    obtain ⟨-, -, -, -, values'⟩ := intersection_of_complement tables (representation ▸ complement)
    rw [values, values', maxIntPtr_comm, minIntPtr_comm, union_comm]
  · rw [minValues_intersection, minValues_intersection, maxIntPtr_comm]

/-- A nested intersection is a complement when every side is one and all bounds agree. -/
theorem complement_intersection_left :
    ((r.intersection tables s).intersection tables t).complement ↔
      (r.complement ∧ s.complement ∧ t.complement) ∧
        boundsConflict (maxIntPtr (maxIntPtr r.gte s.gte) t.gte)
          (minIntPtr (minIntPtr r.lte s.lte) t.lte) = false := by
  constructor
  · intro complement
    obtain ⟨⟨inner, third⟩, consistent, -⟩ := intersection_of_complement tables complement
    obtain ⟨⟨first, second⟩, -, gte, lte, -⟩ := intersection_of_complement tables inner
    rw [gte, lte] at consistent
    exact ⟨⟨first, second, third⟩, consistent⟩
  · rintro ⟨⟨first, second, third⟩, consistent⟩
    have inner : (r.intersection tables s).complement := by
      rw [complement_intersection, first, second, boundsConflict_merge_left consistent]
      rfl
    obtain ⟨-, -, gte, lte, -⟩ := intersection_of_complement tables inner
    rw [complement_intersection, inner, third, gte, lte, consistent]
    rfl

theorem complement_intersection_right :
    (r.intersection tables (s.intersection tables t)).complement ↔
      (r.complement ∧ s.complement ∧ t.complement) ∧
        boundsConflict (maxIntPtr r.gte (maxIntPtr s.gte t.gte))
          (minIntPtr r.lte (minIntPtr s.lte t.lte)) = false := by
  rw [complement_intersection_comm, complement_intersection_left, maxIntPtr_comm r.gte,
    minIntPtr_comm r.lte]
  tauto

theorem intersection_assoc_alike : Alike ((r.intersection tables s).intersection tables t)
      (r.intersection tables (s.intersection tables t)) := by
  have same : ∀ value, ((r.intersection tables s).intersection tables t).has value =
      (r.intersection tables (s.intersection tables t)).has value := by
    intro value
    rw [Bool.eq_iff_iff]
    simp only [has_intersection, and_assoc]
  have representation : ((r.intersection tables s).intersection tables t).complement =
      (r.intersection tables (s.intersection tables t)).complement := by
    rw [Bool.eq_iff_iff, complement_intersection_left, complement_intersection_right,
      maxIntPtr_assoc, minIntPtr_assoc]
  refine ⟨same, ?_, ?_⟩
  · apply operator_eq_of_has representation same (bounds_intersection_of_concrete tables _ _)
      (bounds_intersection_of_concrete tables _ _)
    intro complement
    obtain ⟨⟨inner, -⟩, -, -, -, values⟩ := intersection_of_complement tables complement
    obtain ⟨-, -, gte, lte, innerValues⟩ := intersection_of_complement tables inner
    obtain ⟨⟨-, inner'⟩, -, -, -, values'⟩ :=
      intersection_of_complement tables (representation ▸ complement)
    obtain ⟨-, -, gte', lte', innerValues'⟩ := intersection_of_complement tables inner'
    -- a value within all bounds lies within those of either inner intersection
    ext value
    rw [values, values', innerValues, innerValues', gte, lte, gte', lte']
    simp only [mem_filter, mem_union, withinBounds_merge]
    grind
  · simp only [minValues_intersection, maxIntPtr_assoc]

end Intersection

/-! ### The overlap test -/

variable (tables)

section Overlap

variable {r s : Requirement}

theorem values_intersection_subset : (r.intersection tables s).values ⊆ r.values ∪ s.values := by
  unfold intersection
  cases conflict : boundsConflict (maxIntPtr r.gte s.gte) (minIntPtr r.lte s.lte) with
  | true => simp [doesNotExist, conflict]
  | false =>
    simp only [conflict, if_false, Bool.false_eq_true]
    intro value member
    have kept := (mem_filter.mp member).1
    split_ifs at kept <;> simp only [mem_union, mem_sdiff, mem_inter] at kept ⊢ <;>
      tauto

theorem hasIntersection_of_complements (left : r.complement) (right : s.complement) :
    r.hasIntersection s = !boundsConflict (maxIntPtr r.gte s.gte) (minIntPtr r.lte s.lte) := by
  unfold hasIntersection
  cases conflict : boundsConflict (maxIntPtr r.gte s.gte) (minIntPtr r.lte s.lte) <;>
    simp [left, right, conflict]

theorem hasIntersection_iff_of_concrete (concrete : (r.complement && s.complement) = false) :
    r.hasIntersection s ↔ (r.intersection tables s).values.Nonempty := by
  unfold hasIntersection intersection
  cases conflict : boundsConflict (maxIntPtr r.gte s.gte) (minIntPtr r.lte s.lte) with
  | true => simp [doesNotExist, conflict]
  | false =>
    cases left : r.complement <;> cases right : s.complement <;>
      simp [left, right, conflict, Finset.Nonempty, and_assoc] at concrete ⊢

/-- The overlap test agrees with building the intersection and counting its
values. A set of values, like any Go map, has fewer entries than the largest
integer; a complement of that many would count as empty. -/
theorem hasIntersection_iff_len_pos (tables : LabelTables)
    (fits : ((r.values ∪ s.values).card : Int) < maxInt64) :
    r.hasIntersection s = true ↔ 0 < (r.intersection tables s).len := by
  have few : ((r.intersection tables s).values.card : Int) < maxInt64 :=
    lt_of_le_of_lt (by exact_mod_cast card_le_card (values_intersection_subset tables)) fits
  cases both : r.complement && s.complement with
  | false =>
    have concrete : (r.intersection tables s).complement = false := by
      rw [complement_intersection, both, Bool.false_and]
    rw [hasIntersection_iff_of_concrete tables both, len, concrete, ← card_pos]
    simp
  | true =>
    obtain ⟨left, right⟩ := Bool.and_eq_true_iff.mp both
    rw [hasIntersection_of_complements left right]
    cases conflict : boundsConflict (maxIntPtr r.gte s.gte) (minIntPtr r.lte s.lte) with
    | true =>
      have nothing : (r.intersection tables s).len = 0 := by
        simp [intersection, conflict, doesNotExist, len]
      simp [nothing]
    | false =>
      have complement : (r.intersection tables s).complement := by
        rw [complement_intersection, both, conflict]
        rfl
      rw [len, complement]
      simp only [Bool.not_false, if_true, true_iff]
      omega

end Overlap

section Containment

variable {s : Requirement}

theorem withinBounds_of_contained {value : String} (contained : boundsAreContained r s)
    (within : withinBounds value r.gte r.lte) : withinBounds value s.gte s.lte := by
  obtain ⟨low, high⟩ := Bool.and_eq_true_iff.mp contained
  rw [withinBounds_iff] at within ⊢
  rcases within with ⟨noLow, noHigh⟩ | ⟨number, parsed, above, below⟩
  · left
    cases lowEq : s.gte <;> cases highEq : s.lte <;> simp_all
  · refine .inr ⟨number, parsed, fun bound found => ?_, fun bound found => ?_⟩
    · cases own : r.gte with
      | none => simp [found, own] at low
      | some least =>
        have := above least own
        simp [found, own] at low
        omega
    · cases own : r.lte with
      | none => simp [found, own] at high
      | some greatest =>
        have := below greatest own
        simp [found, own] at high
        omega

theorem has_of_subsetOf {value : String} (subset : r.subsetOf s)
    (allowed : r.has value) : s.has value := by
  have ⟨listed, within⟩ := has_iff.mp allowed
  unfold subsetOf at subset
  split_ifs at subset with empty concrete contained bounds
  · simp [has, operator] at allowed empty
    grind
  · simp only [decide_eq_true_eq] at subset
    exact subset value (listed.mpr (by simpa using concrete))
  · simp only [decide_eq_true_eq, Bool.not_eq_true', Bool.not_eq_false] at subset contained bounds
    refine has_iff.mpr ⟨?_, withinBounds_of_contained bounds within⟩
    rw [contained]
    simp only [Bool.true_eq_false, iff_false]
    intro excluded
    rw [subset value excluded] at allowed
    cases allowed

/-- An absent label passes from `r` to `s` unless `r` excludes values and `s` only asks
for the label. -/
theorem negative_of_subsetOf (subset : r.subsetOf s) (absent : r.negative) : s.negative ∨
      r.operator = .opNotIn ∧ s.operator = .opExists ∧ boundsAreContained r s := by
  simp only [negative, Bool.or_eq_true, decide_eq_true_eq] at absent ⊢
  rcases absent with notIn | empty
  · have excludes : r.complement := by
      unfold operator at notIn
      grind
    simp only [subsetOf, notIn, excludes] at subset
    have contained : boundsAreContained r s := by grind
    have other : s.operator = .opExists ∨ s.operator = .opNotIn := by
      unfold operator
      grind
    rcases other with isExists | otherNotIn
    · exact .inr ⟨notIn, isExists, contained⟩
    · exact .inl (.inl otherNotIn)
  · simp only [subsetOf, empty, if_true, decide_eq_true_eq] at subset
    exact .inl (.inr subset)

theorem subsetOf_of_exclusion (notIn : r.operator = .opNotIn) (isExists : s.operator = .opExists)
    (contained : boundsAreContained r s) : r.subsetOf s := by
  unfold operator at notIn isExists
  unfold subsetOf operator
  grind

end Containment

/-! ### Built requirements -/

/-- What construction and intersection can build on a key. `relaxed` is the
scheduler's lowering of a minimum. -/
inductive Built (tables : LabelTables) (key : String) : Requirement → Prop where
  | new {name : String} (normalized : tables.normalizeKey name = key)
      (operator : NodeSelectorOperator) (minValues : Option Int) (values : List String) :
      Built tables key (newRequirementWithFlexibility tables name operator minValues values)
  | intersection {r s : Requirement} (left : Built tables key r) (right : Built tables key s) :
      Built tables key (r.intersection tables s)
  | relaxed {r : Requirement} (built : Built tables key r) (minValues : Option Int) :
      Built tables key { r with minValues := minValues }

variable {r : Requirement}

theorem merges_relaxed (merges : Merges r {r}) (minValues : Option Int) :
    Merges { r with minValues := minValues } {{ r with minValues := minValues }} :=
  .self merges.concrete (fun complement value excluded => ((merges.excluded complement value).mp
    excluded).2) merges.consistent merges.lowRange merges.highRange

theorem Built.spec {tables : LabelTables} {key : String} (built : Built tables key r) :
    r.key = key ∧ tables.normalizeKey key = key ∧ Merges r {r} := by
  induction built with
  | new normalized operator minValues values =>
    refine ⟨?_, ?_, .newRequirementWithFlexibility tables _ operator minValues values⟩
    · rw [newRequirementWithFlexibility_key, normalized]
    · rw [← normalized, LabelTables.normalizeKey_idem]
  | intersection left right leftSpec rightSpec =>
    obtain ⟨leftKey, normalized, leftMerges⟩ := leftSpec
    obtain ⟨rightKey, -, rightMerges⟩ := rightSpec
    have merges := leftMerges.intersection tables rightMerges (rightKey.trans leftKey.symm)
      (by rw [leftKey, normalized])
    have ownKey := merges.key _ (.inl rfl)
    exact ⟨ownKey.symm.trans leftKey, normalized, merges.itself⟩
  | relaxed built minValues spec =>
    obtain ⟨ownKey, normalized, merges⟩ := spec
    exact ⟨ownKey, normalized, merges_relaxed merges minValues⟩

theorem subsetOf_of_values {tables : LabelTables} {key : String} {s : Requirement}
    (built : s.Built tables key) (isIn : r.operator = .opIn) (otherIn : s.operator = .opIn)
    (subset : r.values ⊆ s.values) : r.subsetOf s := by
  have concrete : r.complement = false ∧ s.complement = false := by
    unfold operator at isIn otherIn
    grind
  obtain ⟨-, -, merges⟩ := built.spec
  obtain ⟨noLow, noHigh⟩ := merges.concrete concrete.2
  simp only [subsetOf, isIn, concrete, has, noLow, noHigh]
  simpa using fun value (member : value ∈ r.values) => subset member

/-- Containment is what it says, and holds of listed values that are a subset,
unless exclusions are compared with a bare `Exists`: a node without the label
satisfies the first only. -/
theorem subsetOf_contained_iff {tables : LabelTables} {key : String} {s : Requirement}
    (built : s.Built tables key) :
    ((r.subsetOf s = true →
        (∀ value, r.has value = true → s.has value = true) ∧
          (r.negative = true → s.negative = true)) ∧
      (r.operator = .opIn → s.operator = .opIn → r.values ⊆ s.values → r.subsetOf s = true)) ↔
    ¬(r.operator = .opNotIn ∧ s.operator = .opExists ∧ boundsAreContained r s = true) := by
  constructor
  · rintro ⟨sound, -⟩ ⟨notIn, isExists, contained⟩
    have absent := (sound (subsetOf_of_exclusion notIn isExists contained)).2
    simp [negative, notIn, isExists] at absent
  · intro apart
    refine ⟨fun subset => ⟨fun value => has_of_subsetOf subset, fun absent => ?_⟩,
      subsetOf_of_values built⟩
    exact (negative_of_subsetOf subset absent).resolve_right apart

theorem intersection_self_alike (merges : Merges r {r}) : Alike (r.intersection tables r) r := by
  have same : ∀ value, (r.intersection tables r).has value = r.has value := by
    intro value
    rw [Bool.eq_iff_iff, has_intersection, and_self]
  have consistent : boundsConflict (maxIntPtr r.gte r.gte) (minIntPtr r.lte r.lte) = false := by
    rw [maxIntPtr_self, minIntPtr_self]
    exact merges.consistent
  have representation : (r.intersection tables r).complement = r.complement := by
    rw [complement_intersection, consistent, Bool.and_self, Bool.not_false, Bool.and_true]
  refine ⟨same, ?_, ?_⟩
  · apply operator_eq_of_has representation same (bounds_intersection_of_concrete tables r r)
      merges.concrete
    intro complement
    obtain ⟨⟨ownComplement, -⟩, -, -, -, values⟩ := intersection_of_complement tables complement
    rw [values, union_self, maxIntPtr_self, minIntPtr_self, filter_eq_self]
    exact fun value member => ((merges.excluded ownComplement value).mp member).2
  · rw [minValues_intersection, maxIntPtr_self]

end Requirement

/-! ### What a merge determines -/

theorem Merges.exists_has_of_complement (merges : Merges r parts) (complement : r.complement) :
    ∃ value, r.has value := by
  obtain ⟨number, low, high, above, below⟩ := merges.exists_number
  obtain ⟨text, fresh, parsed⟩ := exists_text_notMem r.values low high
  refine ⟨text, ?_⟩
  rw [has_iff, withinBounds_iff]
  exact ⟨by simp [fresh, complement], .inr ⟨number, parsed, above, below⟩⟩

theorem Merges.determined {s : Requirement} (left : Merges r parts) (right : Merges s parts) :
    (∀ value, r.has value = s.has value) ∧ r.operator = s.operator := by
  have same : ∀ value, r.has value = s.has value := by
    intro value
    rw [Bool.eq_iff_iff, left.has, right.has]
  -- a complement's parts are complements and leave a value, so the other one is a complement too
  have complement_of : ∀ {r s : Requirement}, Merges r parts → Merges s parts →
      (∀ value, r.has value = s.has value) → r.complement → s.complement := by
    intro r s left right same complement
    obtain ⟨value, allowed⟩ := left.exists_has_of_complement complement
    exact right.complement_of_has (left.complement_parts complement) ⟨value, same value ▸ allowed⟩
  have representation : r.complement = s.complement := by
    rw [Bool.eq_iff_iff]
    exact ⟨complement_of left right same, complement_of right left fun value => (same value).symm⟩
  refine ⟨same, operator_eq_of_has representation same left.concrete right.concrete ?_⟩
  intro complement
  have complement' := representation ▸ complement
  ext value
  rw [left.excluded complement, right.excluded complement', left.bounds complement,
    right.bounds complement']

/-! ### Order and grouping -/

/-- Requirements that stand for parts also in the number of values they ask for. -/
structure JoinsAll (tables : LabelTables) (requirements : Requirements)
    (parts : Set Requirement) : Prop where
  merges : MergesAll tables requirements parts
  minValues : ∀ key r, requirements.lookup key = some r → ∀ number,
    AsksFor r.minValues number ↔
      ∃ part ∈ {part ∈ parts | part.key = key}, AsksFor part.minValues number

theorem JoinsAll.empty (tables : LabelTables) : JoinsAll tables ∅ ∅ where
  merges := .empty tables
  minValues := by simp

theorem JoinsAll.addOne {others : Set Requirement} (all : JoinsAll tables requirements parts)
    (merges : Merges r others) (normalized : tables.normalizeKey r.key = r.key)
    (minValues : ∀ number, AsksFor r.minValues number ↔
      ∃ part ∈ others, AsksFor part.minValues number) :
    JoinsAll tables (requirements.addOne tables r) (parts ∪ others) := by
  have added := all.merges.addOne merges normalized
  refine ⟨added, ?_⟩
  intro key found lookedUp number
  rw [lookup_addOne] at lookedUp
  have ownKey : (requirements.stored tables r).key = r.key := by
    unfold stored
    cases previous : requirements.lookup r.key with
    | none => rfl
    | some existing =>
      obtain ⟨existingKey, existingMerges⟩ := all.merges.merged r.key existing previous
      have joined := merges.intersection tables existingMerges existingKey normalized
      obtain ⟨part, member⟩ := merges.nonempty
      exact (joined.key part (.inl member)).symm.trans (merges.key part member)
  rw [ownKey] at lookedUp
  split_ifs at lookedUp with same
  · subst same
    cases lookedUp
    rw [sep_key_union merges.key]
    unfold stored
    cases previous : requirements.lookup r.key with
    | none =>
      rw [all.merges.noParts previous, Set.union_empty]
      exact minValues number
    | some existing =>
      simp only [minValues_intersection, asksFor_maxIntPtr, minValues number,
        all.minValues r.key existing previous number, Set.mem_union, or_and_right, exists_or]
  · rw [sep_key_union_of_ne merges.key same]
    exact all.minValues key found lookedUp number

theorem JoinsAll.add_joined (all : JoinsAll tables requirements parts)
    (partsOf : Requirement → Set Requirement) (added : List Requirement)
    (merges : ∀ r ∈ added, Merges r (partsOf r) ∧ tables.normalizeKey r.key = r.key ∧
      ∀ number, AsksFor r.minValues number ↔ ∃ part ∈ partsOf r, AsksFor part.minValues number) :
    JoinsAll tables (requirements.add tables added)
      (parts ∪ {part | ∃ r ∈ added, part ∈ partsOf r}) := by
  refine foldl_union all fun r member _ _ all => ?_
  obtain ⟨merges, normalized, minValues⟩ := merges r member
  exact all.addOne merges normalized minValues

theorem JoinsAll.add (all : JoinsAll tables requirements parts) (added : List Requirement)
    (merges : ∀ r ∈ added, Merges r {r} ∧ tables.normalizeKey r.key = r.key) :
    JoinsAll tables (requirements.add tables added) (parts ∪ {r | r ∈ added}) := by
  have joined := all.add_joined (fun r => {r}) added fun r member =>
    ⟨(merges r member).1, (merges r member).2, by simp⟩
  have sameParts : {part | ∃ r ∈ added, part ∈ ({r} : Set Requirement)} = {r | r ∈ added} := by
    ext r
    simp
  rwa [sameParts] at joined

/-- Put together from a list by any sequence of calls to `Add`: directly, or by
way of others visited in any order. -/
inductive Collected (tables : LabelTables) : Requirements → List Requirement → Prop where
  | empty : Collected tables ∅ []
  | add {requirements : Requirements} {leaves : List Requirement}
      (collected : Collected tables requirements leaves) (added : List Requirement) :
      Collected tables (requirements.add tables added) (leaves ++ added)
  | addAll {requirements other : Requirements} {leaves others added : List Requirement}
      (collected : Collected tables requirements leaves) (collected' : Collected tables other others)
      (order : added.Perm other.values) :
      Collected tables (requirements.add tables added) (leaves ++ others)

theorem Collected.joinsAll (collected : Collected tables requirements leaves)
    (built : ∀ r ∈ leaves, ∃ key, r.Built tables key) :
    JoinsAll tables requirements {r | r ∈ leaves} := by
  induction collected with
  | empty => simpa using JoinsAll.empty tables
  | @add requirements leaves _ added ih =>
    have joined := (ih fun r member => built r (by simp [member])).add added fun r member => by
      obtain ⟨key, isBuilt⟩ := built r (by simp [member])
      obtain ⟨rfl, normalized, merges⟩ := isBuilt.spec
      exact ⟨merges, normalized⟩
    have sameParts : {r | r ∈ leaves} ∪ {r | r ∈ added} = {r | r ∈ leaves ++ added} := by
      ext r
      simp
    rwa [sameParts] at joined
  | @addAll requirements other leaves others added _ _ order ih otherHypothesis =>
    have all := ih fun r member => built r (by simp [member])
    have otherAll := otherHypothesis fun r member => built r (by simp [member])
    have joined := all.add_joined (fun r => {part ∈ {r | r ∈ others} | part.key = r.key}) added
      fun r member => by
        have inValues : r ∈ other.values := order.mem_iff.mp member
        obtain ⟨merges, normalized⟩ := otherAll.merges.merges_of_mem_values inValues
        obtain ⟨key, found⟩ := GoMap.mem_values_iff.mp inValues
        obtain rfl := (otherAll.merges.merged key r found).1
        exact ⟨merges, normalized, otherAll.minValues r.key r found⟩
    rw [otherAll.merges.parts_eq order] at joined
    have sameParts : {r | r ∈ leaves} ∪ {r | r ∈ others} = {r | r ∈ leaves ++ others} := by
      ext r
      simp
    rwa [sameParts] at joined

theorem JoinsAll.determined {left right : Requirements} (leftAll : JoinsAll tables left parts)
    (rightAll : JoinsAll tables right parts) (key : String) :
    Option.Rel Requirement.Alike (left.lookup key) (right.lookup key) := by
  cases found : left.lookup key with
  | none =>
    cases found' : right.lookup key with
    | none => exact .none
    | some s =>
      obtain ⟨-, merges⟩ := rightAll.merges.merged key s found'
      obtain ⟨part, inParts, partKey⟩ := merges.nonempty
      exact absurd partKey (leftAll.merges.absent key found part inParts)
  | some r =>
    obtain ⟨-, merges⟩ := leftAll.merges.merged key r found
    cases found' : right.lookup key with
    | none =>
      obtain ⟨part, inParts, partKey⟩ := merges.nonempty
      exact absurd partKey (rightAll.merges.absent key found' part inParts)
    | some s =>
      obtain ⟨-, merges'⟩ := rightAll.merges.merged key s found'
      obtain ⟨sameHas, sameOperator⟩ := merges.determined merges'
      refine .some ⟨sameHas, sameOperator, eq_of_asksFor fun number => ?_⟩
      rw [leftAll.minValues key r found, rightAll.minValues key s found']

/-! ### The laws -/

/-- Intersection allows what both sides allow; it is commutative, associative
and, on requirements that can be built, idempotent; the minimum number of values
is the largest one set; and the order and grouping of additions do not matter. -/
theorem intersection_laws (tables : LabelTables) :
    (∀ (r s : Requirement) (value : String), (r.intersection tables s).has value = true ↔
      r.has value = true ∧ s.has value = true) ∧
    (∀ r s : Requirement, Requirement.Alike (r.intersection tables s) (s.intersection tables r)) ∧
    (∀ r s t : Requirement, Requirement.Alike ((r.intersection tables s).intersection tables t)
      (r.intersection tables (s.intersection tables t))) ∧
    (∀ (key : String) (r : Requirement), r.Built tables key →
      Requirement.Alike (r.intersection tables r) r) ∧
    (∀ (r s : Requirement) (number : Int), (r.intersection tables s).minValues = some number ↔
      IsGreatest {minimum | r.minValues = some minimum ∨ s.minValues = some minimum} number) ∧
    (∀ (left right : Requirements) (leaves leaves' : List Requirement),
      Collected tables left leaves → Collected tables right leaves' → leaves.Perm leaves' →
      (∀ r ∈ leaves, ∃ key, r.Built tables key) →
      ∀ key, Option.Rel Requirement.Alike (left.lookup key) (right.lookup key)) := by
  refine ⟨has_intersection tables, intersection_comm_alike tables,
    intersection_assoc_alike tables, ?_, ?_, ?_⟩
  · intro key r built
    obtain ⟨-, -, merges⟩ := built.spec
    exact intersection_self_alike tables merges
  · intro r s number
    rw [minValues_intersection, maxIntPtr_eq_some_iff]
  · intro left right leaves leaves' collected collected' permuted built key
    have joined := collected.joinsAll built
    have joined' := collected'.joinsAll fun r member => built r (permuted.mem_iff.mpr member)
    have sameParts : {r | r ∈ leaves} = {r | r ∈ leaves'} := by
      ext r
      exact permuted.mem_iff
    rw [sameParts] at joined
    exact joined.determined joined' key

/-- A lower bound that asks for two values. -/
def newerThanFive : Requirement :=
  .newRequirementWithFlexibility .base "example.com/generation" .opGt (some 2) ["5"]

/-- An exclusion within that bound. -/
def notSeven : Requirement :=
  .newRequirementWithFlexibility .base "example.com/generation" .opNotIn none ["7"]

theorem newerThanFive_built : newerThanFive.Built .base "example.com/generation" :=
  .new (by decide) .opGt (some 2) ["5"]

theorem notSeven_built : notSeven.Built .base "example.com/generation" :=
  .new (by decide) .opNotIn none ["7"]

theorem intersection_laws_generations :
    Option.Rel Requirement.Alike
      ((Requirements.newRequirements .base [newerThanFive, notSeven]).lookup "example.com/generation")
      ((Requirements.newRequirements .base [notSeven, newerThanFive]).lookup
        "example.com/generation") ∧
    Requirement.Alike (newerThanFive.intersection .base newerThanFive) newerThanFive := by
  obtain ⟨-, -, -, idempotent, -, ordered⟩ := intersection_laws .base
  refine ⟨ordered _ _ _ _ (.add .empty _) (.add .empty _) (List.Perm.swap _ _ _) ?_ _,
    idempotent _ _ newerThanFive_built⟩
  intro r member
  simp only [List.nil_append, List.mem_cons, List.not_mem_nil, or_false] at member
  rcases member with rfl | rfl
  · exact ⟨_, newerThanFive_built⟩
  · exact ⟨_, notSeven_built⟩

/-- Any generation, but one must be set. -/
def anyGeneration : Requirement :=
  .newRequirementWithFlexibility .base "example.com/generation" .opExists none []

theorem anyGeneration_built : anyGeneration.Built .base "example.com/generation" :=
  .new (by decide) .opExists none []

theorem absent_generation_not_contained :
    notSeven.subsetOf anyGeneration = true ∧ notSeven.negative = true ∧
      anyGeneration.negative = false := by
  decide +kernel

theorem anyGeneration_contains_newerThanFive :
    newerThanFive.subsetOf anyGeneration = true ∧
      ∀ value, newerThanFive.has value = true → anyGeneration.has value = true := by
  have contained := (subsetOf_contained_iff (r := newerThanFive)
    anyGeneration_built).mpr (by decide +kernel)
  have subset : newerThanFive.subsetOf anyGeneration := by decide +kernel
  exact ⟨subset, (contained.1 subset).1⟩

theorem hasIntersection_generations :
    newerThanFive.hasIntersection notSeven = true ↔
      0 < (newerThanFive.intersection .base notSeven).len :=
  hasIntersection_iff_len_pos .base (by decide +kernel)

end Kraftsman.Scheduling
