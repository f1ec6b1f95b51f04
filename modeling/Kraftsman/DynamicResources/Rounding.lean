import Kraftsman.DynamicResources.Capacity

/-!
Contract: rounding a capacity request up to what a policy allows.

Owns: the rounding in 64-bit arithmetic, the amounts a policy allows, and when
the amount charged is the least of them.
Does not own: what becomes of the amount charged.
-/

namespace Kraftsman.DynamicResources

open Apis Data Data.Strconv Option List

section Values

variable {amount smaller larger : Quantity}

theorem Quantity.value_nonneg (nonneg : 0 ≤ amount) : 0 ≤ amount.value := by
  unfold Quantity.value
  rw [if_pos nonneg]
  exact Int.ceil_nonneg nonneg

theorem Quantity.le_value (amount : Quantity) (nonneg : 0 ≤ amount) : amount ≤ amount.value := by
  unfold Quantity.value
  rw [if_pos nonneg]
  exact Int.le_ceil amount

theorem Quantity.value_pos (positive : 0 < amount) : 0 < amount.value := by
  have := Quantity.le_value amount positive.le
  exact_mod_cast positive.trans_le this

theorem Quantity.value_mono (nonneg : 0 ≤ smaller) (le : smaller ≤ larger) :
    smaller.value ≤ larger.value := by
  unfold Quantity.value
  rw [if_pos nonneg, if_pos (nonneg.trans le)]
  exact Int.ceil_le_ceil le

@[simp] theorem Quantity.value_intCast (number : ℤ) : Quantity.value (number : ℚ) = number := by
  unfold Quantity.value
  split_ifs <;> simp

end Values

variable {value amount step : ℤ}

theorem wrapInt64_of_nonneg (low : 0 ≤ value) (high : value < 2 ^ 63) : wrapInt64 value = value := by
  apply wrapInt64_of_mem <;> simp only [minInt64, maxInt64] <;> omega

theorem wrapInt64_sub (value : ℤ) : wrapInt64 (value - 2 ^ 64) = wrapInt64 value := by
  unfold wrapInt64
  rw [Int.sub_eq_add_neg, ← neg_one_mul]
  exact Int.add_mul_bmod_self_right value (-1) (2 ^ 64)

theorem wrapInt64_of_ge (low : 2 ^ 63 ≤ value) (high : value < 2 ^ 64) :
    wrapInt64 value = value - 2 ^ 64 := by
  rw [← wrapInt64_sub]
  apply wrapInt64_of_mem <;> simp only [minInt64, maxInt64] <;> omega

theorem exists_count (nonneg : 0 ≤ amount) (positive : 0 < step) :
    ∃ count : ℕ, (if amount.tmod step ≠ 0 then amount.tdiv step + 1 else amount.tdiv step) = count ∧
      amount ≤ step * count ∧ step * count < amount + step := by
  rw [Int.tmod_eq_emod_of_nonneg nonneg, Int.tdiv_eq_ediv_of_nonneg nonneg]
  have division := Int.mul_ediv_add_emod amount step
  have low := Int.emod_nonneg amount positive.ne'
  have high := Int.emod_lt_of_pos amount positive
  have quotient : 0 ≤ amount / step := Int.ediv_nonneg nonneg positive.le
  split_ifs
  · refine ⟨(amount / step + 1).toNat, by omega, ?_⟩
    rw [Int.toNat_of_nonneg (by omega), mul_add, mul_one]
    omega
  · refine ⟨(amount / step).toNat, by omega, ?_⟩
    rw [Int.toNat_of_nonneg quotient]
    omega

theorem roundUpRange_of_step {requested : Quantity} {range : CapacityRequestPolicyRange}
    {step : { step : Quantity // 0 < step }} (isStep : range.step = some step)
    (min_nonneg : 0 ≤ range.min) (above : range.min ≤ requested) (fits : requested.value < 2 ^ 63) :
    ∃ count : ℕ, roundUpRange requested range =
        ((wrapInt64 (range.min.value + Quantity.value step * count) : ℤ) : ℚ) ∧
      requested.value - range.min.value ≤ Quantity.value step * count ∧
      Quantity.value step * count < requested.value - range.min.value + Quantity.value step := by
  have minValue := Quantity.value_nonneg min_nonneg
  have ordered := sub_nonneg.mpr (Quantity.value_mono min_nonneg above)
  obtain ⟨count, counted, reaches, within⟩ := exists_count ordered (Quantity.value_pos step.2)
  refine ⟨count, ?_, reaches, within⟩
  unfold roundUpRange
  rw [if_neg (not_lt.mpr above), isStep]
  dsimp only
  rw [wrapInt64_of_nonneg ordered (by omega), ← counted]
  unfold wrapInt64
  rw [Int.add_bmod_bmod]
  split_ifs
  · rw [← Int.add_bmod_bmod, Int.mul_bmod_bmod, Int.add_bmod_bmod]
  · rfl

def wholeRange (max : Option ℤ) (min : ℤ) (step : Option { step : ℤ // 0 < step }) :
    CapacityRequestPolicyRange where
  min := min
  max := max.map (↑)
  step := step.map fun step => ⟨step.1, Int.cast_pos.mpr step.2⟩

def OnSteps (range : CapacityRequestPolicyRange) (amount : ℤ) : Prop :=
  range.min ≤ amount ∧ ∀ step ∈ range.step, ∃ count : ℕ, (amount : ℚ) = range.min + step * count

variable (policy : CapacityRequestPolicy)

/-- The amounts a policy lists or has in its range. -/
def Allows (amount : ℤ) : Prop :=
  match policy.validRange with
  | none => (amount : ℚ) ∈ policy.validValues
  | some range => OnSteps range amount ∧ ∀ most ∈ range.max, (amount : ℚ) ≤ most

/-- A default is a whole amount that the policy allows. -/
def DefaultAllowed : Prop :=
  ∀ amount ∈ policy.default, ∃ number : ℤ, amount = number ∧ Allows policy number

/-- Policies over whole amounts that fit the integers. -/
inductive Validated : CapacityRequestPolicy → Prop where
  | values {policy : CapacityRequestPolicy} {amounts : List ℤ} (noRange : policy.validRange = none)
      (isValues : policy.validValues = amounts.map (↑)) (nonempty : amounts ≠ [])
      (ascending : amounts.Pairwise (· < ·)) (fits : ∀ amount ∈ amounts, amount < 2 ^ 63)
      (default : DefaultAllowed policy) : Validated policy
  | range {policy : CapacityRequestPolicy} {max : Option ℤ} {min : ℤ}
      {step : Option { step : ℤ // 0 < step }}
      (isRange : policy.validRange = some (wholeRange max min step))
      (min_nonneg : 0 ≤ min) (min_fits : min < 2 ^ 63) (max_ge : ∀ most ∈ max, min ≤ most)
      (step_fits : ∀ size ∈ step, size.1 < 2 ^ 63)
      (default : DefaultAllowed policy) : Validated policy

/-- The amounts a request may be charged. -/
def Chargeable (requested : ℤ) : Set ℤ :=
  {amount | requested ≤ amount ∧ amount < 2 ^ 63 ∧ Allows policy amount}

/-- A charge is the least amount allowed, and refused if there is none. -/
def RoundsUp (requested : ℤ) (outcome : Option Quantity) : Prop :=
  (∀ charge, outcome = some charge → ∃ amount : ℤ, charge = amount ∧
    IsLeast (Chargeable policy requested) amount) ∧
  (outcome = none ↔ Chargeable policy requested = ∅ ∧ policy.default ≠ some (requested : ℚ))

/-- What a request is charged of a device with one dimension. -/
def chargedFor (requests : Capacities) (name : QualifiedName) (capacity : DeviceCapacity) :
    Option Quantity :=
  (computeConsumedCapacity requests ((∅ : GoMap QualifiedName DeviceCapacity).insert name capacity)).bind
    fun consumed => consumed.bind fun consumed => consumed.lookup name

/-- The first amount on the steps that covers a request fits the integers; or its
distance from the minimum does not either, and the step does not divide their
number. -/
def RoundsInRange (requested : ℤ) : Prop :=
  ∀ range ∈ policy.validRange, ∀ first,
    IsLeast {amount | requested ≤ amount ∧ OnSteps range amount} first →
      first < 2 ^ 63 ∨ 2 ^ 63 ≤ first - range.min.value ∧
        ∀ step ∈ range.step, ¬Quantity.value step ∣ 2 ^ 64

section Outcomes

variable {policy} {requested : ℤ} {outcome : Option Quantity}

theorem chargedFor_eq {requests : Capacities} {name : QualifiedName} {value charge : Quantity}
    (found : requests.lookup name = some (requested : ℚ))
    (isCharge : calculateConsumedCapacity (some (requested : ℚ)) ⟨value, some policy⟩ = charge) :
    chargedFor requests name ⟨value, some policy⟩ =
      if violatesPolicy charge (some policy) then none else some charge := by
  have single : ((∅ : GoMap QualifiedName DeviceCapacity).insert name
      ⟨value, some policy⟩).entries = [⟨name, ⟨value, some policy⟩⟩] := rfl
  have stored : ((∅ : GoMap QualifiedName DeviceCapacity).insert name
      ⟨value, some policy⟩).lookup name = some ⟨value, some policy⟩ := AList.lookup_insert _
  unfold chargedFor computeConsumedCapacity
  rw [single]
  simp only [cons_ne_nil, if_false, any_cons, any_nil, Bool.or_false, found, isCharge]
  split_ifs
  · rfl
  · simp only [bind_some, GoMap.lookup_rangeAlter, stored, found, isCharge]

theorem DefaultAllowed.allows {amount : ℤ} (allowed : DefaultAllowed policy)
    (isDefault : policy.default = some (amount : ℚ)) : Allows policy amount := by
  obtain ⟨number, same, allows⟩ := allowed _ isDefault
  rwa [Int.cast_inj.mp same]

theorem roundsUp_of_least {amount : ℤ} (least : IsLeast (Chargeable policy requested) amount) :
    RoundsUp policy requested (some amount) := by
  refine ⟨fun charge same => ⟨amount, (some.inj same).symm, least⟩, by simp, ?_⟩
  rintro ⟨nothing, -⟩
  exact absurd least.1 (nothing ▸ Set.notMem_empty amount)

theorem roundsUp_iff_of_empty (allowed : DefaultAllowed policy) (fits : requested < 2 ^ 63)
    (nothing : Chargeable policy requested = ∅) :
    RoundsUp policy requested outcome ↔ outcome = none := by
  have notDefault : policy.default ≠ some (requested : ℚ) := fun isDefault =>
    nothing.subset ⟨le_rfl, fits, allowed.allows isDefault⟩
  constructor
  · exact fun rounds => rounds.2.mpr ⟨nothing, notDefault⟩
  · rintro rfl
    exact ⟨by simp, by simp [nothing, notDefault]⟩

end Outcomes

section Values

variable {policy} {requested : ℤ}

theorem roundsUp_values {amounts : List ℤ} (noRange : policy.validRange = none)
    (isValues : policy.validValues = amounts.map (↑)) (nonempty : amounts ≠ [])
    (ascending : amounts.Pairwise (· < ·)) (bounds : ∀ amount ∈ amounts, amount < 2 ^ 63)
    (allowed : DefaultAllowed policy) (fits : requested < 2 ^ 63) {charge : Quantity}
    (isCharge : roundUpValidValues requested policy.validValues = charge) :
    RoundsUp policy requested (if violatesPolicy charge (some policy) then none else some charge) := by
  have listed : ∀ amount : ℤ, Allows policy amount ↔ amount ∈ amounts := by
    simp [Allows, noRange, isValues]
  have checked : ∀ amount : ℤ, violatesPolicy amount (some policy) ↔ amount ∉ amounts := by
    intro amount
    have := fun isDefault => (listed amount).mp (allowed.allows isDefault)
    simp only [violatesPolicy, noRange, isValues]
    split_ifs with isDefault
    · simp [this isDefault]
    · simp [nonempty]
  subst isCharge
  unfold roundUpValidValues
  rw [isValues, find?_map]
  cases first : amounts.find? ((fun amount : ℚ => decide ((requested : ℚ) ≤ amount)) ∘ (↑)) with
  | some amount =>
    have member := mem_of_find?_eq_some first
    have covers : requested ≤ amount := by simpa using find?_some first
    rw [map_some, getD_some, if_neg fun violates => (checked amount).mp violates member]
    refine roundsUp_of_least ⟨⟨covers, bounds amount member, (listed amount).mpr member⟩, ?_⟩
    rintro other ⟨otherCovers, -, isAllowed⟩
    obtain ⟨-, before, after, rfl, earlier⟩ := find?_eq_some_iff_append.mp first
    rcases mem_append.mp ((listed other).mp isAllowed) with inBefore | inAfter
    · have := earlier other inBefore
      simp [otherCovers] at this
    · rcases mem_cons.mp inAfter with rfl | later
      · exact le_rfl
      · exact ((pairwise_cons.mp (pairwise_append.mp ascending).2.1).1 other later).le
  | none =>
    have above : ∀ amount ∈ amounts, amount < requested := by
      simpa using find?_eq_none.mp first
    rw [roundsUp_iff_of_empty allowed fits]
    · exact if_pos ((checked requested).mpr fun member => lt_irrefl _ (above requested member))
    · refine Set.eq_empty_of_forall_notMem fun amount chargeable => ?_
      exact absurd (above amount ((listed amount).mp chargeable.2.2)) (not_lt.mpr chargeable.1)

end Values

section Ranges

variable {policy} {max : Option ℤ} {min requested amount first : ℤ}
  {step : Option { step : ℤ // 0 < step }}

theorem onSteps_wholeRange : OnSteps (wholeRange max min step) amount ↔
    min ≤ amount ∧ ∀ size ∈ step, ∃ count : ℕ, amount = min + size * count := by
  have whole : ∀ (size : ℤ) (count : ℕ),
      (amount : ℚ) = min + size * count ↔ amount = min + size * count := by
    intro size count
    norm_cast
  cases step <;> simp [OnSteps, wholeRange, whole]

theorem violates_wholeRange : violateValidRange amount (wholeRange max min step) ↔
    (∃ most ∈ max, most < amount) ∨ ∃ size ∈ step, ¬size.1 ∣ wrapInt64 (amount - min) := by
  cases max <;> cases step <;> simp [wholeRange, violateValidRange, Int.dvd_iff_tmod_eq_zero]

theorem exists_first (min_nonneg : 0 ≤ min) (min_fits : min < 2 ^ 63) (fits : requested < 2 ^ 63) :
    ∃ first, IsLeast {amount | requested ≤ amount ∧ OnSteps (wholeRange max min step) amount} first ∧
      roundUpRange requested (wholeRange max min step) = ((wrapInt64 first : ℤ) : ℚ) ∧
      (first < 2 ^ 63 ∨ ∃ size, step = some size ∧ size.1 ∣ first - min ∧ first < requested + size) := by
  simp only [onSteps_wholeRange]
  rcases lt_or_ge requested min with below | above
  · refine ⟨min, ⟨⟨below.le, le_rfl, fun _ _ => ⟨0, by simp⟩⟩, fun _ covering => covering.2.1⟩, ?_,
      .inl min_fits⟩
    rw [wrapInt64_of_nonneg min_nonneg min_fits]
    exact if_pos (Int.cast_lt.mpr below)
  have notBelow : (wholeRange max min step).min ≤ (requested : ℚ) := Int.cast_le.mpr above
  cases step with
  | none =>
    refine ⟨requested, ⟨⟨le_rfl, above, by simp⟩, fun _ covering => covering.1⟩, ?_, .inl fits⟩
    rw [wrapInt64_of_nonneg (by omega) fits]
    exact if_neg (not_lt.mpr notBelow)
  | some size =>
    obtain ⟨count, rounded, reaches, within⟩ := roundUpRange_of_step rfl
      (Int.cast_nonneg min_nonneg) notBelow (by simpa using fits)
    simp only [wholeRange, Quantity.value_intCast] at rounded reaches within
    refine ⟨min + size * count, ⟨⟨by omega, by omega, ?_⟩, ?_⟩, rounded,
      .inr ⟨size, rfl, ⟨count, by ring⟩, by omega⟩⟩
    · rintro _ ⟨⟩
      exact ⟨count, rfl⟩
    · rintro amount ⟨covers, -, onStep⟩
      obtain ⟨other, rfl⟩ := onStep size rfl
      -- one count less would not reach the request
      have fewest : (count : ℤ) < other + 1 := by
        refine lt_of_mul_lt_mul_left ?_ size.2.le
        rw [mul_add, mul_one]
        omega
      have := mul_le_mul_of_nonneg_left (Int.lt_add_one_iff.mp fewest) size.2.le
      omega

variable (isRange : policy.validRange = some (wholeRange max min step))
  (least : IsLeast {amount | requested ≤ amount ∧ OnSteps (wholeRange max min step) amount} first)
include isRange

theorem allows_range : Allows policy amount ↔
    OnSteps (wholeRange max min step) amount ∧ ∀ most ∈ max, amount ≤ most := by
  unfold Allows
  rw [isRange]
  cases max <;> simp [wholeRange]

theorem violates_range (notDefault : policy.default ≠ some (amount : ℚ)) :
    violatesPolicy amount (some policy) = violateValidRange amount (wholeRange max min step) := by
  unfold violatesPolicy
  dsimp only
  rw [if_neg notDefault, isRange]

include least

theorem roundsInRange_iff : RoundsInRange policy requested ↔ first < 2 ^ 63 ∨
    2 ^ 63 ≤ first - min ∧ ∀ size ∈ step, ¬size.1 ∣ 2 ^ 64 := by
  have isMin : (wholeRange max min step).min.value = min := Quantity.value_intCast min
  have sizes : (∀ size ∈ (wholeRange max min step).step, ¬Quantity.value size ∣ 2 ^ 64) ↔
      ∀ size ∈ step, ¬size.1 ∣ 2 ^ 64 := by
    cases step <;> simp [wholeRange]
  constructor
  · intro rounds
    have inRange := rounds _ isRange first least
    rwa [isMin, sizes] at inRange
  · intro good _ isOther other isLeast
    cases isRange.symm.trans isOther
    rwa [isLeast.unique least, isMin, sizes]

theorem chargeable_empty (beyond : 2 ^ 63 ≤ first ∨ ∃ most ∈ max, most < first) :
    Chargeable policy requested = ∅ := by
  refine Set.eq_empty_of_forall_notMem fun amount ⟨covers, fits, allows⟩ => ?_
  obtain ⟨onSteps, below⟩ := (allows_range isRange).mp allows
  have := least.2 ⟨covers, onSteps⟩
  rcases beyond with large | ⟨most, isMost, less⟩
  · omega
  · have := below most isMost
    omega

theorem roundsUp_first (min_nonneg : 0 ≤ min) (allowed : DefaultAllowed policy)
    (fits : requested < 2 ^ 63) (small : first < 2 ^ 63) : RoundsUp policy requested
      (if violatesPolicy first (some policy) then none else some (first : ℚ)) := by
  by_cases beyond : ∃ most ∈ max, most < first
  · rw [roundsUp_iff_of_empty allowed fits (chargeable_empty isRange least (.inr beyond)),
      violates_range isRange, if_pos (violates_wholeRange.mpr (.inl beyond))]
    intro isDefault
    obtain ⟨most, isMost, less⟩ := beyond
    have := ((allows_range isRange).mp (allowed.allows isDefault)).2 most isMost
    omega
  · push Not at beyond
    obtain ⟨above, onStep⟩ := onSteps_wholeRange.mp least.1.2
    have valid : ¬violatesPolicy first (some policy) := by
      by_cases isDefault : policy.default = some (first : ℚ)
      · simp [violatesPolicy, isDefault]
      rw [violates_range isRange isDefault, violates_wholeRange]
      rintro (⟨most, isMost, less⟩ | ⟨size, isSize, notDivides⟩)
      · have := beyond most isMost
        omega
      · obtain ⟨count, isCount⟩ := onStep size isSize
        rw [wrapInt64_of_nonneg (by omega) (by omega), isCount, add_sub_cancel_left] at notDivides
        exact notDivides ⟨count, rfl⟩
    rw [if_neg valid]
    exact roundsUp_of_least ⟨⟨least.1.1, small, (allows_range isRange).mpr ⟨least.1.2, beyond⟩⟩,
      fun amount chargeable =>
        least.2 ⟨chargeable.1, ((allows_range isRange).mp chargeable.2.2).1⟩⟩

/-- Beyond the integers the amount charged is negative: the check only sees whether it
is on the steps. -/
theorem violates_wrapped {size : { step : ℤ // 0 < step }} (isStep : step = some size)
    (divides : size.1 ∣ first - min) (max_ge : ∀ most ∈ max, min ≤ most)
    (allowed : DefaultAllowed policy) (min_nonneg : 0 ≤ min) (large : 2 ^ 63 ≤ first)
    (small : first < 2 ^ 64) : violatesPolicy (wrapInt64 first : ℤ) (some policy) ↔
      2 ^ 63 ≤ first - min ∧ ¬size.1 ∣ 2 ^ 64 := by
  rw [wrapInt64_of_ge large small, violates_range isRange, violates_wholeRange, sub_right_comm,
    wrapInt64_sub, or_iff_right]
  · simp only [isStep, mem_def, some.injEq, exists_eq_left']
    rcases lt_or_ge (first - min) (2 ^ 63) with few | many
    · have := (onSteps_wholeRange.mp least.1.2).1
      rw [wrapInt64_of_nonneg (by omega) few]
      exact iff_of_false (not_not.mpr divides) fun beyond => by omega
    · rw [wrapInt64_of_ge many (by omega), dvd_sub_right divides, and_iff_right many]
  · rintro ⟨most, isMost, less⟩
    have := max_ge most isMost
    omega
  · intro isDefault
    have := (onSteps_wholeRange.mp ((allows_range isRange).mp (allowed.allows isDefault)).1).1
    omega

end Ranges

/-- The amount charged for a request is the least that the policy allows, and it is
refused if there is none, exactly when the rounding does not wrap around unnoticed. -/
theorem computeConsumedCapacity_rounds_iff {policy : CapacityRequestPolicy}
    (validated : Validated policy) (requests : Capacities) (name : QualifiedName) (value : Quantity)
    (requested : ℤ) (found : requests.lookup name = some (requested : ℚ))
    (fits : requested < 2 ^ 63) :
    RoundsUp policy requested (chargedFor requests name ⟨value, some policy⟩) ↔
      RoundsInRange policy requested := by
  rw [chargedFor_eq found rfl]
  unfold calculateConsumedCapacity
  cases validated with
  | values noRange isValues nonempty ascending bounds allowed =>
    simp only [noRange, RoundsInRange, not_mem_none, false_imp_iff, implies_true, iff_true]
    exact roundsUp_values noRange isValues nonempty ascending bounds allowed fits rfl
  | @range max min step isRange min_nonneg min_fits max_ge step_fits allowed =>
    obtain ⟨first, least, rounded, steps⟩ := @exists_first max min requested step min_nonneg min_fits fits
    simp only [isRange, rounded]
    rw [roundsInRange_iff isRange least]
    rcases lt_or_ge first (2 ^ 63) with small | large
    · have above := (onSteps_wholeRange.mp least.1.2).1
      rw [wrapInt64_of_nonneg (by omega) small]
      exact iff_of_true (roundsUp_first isRange least min_nonneg allowed fits small) (.inl small)
    · obtain ⟨size, isSize, divides, within⟩ := steps.resolve_left (not_lt.mpr large)
      have := step_fits size isSize
      rw [roundsUp_iff_of_empty allowed fits (chargeable_empty isRange least (.inl large)),
        or_iff_right (not_lt.mpr large), ite_eq_left_iff]
      simp only [reduceCtorEq, imp_false, not_not, isSize, mem_def, some.injEq, forall_eq']
      exact violates_wrapped isRange least isSize divides max_ge allowed min_nonneg large (by omega)

/-- Steps of four: the largest integer rounds up past the integers. -/
def steppedPolicy : CapacityRequestPolicy where
  validRange := some (wholeRange none 1 (some ⟨4, by decide⟩))

theorem largest_request_charged_negative :
    chargedFor ((∅ : Capacities).insert "memory" (2 ^ 63 - 1)) "memory"
      ⟨2 ^ 63 - 1, some steppedPolicy⟩ = some (-2 ^ 63 + 1) := by
  decide +kernel

theorem steppedPolicy_validated : Validated steppedPolicy :=
  .range rfl (by decide) (by decide) (by simp) (by simp) (by simp [DefaultAllowed, steppedPolicy])

theorem modest_request_rounds : (2 : ℤ) < 2 ^ 63 ∧ RoundsUp steppedPolicy 2
    (chargedFor ((∅ : Capacities).insert "memory" ((2 : ℤ) : ℚ)) "memory" ⟨16, some steppedPolicy⟩) := by
  refine ⟨by decide, (computeConsumedCapacity_rounds_iff steppedPolicy_validated _ "memory" 16 2
    (AList.lookup_insert _) (by decide)).mpr ?_⟩
  rintro _ ⟨⟩ first least
  have := least.2 (show (5 : ℤ) ∈ _ from ⟨by decide, onSteps_wholeRange.mpr ⟨by decide, by
    rintro _ ⟨⟩
    exact ⟨1, by decide⟩⟩⟩)
  omega

end Kraftsman.DynamicResources
