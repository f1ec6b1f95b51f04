import Kraftsman.Scheduling.Requirements

/-!
Contract: what collapsing many expressions on a label into one requirement keeps.

Owns: the relation between a requirement and the expressions it was merged from,
and its preservation.
Does not own: the meaning of the expressions.
-/

namespace Kraftsman.Scheduling

open Apis Data Data.Strconv Requirement Set

/-- The conjunction of its parts. A complement keeps their bounds and the excluded
values within them; everything else is a concrete set without bounds. -/
structure Merges (r : Requirement) (parts : Set Requirement) : Prop where
  key : ∀ part ∈ parts, part.key = r.key
  nonempty : parts.Nonempty
  has : ∀ value, r.has value = true ↔ ∀ part ∈ parts, part.has value = true
  concrete : r.complement = false → r.gte = none ∧ r.lte = none
  complement_parts : r.complement = true → ∀ part ∈ parts, part.complement = true
  complement_of_has :
    (∀ part ∈ parts, part.complement = true) → (∃ value, r.has value = true) → r.complement = true
  complement_of_unbounded :
    (∀ part ∈ parts, part.complement = true ∧ part.gte = none ∧ part.lte = none) →
      r.complement = true ∧ r.gte = none ∧ r.lte = none
  excluded : r.complement = true → ∀ value,
    value ∈ r.values ↔
      (∃ part ∈ parts, value ∈ part.values) ∧ withinBounds value r.gte r.lte = true
  bounds : r.complement = true → ∀ value,
    withinBounds value r.gte r.lte = true ↔
      ∀ part ∈ parts, withinBounds value part.gte part.lte = true
  consistent : boundsConflict r.gte r.lte = false
  lowRange : ∀ low, r.gte = some low → minInt64 ≤ low ∧ low ≤ maxInt64
  highRange : ∀ high, r.lte = some high → minInt64 ≤ high ∧ high ≤ maxInt64

private theorem wrapInt64_range (value : Int) :
    minInt64 ≤ wrapInt64 value ∧ wrapInt64 value ≤ maxInt64 := by
  unfold wrapInt64 minInt64 maxInt64
  have low := @Int.le_bmod value (2 ^ 64) (by norm_num)
  have high := @Int.bmod_lt value (2 ^ 64) (by norm_num)
  omega

variable {r : Requirement} {parts otherParts : Set Requirement} {tables : LabelTables}
variable {requirements other : Requirements}

theorem Merges.self (concrete : r.complement = false → r.gte = none ∧ r.lte = none)
    (within : r.complement → ∀ value ∈ r.values, withinBounds value r.gte r.lte)
    (consistent : boundsConflict r.gte r.lte = false)
    (lowRange : ∀ low, r.gte = some low → minInt64 ≤ low ∧ low ≤ maxInt64)
    (highRange : ∀ high, r.lte = some high → minInt64 ≤ high ∧ high ≤ maxInt64) :
    Merges r {r} where
  key := by simp
  nonempty := ⟨r, rfl⟩
  has := by simp
  concrete := concrete
  complement_parts := by simp
  complement_of_has := fun parts _ => parts r rfl
  complement_of_unbounded := by simp
  excluded complement value := by simpa using within complement value
  bounds := by simp
  consistent := consistent
  lowRange := lowRange
  highRange := highRange

section

variable (tables) (key : String) (operator : NodeSelectorOperator)

theorem Merges.newRequirementWithFlexibility (minValues : Option Int) (values : List String) :
    Merges (.newRequirementWithFlexibility tables key operator minValues values)
      {.newRequirementWithFlexibility tables key operator minValues values} := by
  unfold Requirement.newRequirementWithFlexibility
  cases operator with
  | opGt =>
    dsimp only
    split_ifs with largest
    · apply Merges.self <;> simp [doesNotExist, boundsConflict]
    · apply Merges.self <;> simp [boundsConflict]
      have operandRange := operand_range
        (values.map (tables.normalizeValue (tables.normalizeKey key)))
      omega
  | opLt => apply Merges.self <;> simp [boundsConflict, wrapInt64_range]
  | opGte | opLte => apply Merges.self <;> simp [boundsConflict, operand_range]
  | _ => apply Merges.self <;> simp [boundsConflict]

theorem Merges.newRequirement (values : List String) :
    Merges (.newRequirement tables key operator values)
      {.newRequirement tables key operator values} :=
  .newRequirementWithFlexibility tables key operator none values

end

private theorem maxIntPtr_eq (left right : Option Int) :
    maxIntPtr left right = left ∨ maxIntPtr left right = right := by
  unfold maxIntPtr
  grind

private theorem minIntPtr_eq (left right : Option Int) :
    minIntPtr left right = left ∨ minIntPtr left right = right := by
  unfold minIntPtr
  grind

namespace Requirement

section Intersection

variable (tables) (r s : Requirement)

theorem complement_intersection : (r.intersection tables s).complement =
      (r.complement && s.complement &&
        !boundsConflict (maxIntPtr r.gte s.gte) (minIntPtr r.lte s.lte)) := by
  unfold intersection
  cases conflict : boundsConflict (maxIntPtr r.gte s.gte) (minIntPtr r.lte s.lte) <;>
    simp [doesNotExist, conflict]

theorem bounds_intersection_of_concrete (concrete : (r.intersection tables s).complement = false) :
    (r.intersection tables s).gte = none ∧ (r.intersection tables s).lte = none := by
  unfold intersection at concrete ⊢
  cases conflict : boundsConflict (maxIntPtr r.gte s.gte) (minIntPtr r.lte s.lte) with
  | true => simp [doesNotExist, conflict]
  | false =>
    simp only [conflict, if_false, Bool.false_eq_true] at concrete ⊢
    simp only [concrete, if_false, Bool.false_eq_true, and_self]

variable {r s}

theorem intersection_of_complement (complement : (r.intersection tables s).complement) :
    (r.complement ∧ s.complement) ∧
      boundsConflict (maxIntPtr r.gte s.gte) (minIntPtr r.lte s.lte) = false ∧
      (r.intersection tables s).gte = maxIntPtr r.gte s.gte ∧
      (r.intersection tables s).lte = minIntPtr r.lte s.lte ∧
      (r.intersection tables s).values = (r.values ∪ s.values).filter fun value =>
        withinBounds value (maxIntPtr r.gte s.gte) (minIntPtr r.lte s.lte) := by
  rw [complement_intersection] at complement
  simp only [Bool.and_eq_true, Bool.not_eq_true'] at complement
  obtain ⟨⟨left, right⟩, consistent⟩ := complement
  refine ⟨⟨left, right⟩, consistent, ?_, ?_, ?_⟩ <;>
    simp [intersection, consistent, left, right]

end Intersection

end Requirement

variable {others : Set Requirement} {added : List Requirement}

theorem Merges.intersection (tables : LabelTables) {s : Requirement}
    (left : Merges r parts) (right : Merges s others) (sameKey : s.key = r.key)
    (normalized : tables.normalizeKey r.key = r.key) :
    Merges (r.intersection tables s) (parts ∪ others) := by
  have describe := @Requirement.intersection_of_complement tables r s
  have concrete := bounds_intersection_of_concrete tables r s
  refine
    { key := ?_, nonempty := left.nonempty.inl, has := ?_, concrete := concrete,
      complement_parts := ?_, complement_of_has := ?_, complement_of_unbounded := ?_,
      excluded := ?_, bounds := ?_, consistent := ?_, lowRange := ?_, highRange := ?_ }
  · have ownKey : (r.intersection tables s).key = r.key := by
      unfold Requirement.intersection
      dsimp only
      split
      · exact normalized
      · rfl
    rintro part (member | member)
    · rw [left.key part member, ownKey]
    · rw [right.key part member, sameKey, ownKey]
  · intro value
    rw [has_intersection, left.has, right.has]
    simp only [mem_union, or_imp, forall_and]
  · intro complement part member
    obtain ⟨⟨inLeft, inRight⟩, -⟩ := describe complement
    rcases member with member | member
    · exact left.complement_parts inLeft part member
    · exact right.complement_parts inRight part member
  · rintro all ⟨value, allowed⟩
    obtain ⟨inLeft, inRight⟩ := (has_intersection tables r s value).mp allowed
    -- bounds that conflict would leave no value
    have consistent : boundsConflict (maxIntPtr r.gte s.gte) (minIntPtr r.lte s.lte) = false := by
      by_contra conflict
      have outside := @withinBounds_of_conflict value _ _ (by simpa using conflict)
      rw [withinBounds_merge.mpr ⟨(has_iff.mp inLeft).2, (has_iff.mp inRight).2⟩] at outside
      cases outside
    rw [complement_intersection, consistent,
      left.complement_of_has (fun part member => all part (.inl member)) ⟨value, inLeft⟩,
      right.complement_of_has (fun part member => all part (.inr member)) ⟨value, inRight⟩]
    rfl
  · intro unbounded
    obtain ⟨complement, noLow, noHigh⟩ :=
      left.complement_of_unbounded fun part member => unbounded part (.inl member)
    obtain ⟨complement', noLow', noHigh'⟩ :=
      right.complement_of_unbounded fun part member => unbounded part (.inr member)
    simp [Requirement.intersection, boundsConflict, complement, complement', noLow, noHigh, noLow',
      noHigh', maxIntPtr, minIntPtr]
  · intro complement value
    obtain ⟨⟨inLeft, inRight⟩, -, gte, lte, values⟩ := describe complement
    simp only [values, gte, lte, Finset.mem_filter, Finset.mem_union, withinBounds_merge,
      left.excluded inLeft, right.excluded inRight, mem_union]
    grind
  · intro complement value
    obtain ⟨⟨inLeft, inRight⟩, -, gte, lte, -⟩ := describe complement
    simp only [gte, lte, withinBounds_merge, left.bounds inLeft, right.bounds inRight,
      mem_union, or_imp, forall_and]
  · cases complement : (r.intersection tables s).complement with
    | false =>
      rw [(concrete complement).1]
      rfl
    | true =>
      obtain ⟨-, consistent, gte, lte, -⟩ := describe complement
      rw [gte, lte, consistent]
  · intro low found
    cases complement : (r.intersection tables s).complement with
    | false => cases (concrete complement).1.symm.trans found
    | true =>
      obtain ⟨-, -, gte, -⟩ := describe complement
      rcases maxIntPtr_eq r.gte s.gte with same | same <;> rw [gte, same] at found
      · exact left.lowRange low found
      · exact right.lowRange low found
  · intro high found
    cases complement : (r.intersection tables s).complement with
    | false => cases (concrete complement).2.symm.trans found
    | true =>
      obtain ⟨-, -, -, lte, -⟩ := describe complement
      rcases minIntPtr_eq r.lte s.lte with same | same <;> rw [lte, same] at found
      · exact left.highRange high found
      · exact right.highRange high found

theorem Merges.itself (merges : Merges r parts) : Merges r {r} :=
  .self merges.concrete (fun complement value excluded => ((merges.excluded complement value).mp
    excluded).2) merges.consistent merges.lowRange merges.highRange

theorem Merges.exists_number (merges : Merges r parts) :
    ∃ number, minInt64 ≤ number ∧ number ≤ maxInt64 ∧
      (∀ low, r.gte = some low → low ≤ number) ∧ (∀ high, r.lte = some high → number ≤ high) := by
  have consistent := merges.consistent
  cases gte : r.gte with
  | some low =>
    obtain ⟨lowLow, lowHigh⟩ := merges.lowRange low gte
    refine ⟨low, lowLow, lowHigh, by simp, ?_⟩
    intro high lte
    simpa [boundsConflict, gte, lte] using consistent
  | none =>
    cases lte : r.lte with
    | some high =>
      obtain ⟨highLow, highHigh⟩ := merges.highRange high lte
      exact ⟨high, highLow, highHigh, by simp, by simp⟩
    | none => exact ⟨0, by decide, by decide, by simp, by simp⟩

theorem Merges.concrete_of_part (merges : Merges r parts) {part : Requirement}
    (member : part ∈ parts) (concrete : part.complement = false) : r.complement = false := by
  by_contra complement
  rw [merges.complement_parts (by simpa using complement) part member] at concrete
  cases concrete

theorem Merges.has_iff_mem (merges : Merges r parts) (concrete : r.complement = false)
    {value : String} : r.has value ↔ value ∈ r.values := by
  obtain ⟨noLow, noHigh⟩ := merges.concrete concrete
  simp [has_iff, concrete, noLow, noHigh]

theorem values_eq_empty_of_positive (positive : r.negative = false)
    (complement : r.complement) : r.values = ∅ := by
  by_contra excludes
  rw [negative_iff.mpr (by simp [complement, excludes])] at positive
  cases positive

theorem Merges.allowed_cases (merges : Merges r parts) (positive : r.negative = false) :
    (r.complement = false ∧ ∃ value, r.has value) ∨
      ∃ number, minInt64 ≤ number ∧ number ≤ maxInt64 ∧
        ∀ text, parseInt64 text = some number → r.has text := by
  cases complement : r.complement with
  | false =>
    obtain ⟨value, listed⟩ : r.values.Nonempty := by
      rw [Finset.nonempty_iff_ne_empty]
      intro empty
      rw [negative_iff.mpr (by simp [complement, empty])] at positive
      cases positive
    exact .inl ⟨rfl, value, (merges.has_iff_mem complement).mpr listed⟩
  | true =>
    have empty := values_eq_empty_of_positive positive complement
    obtain ⟨number, low, high, above, below⟩ := merges.exists_number
    refine .inr ⟨number, low, high, fun text parsed => ?_⟩
    rw [has_iff, withinBounds_iff]
    exact ⟨by simp [empty, complement], .inr ⟨number, parsed, above, below⟩⟩

theorem Merges.exists_has (merges : Merges r parts) (positive : r.negative = false) :
    ∃ value, r.has value := by
  rcases merges.allowed_cases positive with ⟨-, listed⟩ | ⟨number, low, high, allowed⟩
  · exact listed
  · obtain ⟨text, -, parsed⟩ := exists_text_notMem ∅ low high
    exact ⟨text, allowed text parsed⟩

/-- Requirements that stand, key by key, for their parts. -/
structure MergesAll (tables : LabelTables) (requirements : Requirements)
    (parts : Set Requirement) : Prop where
  normalized : ∀ part ∈ parts, tables.normalizeKey part.key = part.key
  absent : ∀ key, requirements.lookup key = none → ∀ part ∈ parts, part.key ≠ key
  merged : ∀ key r, requirements.lookup key = some r →
    r.key = key ∧ Merges r {part ∈ parts | part.key = key}

theorem MergesAll.empty (tables : LabelTables) : MergesAll tables ∅ ∅ where
  normalized := by simp
  absent := by simp
  merged := by simp

section Parts

variable {own key : String}

theorem sep_key_union_of_ne (otherKeys : ∀ part ∈ others, part.key = own) (different : key ≠ own) :
    {part ∈ parts ∪ others | part.key = key} = {part ∈ parts | part.key = key} := by
  ext part
  constructor
  · rintro ⟨member | member, keyEq⟩
    · exact ⟨member, keyEq⟩
    · exact absurd ((otherKeys part member).symm.trans keyEq).symm different
  · rintro ⟨member, keyEq⟩
    exact ⟨.inl member, keyEq⟩

theorem sep_key_union (otherKeys : ∀ part ∈ others, part.key = own) :
    {part ∈ parts ∪ others | part.key = own} = others ∪ {part ∈ parts | part.key = own} := by
  ext part
  constructor
  · rintro ⟨member | member, keyEq⟩
    · exact .inr ⟨member, keyEq⟩
    · exact .inl member
  · rintro (member | ⟨member, keyEq⟩)
    · exact ⟨.inr member, otherKeys part member⟩
    · exact ⟨.inl member, keyEq⟩

end Parts

theorem MergesAll.noParts (all : MergesAll tables requirements parts) {key : String}
    (missing : requirements.lookup key = none) : {part ∈ parts | part.key = key} = ∅ :=
  sep_eq_empty_iff_mem_false.mpr (all.absent key missing)

theorem MergesAll.addOne (all : MergesAll tables requirements parts) (merges : Merges r others)
    (normalized : tables.normalizeKey r.key = r.key) :
    MergesAll tables (requirements.addOne tables r) (parts ∪ others) := by
  have otherKeys : ∀ part ∈ others, part.key = r.key := merges.key
  have splitAt : {part ∈ parts ∪ others | part.key = r.key} =
      others ∪ {part ∈ parts | part.key = r.key} := sep_key_union otherKeys
  -- whatever is stored under the new requirement's key merges both sides' parts
  have stored : ∃ merged : Requirement, requirements.addOne tables r =
      requirements.insert r.key merged ∧ merged.key = r.key ∧
        Merges merged {part ∈ parts ∪ others | part.key = r.key} := by
    unfold Requirements.addOne
    cases found : requirements.lookup r.key with
    | none =>
      refine ⟨r, rfl, rfl, ?_⟩
      rw [splitAt, all.noParts found, union_empty]
      exact merges
    | some existing =>
      obtain ⟨existingKey, existingMerges⟩ := all.merged r.key existing found
      have merged := merges.intersection tables existingMerges existingKey normalized
      have mergedKey : (r.intersection tables existing).key = r.key := by
        obtain ⟨part, member⟩ := merges.nonempty
        rw [← merged.key part (.inl member)]
        exact otherKeys part member
      refine ⟨r.intersection tables existing, ?_, mergedKey, ?_⟩
      · simp only [mergedKey]
      · rw [splitAt]
        exact merged
  obtain ⟨merged, addEq, mergedKey, mergedMerges⟩ := stored
  rw [addEq]
  refine ⟨?_, ?_, ?_⟩
  · rintro part (member | member)
    · exact all.normalized part member
    · rw [otherKeys part member, normalized]
  · intro key missing
    rw [GoMap.lookup_insert_eq] at missing
    split_ifs at missing with same
    rintro part (member | member)
    · exact all.absent key missing part member
    · rw [otherKeys part member]
      exact fun equal => same equal.symm
  · intro key found lookedUp
    rw [GoMap.lookup_insert_eq] at lookedUp
    split_ifs at lookedUp with same
    · cases lookedUp
      subst same
      exact ⟨mergedKey, mergedMerges⟩
    · rw [sep_key_union_of_ne otherKeys same]
      exact all.merged key found lookedUp

theorem foldl_union {A S B : Type*} {Holds : S → Set B → Prop} {step : S → A → S}
    {partsOf : A → Set B} {items : List A} {state : S} {parts : Set B} (start : Holds state parts)
    (kept : ∀ item ∈ items, ∀ {state parts}, Holds state parts →
      Holds (step state item) (parts ∪ partsOf item)) :
    Holds (items.foldl step state) (parts ∪ {part | ∃ item ∈ items, part ∈ partsOf item}) := by
  induction items generalizing state parts with
  | nil => simpa using start
  | cons item rest ih =>
    have tail := ih (kept item (by simp) start) fun other member => kept other (by simp [member])
    have sameParts : parts ∪ partsOf item ∪ {part | ∃ other ∈ rest, part ∈ partsOf other} =
        parts ∪ {part | ∃ other ∈ item :: rest, part ∈ partsOf other} := by
      ext part
      simp only [mem_union, mem_ofPred_eq, List.exists_mem_cons_iff, or_assoc]
    exact sameParts ▸ tail

theorem MergesAll.add_merged (all : MergesAll tables requirements parts)
    (partsOf : Requirement → Set Requirement) (added : List Requirement)
    (merges : ∀ r ∈ added, Merges r (partsOf r))
    (normalized : ∀ r ∈ added, tables.normalizeKey r.key = r.key) :
    MergesAll tables (requirements.add tables added)
      (parts ∪ {part | ∃ r ∈ added, part ∈ partsOf r}) :=
  foldl_union all fun r member _ _ all => all.addOne (merges r member) (normalized r member)

theorem MergesAll.add {tables : LabelTables} {requirements : Requirements}
    {parts : Set Requirement} (all : MergesAll tables requirements parts)
    (added : List Requirement) (fresh : ∀ r ∈ added, Merges r {r})
    (normalized : ∀ r ∈ added, tables.normalizeKey r.key = r.key) :
    MergesAll tables (requirements.add tables added) (parts ∪ {r | r ∈ added}) := by
  have merged := all.add_merged (fun r => {r}) added fresh normalized
  simpa using merged

theorem MergesAll.newRequirements (tables : LabelTables) (added : List Requirement)
    (fresh : ∀ r ∈ added, Merges r {r})
    (normalized : ∀ r ∈ added, tables.normalizeKey r.key = r.key) :
    MergesAll tables (.newRequirements tables added) {r | r ∈ added} := by
  have merged := (MergesAll.empty tables).add added fresh normalized
  rwa [empty_union] at merged

theorem MergesAll.parts_eq (otherAll : MergesAll tables other otherParts)
    (values : added.Perm other.values) :
    {part | ∃ r ∈ added, part ∈ {part ∈ otherParts | part.key = r.key}} = otherParts := by
  ext part
  constructor
  · rintro ⟨r, -, member, -⟩
    exact member
  · intro member
    cases found : other.lookup part.key with
    | none => exact absurd rfl (otherAll.absent part.key found part member)
    | some r =>
      have ownKey : r.key = part.key := (otherAll.merged part.key r found).1
      have inValues : r ∈ other.values := GoMap.mem_values_iff.mpr ⟨part.key, found⟩
      exact ⟨r, values.mem_iff.mpr inValues, member, ownKey.symm⟩

theorem MergesAll.merges_of_mem_values (otherAll : MergesAll tables other otherParts)
    (member : r ∈ other.values) :
    Merges r {part ∈ otherParts | part.key = r.key} ∧ tables.normalizeKey r.key = r.key := by
  obtain ⟨key, found⟩ := GoMap.mem_values_iff.mp member
  obtain ⟨rfl, merges⟩ := otherAll.merged key r found
  obtain ⟨part, inParts, partKey⟩ := merges.nonempty
  exact ⟨merges, partKey ▸ otherAll.normalized part inParts⟩

section

variable (all : MergesAll tables requirements parts) (otherAll : MergesAll tables other otherParts)
include all otherAll

theorem MergesAll.add_perm_values (values : added.Perm other.values) :
    MergesAll tables (requirements.add tables added) (parts ∪ otherParts) := by
  have merged := all.add_merged (fun r => {part ∈ otherParts | part.key = r.key}) added
    (fun r member => (otherAll.merges_of_mem_values (values.mem_iff.mp member)).1)
    fun r member => (otherAll.merges_of_mem_values (values.mem_iff.mp member)).2
  rwa [otherAll.parts_eq values] at merged

theorem MergesAll.add_values :
    MergesAll tables (requirements.add tables other.values) (parts ∪ otherParts) :=
  all.add_perm_values otherAll (List.Perm.refl _)

end

end Kraftsman.Scheduling
