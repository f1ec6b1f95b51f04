import Kraftsman.Scheduling.Admission
import Kraftsman.Scheduling.RequirementAlgebra

/-!
Contract: requirements written as node selector expressions and read back.

Owns: the expressions of a requirement and of a set of them, and which
requirements survive the round trip.
Does not own: which requirements a NodeClaim is written with.
-/

namespace Kraftsman.Scheduling

open Apis Data Data.Strconv Requirements Requirement List

namespace Requirement

theorem sort_not_isEmpty {values : Finset String} (nonempty : values ≠ ∅) :
    (!(sortedStrings values).isEmpty) := by
  simpa [← toFinset_eq_empty_iff] using nonempty

/-- The expression for a requirement. Bounds come first, and what a bounded one
excludes is not written. -/
def nodeSelectorRequirement (r : Requirement) : NodeSelectorRequirementWithMinValues :=
  match r.gte, r.lte with
  | some gte, _ => ⟨⟨r.key, .opGte, [formatInt gte], rfl⟩, r.minValues⟩
  | none, some lte => ⟨⟨r.key, .opLte, [formatInt lte], rfl⟩, r.minValues⟩
  | none, none =>
    if r.complement then
      if nonempty : r.values ≠ ∅ then
        ⟨⟨r.key, .opNotIn, sortedStrings r.values, sort_not_isEmpty nonempty⟩, r.minValues⟩
      else ⟨⟨r.key, .opExists, [], rfl⟩, r.minValues⟩
    else
      if nonempty : r.values ≠ ∅ then
        ⟨⟨r.key, .opIn, sortedStrings r.values, sort_not_isEmpty nonempty⟩, r.minValues⟩
      else ⟨⟨r.key, .opDoesNotExist, [], rfl⟩, r.minValues⟩

def boundedNodeSelectorRequirements (r : Requirement) (gte lte : Int) :
    List NodeSelectorRequirementWithMinValues :=
  [⟨⟨r.key, .opGte, [formatInt gte], rfl⟩, r.minValues⟩,
    ⟨⟨r.key, .opLte, [formatInt lte], rfl⟩, r.minValues⟩]

def expressions (r : Requirement) : List NodeSelectorRequirementWithMinValues :=
  match r.gte, r.lte with
  | some gte, some lte => r.boundedNodeSelectorRequirements gte lte
  | _, _ => [r.nodeSelectorRequirement]

end Requirement

def Requirements.nodeSelectorRequirements (visited : List Requirement) :
    List NodeSelectorRequirementWithMinValues :=
  visited.flatMap Requirement.expressions

def decoded (tables : LabelTables) (expression : NodeSelectorRequirementWithMinValues) :
    Requirement :=
  .newRequirementWithFlexibility tables expression.key expression.operator expression.minValues
    expression.values

namespace Requirement

variable {tables : LabelTables} {r : Requirement}

def readBack (tables : LabelTables) (key : String) (bound : Int) : Int :=
  (atoi (tables.normalizeValue key (formatInt bound))).1

/-- One with a bound excludes no value, and the provider's translation leaves what
is written alone. -/
structure Expressible (tables : LabelTables) (r : Requirement) : Prop where
  exclusions : r.gte.isSome ∨ r.lte.isSome → r.values = ∅
  values : r.values.image (tables.normalizeValue r.key) = r.values
  gte : ∀ low, r.gte = some low → readBack tables r.key low = low
  lte : ∀ high, r.lte = some high → readBack tables r.key high = high

variable {expression : NodeSelectorRequirementWithMinValues}

theorem expressions_own (member : expression ∈ r.expressions) :
    expression.key = r.key ∧ expression.minValues = r.minValues := by
  unfold expressions boundedNodeSelectorRequirements nodeSelectorRequirement at member
  cases gte : r.gte <;> cases lte : r.lte <;>
    simp only [gte, lte, mem_cons, not_mem_nil, or_false] at member
  · split_ifs at member <;> subst member <;> exact ⟨rfl, rfl⟩
  · subst member
    exact ⟨rfl, rfl⟩
  · subst member
    exact ⟨rfl, rfl⟩
  · rcases member with rfl | rfl <;> exact ⟨rfl, rfl⟩

theorem expressions_ne_nil (r : Requirement) : r.expressions ≠ [] := by
  unfold expressions boundedNodeSelectorRequirements
  split <;> simp

def Permits (tables : LabelTables) (r : Requirement) (value : String) : Prop :=
  ∀ expression ∈ r.expressions, (decoded tables expression).has value = true

section Unbounded

variable (noLow : r.gte = none) (noHigh : r.lte = none)

include noLow noHigh

theorem permits_iff_of_unbounded (normalized : tables.normalizeKey r.key = r.key) (value : String) :
    r.Permits tables value ↔
      (value ∈ r.values.image (tables.normalizeValue r.key) ↔ r.complement = false) := by
  have sorted : ((sortedStrings r.values).map (tables.normalizeValue r.key)).toFinset =
      r.values.image (tables.normalizeValue r.key) := by
    ext text
    simp
  unfold Permits expressions nodeSelectorRequirement
  cases complement : r.complement <;> by_cases empty : r.values = ∅ <;>
    simp [noLow, noHigh, empty, decoded, newRequirementWithFlexibility, has_iff, normalized,
      ← sorted]

theorem permits_iff_has_of_unbounded (normalized : tables.normalizeKey r.key = r.key) :
    (∀ value, r.Permits tables value ↔ r.has value) ↔
      r.values.image (tables.normalizeValue r.key) = r.values := by
  simp only [permits_iff_of_unbounded noLow noHigh normalized, has_iff, noLow, noHigh,
    withinBounds_none, and_true]
  constructor
  · intro same
    ext value
    have own := same value
    cases complement : r.complement with
    | false => simpa only [complement, iff_true] using own
    | true =>
      simp only [complement, Bool.true_eq_false, iff_false] at own
      exact not_iff_not.mp own
  · intro same value
    rw [same]

end Unbounded

theorem permits_iff_of_bounded (bounded : r.gte.isSome ∨ r.lte.isSome)
    (normalized : tables.normalizeKey r.key = r.key) (value : String) :
    r.Permits tables value ↔
      withinBounds value (r.gte.map (readBack tables r.key)) (r.lte.map (readBack tables r.key)) =
        true := by
  unfold Permits expressions boundedNodeSelectorRequirements nodeSelectorRequirement
  cases gte : r.gte with
  | none =>
    cases lte : r.lte with
    | none => simp [gte, lte] at bounded
    | some high =>
      simp [decoded, newRequirementWithFlexibility, has_iff, normalized, operand, readBack]
  | some low =>
    cases lte : r.lte with
    | none =>
      simp [decoded, newRequirementWithFlexibility, has_iff, normalized, operand, readBack]
    | some high =>
      have merged := @withinBounds_merge value (some (readBack tables r.key low)) none none
        (some (readBack tables r.key high))
      simp only [maxIntPtr, minIntPtr] at merged
      simp [decoded, newRequirementWithFlexibility, has_iff, normalized, operand, merged]
      simp [readBack]

theorem withinBounds_congr {left right : String} {number : Int} {gte lte : Option Int}
    (leftParsed : parseInt64 left = some number) (rightParsed : parseInt64 right = some number) :
    withinBounds left gte lte ↔ withinBounds right gte lte := by
  rw [withinBounds_iff, withinBounds_iff, leftParsed, rightParsed]

def Between (gte lte : Option Int) (number : Int) : Prop :=
  (∀ low, gte = some low → low ≤ number) ∧ (∀ high, lte = some high → number ≤ high)

def IsInt64 (number : Int) : Prop := minInt64 ≤ number ∧ number ≤ maxInt64

section Bounds

variable {gte lte gte' lte' : Option Int} {middle : Int}

section

variable (between : Between gte lte middle)
  (wider : ∀ number, IsInt64 number → Between gte lte number → Between gte' lte' number)
include between wider

theorem low_le_of_between {low low' : Int} (inRange : IsInt64 low) (isLow : gte = some low)
    (isLow' : gte' = some low') : low' ≤ low := by
  have itself : Between gte lte low := by
    refine ⟨fun other found => ?_, fun high found => ?_⟩
    · exact (Option.some.inj (found.symm.trans isLow)).le
    · exact (between.1 low isLow).trans (between.2 high found)
  exact (wider low inRange itself).1 low' isLow'

theorem high_le_of_between {high high' : Int} (inRange : IsInt64 high) (isHigh : lte = some high)
    (isHigh' : lte' = some high') :
    high ≤ high' := by
  have itself : Between gte lte high := by
    refine ⟨fun low found => ?_, fun other found => ?_⟩
    · exact (between.1 low found).trans (between.2 high isHigh)
    · exact (Option.some.inj (isHigh.symm.trans found)).le
  exact (wider high inRange itself).2 high' isHigh'

end

theorem readBack_eq_of_between {read : Int → Int} (between : Between gte lte middle)
    (middleRange : IsInt64 middle) (lowRange : ∀ low, gte = some low → IsInt64 low)
    (highRange : ∀ high, lte = some high → IsInt64 high) (readRange : ∀ bound, IsInt64 (read bound))
    (same : ∀ number, IsInt64 number →
      (Between (gte.map read) (lte.map read) number ↔ Between gte lte number)) :
    (∀ low, gte = some low → read low = low) ∧ (∀ high, lte = some high → read high = high) := by
  have between' := (same middle middleRange).mpr between
  have narrower := fun number inRange => (same number inRange).mp
  have wider := fun number inRange => (same number inRange).mpr
  constructor
  · rintro low rfl
    exact le_antisymm (low_le_of_between between wider (lowRange low rfl) rfl rfl)
      (low_le_of_between between' narrower (readRange low) rfl rfl)
  · rintro high rfl
    exact le_antisymm (high_le_of_between between' narrower (readRange high) rfl rfl)
      (high_le_of_between between wider (highRange high rfl) rfl rfl)

theorem withinBounds_iff_between {text : String} {number : Int}
    (parsed : parseInt64 text = some number) :
    withinBounds text gte lte ↔ Between gte lte number := by
  rw [withinBounds_iff, parsed]
  constructor
  · rintro (⟨rfl, rfl⟩ | ⟨other, same, above, below⟩)
    · exact ⟨by simp, by simp⟩
    · cases same
      exact ⟨above, below⟩
  · exact fun between => .inr ⟨number, rfl, between.1, between.2⟩

end Bounds

theorem permits_iff_has_of_bounded (merges : Merges r {r}) (bounded : r.gte.isSome ∨ r.lte.isSome)
    (normalized : tables.normalizeKey r.key = r.key) :
    (∀ value, r.Permits tables value ↔ r.has value) ↔
      r.values = ∅ ∧ (∀ low, r.gte = some low → readBack tables r.key low = low) ∧
        (∀ high, r.lte = some high → readBack tables r.key high = high) := by
  have complement : r.complement := by
    by_contra concrete
    obtain ⟨noLow, noHigh⟩ := merges.concrete (by simpa using concrete)
    simp [noLow, noHigh] at bounded
  simp only [permits_iff_of_bounded bounded normalized, has_iff, complement, Bool.true_eq_false,
    iff_false]
  constructor
  · intro same
    have nothing : r.values = ∅ := by
      by_contra excluding
      obtain ⟨excluded, inValues⟩ := Finset.nonempty_iff_ne_empty.mpr excluding
      have within := ((merges.excluded complement excluded).mp inValues).2
      rcases withinBounds_iff.mp within with ⟨noLow, noHigh⟩ | ⟨number, parsed, -⟩
      · simp [noLow, noHigh] at bounded
      -- another text of the same number is allowed, and the bounds cannot tell the two apart
      · obtain ⟨low, high⟩ := parseInt64_mem parsed
        obtain ⟨text, fresh, textParsed⟩ := exists_text_notMem r.values low high
        have textWithin := (withinBounds_congr parsed textParsed).mp within
        have permitted := (same text).mpr ⟨fresh, textWithin⟩
        exact ((same excluded).mp ((withinBounds_congr textParsed parsed).mp permitted)).1 inValues
    obtain ⟨middle, low, high, above, below⟩ := merges.exists_number
    refine ⟨nothing, readBack_eq_of_between ⟨above, below⟩ ⟨low, high⟩ merges.lowRange
      merges.highRange (fun bound => atoi_mem _) ?_⟩
    intro number inRange
    obtain ⟨text, -, parsed⟩ := exists_text_notMem ∅ inRange.1 inRange.2
    have own := same text
    simpa [nothing, withinBounds_iff_between parsed] using own
  · rintro ⟨nothing, low, high⟩ value
    have sameLow : r.gte.map (readBack tables r.key) = r.gte := by
      cases gte : r.gte with
      | none => rfl
      | some bound => rw [Option.map_some, low bound gte]
    have sameHigh : r.lte.map (readBack tables r.key) = r.lte := by
      cases lte : r.lte with
      | none => rfl
      | some bound => rw [Option.map_some, high bound lte]
    rw [sameLow, sameHigh]
    simp [nothing]

/-- A requirement survives being written and read back exactly when it is expressible. -/
theorem permits_iff_has_iff (merges : Merges r {r})
    (normalized : tables.normalizeKey r.key = r.key) :
    (∀ value, r.Permits tables value ↔ r.has value) ↔ r.Expressible tables := by
  by_cases bounded : r.gte.isSome ∨ r.lte.isSome
  · rw [permits_iff_has_of_bounded merges bounded normalized]
    constructor
    · rintro ⟨nothing, low, high⟩
      exact ⟨fun _ => nothing, by simp [nothing], low, high⟩
    · intro expressible
      exact ⟨expressible.exclusions bounded, expressible.gte, expressible.lte⟩
  · obtain ⟨noLow, noHigh⟩ : r.gte = none ∧ r.lte = none := by simpa using bounded
    rw [permits_iff_has_of_unbounded noLow noHigh normalized]
    constructor
    · intro values
      exact ⟨fun isBounded => absurd isBounded bounded, values, by simp [noLow], by simp [noHigh]⟩
    · exact fun expressible => expressible.values

theorem expressible_iff_of_untranslated (merges : Merges r {r})
    (untranslated : ∀ value, tables.normalizeValue r.key value = value) :
    r.Expressible tables ↔ (r.gte.isSome ∨ r.lte.isSome → r.values = ∅) := by
  constructor
  · exact fun expressible => expressible.exclusions
  · intro exclusions
    refine ⟨exclusions, ?_, ?_, ?_⟩
    · simp [funext untranslated]
    · intro low found
      rw [readBack, untranslated, atoi_formatInt (merges.lowRange low found).1
        (merges.lowRange low found).2]
    · intro high found
      rw [readBack, untranslated, atoi_formatInt (merges.highRange high found).1
        (merges.highRange high found).2]

theorem minValues_decoded (tables : LabelTables) (member : expression ∈ r.expressions) :
    (decoded tables expression).minValues = r.minValues := by
  unfold expressions boundedNodeSelectorRequirements nodeSelectorRequirement at member
  cases gte : r.gte <;> cases lte : r.lte <;>
    simp only [gte, lte, mem_cons, not_mem_nil, or_false] at member
  · split_ifs at member <;> subst member <;> rfl
  · subst member
    rfl
  · subst member
    rfl
  · rcases member with rfl | rfl <;> rfl

end Requirement

section Sets

variable {tables : LabelTables} {requirements : Requirements} {visited : List Requirement}

def readBackAll (tables : LabelTables) (visited : List Requirement) : Requirements :=
  .newNodeSelectorRequirementsWithMinValues tables
    (Requirements.nodeSelectorRequirements visited)

def decodedParts (tables : LabelTables) (visited : List Requirement) : Set Requirement :=
  {part | ∃ r ∈ visited, ∃ expression ∈ r.expressions, part = decoded tables expression}

theorem readBackAll_joins (tables : LabelTables) (visited : List Requirement) :
    JoinsAll tables (readBackAll tables visited) (decodedParts tables visited) := by
  have collected : Collected tables (readBackAll tables visited)
      ((nodeSelectorRequirements visited).map (decoded tables)) :=
    .add .empty _
  have joined := collected.joinsAll fun r member => by
    obtain ⟨expression, -, rfl⟩ := mem_map.mp member
    exact ⟨_, .new rfl _ _ _⟩
  have sameParts : {r | r ∈ (nodeSelectorRequirements visited).map (decoded tables)} =
      decodedParts tables visited := by
    ext part
    simp only [nodeSelectorRequirements, mem_map, mem_flatMap, Set.mem_ofPred_eq, decodedParts]
    grind
  rwa [sameParts] at joined

variable (regular : requirements.Regular tables) (order : visited.Perm requirements.values)

include regular order

variable {key : String}

theorem mem_decodedParts_iff {part : Requirement} :
    part ∈ {part ∈ decodedParts tables visited | part.key = key} ↔
      ∃ r, requirements.lookup key = some r ∧
        ∃ expression ∈ r.expressions, part = decoded tables expression := by
  have partKey : ∀ r, requirements.lookup r.key = some r → ∀ expression ∈ r.expressions,
      (decoded tables expression).key = r.key := by
    intro r found expression member
    rw [decoded, newRequirementWithFlexibility_key, (expressions_own member).1]
    exact MergesAll.normalized regular r ⟨r.key, found⟩
  constructor
  · rintro ⟨⟨r, inVisited, expression, member, rfl⟩, keyEq⟩
    obtain ⟨own, found⟩ := GoMap.mem_values_iff.mp (order.mem_iff.mp inVisited)
    obtain rfl := (MergesAll.merged regular own r found).1
    rw [partKey r found expression member] at keyEq
    exact ⟨r, keyEq ▸ found, expression, member, rfl⟩
  · rintro ⟨r, found, expression, member, rfl⟩
    obtain rfl := (MergesAll.merged regular key r found).1
    have inVisited : r ∈ visited := order.mem_iff.mpr (GoMap.mem_values_iff.mpr ⟨r.key, found⟩)
    exact ⟨⟨r, inVisited, expression, member, rfl⟩, partKey r found expression member⟩

theorem lookup_readBackAll_of_none (missing : requirements.lookup key = none) :
    (readBackAll tables visited).lookup key = none := by
  cases found : (readBackAll tables visited).lookup key with
  | none => rfl
  | some back =>
    obtain ⟨-, merges⟩ := (readBackAll_joins tables visited).merges.merged key back found
    obtain ⟨part, member⟩ := merges.nonempty
    obtain ⟨r, present, -⟩ := (mem_decodedParts_iff regular order).mp member
    rw [missing] at present
    cases present

theorem lookup_readBackAll_of_some {r : Requirement} (found : requirements.lookup key = some r) :
    ∃ back, (readBackAll tables visited).lookup key = some back ∧
      (∀ value, back.has value ↔ r.Permits tables value) ∧ back.minValues = r.minValues := by
  have all := readBackAll_joins tables visited
  have parts : ∀ part, part ∈ {part ∈ decodedParts tables visited | part.key = key} ↔
      ∃ expression ∈ r.expressions, part = decoded tables expression := by
    intro part
    rw [mem_decodedParts_iff regular order]
    simp [found]
  obtain ⟨expression, member⟩ := exists_mem_of_ne_nil _ r.expressions_ne_nil
  cases back : (readBackAll tables visited).lookup key with
  | none =>
    obtain ⟨inParts, partKey⟩ := (parts (decoded tables expression)).mpr ⟨expression, member, rfl⟩
    exact absurd partKey (all.merges.absent key back _ inParts)
  | some back' =>
    obtain ⟨-, merges⟩ := all.merges.merged key back' back
    refine ⟨back', rfl, fun value => ?_, eq_of_asksFor fun number => ?_⟩
    · rw [merges.has]
      constructor
      · intro allowed other otherMember
        exact allowed _ ((parts _).mpr ⟨other, otherMember, rfl⟩)
      · intro permitted part inParts
        obtain ⟨other, otherMember, rfl⟩ := (parts part).mp inParts
        exact permitted other otherMember
    · rw [all.minValues key back' back]
      constructor
      · rintro ⟨part, inParts, asks⟩
        obtain ⟨other, otherMember, rfl⟩ := (parts part).mp inParts
        rwa [minValues_decoded tables otherMember] at asks
      · intro asks
        refine ⟨_, (parts _).mpr ⟨expression, member, rfl⟩, ?_⟩
        rwa [minValues_decoded tables member]

end Sets

/-- The same values and the same minimum number of them. -/
def SameValues (back r : Requirement) : Prop :=
  (∀ value, back.has value = r.has value) ∧ back.minValues = r.minValues

/-- Requirements put together from requirements that can be built are written and
read back as they were, key by key and whatever order the map is visited in,
exactly when expressions can express each of them. -/
theorem lookup_readBackAll_iff {tables : LabelTables} {requirements : Requirements}
    {leaves visited : List Requirement} (collected : Collected tables requirements leaves)
    (built : ∀ r ∈ leaves, ∃ key, r.Built tables key) (order : visited.Perm requirements.values) :
    (∀ key, Option.Rel SameValues ((readBackAll tables visited).lookup key)
      (requirements.lookup key)) ↔
    ∀ key r, requirements.lookup key = some r → r.Expressible tables := by
  have regular : requirements.Regular tables := (collected.joinsAll built).merges.regular
  have survives : ∀ key r, requirements.lookup key = some r →
      ((∀ value, r.Permits tables value ↔ r.has value) ↔ r.Expressible tables) := by
    intro key r found
    obtain ⟨ownKey, normalized⟩ := MergesAll.keyed regular key r found
    exact permits_iff_has_iff (MergesAll.merged regular key r found).2.itself (ownKey ▸ normalized)
  constructor
  · intro same key r found
    obtain ⟨back, foundBack, permits, -⟩ := lookup_readBackAll_of_some regular order found
    have related := same key
    rw [found] at related
    refine (survives key r found).mp fun value => ?_
    rw [← permits value]
    rw [foundBack] at related
    cases related with
    | some alike => rw [alike.1 value]
  · intro expressible key
    cases found : requirements.lookup key with
    | none =>
      rw [lookup_readBackAll_of_none regular order found]
      exact .none
    | some r =>
      obtain ⟨back, foundBack, permits, sameMinimum⟩ :=
        lookup_readBackAll_of_some regular order found
      rw [foundBack]
      refine .some ⟨fun value => ?_, sameMinimum⟩
      rw [Bool.eq_iff_iff, permits value]
      exact (survives key r found).mpr (expressible key r found) value

end Kraftsman.Scheduling
