import Kraftsman.Apis.Core
import Kraftsman.Data.Strconv
import Mathlib.Data.Finset.Sort
import Mathlib.Data.String.Basic

/-!
Contract: one scheduling requirement on one label.

A requirement is a finite set of values or its complement, together with
inclusive integer bounds.

Owns: the construction from an expression, intersection, the overlap test, and
the derived operator.
Does not own: maps of requirements and their compatibility.
-/

namespace Kraftsman.Scheduling

open Apis Data.Strconv

/-- A node selector expression: values, or their complement, within inclusive bounds. -/
structure Requirement where
  key : String
  complement : Bool
  values : Finset String
  gte : Option Int
  lte : Option Int
  minValues : Option Int
  deriving DecidableEq

def maxIntPtr : Option Int → Option Int → Option Int
  | none, right => right
  | left, none => left
  | some left, some right => if left > right then some left else some right

def minIntPtr : Option Int → Option Int → Option Int
  | none, right => right
  | left, none => left
  | some left, some right => if left < right then some left else some right

/-- Whether a value lies within bounds. Only integers do once a bound is set. -/
def withinBounds (value : String) (gte lte : Option Int) : Bool :=
  match gte, lte with
  | none, none => true
  | _, _ =>
    match atoi value with
    | (_, some _) => false
    | (number, none) =>
      !(gte.any fun bound => number < bound) && !(lte.any fun bound => number > bound)

def boundsConflict (gte lte : Option Int) : Bool :=
  match gte, lte with
  | some low, some high => low > high
  | _, _ => false

abbrev sortedStrings (values : Finset String) : List String := values.sort (· ≤ ·)

abbrev sortedTexts (texts : Multiset String) : List String := texts.sort (· ≤ ·)

namespace Requirement

variable (tables : LabelTables)

/-- The requirement that the label is absent. -/
def doesNotExist (key : String) (minValues : Option Int) : Requirement :=
  { key := tables.normalizeKey key, complement := false, values := ∅, gte := none, lte := none,
    minValues := minValues }

/-- The integer operand of a comparison, zero when malformed. -/
def operand (values : List String) : Int := (atoi (values.headD "")).1

/-- A requirement from an expression. `Gt` and `Lt` become inclusive bounds. -/
def newRequirementWithFlexibility (key : String) (operator : NodeSelectorOperator)
    (minValues : Option Int) (values : List String) : Requirement :=
  let key := tables.normalizeKey key
  let values := values.map (tables.normalizeValue key)
  let unbounded : Requirement :=
    { key := key, complement := true, values := ∅, gte := none, lte := none,
      minValues := minValues }
  match operator with
  | .opIn => { unbounded with complement := false, values := values.toFinset }
  | .opDoesNotExist => { unbounded with complement := false }
  | .opNotIn => { unbounded with values := values.toFinset }
  | .opExists => unbounded
  | .opGt =>
    -- nothing is greater than the largest integer
    if operand values = maxInt64 then doesNotExist tables key none
    else { unbounded with gte := some (operand values + 1) }
  | .opLt => { unbounded with lte := some (wrapInt64 (operand values - 1)) }
  | .opGte => { unbounded with gte := some (operand values) }
  | .opLte => { unbounded with lte := some (operand values) }

def newRequirement (key : String) (operator : NodeSelectorOperator) (values : List String) :
    Requirement :=
  newRequirementWithFlexibility tables key operator none values

variable (r : Requirement)

def has (value : String) : Bool :=
  if r.complement then decide (value ∉ r.values) && withinBounds value r.gte r.lte
  else decide (value ∈ r.values) && withinBounds value r.gte r.lte

def operator : NodeSelectorOperator :=
  if r.complement then
    if r.values = ∅ then .opExists else .opNotIn
  else
    if r.values = ∅ then .opDoesNotExist else .opIn

/-- Whether an absent label satisfies the requirement. -/
def negative : Bool :=
  r.operator = .opNotIn || r.operator = .opDoesNotExist

variable (requirement : Requirement)

/-- Constrain a requirement by another one. -/
def intersection : Requirement :=
  let complement := r.complement && requirement.complement
  let gte := maxIntPtr r.gte requirement.gte
  let lte := minIntPtr r.lte requirement.lte
  let minValues := maxIntPtr r.minValues requirement.minValues
  if boundsConflict gte lte then doesNotExist tables r.key minValues
  else
    let values :=
      if r.complement && requirement.complement then r.values ∪ requirement.values
      else if r.complement && !requirement.complement then requirement.values \ r.values
      else if !r.complement && requirement.complement then r.values \ requirement.values
      else r.values ∩ requirement.values
    let values := values.filter fun value => withinBounds value gte lte = true
    -- a concrete set needs no bounds any more
    { key := r.key, complement := complement, values := values,
      gte := if complement then gte else none, lte := if complement then lte else none,
      minValues := minValues }

def hasIntersection : Bool :=
  let gte := maxIntPtr r.gte requirement.gte
  let lte := minIntPtr r.lte requirement.lte
  if boundsConflict gte lte then false
  else if r.complement && requirement.complement then true
  else if r.complement && !requirement.complement then
    decide (∃ value ∈ requirement.values, value ∉ r.values ∧ withinBounds value gte lte = true)
  else if !r.complement && requirement.complement then
    decide (∃ value ∈ r.values, value ∉ requirement.values ∧ withinBounds value gte lte = true)
  else
    decide (∃ value ∈ r.values, value ∈ requirement.values ∧ withinBounds value gte lte = true)

/-- The number of values allowed; for a complement, of the largest integer's worth. -/
def len : Int :=
  if r.complement then maxInt64 - r.values.card else r.values.card

/-- Some allowed value: one listed, or an integer that a random choice within the
bounds can return. -/
def any : String :=
  match r.operator with
  | .opIn => (sortedStrings r.values).headD ""
  | .opNotIn | .opExists => toString (r.gte.getD 0)
  | _ => ""

/-- Whether `outer`'s bounds are at least as permissive as `inner`'s. -/
def boundsAreContained (inner outer : Requirement) : Bool :=
  !(outer.gte.any fun low => inner.gte.all (· < low)) &&
    !(outer.lte.any fun high => inner.lte.all (· > high))

/-- Whether every value `r` allows is allowed by `requirement`. -/
def subsetOf : Bool :=
  if r.operator = .opDoesNotExist then requirement.operator = .opDoesNotExist
  else if !r.complement then decide (∀ value ∈ r.values, requirement.has value = true)
  -- no finite set contains a complement
  else if !requirement.complement then false
  else if !boundsAreContained r requirement then false
  else decide (∀ value ∈ requirement.values, r.has value = false)

end Requirement

@[simp] theorem withinBounds_none (value : String) : withinBounds value none none := rfl

variable {value : String} {gte lte : Option Int} {number : Int}

theorem withinBounds_iff : withinBounds value gte lte ↔ (gte = none ∧ lte = none) ∨
        ∃ number, parseInt64 value = some number ∧
          (∀ low, gte = some low → low ≤ number) ∧ (∀ high, lte = some high → number ≤ high) := by
  unfold withinBounds parseInt64
  rcases parsed : atoi value with ⟨number, _ | error⟩ <;>
    rcases gte with _ | low <;> rcases lte with _ | high <;> simp

variable {left right : Option Int}

theorem maxIntPtr_le_iff : (∀ low, maxIntPtr left right = some low → low ≤ number) ↔
      (∀ low, left = some low → low ≤ number) ∧ (∀ low, right = some low → low ≤ number) := by
  rcases left with _ | left <;> rcases right with _ | right <;> simp only [maxIntPtr] <;>
    try simp
  split_ifs <;> simp <;> omega

theorem le_minIntPtr_iff : (∀ high, minIntPtr left right = some high → number ≤ high) ↔
      (∀ high, left = some high → number ≤ high) ∧ (∀ high, right = some high → number ≤ high) := by
  rcases left with _ | left <;> rcases right with _ | right <;> simp only [minIntPtr] <;>
    try simp
  split_ifs <;> simp <;> omega

@[simp] theorem maxIntPtr_eq_none : maxIntPtr left right = none ↔ left = none ∧ right = none := by
  rcases left with _ | left <;> rcases right with _ | right <;> simp only [maxIntPtr] <;>
    try simp
  split_ifs <;> simp

@[simp] theorem minIntPtr_eq_none : minIntPtr left right = none ↔ left = none ∧ right = none := by
  rcases left with _ | left <;> rcases right with _ | right <;> simp only [minIntPtr] <;>
    try simp
  split_ifs <;> simp

theorem withinBounds_merge {value : String} {gte gte' lte lte' : Option Int} :
    withinBounds value (maxIntPtr gte gte') (minIntPtr lte lte') ↔
      withinBounds value gte lte ∧ withinBounds value gte' lte' := by
  simp only [withinBounds_iff, maxIntPtr_eq_none, minIntPtr_eq_none, maxIntPtr_le_iff,
    le_minIntPtr_iff]
  constructor
  · rintro (⟨⟨rfl, rfl⟩, rfl, rfl⟩ | ⟨number, parsed, ⟨low, low'⟩, high, high'⟩)
    · simp
    · exact ⟨.inr ⟨number, parsed, low, high⟩, .inr ⟨number, parsed, low', high'⟩⟩
  · rintro ⟨⟨rfl, rfl⟩ | ⟨number, parsed, low, high⟩, ⟨rfl, rfl⟩ | ⟨number', parsed', low', high'⟩⟩
    · simp
    · exact .inr ⟨number', parsed', by simpa using low', by simpa using high'⟩
    · exact .inr ⟨number, parsed, by simpa using low, by simpa using high⟩
    · rw [parsed] at parsed'
      obtain rfl := Option.some.inj parsed'
      exact .inr ⟨number, parsed, ⟨low, low'⟩, high, high'⟩

theorem withinBounds_of_conflict (conflict : boundsConflict gte lte) :
    withinBounds value gte lte = false := by
  rcases gte with _ | low <;> rcases lte with _ | high <;> simp only [boundsConflict] at conflict <;>
    try simp at conflict
  cases result : withinBounds value (some low) (some high) with
  | false => rfl
  | true =>
    rcases withinBounds_iff.mp result with ⟨absurdity, -⟩ | ⟨number, -, above, below⟩
    · cases absurdity
    · have := above low rfl
      have := below high rfl
      omega

namespace Requirement

variable (tables : LabelTables)

theorem operand_range (values : List String) :
    minInt64 ≤ operand values ∧ operand values ≤ maxInt64 :=
  atoi_mem _

theorem has_iff {r : Requirement} {value : String} : r.has value ↔
      (value ∈ r.values ↔ r.complement = false) ∧ withinBounds value r.gte r.lte := by
  unfold has
  cases r.complement <;> simp

theorem negative_iff {r : Requirement} : r.negative ↔ (r.complement ↔ r.values ≠ ∅) := by
  unfold negative operator
  cases r.complement <;> by_cases empty : r.values = ∅ <;> simp [empty]

theorem has_intersection (r requirement : Requirement) (value : String) :
    (r.intersection tables requirement).has value ↔ r.has value ∧ requirement.has value := by
  unfold intersection
  by_cases conflict :
      boundsConflict (maxIntPtr r.gte requirement.gte) (minIntPtr r.lte requirement.lte)
  · have outside : withinBounds value (maxIntPtr r.gte requirement.gte)
        (minIntPtr r.lte requirement.lte) = false := withinBounds_of_conflict conflict
    have notBoth : ¬(withinBounds value r.gte r.lte ∧
        withinBounds value requirement.gte requirement.lte) := by
      rw [← withinBounds_merge, outside]
      exact Bool.false_ne_true
    simp only [conflict, if_true]
    constructor
    · intro allowed
      simp [has, doesNotExist] at allowed
    · rintro ⟨left, right⟩
      exact absurd ⟨(has_iff.mp left).2, (has_iff.mp right).2⟩ notBoth
  · simp only [conflict, if_false, Bool.false_eq_true]
    rw [has_iff, has_iff, has_iff]
    cases left : r.complement <;> cases right : requirement.complement <;>
      simp [withinBounds_merge] <;> grind

end Requirement

end Kraftsman.Scheduling
