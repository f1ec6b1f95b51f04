import Kraftsman.Apis.NodePool
import Kraftsman.Scheduling.Requirement

/-!
Contract: sets of requirements, one per label key.

Owns: their construction from expressions, labels and pods, adding a requirement,
and compatibility.
Does not own: the Kubernetes meaning of the expressions.
-/

namespace Kraftsman.Scheduling

open Apis Data AList

/-- Requirements by normalized label key. -/
abbrev Requirements := GoMap String Requirement

namespace Requirements

variable (tables : LabelTables)

def addOne (requirements : Requirements) (requirement : Requirement) : Requirements :=
  match requirements.lookup requirement.key with
  | none => requirements.insert requirement.key requirement
  | some existing =>
    let merged := requirement.intersection tables existing
    requirements.insert merged.key merged

def add (requirements : Requirements) (added : List Requirement) : Requirements :=
  added.foldl (addOne tables) requirements

def newRequirements (added : List Requirement) : Requirements :=
  add tables ∅ added

def newNodeSelectorRequirements (expressions : List NodeSelectorRequirement) : Requirements :=
  newRequirements tables (expressions.map fun expression =>
    .newRequirement tables expression.key expression.operator expression.values)

/-- Requirements from expressions with minimum numbers of values. -/
def newNodeSelectorRequirementsWithMinValues
    (expressions : List NodeSelectorRequirementWithMinValues) : Requirements :=
  newRequirements tables (expressions.map fun expression =>
    .newRequirementWithFlexibility tables expression.key expression.operator expression.minValues
      expression.values)

def newLabelRequirements (labels : GoMap String String) : Requirements :=
  newRequirements tables (labels.entries.map fun label =>
    .newRequirement tables label.1 .opIn [label.2])

/-- Whether preferences count as requirements. -/
inductive PodRequirementType where
  | all
  | requiredOnly
  deriving DecidableEq

def heaviest (preferred : List PreferredSchedulingTerm) : Option PreferredSchedulingTerm :=
  (preferred.insertionSort fun left right => left.weight ≥ right.weight).head?

/-- The node selector, the first required node affinity term and, if asked for,
the heaviest preferred one. -/
def newPodRequirements (pod : Pod) (typ : PodRequirementType) : Requirements :=
  let requirements := newLabelRequirements tables pod.nodeSelector
  match pod.nodeAffinity with
  | none => requirements
  | some affinity =>
    let requirements :=
      match typ, heaviest affinity.preferred with
      | .all, some preferred =>
        add tables requirements
          (newNodeSelectorRequirements tables preferred.preference.matchExpressions).values
      | _, _ => requirements
    match affinity.required with
    | some (term :: _) =>
      add tables requirements (newNodeSelectorRequirements tables term.matchExpressions).values
    | _ => requirements

def newStrictPodRequirements (pod : Pod) : Requirements :=
  newPodRequirements tables pod .requiredOnly

def get (requirements : Requirements) (key : String) : Requirement :=
  (requirements.lookup key).getD (.newRequirement tables key .opExists [])

def hasMinValues (requirements : Requirements) : Bool :=
  requirements.values.any fun requirement => requirement.minValues.isSome

structure BadKeyError where
  key : String
  incoming : Requirement
  existing : Requirement
  deriving DecidableEq

inductive CompatibilityError where
  | unknownValues (key : String)
  | badKeys (errors : List BadKeyError)
  deriving DecidableEq

def intersectKeys (r rhs : Requirements) : List String :=
  if r.entries.length > rhs.entries.length then rhs.keys.filter (· ∈ r)
  else r.keys.filter (· ∈ rhs)

/-- Whether requirements can hold at once; two that an absent label satisfies can. -/
def overlaps (existing incoming : Requirement) : Bool :=
  existing.hasIntersection incoming || (incoming.negative && existing.negative)

variable (r requirements : Requirements)

/-- The common keys whose requirements cannot hold at once. -/
def intersects : List BadKeyError :=
  (intersectKeys r requirements).filterMap fun key =>
    let existing := get tables r key
    let incoming := get tables requirements key
    if overlaps existing incoming then none else some ⟨key, incoming, existing⟩

/-- Whether the provided requirements can loosely be met. Keys outside
`allowUndefined` must be defined unless an absent label will do. -/
def compatible (allowUndefined : Finset String) : Except CompatibilityError Unit :=
  match requirements.keys.find? fun key =>
      !(decide (key ∈ allowUndefined) || decide (key ∈ r) || (get tables requirements key).negative)
    with
  | some key => .error (.unknownValues key)
  | none =>
    match intersects tables r requirements with
    | [] => .ok ()
    | errors => .error (.badKeys errors)

def isCompatible (allowUndefined : Finset String) : Bool :=
  match compatible tables r requirements allowUndefined with
  | .ok _ => true
  | .error _ => false

variable {requirements} {r : Requirements} {key : String}

theorem get_of_lookup {requirement : Requirement}
    (found : requirements.lookup key = some requirement) :
    get tables requirements key = requirement := by
  simp [get, found]

theorem mem_intersectKeys {rhs : Requirements} :
    key ∈ intersectKeys r rhs ↔ key ∈ r ∧ key ∈ rhs := by
  unfold intersectKeys
  split <;> simp [mem_keys, and_comm]

theorem intersects_eq_nil : intersects tables r requirements = [] ↔
      ∀ key existing incoming, r.lookup key = some existing →
        requirements.lookup key = some incoming → overlaps existing incoming := by
  simp only [intersects, List.filterMap_eq_nil_iff, mem_intersectKeys]
  constructor
  · intro none key existing incoming existingFound incomingFound
    have inBoth : key ∈ r ∧ key ∈ requirements := ⟨lookup_isSome.mp (by simp [existingFound]),
        lookup_isSome.mp (by simp [incomingFound])⟩
    have overlap := none key inBoth
    rw [get_of_lookup tables existingFound, get_of_lookup tables incomingFound] at overlap
    simpa using overlap
  · rintro all key ⟨inLeft, inRight⟩
    obtain ⟨existing, existingFound⟩ := Option.isSome_iff_exists.mp (lookup_isSome.mpr inLeft)
    obtain ⟨incoming, incomingFound⟩ := Option.isSome_iff_exists.mp (lookup_isSome.mpr inRight)
    rw [get_of_lookup tables existingFound, get_of_lookup tables incomingFound]
    simp [all key existing incoming existingFound incomingFound]

theorem isCompatible_iff {allowUndefined : Finset String} :
    isCompatible tables r requirements allowUndefined ↔
      ∀ key incoming, requirements.lookup key = some incoming →
        match r.lookup key with
        | none => key ∈ allowUndefined ∨ incoming.negative
        | some existing => overlaps existing incoming := by
  have defined : (requirements.keys.find? fun key =>
      !(decide (key ∈ allowUndefined) || decide (key ∈ r) ||
        (get tables requirements key).negative)) = none ↔
      ∀ key incoming, requirements.lookup key = some incoming → r.lookup key = none →
        key ∈ allowUndefined ∨ incoming.negative := by
    rw [List.find?_eq_none]
    constructor
    · intro all key incoming found undefined
      have member : key ∈ requirements.keys := by
        exact lookup_isSome.mp (by simp [found])
      have holds := all key member
      rw [get_of_lookup tables found] at holds
      simpa [lookup_eq_none.mp undefined, or_iff_not_imp_left] using holds
    · intro all key member
      obtain ⟨incoming, found⟩ := Option.isSome_iff_exists.mp
        (lookup_isSome.mpr (mem_keys.mpr member))
      rw [get_of_lookup tables found]
      cases known : r.lookup key with
      | none =>
        simpa [lookup_eq_none.mp known, or_iff_not_imp_left] using all key incoming found known
      | some existing =>
        have inLeft : key ∈ r := lookup_isSome.mp (by simp [known])
        simp [inLeft]
  have split : isCompatible tables r requirements allowUndefined ↔
      (∀ key incoming, requirements.lookup key = some incoming → r.lookup key = none →
        key ∈ allowUndefined ∨ incoming.negative) ∧
      intersects tables r requirements = [] := by
    rw [← defined]
    unfold isCompatible compatible
    cases requirements.keys.find? fun key =>
      !(decide (key ∈ allowUndefined) || decide (key ∈ r) ||
        (get tables requirements key).negative) with
    | some key => simp
    | none => cases intersects tables r requirements <;> simp
  rw [split, intersects_eq_nil]
  constructor
  · rintro ⟨undefined, overlapping⟩ key incoming found
    cases known : r.lookup key with
    | none => exact undefined key incoming found known
    | some existing => exact overlapping key existing incoming known found
  · intro all
    refine ⟨fun key incoming found known => ?_, fun key existing incoming known found => ?_⟩
    · have holds := all key incoming found
      rwa [known] at holds
    · have holds := all key incoming found
      rwa [known] at holds

end Requirements

end Kraftsman.Scheduling
