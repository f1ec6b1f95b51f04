import Kraftsman.Provisioning.NodeClaim
import Kraftsman.Scheduling.Encoding

/-!
Contract: the requirements that a NodeClaim is created with.

Owns: what a template adds and leaves out when it becomes a NodeClaim, and
which requirements it permits no more than.
Does not own: the expressions themselves, and the labels of a NodeClaim.
-/

namespace Kraftsman.Provisioning

open Apis CloudProvider Data Scheduling Requirement Requirements

/-- Requirements that only serve the simulation of daemon sets. -/
def schedulingSimulationKeys : Finset String := {nodeRegisteredLabelKey, nodeInitializedLabelKey}

def maxInstanceTypes : Nat := 600

variable (tables : LabelTables)

def offeredCapacityTypes (instanceTypes : List InstanceType) (requirements : Requirements) :
    List String :=
  (instanceTypes.flatMap fun it =>
    (compatibleOfferings tables it.offerings requirements).map (·.capacityType tables)).dedup

variable (isStaticNodeClaim : Bool) (instanceTypeOptions : List InstanceType)
  (requirements : Requirements)

def launchRequirements : Requirements :=
  if isStaticNodeClaim then requirements
  else
    let instanceTypes := (orderByPrice tables instanceTypeOptions requirements).take maxInstanceTypes
    let minValues := (requirements.get tables labelInstanceTypeStable).minValues
    let requirements := requirements.add tables
      [.newRequirementWithFlexibility tables labelInstanceTypeStable .opIn minValues
        (instanceTypes.map (·.name))]
    let capacityTypes := offeredCapacityTypes tables instanceTypes requirements
    if capacityTypes.length > 0 then
      requirements.add tables [.newRequirement tables capacityTypeLabelKey .opIn capacityTypes]
    else requirements

def nodeClaimRequirements : Requirements :=
  .newRequirements tables
    ((launchRequirements tables isStaticNodeClaim instanceTypeOptions requirements).values.filter
      fun r => r.key ∉ schedulingSimulationKeys)

def toNodeClaim : List NodeSelectorRequirementWithMinValues :=
  Requirements.nodeSelectorRequirements
    (nodeClaimRequirements tables isStaticNodeClaim instanceTypeOptions requirements).values

/-- Read back, the expressions permit no value that the requirements exclude. The
keys of the simulation are not written. -/
def PermitsOnly (written : List NodeSelectorRequirementWithMinValues) : Prop :=
  ∀ key ∉ schedulingSimulationKeys, ∀ r, requirements.lookup key = some r →
    ∃ back, (newNodeSelectorRequirementsWithMinValues tables written).lookup key = some back ∧
      ∀ value, back.has value → r.has value

/-- A value that the requirement allows once it is translated is still allowed if it
is translated again. -/
def Settled (r : Requirement) : Prop :=
  ∀ value, r.has (tables.normalizeValue r.key value) →
    r.has (tables.normalizeValue r.key (tables.normalizeValue r.key value))

/-- The keys at which the choice of instance types narrows the requirements. -/
def launchKeys : List String := [labelInstanceTypeStable, capacityTypeLabelKey]

/-- What is launched allows no value that the requirements exclude, as it is and
written and read back. -/
structure Narrows (launched : Requirements) : Prop where
  regular : launched.Regular tables
  permits : ∀ key r, requirements.lookup key = some r →
    ∃ narrowed, launched.lookup key = some narrowed ∧
      ∀ value, narrowed.has value ∨ narrowed.Permits tables value → r.has value

section Launched

variable {tables} {requirements} {launched : Requirements}

theorem Narrows.add_opIn (narrows : Narrows tables requirements launched)
    (named : requirements.Named) {name : String}
    (settled : ∀ r, requirements.lookup (tables.normalizeKey name) = some r → Settled tables r)
    (minValues : Option Int) (values : List String) :
    Narrows tables requirements
      (launched.add tables [.newRequirementWithFlexibility tables name .opIn minValues values]) := by
  have normalized : ∀ r ∈ [newRequirementWithFlexibility tables name .opIn minValues values],
      tables.normalizeKey r.key = r.key := by
    intro r member
    rw [List.mem_singleton.mp member, newRequirementWithFlexibility_key, tables.normalizeKey_idem]
  have all := MergesAll.add narrows.regular
    [newRequirementWithFlexibility tables name .opIn minValues values]
    (fun r member => List.mem_singleton.mp member ▸ .newRequirementWithFlexibility tables _ _ _ _)
    normalized
  refine ⟨all.regular, fun key r found => ?_⟩
  obtain ⟨narrowed, narrowedFound, only⟩ := narrows.permits key r found
  by_cases same : key = tables.normalizeKey name
  · obtain ⟨stored, storedFound, below⟩ := implies_add tables launched
      [newRequirementWithFlexibility tables name .opIn minValues values] key narrowed narrowedFound
    obtain ⟨storedKey, merges⟩ := all.merged key stored storedFound
    have concrete : stored.complement = false := merges.concrete_of_part
      ⟨.inr (List.mem_singleton_self _), same ▸ rfl⟩ rfl
    obtain ⟨noLow, noHigh⟩ := merges.concrete concrete
    refine ⟨stored, storedFound, ?_⟩
    rintro value (allowed | permitted)
    · exact only value (.inl (below value allowed))
    -- what is read back was translated when it was added and is translated again
    · rw [permits_iff_of_unbounded noLow noHigh (storedKey ▸ same ▸ tables.normalizeKey_idem name),
        concrete, iff_true_right rfl, Finset.mem_image] at permitted
      obtain ⟨once, inValues, rfl⟩ := permitted
      have allowed : stored.has once := (merges.has_iff_mem concrete).mpr inValues
      have added := (merges.has once).mp allowed _ ⟨.inr (List.mem_singleton_self _), same ▸ rfl⟩
      obtain ⟨text, -, rfl⟩ : ∃ text ∈ values,
          tables.normalizeValue (tables.normalizeKey name) text = once := by
        simpa [has_iff, newRequirementWithFlexibility] using added
      have again := settled r (same ▸ found) text
      rw [named key r found] at again
      rw [← same] at allowed
      rw [storedKey, ← same]
      exact again (only _ (.inl (below _ allowed)))
  · refine ⟨narrowed, ?_, only⟩
    have added : (launched.addOne tables
        (newRequirementWithFlexibility tables name .opIn minValues values)).lookup key =
          some narrowed := by
      rw [lookup_addOne, stored_key tables (normalized _ (List.mem_singleton_self _)),
        newRequirementWithFlexibility_key, if_neg same, narrowedFound]
    exact added

variable {isStaticNodeClaim instanceTypeOptions}

theorem narrows_launchRequirements (regular : requirements.Regular tables)
    (expressible : ∀ key r, requirements.lookup key = some r → r.Expressible tables)
    (settled : ∀ key ∈ launchKeys, ∀ r,
      requirements.lookup (tables.normalizeKey key) = some r → Settled tables r) :
    Narrows tables requirements
      (launchRequirements tables isStaticNodeClaim instanceTypeOptions requirements) := by
  have keyed := MergesAll.keyed regular
  have start : Narrows tables requirements requirements := by
    refine ⟨regular, fun key r found => ⟨r, found, ?_⟩⟩
    obtain ⟨ownKey, merges⟩ := MergesAll.merged regular key r found
    rintro value (allowed | permitted)
    · exact allowed
    · exact ((permits_iff_has_iff merges.itself (ownKey ▸ (keyed key r found).2)).mpr
        (expressible key r found) value).mp permitted
  unfold launchRequirements
  split_ifs
  · exact start
  · have typed := start.add_opIn (keyed.named _) (settled labelInstanceTypeStable (by simp [launchKeys]))
      (requirements.get tables labelInstanceTypeStable).minValues
    dsimp only
    split_ifs
    · exact (typed _).add_opIn (keyed.named _) (settled capacityTypeLabelKey (by simp [launchKeys])) _ _
    · exact typed _

theorem Narrows.permitsOnly (narrows : Narrows tables requirements
      (launchRequirements tables isStaticNodeClaim instanceTypeOptions requirements)) :
    PermitsOnly tables requirements
      (toNodeClaim tables isStaticNodeClaim instanceTypeOptions requirements) := by
  intro key lasting r found
  obtain ⟨narrowed, narrowedFound, only⟩ := narrows.permits key r found
  have keyed := MergesAll.keyed narrows.regular
  have regular : (nodeClaimRequirements tables isStaticNodeClaim instanceTypeOptions
      requirements).Regular tables := by
    refine (MergesAll.newRequirements tables _ (fun r member => ?_) fun r member => ?_).regular
    · exact (MergesAll.merges_of_mem_values narrows.regular (List.mem_filter.mp member).1).1.itself
    · exact keyed.normalized tables (List.mem_filter.mp member).1
  have written : (nodeClaimRequirements tables isStaticNodeClaim instanceTypeOptions
      requirements).lookup key = some narrowed := by
    rw [nodeClaimRequirements, lookup_newRequirements_filter tables (keyed.named _), narrowedFound]
    simp [Option.filter, keyed.named _ key narrowed narrowedFound, lasting]
  obtain ⟨back, backFound, permits, -⟩ :=
    lookup_readBackAll_of_some regular (List.Perm.refl _) written
  exact ⟨back, backFound, fun value allowed => only value (.inr ((permits value).mp allowed))⟩

end Launched

/-- Requirements put together from requirements that can be built are read back as
they were exactly when each can be expressed. If so, the NodeClaim permits no value
they exclude, provided that the names of instance types and of capacity types may
be translated twice. -/
theorem read_back_iff_expressible {tables : LabelTables} {requirements : Requirements}
    {leaves visited : List Requirement} (collected : Collected tables requirements leaves)
    (built : ∀ r ∈ leaves, ∃ key, r.Built tables key) (order : visited.Perm requirements.values) :
    ((∀ key, Option.Rel SameValues ((readBackAll tables visited).lookup key)
        (requirements.lookup key)) ↔
      ∀ key r, requirements.lookup key = some r → r.Expressible tables) ∧
    ((∀ key r, requirements.lookup key = some r → r.Expressible tables) →
      (∀ key ∈ launchKeys, ∀ r,
        requirements.lookup (tables.normalizeKey key) = some r → Settled tables r) →
      ∀ isStaticNodeClaim instanceTypeOptions, PermitsOnly tables requirements
        (toNodeClaim tables isStaticNodeClaim instanceTypeOptions requirements)) := by
  have regular : requirements.Regular tables := (collected.joinsAll built).merges.regular
  exact ⟨lookup_readBackAll_iff collected built order, fun expressible settled _ _ =>
    (narrows_launchRequirements regular expressible settled).permitsOnly⟩

/-- A bound, an exclusion and lists of values. -/
def servedLeaves : List Requirement :=
  [newerThanFive, .newRequirement .base labelTopologyZone .opNotIn ["b"],
    .newRequirementWithFlexibility .base labelInstanceTypeStable .opIn (some 1) ["large", "small"],
    .newRequirement .base capacityTypeLabelKey .opIn ["spot", "on-demand"]]

def servedRequirements : Requirements := .newRequirements .base servedLeaves

theorem servedRequirements_read_back :
    (∀ key, Option.Rel SameValues ((readBackAll .base servedRequirements.values).lookup key)
      (servedRequirements.lookup key)) ∧
    PermitsOnly .base servedRequirements
      (toNodeClaim .base false [⟨"large", ∅, [], ∅, {}, []⟩] servedRequirements) := by
  have built : ∀ r ∈ [] ++ servedLeaves, ∃ key, r.Built .base key := by
    simp only [servedLeaves, List.nil_append, List.forall_mem_cons]
    exact ⟨⟨_, newerThanFive_built⟩, ⟨_, .new rfl _ _ _⟩, ⟨_, .new rfl _ _ _⟩, ⟨_, .new rfl _ _ _⟩,
      by simp⟩
  have collected : Collected .base servedRequirements ([] ++ servedLeaves) := .add .empty _
  have expressible : ∀ key r, servedRequirements.lookup key = some r → r.Expressible .base := by
    intro key r found
    have merges := ((collected.joinsAll built).merges.merged key r found).2.itself
    have listed : ∀ r ∈ servedRequirements.values, r.gte.isSome ∨ r.lte.isSome → r.values = ∅ := by
      decide +kernel
    exact (expressible_iff_of_untranslated merges fun _ => rfl).mpr
      (listed r (GoMap.mem_values_iff.mpr ⟨key, found⟩))
  obtain ⟨reads, permits⟩ := read_back_iff_expressible collected built (List.Perm.refl _)
  exact ⟨reads.mpr expressible, permits expressible (fun _ _ _ _ _ allowed => allowed) _ _⟩

def generationPool : NodePool where
  name := "default"
  template :=
    { requirements := [⟨⟨"example.com/generation", .opGt, ["5"], rfl⟩, none⟩] }

def avoidsSeventh : Pod where
  name := "pod"
  nodeAffinity := some ⟨some [⟨[⟨"example.com/generation", .opNotIn, ["7"], rfl⟩]⟩], []⟩

def generationRequirements : Requirements :=
  (templateRequirements .base generationPool).add .base
    (Requirements.newPodRequirements .base avoidsSeventh .all).values

/-- The exclusion within the bound is lost: the NodeClaim permits the generation
that the pod avoids. -/
theorem excluded_generation_permitted :
    (generationRequirements.lookup "example.com/generation").map (·.has "7") = some false ∧
    ((readBackAll .base generationRequirements.values).lookup "example.com/generation").map
      (·.has "7") = some true ∧
    ((Requirements.newNodeSelectorRequirementsWithMinValues .base
        (toNodeClaim .base false [⟨"large", ∅, [], ∅, {}, []⟩] generationRequirements)).lookup
          "example.com/generation").map (·.has "7") = some true := by
  decide +kernel

end Kraftsman.Provisioning
