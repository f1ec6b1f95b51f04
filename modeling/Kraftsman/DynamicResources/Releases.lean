import Kraftsman.DynamicResources.Topologies
import Kraftsman.Scheduling.RequirementAlgebra

/-!
Contract: the requirements of an allocated claim while instance types are
released.

Owns: a claim's requirements are those of the instance types not released,
whatever the order of the releases and maps.
Does not own: what the releases return to the tracker.
-/

namespace Kraftsman.DynamicResources

open Apis Data Scheduling Requirements Allocator List

/-- All contributed requirements, one after another. -/
def contributedList (contributed : GoMap InstanceTypeID Requirements) : List Requirement :=
  contributed.values.flatMap fun requirements => requirements.values

/-- The total is the intersection of what is contributed. -/
structure ResourceClaimAllocationMetadata.Totalled (tables : LabelTables)
    (metadata : ResourceClaimAllocationMetadata) : Prop where
  regular : metadata.Regular tables
  joins : JoinsAll tables metadata.totalRequirements
    {r | r ∈ contributedList metadata.contributedRequirements}

variable {env : Environment} {tables : LabelTables} {metadata : ResourceClaimAllocationMetadata}
variable {contributed other : GoMap InstanceTypeID Requirements}

theorem mem_contributedList {r : Requirement} : r ∈ contributedList contributed ↔
    ∃ it requirements, contributed.lookup it = some requirements ∧ r ∈ requirements.values := by
  simp only [contributedList, mem_flatMap, GoMap.mem_values_iff]
  constructor
  · rintro ⟨requirements, ⟨it, found⟩, member⟩
    exact ⟨it, requirements, found, member⟩
  · rintro ⟨it, requirements, found, member⟩
    exact ⟨requirements, ⟨it, found⟩, member⟩

theorem sumContributed_eq : sumContributed tables ∅ metadata =
    newRequirements tables (contributedList metadata.contributedRequirements) := by
  rw [newRequirements, add, contributedList, foldl_flatMap]
  rfl

theorem joinsAll_of_contributed {visited : List Requirement}
    (regular : ∀ it requirements, contributed.lookup it = some requirements →
      requirements.Regular tables)
    (order : visited.Perm (contributedList contributed)) :
    JoinsAll tables (newRequirements tables visited) {r | r ∈ contributedList contributed} := by
  have joined := (JoinsAll.empty tables).add visited fun r member => by
    obtain ⟨it, requirements, found, inValues⟩ := mem_contributedList.mp (order.mem_iff.mp member)
    obtain ⟨merges, normalized⟩ := (regular it requirements found).merges_of_mem_values inValues
    exact ⟨merges.itself, normalized⟩
  have sameParts : (∅ : Set Requirement) ∪ {r | r ∈ visited} =
      {r | r ∈ contributedList contributed} := by
    ext r
    simp [order.mem_iff]
  exact sameParts ▸ joined

theorem totalled_of_sum (regular : metadata.Regular tables)
    (total : metadata.totalRequirements = sumContributed tables ∅ metadata) :
    metadata.Totalled tables := by
  refine ⟨regular, ?_⟩
  rw [total, sumContributed_eq]
  exact joinsAll_of_contributed regular.contributed (.refl _)

theorem releaseMetadata_totalled (nodeClaimID : NodeClaimID) (instanceTypes : List InstanceTypeID)
    (totalled : metadata.Totalled env.tables) :
    (releaseMetadata env nodeClaimID instanceTypes metadata).Totalled env.tables := by
  have regular := @releaseMetadata_regular env metadata nodeClaimID instanceTypes totalled.regular
  unfold releaseMetadata at regular ⊢
  split_ifs at regular ⊢ with otherNodeClaim contributes
  · exact totalled
  · exact totalled_of_sum regular rfl
  · refine ⟨regular, ?_⟩
    -- nothing was contributed by the released instance types
    have sameParts : {r | r ∈ contributedList metadata.contributedRequirements} = {r | r ∈
        contributedList (metadata.contributedRequirements.eraseAll instanceTypes)} := by
      ext r
      simp only [Set.mem_ofPred_eq, mem_contributedList, GoMap.lookup_eraseAll]
      constructor
      · rintro ⟨it, requirements, found, member⟩
        refine ⟨it, requirements, ?_, member⟩
        rw [if_neg, found]
        intro released
        apply contributes
        refine any_eq_true.mpr ⟨it, released, ?_⟩
        obtain ⟨key, isRequired⟩ := GoMap.mem_values_iff.mp member
        have nonempty := ne_nil_of_mem (GoMap.mem_entries_iff.mpr isRequired)
        simpa [found] using nonempty
      · rintro ⟨it, requirements, found, member⟩
        split_ifs at found
        exact ⟨it, requirements, found, member⟩
    exact sameParts ▸ totalled.joins

theorem implies_of_joinsAll {r s : Requirements} {parts fewer : Set Requirement}
    (all : JoinsAll tables r parts) (rest : JoinsAll tables s fewer) (subset : fewer ⊆ parts) :
    r.Implies s := by
  intro key requirement found
  obtain ⟨-, merges⟩ := rest.merges.merged key requirement found
  obtain ⟨part, inFewer, partKey⟩ := merges.nonempty
  cases narrower : r.lookup key with
  | none => exact absurd partKey (all.merges.absent key narrower part (subset inFewer))
  | some narrowed =>
    refine ⟨narrowed, rfl, fun value allowed => ?_⟩
    have everywhere := ((all.merges.merged key narrowed narrower).2.has value).mp allowed
    exact (merges.has value).mpr fun part member => everywhere part ⟨subset member.1, member.2⟩

def Allocator.releaseBatches (env : Environment) (nodeClaimID : NodeClaimID) (allocator : Allocator)
    (batches : List (List InstanceTypeID)) : Except Panic Allocator :=
  batches.foldlM (fun allocator instanceTypes =>
    allocator.releaseInstanceType env nodeClaimID instanceTypes) allocator

theorem lookup_releaseBatches {allocator released : Allocator} {id : ResourceClaimID}
    {batches : List (List InstanceTypeID)} {nodeClaimID : NodeClaimID}
    (totalled : metadata.Totalled env.tables) (own : metadata.nodeClaimID = nodeClaimID)
    (found : allocator.claimAllocationMetadata.lookup id = some metadata)
    (done : allocator.releaseBatches env nodeClaimID batches = .ok released) :
    ∃ metadata', released.claimAllocationMetadata.lookup id = some metadata' ∧
      metadata'.Totalled env.tables ∧
      ∀ it, metadata'.contributedRequirements.lookup it =
        (metadata.contributedRequirements.eraseAll batches.flatten).lookup it := by
  induction batches generalizing allocator metadata with
  | nil =>
    cases done
    exact ⟨metadata, found, totalled, fun it => rfl⟩
  | cons batch rest ih =>
    obtain ⟨next, isNext, others⟩ := FallibleLoop.bind_eq_ok.mp done
    have contributed : (releaseMetadata env nodeClaimID batch
        metadata).contributedRequirements = metadata.contributedRequirements.eraseAll batch := by
      unfold releaseMetadata
      rw [if_neg (not_not.mpr own)]
      split_ifs <;> rfl
    have sameNodeClaim : (releaseMetadata env nodeClaimID batch metadata).nodeClaimID =
        nodeClaimID := by
      unfold releaseMetadata
      split_ifs <;> exact own
    obtain ⟨metadata', isFound, isTotalled, same⟩ :=
      ih (releaseMetadata_totalled nodeClaimID batch totalled) sameNodeClaim
        (by rw [lookup_releaseInstanceType isNext, found]; rfl) others
    refine ⟨metadata', isFound, isTotalled, fun it => ?_⟩
    rw [same, contributed]
    simp only [GoMap.lookup_eraseAll, flatten_cons, mem_append]
    split_ifs <;> tauto

/-- After any releases on its NodeClaim, the requirements of a committed claim are
those that the instance types not released contribute, added up in any order. They
allow whatever they allowed before. -/
theorem total_after_releases (env : Environment) (allocatedState : AllocatedDeviceState)
    (loop : Loop)
    (reached : Reaches (Loop.apply env) (Loop.Enabled Loop.AnyInput) (Loop.start env allocatedState)
      loop)
    (id : ResourceClaimID) (metadata : ResourceClaimAllocationMetadata)
    (committed : loop.allocator.claimAllocationMetadata.lookup id = some metadata)
    (batches : List (List InstanceTypeID)) (released : Allocator)
    (done : loop.allocator.releaseBatches env metadata.nodeClaimID batches = .ok released) :
    ∃ metadata', released.claimAllocationMetadata.lookup id = some metadata' ∧
      (∀ visited : List Requirement, visited.Perm (contributedList
          (metadata.contributedRequirements.eraseAll batches.flatten)) →
        ∀ key, Option.Rel Requirement.Alike (metadata'.totalRequirements.lookup key)
          ((Requirements.newRequirements env.tables visited).lookup key)) ∧
      metadata.totalRequirements.Implies metadata'.totalRequirements := by
  have totalled : metadata.Totalled env.tables :=
    Loop.reaches_metadata (fun metadata => metadata.Totalled env.tables)
      (fun _ => totalled_of_sum) (fun _ _ _ => releaseMetadata_totalled _ _) reached committed
  obtain ⟨metadata', found, totalled', same⟩ := lookup_releaseBatches totalled rfl committed done
  have sameParts : {r | r ∈ contributedList metadata'.contributedRequirements} = {r | r ∈
      contributedList (metadata.contributedRequirements.eraseAll batches.flatten)} := by
    ext r
    simp only [Set.mem_ofPred_eq, mem_contributedList, same]
  have joins := sameParts ▸ totalled'.joins
  refine ⟨metadata', found, fun visited order key => ?_, ?_⟩
  · refine joins.determined (joinsAll_of_contributed (fun it requirements kept => ?_) order) key
    rw [GoMap.lookup_eraseAll] at kept
    split_ifs at kept
    exact totalled.regular.contributed it requirements kept
  · refine implies_of_joinsAll totalled.joins joins fun r member => ?_
    obtain ⟨it, requirements, kept, inValues⟩ := mem_contributedList.mp member
    rw [GoMap.lookup_eraseAll] at kept
    split_ifs at kept
    exact mem_contributedList.mpr ⟨it, requirements, kept, inValues⟩

/-- Whether the requirements allow each of three zones. -/
def zonesOf (requirements : Requirements) : Option (List Bool) :=
  (requirements.lookup labelTopologyZone).map fun r => ["a", "b", "c"].map r.has

/-- The instance types have devices in different zones. Both zones of the second
one are allowed once the first one is released. -/
theorem total_after_releases_numa : ∃ loop metadata released metadata',
    (Loop.start numaEnvironment {}).schedule numaEnvironment patientOracle numaNodeClaim
      [numaClaim] = .ok loop ∧
    loop.allocator.claimAllocationMetadata.lookup numaClaim.id = some metadata ∧
    zonesOf metadata.totalRequirements = some [false, true, false] ∧
    loop.allocator.releaseBatches numaEnvironment metadata.nodeClaimID [["small"]] =
      .ok released ∧
    released.claimAllocationMetadata.lookup numaClaim.id = some metadata' ∧
    zonesOf metadata'.totalRequirements = some [false, true, true] ∧
    metadata.totalRequirements.Implies metadata'.totalRequirements := by
  have seen : (((Loop.start numaEnvironment {}).schedule numaEnvironment patientOracle numaNodeClaim
      [numaClaim]).toOption.bind fun loop =>
        (loop.allocator.claimAllocationMetadata.lookup numaClaim.id).bind fun metadata =>
          (loop.allocator.releaseBatches numaEnvironment metadata.nodeClaimID
            [["small"]]).toOption.bind fun released =>
              (released.claimAllocationMetadata.lookup numaClaim.id).map fun metadata' =>
                (zonesOf metadata.totalRequirements, zonesOf metadata'.totalRequirements)) =
      some (some [false, true, false], some [false, true, true]) := by
    decide +kernel
  obtain ⟨loop, scheduled, inLoop⟩ := Option.bind_eq_some_iff.mp seen
  obtain ⟨metadata, committed, isReleased⟩ := Option.bind_eq_some_iff.mp inLoop
  obtain ⟨released, done, inReleased⟩ := Option.bind_eq_some_iff.mp isReleased
  obtain ⟨metadata', isFound, zones⟩ := Option.map_eq_some_iff.mp inReleased
  rw [FallibleLoop.toOption_eq_some] at scheduled done
  obtain ⟨other, found, -, wider⟩ := total_after_releases numaEnvironment {} loop
    (Loop.reaches_schedule trivial .start scheduled) numaClaim.id metadata committed _ released done
  obtain rfl := Option.some.inj (isFound.symm.trans found)
  obtain ⟨before, after⟩ := Prod.mk.inj zones
  exact ⟨loop, metadata, released, metadata', scheduled, committed, before, done, found, after, wider⟩

end Kraftsman.DynamicResources
