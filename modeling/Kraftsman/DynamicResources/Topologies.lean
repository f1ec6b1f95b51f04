import Kraftsman.DynamicResources.Claims
import Kraftsman.DynamicResources.Contributions
import Kraftsman.DynamicResources.Selection

/-!
Contract: whether the requirements of an allocation imply the topology of all
claims of the pod.

Owns: the topology of an allocated claim, what the classification of claims
gathers, and when a result carries all topologies.
Does not own: which devices are found.
-/

namespace Kraftsman.DynamicResources

open Apis Data Scheduling FallibleLoop GoMap Loop Allocator Option List

/-! ### Topologies -/

/-- The topologies of published devices that satisfy a request, if it asks about them. -/
def takeableTopologies (env : Environment) (claims : List ResourceClaim) (asked : DeviceID → Prop) :
    Set Requirements :=
  {topology | ∃ slice ∈ currentSlices env.inClusterSlices,
    ∃ dw ∈ sliceDevices env.tables slice.poolKey slice,
      dw.topologyRequirements = some topology ∧ asked dw.id ∧
        ∃ claim ∈ claims, ∃ request ∈ claim.requests, ∃ req, request.exactly = some req ∧
          deviceSatisfies env (requestSelectors env req) dw = true}

variable (env : Environment) (allocator : Allocator)

def allocatedTopology (claim : ResourceClaim) : Option Requirements :=
  match claim.allocation with
  | some nodeSelector =>
    if claimReservedEntirelyByDeletingPods env claim then none
    else nodeSelector.map (nodeSelectorsToRequirements env.tables)
  | none => (allocator.claimAllocationMetadata.lookup claim.id).map fun metadata =>
    metadata.totalRequirements

def templateBound (allocator : Allocator) (claim : ResourceClaim) : Bool :=
  claim.allocation.isNone &&
    (allocator.claimAllocationMetadata.lookup claim.id).any fun metadata =>
      metadata.usedTemplateDevices

def topologySources (nodeClaim : NodeClaim) (claims : List ResourceClaim)
    (asked : DeviceID → Prop) : Set Requirements :=
  {requirements | requirements = nodeClaim.requirements ∨
    (∃ claim ∈ claims, allocatedTopology env allocator claim = some requirements) ∨
    requirements ∈ takeableTopologies env (claims.filter (needsAllocation env allocator)) asked}

/-- The NodeClaim and the result imply the topology of every claim allocated
before and of every device. -/
def TopologyImplied (oracle : Oracle) (nodeClaim : NodeClaim) (claims : List ResourceClaim)
    (result : AllocationResult) : Prop :=
  ∀ labels, (nodeClaim.requirements.add env.tables result.requirements.values).Admits labels →
    (∀ claim ∈ claims, ∀ topology, allocatedTopology env allocator claim = some topology →
      topology.Admits labels) ∧
    ∀ classified allocation, classifyClaims env allocator nodeClaim claims = .ok classified →
      result.allocation = some allocation → ∀ it ∈ result.instanceTypes,
        ∀ ids, allocation.deviceIDsByIT.lookup it = some ids → ∀ id ∈ ids, ∀ dw,
          Usable (visiblePools env allocator oracle nodeClaim classified.requirements) nodeClaim it
            dw → dw.id = id →
              ∀ topology, dw.topologyRequirements = some topology → topology.Admits labels

/-- Merging does not lose that a label has to exist, and claims allocated before
have a topology that the NodeClaim implies by itself, unless all are allocated and
it is not bound by template devices. -/
structure TopologyCarried (env : Environment) (allocator : Allocator) (nodeClaim : NodeClaim)
    (claims : List ResourceClaim) (asked : DeviceID → Prop) : Prop where
  unambiguous : Unambiguous (topologySources env allocator nodeClaim claims asked)
  implied : ∀ claim ∈ claims, ∀ topology, allocatedTopology env allocator claim = some topology →
    (∀ labels, nodeClaim.requirements.Admits labels → topology.Admits labels) ∨
      (templateBound allocator claim = false ∧
        ∀ other ∈ claims, needsAllocation env allocator other = false)

theorem regular_nodeSelectorsToRequirements (tables : LabelTables) (terms : List NodeSelectorTerm) :
    (nodeSelectorsToRequirements tables terms).Regular tables := by
  have merged : ∀ term ∈ terms, MergesAll tables
      (Requirements.newNodeSelectorRequirements tables term.matchExpressions)
      (Requirements.newNodeSelectorRequirements tables term.matchExpressions).parts :=
    fun term _ => regular_newNodeSelectorRequirements tables term.matchExpressions
  exact ((MergesAll.empty tables).foldl_add_values merged).regular

theorem regular_of_sliceTopologyRequirements {tables : LabelTables} {slice : ResourceSlice}
    {topology : Requirements} (found : sliceTopologyRequirements tables slice = some topology) :
    topology.Regular tables := by
  unfold sliceTopologyRequirements at found
  split_ifs at found
  obtain ⟨terms, -, rfl⟩ := map_eq_some_iff.mp found
  exact regular_nodeSelectorsToRequirements tables terms

theorem topology_of_mem_sliceDevices {tables : LabelTables} {key : PoolKey} {slice : ResourceSlice}
    {dw : DeviceWithID} (member : dw ∈ sliceDevices tables key slice) :
    dw.topologyRequirements = sliceTopologyRequirements tables slice := by
  obtain ⟨device, -, rfl⟩ := mem_map.mp member
  rfl

theorem topology_of_mem_templateDevices {nodeClaim : NodeClaim} {it : InstanceTypeID}
    {dw : DeviceWithID} (member : dw ∈ ((templateDevicesByIT nodeClaim).lookup it).getD []) :
    dw.topologyRequirements = none := by
  obtain ⟨slices, inSlices⟩ := exists_of_mem_templateDevices member
  obtain ⟨slice, -, inSlice⟩ := mem_flatMap.mp inSlices
  obtain ⟨device, -, rfl⟩ := mem_map.mp inSlice
  rfl

/-- A device with a topology is published in a current slice. -/
theorem slice_of_offered {env : Environment} {tracker : AllocationTracker}
    {nodeClaim : NodeClaim} {pools : List Pool} (published : PublishedPools env pools)
    {it : InstanceTypeID} {dw : DeviceWithID}
    (offered : (searchContext env tracker nodeClaim it).Offered pools dw) {topology : Requirements}
    (found : dw.topologyRequirements = some topology) : dw ∈ slicedDevices env.tables pools ∧
      ∃ slice ∈ currentSlices env.inClusterSlices,
        dw ∈ sliceDevices env.tables slice.poolKey slice := by
  rcases offered with inPools | inTemplates
  · refine ⟨inPools, ?_⟩
    obtain ⟨pool, isPool, inPool⟩ := mem_flatMap.mp inPools
    obtain ⟨slice, inSlices, inSlice⟩ := mem_flatMap.mp inPool
    obtain ⟨current, own⟩ := (published pool isPool).slices_published slice inSlices
    exact ⟨slice, current, own ▸ inSlice⟩
  · rw [topology_of_mem_templateDevices inTemplates] at found
    cases found

/-! ### Claims that are allocated -/

/-- Requirements that gather the topologies of the claims so far. -/
structure Tightened (env : Environment) (allocator : Allocator) (nodeClaim : NodeClaim)
    (sources : Set Requirements) (seen : List ResourceClaim) (requirements : Requirements)
    (base : Set Requirements) : Prop where
  own : nodeClaim.requirements ∈ base
  known : base ⊆ sources
  carried : ∀ claim ∈ seen, ∀ topology, allocatedTopology env allocator claim = some topology →
    templateBound allocator claim = true ∨ topology.entries = [] ∨ topology ∈ base
  gathered : Sensible env.tables sources → Gathered env.tables requirements base

section Classification

variable {env allocator} {nodeClaim : NodeClaim}
variable {claims : List ResourceClaim} {sources : Set Requirements}

variable {before after : ClassificationResult} {claim : ResourceClaim}

theorem classifyClaim_eq_ok (done : classifyClaim env allocator nodeClaim before claim = .ok after) :
    (after.requirements = before.requirements ∧
      ∀ topology, allocatedTopology env allocator claim = some topology →
        templateBound allocator claim ∨ topology.entries = []) ∨
    ∃ topology, allocatedTopology env allocator claim = some topology ∧
      before.requirements.isCompatible env.tables topology env.tables.wellKnownLabels ∧
      after.requirements = before.requirements.add env.tables topology.values := by
  unfold classifyClaim at done
  unfold allocatedTopology templateBound
  cases inCluster : claim.allocation with
  | some nodeSelector =>
    rw [inCluster] at done
    dsimp only at done ⊢
    split_ifs at done ⊢ with migrating
    · cases done
      exact .inl ⟨rfl, by simp⟩
    · cases nodeSelector with
      | none =>
        cases done
        exact .inl ⟨rfl, by simp⟩
      | some terms =>
        dsimp only at done
        split_ifs at done with compatible
        cases done
        exact .inr ⟨_, rfl, compatible, rfl⟩
  | none =>
    rw [inCluster] at done
    dsimp only at done ⊢
    cases inMemory : allocator.claimAllocationMetadata.lookup claim.id with
    | none =>
      rw [inMemory] at done
      cases done
      exact .inl ⟨rfl, by simp⟩
    | some metadata =>
      rw [inMemory] at done
      dsimp only at done
      split_ifs at done with bound elsewhere empty compatible
      · cases done
        exact .inl ⟨rfl, by simp [bound]⟩
      · cases done
        exact .inl ⟨rfl, by simp [isEmpty_iff.mp empty]⟩
      · cases done
        exact .inr ⟨_, rfl, compatible, rfl⟩

theorem Tightened.step {seen : List ResourceClaim} {base : Set Requirements}
    (tightened : Tightened env allocator nodeClaim sources seen before.requirements base)
    (known : ∀ topology, allocatedTopology env allocator claim = some topology → topology ∈ sources)
    (done : classifyClaim env allocator nodeClaim before claim = .ok after) :
    ∃ base', Tightened env allocator nodeClaim sources (seen ++ [claim]) after.requirements base' := by
  rcases classifyClaim_eq_ok done with ⟨same, nothing⟩ | ⟨topology, isTopology, compatible, added⟩
  · refine ⟨base, tightened.own, tightened.known, ?_, same ▸ tightened.gathered⟩
    intro other member topology isTopology
    rcases mem_append.mp member with earlier | isLast
    · exact tightened.carried other earlier topology isTopology
    · rw [mem_singleton.mp isLast] at isTopology ⊢
      exact (nothing topology isTopology).imp_right .inl
  · have within : insert topology base ⊆ sources :=
      Set.insert_subset (known topology isTopology) tightened.known
    refine ⟨insert topology base, .inr tightened.own, within, ?_, fun sensible => ?_⟩
    · intro other member otherTopology isOther
      rcases mem_append.mp member with earlier | isLast
      · exact (tightened.carried other earlier otherTopology isOther).imp_right
          fun carried => carried.imp_right .inr
      · rw [mem_singleton.mp isLast, isTopology] at isOther
        exact .inr (.inr (.inl (some.inj isOther).symm))
    · rw [added]
      exact (tightened.gathered sensible).add
        (sensible.regular topology (known topology isTopology)) compatible
        (sensible.unambiguous.mono within)

theorem classifyClaims_tightened {classified : ClassificationResult}
    (own : nodeClaim.requirements ∈ sources)
    (known : ∀ claim ∈ claims, ∀ topology, allocatedTopology env allocator claim = some topology →
      topology ∈ sources)
    (done : classifyClaims env allocator nodeClaim claims = .ok classified) :
    ∃ base, Tightened env allocator nodeClaim sources claims classified.requirements base := by
  let tightening : List ResourceClaim → ClassificationResult → Prop := fun left result =>
    ∃ seen base, seen ++ left = claims ∧
      Tightened env allocator nodeClaim sources seen result.requirements base
  have step : ∀ claim left before after, tightening (claim :: left) before →
      classifyClaim env allocator nodeClaim before claim = .ok after → tightening left after := by
    rintro claim left before after ⟨seen, base, isAll, tightened⟩ iteration
    obtain ⟨base', next⟩ := tightened.step (known claim (by simp [← isAll])) iteration
    exact ⟨seen ++ [claim], base', by simp [isAll], next⟩
  have start : tightening claims ⟨[], copyRequirements env.tables nodeClaim.requirements⟩ := by
    refine ⟨[], {nodeClaim.requirements}, rfl, rfl, by simpa using own, by simp, fun sensible => ?_⟩
    have gathered := gathered_singleton (sensible.regular _ own)
    refine gathered.of_merges (gathered.merges.congr fun key => ?_)
    exact Requirements.lookup_newRequirements_values _ gathered.merges.keyed.named key
  obtain ⟨seen, base, isAll, tightened⟩ := foldlM_preserves tightening step start done
  rw [append_nil] at isAll
  exact ⟨base, isAll ▸ tightened⟩

end Classification

/-! ### Devices that are allocated -/

section Results

variable {env allocator} {oracle : Oracle} {nodeClaim : NodeClaim}
variable {claims : List ResourceClaim} {result : AllocationResult}
variable {classified : ClassificationResult} {claimData : List ClaimData}
variable {results : InstanceTypeResults} {base : Set Requirements} {records : List Record}

theorem Evaluated.recorded
    (stages : Evaluated env allocator oracle nodeClaim claims result classified claimData results)
    (cache : allocator.CachePublished env) (base : Set Requirements) :
    ∃ records, Recorded env allocator.allocationTracker nodeClaim
      (visiblePools env allocator oracle nodeClaim classified.requirements) claimData
      classified.requirements base results records := by
  have sliced := @sliced_visiblePools env nodeClaim allocator oracle classified.requirements
  have fromSlices := visiblePools_published cache oracle nodeClaim classified.requirements
  have offers := offers_of_validated stages.validated sliced allocator.allocationTracker
  let recording : List InstanceTypeID → InstanceTypeResults → Prop := fun _ results =>
    ∃ records, Recorded env allocator.allocationTracker nodeClaim
      (visiblePools env allocator oracle nodeClaim classified.requirements) claimData
      classified.requirements base results records
  have step : ∀ it left middle middle', recording (it :: left) middle →
      allocateInstanceType env allocator.allocationTracker nodeClaim claimData
        (visiblePools env allocator oracle nodeClaim classified.requirements) middle it =
          .ok middle' → recording left middle' := by
    rintro it left middle middle' ⟨records, recorded⟩ iteration
    refine recorded.step sliced offers (fun it dw offered topology found => ?_) iteration
    obtain ⟨-, slice, -, inSlice⟩ := slice_of_offered fromSlices offered found
    exact regular_of_sliceTopologyRequirements ((topology_of_mem_sliceDevices inSlice).symm.trans found)
  refine foldlM_preserves recording step ⟨[], ?_⟩ stages.evaluated
  have nothing : recordedTopologies [] = ∅ := by simp [recordedTopologies]
  refine ⟨by simp, by simp, by simp, by simp, by simp, ?_, by simp, ?_⟩
  · intro index metadata isMetadata it
    obtain ⟨-, -, rfl⟩ := getElem?_map .. ▸ isMetadata |> map_eq_some_iff.mp
    simpa [contributions, nothing, partsOf] using MergesAll.empty env.tables
  · intro _ gathered
    simpa [nothing] using gathered

variable {tracker : AllocationTracker} {pools : List Pool} {start : Requirements}

theorem Recorded.result_merges
    (recorded : Recorded env tracker nodeClaim pools claimData start base results records)
    (finished : finishAllocation env nodeClaim claimData pools results = .ok result) :
    MergesAll env.tables result.requirements (partsOf (recordedTopologies records)) := by
  unfold finishAllocation at finished
  split_ifs at finished
  cases finished
  dsimp only
  rw [foldl_map]
  exact recorded.contributed.total fun entry member => by
    rw [recorded.length]
    exact recorded.indexes entry member

theorem finishAllocation_devices {allocation : Allocation}
    (finished : finishAllocation env nodeClaim claimData pools results = .ok result)
    (found : result.allocation = some allocation) :
    allocation.deviceIDsByIT = results.tracked.deviceIDsByIT := by
  unfold finishAllocation at finished
  split_ifs at finished
  cases finished
  cases found
  rfl

theorem Recorded.mem_topologies {it : InstanceTypeID} {ids : List DeviceID} {dw : DeviceWithID}
    {topology : Requirements}
    (recorded : Recorded env tracker nodeClaim pools claimData start base results records)
    (sliced : ∀ pool ∈ pools, pool.Sliced env.tables) (distinct : DistinctDevices env.tables pools)
    (listed : results.tracked.deviceIDsByIT.lookup it = some ids) (member : dw.id ∈ ids)
    (usable : Usable pools nodeClaim it dw) (found : dw.topologyRequirements = some topology) :
    topology ∈ recordedTopologies records := by
  obtain ⟨entry, inRecords, rfl, sameID⟩ := recorded.devices it ids listed dw.id member
  rw [@usable_iff_offered env tracker nodeClaim pools entry.1 sliced] at usable
  refine mem_recordedTopologies.mpr ⟨entry, inRecords, ?_⟩
  rcases usable with inPools | inTemplates
  · rcases recorded.offered entry inRecords with entryInPools | entryInTemplates
    · rw [distinct _ entryInPools dw inPools sameID]
      exact found
    · have template := template_of_mem_templateDevices entryInTemplates
      rw [sameID, template_of_mem_slicedDevices inPools] at template
      cases template
  · rw [topology_of_mem_templateDevices inTemplates] at found
    cases found

end Results

/-! ### Claims that were allocated in the loop -/

/-- Metadata whose requirements are as the constructors leave them. -/
structure ResourceClaimAllocationMetadata.Regular (tables : LabelTables)
    (metadata : ResourceClaimAllocationMetadata) : Prop where
  total : metadata.totalRequirements.Regular tables
  contributed : ∀ it requirements, metadata.contributedRequirements.lookup it = some requirements →
    requirements.Regular tables

def Allocator.MetadataRegular : Prop :=
  ∀ id metadata, allocator.claimAllocationMetadata.lookup id = some metadata →
    metadata.Regular env.tables

section Runs

variable {env}

variable {metadata : ResourceClaimAllocationMetadata}

theorem regular_sumContributed {tables : LabelTables} (contributed : ∀ it requirements,
      metadata.contributedRequirements.lookup it = some requirements → requirements.Regular tables) :
    (sumContributed tables ∅ metadata).Regular tables := by
  have merged : ∀ requirements ∈ metadata.contributedRequirements.values,
      MergesAll tables requirements requirements.parts := by
    intro requirements member
    obtain ⟨it, found⟩ := mem_values_iff.mp member
    exact contributed it requirements found
  exact ((MergesAll.empty tables).foldl_add_values merged).regular

theorem allocate_regular {allocator : Allocator} {oracle : Oracle} {nodeClaim : NodeClaim}
    {claims : List ResourceClaim} {result : AllocationResult} {allocation : Allocation}
    (cache : allocator.CachePublished env)
    (done : allocate env allocator oracle nodeClaim claims = .ok result)
    (found : result.allocation = some allocation) {id : ResourceClaimID}
    (listed : allocation.claimMetadata.lookup id = some metadata) :
    metadata.Regular env.tables ∧
      metadata.totalRequirements = sumContributed env.tables ∅ metadata := by
  obtain ⟨classified, claimData, results, stages⟩ := allocate_evaluated done found
  obtain ⟨records, recorded⟩ := stages.recorded cache ∅
  have finished := stages.finished
  unfold finishAllocation at finished
  split_ifs at finished
  cases finished
  cases found
  rcases exists_of_lookup_foldl_insert _ _ listed with absent | ⟨claim, member, -, rfl⟩
  · simp at absent
  obtain ⟨before, isBefore, isClaim⟩ := mem_map.mp (of_mem_zip member).2
  obtain ⟨index, inBounds⟩ := mem_iff_getElem?.mp isBefore
  have contributed : ∀ it requirements, before.contributedRequirements.lookup it =
      some requirements → requirements.Regular env.tables := by
    intro it requirements isContributed
    have merged := recorded.contributed index before inBounds it
    rw [isContributed] at merged
    exact merged.regular
  rw [← isClaim]
  exact ⟨⟨regular_sumContributed contributed, contributed⟩, rfl⟩

theorem releaseMetadata_regular {nodeClaimID : NodeClaimID} {instanceTypes : List InstanceTypeID}
    (regular : metadata.Regular env.tables) :
    (releaseMetadata env nodeClaimID instanceTypes metadata).Regular env.tables := by
  have contributed : ∀ it requirements,
      (metadata.contributedRequirements.eraseAll instanceTypes).lookup it = some requirements →
        requirements.Regular env.tables := by
    intro it requirements found
    rw [lookup_eraseAll] at found
    split_ifs at found
    exact regular.contributed it requirements found
  unfold releaseMetadata
  split_ifs
  · exact regular
  · exact ⟨regular_sumContributed contributed, contributed⟩
  · exact ⟨regular.total, contributed⟩

theorem lookup_releaseInstanceType {allocator released : Allocator} {nodeClaimID : NodeClaimID}
    {instanceTypes : List InstanceTypeID}
    (done : releaseInstanceType env allocator nodeClaimID instanceTypes = .ok released)
    (id : ResourceClaimID) :
    released.claimAllocationMetadata.lookup id = (allocator.claimAllocationMetadata.lookup id).map
      (releaseMetadata env nodeClaimID instanceTypes) := by
  obtain ⟨tracker, -, rfl⟩ := map_eq_ok.mp done
  dsimp only
  rw [lookup_rangeAlter]
  cases allocator.claimAllocationMetadata.lookup id <;> rfl

theorem Loop.reaches_metadata {allocatedState : AllocatedDeviceState} {loop : Loop}
    (Good : ResourceClaimAllocationMetadata → Prop)
    (allocated : ∀ metadata, metadata.Regular env.tables →
      metadata.totalRequirements = sumContributed env.tables ∅ metadata → Good metadata)
    (released : ∀ nodeClaimID instanceTypes metadata, Good metadata →
      Good (releaseMetadata env nodeClaimID instanceTypes metadata))
    (reached : Reaches (apply env) (Loop.Enabled Loop.AnyInput) (start env allocatedState)
      loop) {id : ResourceClaimID}
    (found : loop.allocator.claimAllocationMetadata.lookup id = some metadata) : Good metadata := by
  let good : Loop → Prop := fun loop => loop.Grounded env Loop.AnyInput ∧
    (∀ id metadata, loop.allocator.claimAllocationMetadata.lookup id = some metadata →
      Good metadata) ∧
    ∀ entry ∈ loop.computed, ∀ id metadata, entry.2.claimMetadata.lookup id = some metadata →
      Good metadata
  have initial : good (start env allocatedState) := by
    refine ⟨start_grounded allocatedState, fun id metadata found => ?_, by simp [start]⟩
    simp [start, newAllocator] at found
  refine (reached.invariant good initial ?_).2.1 id metadata found
  rintro state event state' ⟨grounded, known, computed⟩ enabled done
  refine ⟨apply_grounded grounded enabled done, ?_⟩
  cases event with
  | allocate oracle nodeClaim claims =>
    rw [apply] at done
    split at done
    · exact Except.ok.inj done ▸ ⟨known, computed⟩
    · next result isResult =>
        cases done
        refine ⟨known, fun entry member => ?_⟩
        rcases mem_append.mp member with old | new
        · exact computed entry old
        · obtain ⟨allocation, found, rfl⟩ := mem_map.mp new
          intro id metadata listed
          obtain ⟨regular, total⟩ :=
            allocate_regular grounded.cache isResult (mem_toList.mp found) listed
          exact allocated metadata regular total
  | commit allocation =>
    obtain ⟨allocator, committed, rfl⟩ := map_eq_ok.mp done
    refine ⟨?_, computed⟩
    obtain ⟨tracker, -, rest⟩ := bind_eq_ok.mp committed
    obtain ⟨claims, isCommitted, rfl⟩ := map_eq_ok.mp rest
    intro id metadata found
    rw [lookup_commitClaims isCommitted, or_eq_some_iff] at found
    rcases found with old | ⟨-, new⟩
    · exact known id metadata old
    · exact computed _ enabled id metadata new
  | release nodeClaimID instanceTypes =>
    obtain ⟨allocator, isReleased, rfl⟩ := map_eq_ok.mp done
    refine ⟨fun id metadata found => ?_, computed⟩
    dsimp only at found
    rw [lookup_releaseInstanceType isReleased] at found
    obtain ⟨old, before, rfl⟩ := map_eq_some_iff.mp found
    exact released _ _ _ (known id old before)

theorem Loop.reaches_metadataRegular {allocatedState : AllocatedDeviceState} {loop : Loop}
    (reached : Reaches (apply env) (Loop.Enabled Loop.AnyInput) (start env allocatedState)
      loop) : loop.allocator.MetadataRegular env :=
  fun _ _ => reaches_metadata (fun metadata => metadata.Regular env.tables)
    (fun _ regular _ => regular) (fun _ _ _ => releaseMetadata_regular) reached

end Runs

/-! ### Results imply topologies -/

section Implied

variable {env : Environment} {allocator : Allocator} {oracle : Oracle} {nodeClaim : NodeClaim}
variable {claims : List ResourceClaim} {result : AllocationResult}
variable {classified : ClassificationResult} {claimData : List ClaimData}
variable {results : InstanceTypeResults}

theorem admits_of_entries_eq_nil {requirements : Requirements} (empty : requirements.entries = [])
    (labels : String → Option String) : requirements.Admits labels := by
  intro key r found
  have member := mem_entries_iff.mpr found
  rw [empty] at member
  cases member

theorem regular_of_allocatedTopology (metadata : allocator.MetadataRegular env)
    {claim : ResourceClaim} {topology : Requirements}
    (found : allocatedTopology env allocator claim = some topology) : topology.Regular env.tables := by
  unfold allocatedTopology at found
  split at found
  · split_ifs at found
    obtain ⟨terms, -, rfl⟩ := map_eq_some_iff.mp found
    exact regular_nodeSelectorsToRequirements env.tables terms
  · obtain ⟨own, isOwn, rfl⟩ := map_eq_some_iff.mp found
    exact (metadata claim.id own isOwn).total

variable {asked : DeviceID → Prop}

theorem sensible_topologySources (regular : nodeClaim.requirements.Regular env.tables)
    (metadata : allocator.MetadataRegular env)
    (carried : TopologyCarried env allocator nodeClaim claims asked) :
    Sensible env.tables (topologySources env allocator nodeClaim claims asked) where
  regular := by
    rintro requirements (rfl | ⟨claim, -, found⟩ | ⟨slice, -, dw, inSlice, found, -⟩)
    · exact regular
    · exact regular_of_allocatedTopology metadata found
    · exact regular_of_sliceTopologyRequirements
        ((topology_of_mem_sliceDevices inSlice).symm.trans found)
  unambiguous := carried.unambiguous

theorem exists_tightened (asked : DeviceID → Prop)
    (isClassified : classifyClaims env allocator nodeClaim claims = .ok classified) :
    ∃ base, Tightened env allocator nodeClaim (topologySources env allocator nodeClaim claims asked)
      claims classified.requirements base := by
  refine classifyClaims_tightened ?_ ?_ isClassified
  · exact .inl rfl
  · exact fun claim member topology found => .inr (.inl ⟨claim, member, found⟩)

theorem request_of_requestAt {pools : List Pool} {unallocated : List ResourceClaim}
    (validated : validateClaims env pools nodeClaim unallocated = .ok claimData) {key : MatchKey}
    {rd : RequestData} (isRequest : requestAt claimData key = some rd) :
    ∃ claim ∈ unallocated, ∃ request ∈ claim.requests, ∃ req, request.exactly = some req ∧
      rd.selectors = requestSelectors env req := by
  obtain ⟨cd, isData, isRequest⟩ := Option.bind_eq_some_iff.mp isRequest
  obtain ⟨claim, inClaims, isClaim⟩ :=
    exists_related_of_mem_right (validateClaims_eq_ok validated) (mem_of_getElem? isData)
  obtain ⟨reqs, validated⟩ := validateClaimRequest_eq_ok isClaim
  obtain ⟨request, inRequests, req, own⟩ :=
    exists_related_of_mem_right validated.requests.related (mem_of_getElem? isRequest)
  exact ⟨claim, inClaims, request, inRequests, req, own.exactly, own.selectors⟩

/-- The devices recorded are ones that the claims can take. -/
theorem Evaluated.recorded_takeable {base : Set Requirements} {records : List Record}
    (stages : Evaluated env allocator oracle nodeClaim claims result classified claimData results)
    (cache : allocator.CachePublished env) (distinct : allocator.CacheDistinct env)
    (covers : ∀ entry ∈ results.tested, asked entry.2.deviceID)
    (recorded : Recorded env allocator.allocationTracker nodeClaim
      (visiblePools env allocator oracle nodeClaim classified.requirements) claimData
      classified.requirements base results records) :
    recordedTopologies records ⊆
      takeableTopologies env (claims.filter (needsAllocation env allocator)) asked := by
  intro topology member
  obtain ⟨entry, inRecords, found⟩ := mem_recordedTopologies.mp member
  obtain ⟨inPools, slice, current, inSlice⟩ := slice_of_offered
    (visiblePools_published cache oracle nodeClaim _) (recorded.offered entry inRecords) found
  obtain ⟨key, isTested, sameID, it, known, offered, knownID, rd, isRequest, satisfied⟩ :=
    recorded.wanted entry inRecords
  obtain ⟨claim, inClaims, request, inRequests, req, exactly, selectors⟩ :=
    request_of_requestAt stages.validated isRequest
  rw [classifyClaims_unallocated stages.isClassified] at inClaims
  refine ⟨slice, current, _, inSlice, found, sameID ▸ covers _ isTested, claim, inClaims, request,
    inRequests, req, exactly, selectors ▸ ?_⟩
  have distinct := distinct.visiblePools oracle nodeClaim classified.requirements
  refine satisfies_of_namesake distinct offered (.inl inPools) (knownID.trans sameID)
    satisfied fun _ (template : _ ∈ templatesOf nodeClaim it) => ?_
  have inCluster := template_of_mem_slicedDevices inPools
  rw [template_of_mem_templateDevices template] at inCluster
  cases inCluster

theorem mergesAll_union {requirements other : Requirements} {sources : Set Requirements}
    (regular : requirements.Regular env.tables)
    (merges : MergesAll env.tables other (partsOf sources)) :
    MergesAll env.tables (requirements.add env.tables other.values)
      (partsOf (insert requirements sources)) := by
  rw [partsOf_insert, Set.union_comm]
  exact MergesAll.add_values regular merges

theorem implied_of_allocated (regular : nodeClaim.requirements.Regular env.tables)
    (metadata : allocator.MetadataRegular env)
    (carried : TopologyCarried env allocator nodeClaim claims asked)
    (isClassified : classifyClaims env allocator nodeClaim claims = .ok classified) :
    TopologyImplied env allocator oracle nodeClaim claims
      ⟨nodeClaim.instanceTypes, classified.requirements, none⟩ := by
  have sensible := sensible_topologySources regular metadata carried
  obtain ⟨base, tightened⟩ := exists_tightened asked isClassified
  have gathered := tightened.gathered sensible
  have merged := mergesAll_union regular gathered.merges
  rw [Set.insert_eq_of_mem tightened.own] at merged
  intro labels admits
  have all := gathered.admits (sensible.unambiguous.mono tightened.known) (subset_refl _) merged admits
  refine ⟨fun claim member topology found => ?_, by simp⟩
  rcases carried.implied claim member topology found with implied | ⟨unbound, -⟩
  · exact implied labels (all _ tightened.own)
  · rcases tightened.carried claim member topology found with bound | empty | inBase
    · rw [unbound] at bound
      cases bound
    · exact admits_of_entries_eq_nil empty labels
    · exact all topology inBase

section

variable (stages : Evaluated env allocator oracle nodeClaim claims result classified claimData results)
include stages

/-- If some claim is searched for, the result has the topologies of the devices
found, and the NodeClaim has to imply the others. -/
theorem Evaluated.implied (searches : classified.unallocatedClaims ≠ [])
    (cache : allocator.CachePublished env) (distinct : allocator.CacheDistinct env)
    (metadata : allocator.MetadataRegular env) (regular : nodeClaim.requirements.Regular env.tables)
    (covers : ∀ entry ∈ results.tested, asked entry.2.deviceID)
    (carried : TopologyCarried env allocator nodeClaim claims asked) :
    TopologyImplied env allocator oracle nodeClaim claims result := by
  have sensible := sensible_topologySources regular metadata carried
  obtain ⟨base, tightened⟩ := exists_tightened asked stages.isClassified
  obtain ⟨records, recorded⟩ := stages.recorded cache base
  have known : base ∪ recordedTopologies records ⊆ topologySources env allocator nodeClaim claims asked :=
    Set.union_subset tightened.known fun topology member =>
      .inr (.inr (stages.recorded_takeable cache distinct covers recorded member))
  have gathered := recorded.gathered (sensible.mono known) (tightened.gathered sensible)
  have merged := mergesAll_union regular (recorded.result_merges stages.finished)
  have subset : insert nodeClaim.requirements (recordedTopologies records) ⊆
      base ∪ recordedTopologies records :=
    Set.insert_subset (.inl tightened.own) Set.subset_union_right
  intro labels admits
  have all := gathered.admits (sensible.unambiguous.mono known) subset merged admits
  refine ⟨fun claim member topology found => ?_, ?_⟩
  · rcases carried.implied claim member topology found with implied | ⟨-, allAllocated⟩
    · exact implied labels (all _ (.inl rfl))
    · refine absurd ?_ searches
      rw [classifyClaims_unallocated stages.isClassified, filter_eq_nil_iff]
      exact fun other inClaims => by simp [allAllocated other inClaims]
  · rintro other allocation isClassified isAllocation it - ids listed id member dw usable rfl topology
      found
    obtain rfl := Except.ok.inj (stages.isClassified.symm.trans isClassified)
    rw [finishAllocation_devices stages.finished isAllocation] at listed
    exact all topology (.inr (recorded.mem_topologies (sliced_visiblePools _)
      (distinct.visiblePools oracle nodeClaim classified.requirements) listed member usable found))

theorem Evaluated.requirements_of_unpublished (cache : allocator.CachePublished env)
    (unpublished : ∀ slice ∈ currentSlices env.inClusterSlices,
      sliceTopologyRequirements env.tables slice = none) : result.requirements.values = [] := by
  obtain ⟨records, recorded⟩ := stages.recorded cache ∅
  have merged := recorded.result_merges stages.finished
  rw [eq_nil_iff_forall_not_mem]
  intro r member
  obtain ⟨key, found⟩ := mem_values_iff.mp member
  obtain ⟨part, ⟨topology, isRecorded, -⟩, -⟩ := (merged.merged key r found).2.nonempty
  obtain ⟨entry, inRecords, isTopology⟩ := mem_recordedTopologies.mp isRecorded
  obtain ⟨-, slice, current, inSlice⟩ := slice_of_offered
    (visiblePools_published cache oracle nodeClaim _) (recorded.offered entry inRecords) isTopology
  rw [topology_of_mem_sliceDevices inSlice, unpublished slice current] at isTopology
  cases isTopology

end

end Implied

/-! ### A pinned claim -/

def pinnedClaim : ResourceClaim where
  id := { nameSpace := "default", name := "pinned" }
  requests := []
  allocation := some (some [{ matchExpressions := [labelExpression ⟨labelTopologyZone, "zone-a"⟩] }])

def pinnedTopology : Requirements :=
  nodeSelectorsToRequirements .base
    [{ matchExpressions := [labelExpression ⟨labelTopologyZone, "zone-a"⟩] }]

/-- Any zone at all. -/
def anyZone : List NodeSelectorTerm :=
  [{ matchExpressions := [⟨labelTopologyZone, .opExists, [], by decide⟩] }]

/-- A slice excludes a zone, but its device is not needed. -/
def edgeEnvironment : Environment :=
  { numaEnvironment with
    inClusterSlices := numaSlice "edge" 3
      (some [{ matchExpressions := [⟨labelTopologyZone, .opNotIn, ["a"], by decide⟩] }]) ::
        numaEnvironment.inClusterSlices }

def edgeNodeClaim : NodeClaim :=
  { gpuNodeClaim with requirements := nodeSelectorsToRequirements .base anyZone }

def anywhereClaim : ResourceClaim where
  id := { nameSpace := "default", name := "anywhere" }
  allocation := some (some anyZone)

theorem edge_carried : TopologyCarried edgeEnvironment (Loop.start edgeEnvironment {}).allocator
    edgeNodeClaim [anywhereClaim, gpuClaim] fun id => id.pool = "far" := by
  have own : ∀ entry ∈ edgeNodeClaim.requirements.entries, entry.2.values = ∅ := by decide +kernel
  have far : ∀ slice ∈ currentSlices edgeEnvironment.inClusterSlices,
      ∀ dw ∈ sliceDevices edgeEnvironment.tables slice.poolKey slice, dw.id.pool = "far" →
        dw.topologyRequirements.all fun topology => topology.entries.all fun entry =>
          !entry.2.complement := by
    decide +kernel
  have allocated : ∀ claim ∈ [anywhereClaim, gpuClaim], ∀ topology, allocatedTopology edgeEnvironment
      (start edgeEnvironment {}).allocator claim = some topology →
        topology = edgeNodeClaim.requirements := by
    intro claim member topology found
    rcases mem_pair.mp member with rfl | rfl
    · exact (some.inj found).symm
    · cases found
  refine ⟨?_, fun claim member topology found => .inl fun labels admits => ?_⟩
  · rintro - - other ⟨source, isSource, key, found⟩ - - - complement
    have member := mem_entries_iff.mpr found
    rcases isSource with rfl | ⟨claim, inClaims, isTopology⟩ | ⟨slice, current, dw, inSlice, isTopology, asked, -⟩
    · exact own _ member
    · rw [allocated claim inClaims source isTopology] at member
      exact own _ member
    · have concrete := far slice current dw inSlice asked
      rw [isTopology, Option.all_some, List.all_eq_true] at concrete
      exact absurd (concrete _ member) (by simp [complement])
  · rwa [allocated claim member topology found]

end Kraftsman.DynamicResources
