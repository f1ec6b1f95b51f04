import Kraftsman.Data.FallibleLoop
import Kraftsman.Provisioning.NodeClaim
import Kraftsman.Scheduling.Narrowing

/-!
Contract: what is known of a NodeClaim that takes a pod.

Owns: the room instance types have to leave, what the requirements are narrowed
by, and which offerings are reserved.
Does not own: the order in which NodeClaims are tried.
-/

namespace Kraftsman.Provisioning

open Apis CloudProvider Data Data.FallibleLoop Scheduling Resources Requirements List

variable (tables : LabelTables)

/-- An instance type meets the requirements and has room in an offering they allow. -/
structure Suits (requirements : Requirements) (requests : ResourceList) (group : DaemonOverheadGroup)
    (it : InstanceType) : Prop where
  compatible : compatible tables it requirements = true
  room : ∃ launch ∈ launchableGroups tables it requirements,
    Resources.fits (group.totalRequests requests) launch.allocatable = true

variable {requirements : Requirements} {requests : ResourceList} {group : DaemonOverheadGroup}
variable {it : InstanceType}

theorem Suits.of_sameSets {other : Requirements} (same : requirements.SameSets other)
    (suits : Suits tables requirements requests group it) :
    Suits tables other requests group it := by
  obtain ⟨compatible, launch, member, room⟩ := suits
  refine ⟨?_, launch, ?_, room⟩
  · unfold Provisioning.compatible at compatible ⊢
    rw [List.isEmpty_iff] at compatible ⊢
    exact same.intersects tables compatible
  · unfold launchableGroups Offering.compatible at member ⊢
    rw [mem_filter, any_eq_true] at member ⊢
    obtain ⟨listed, offering, offered, allowed⟩ := member
    exact ⟨listed, offering, offered, same.isCompatible tables offering.requirements _ ▸ allowed⟩

theorem DaemonOverheadGroup.amount_totalRequests (group : DaemonOverheadGroup) (requests : ResourceList)
    (resource : String) :
    amount (group.totalRequests requests) resource =
      amount requests resource + amount group.daemonOverhead resource := by
  unfold totalRequests
  split_ifs with empty
  · have absent : group.daemonOverhead.lookup resource = none :=
      GoMap.lookup_eq_none_of_entries_nil (List.isEmpty_iff.mp empty) resource
    simp [amount, absent]
  · simp [amount_merge]

theorem Suits.offering (suits : Suits tables requirements requests group it) :
    ∃ launch ∈ it.allocatableOfferingsList,
      (∃ offering ∈ launch.offerings, offering ∈ it.offerings ∧ offering.available ∧
        offering.compatible tables requirements) ∧
      ∀ resource, amount requests resource +
        amount group.daemonOverhead resource ≤ amount launch.allocatable resource := by
  obtain ⟨launch, member, room⟩ := suits.room
  obtain ⟨listed, some⟩ := mem_filter.mp member
  obtain ⟨offering, offered, allowed⟩ := any_eq_true.mp some
  obtain ⟨ofType, available⟩ := mem_allocatableOfferingsList listed offered
  refine ⟨launch, listed, ⟨offering, offered, ofType, available, allowed⟩, fun resource => ?_⟩
  rw [← group.amount_totalRequests]
  exact amount_le_of_fits room resource

theorem suits_of_mem_filter {instanceTypes : List InstanceType} {requirements : Requirements}
    {pod : Pod} {podRequests totalRequests : ResourceList} {groups : List DaemonOverheadGroup}
    {relaxMinValues : Bool} {it : InstanceType}
    (member : it ∈ (filterInstanceTypesByRequirements tables instanceTypes requirements pod
      podRequests groups totalRequests relaxMinValues).1) :
    it ∈ instanceTypes ∧ ∃ group ∈ groups, it ∈ group.instanceTypes ∧
      Suits tables requirements totalRequests group it := by
  unfold filterInstanceTypesByRequirements at member
  dsimp only at member
  have left : it ∈ ((judge tables instanceTypes requirements pod groups totalRequests).filter
      (·.met)).map (·.instanceType) := by
    split_ifs at member
    · cases member
    · exact member
    · cases member
    · exact member
  obtain ⟨criteria, judged, rfl⟩ := mem_map.mp left
  obtain ⟨listed, met⟩ := mem_filter.mp judged
  obtain ⟨group, inGroups, inGroup⟩ := mem_flatMap.mp listed
  obtain ⟨it, eligible, rfl⟩ := mem_map.mp inGroup
  obtain ⟨ofGroup, given⟩ := mem_filter.mp eligible
  have criteriaMet : (compatible tables it requirements ∧
      (fits tables it (group.totalRequests totalRequests) requirements).1) ∧
      (fits tables it (group.totalRequests totalRequests) requirements).2 := by
    simpa [Criteria.met] using met
  refine ⟨by simpa using given, group, (mem_filter.mp inGroups).1, ofGroup, criteriaMet.1.1, ?_⟩
  exact any_eq_true.mp criteriaMet.1.2

theorem relaxMinValuesTo_sameSets (unsatisfiable : GoMap String Nat) (requirements : Requirements) :
    (relaxMinValuesTo unsatisfiable requirements).SameSets requirements := by
  unfold relaxMinValuesTo
  induction unsatisfiable.entries generalizing requirements with
  | nil => exact .refl requirements
  | cons entry rest ih =>
    rw [foldl_cons]
    refine (ih _).trans fun key => ?_
    cases found : requirements.lookup entry.1 with
    | none => rfl
    | some requirement =>
      rw [GoMap.lookup_insert_eq]
      split_ifs with same
      · subst same
        rw [found]
        rfl
      · rfl

theorem relaxMinValuesTo_named {unsatisfiable : GoMap String Nat} (named : requirements.Named) :
    (relaxMinValuesTo unsatisfiable requirements).Named := by
  intro key requirement found
  obtain ⟨minValues, before⟩ := (relaxMinValuesTo_sameSets unsatisfiable requirements).lookup found
  have key := named key _ before
  exact key

namespace NodeClaim

variable {tables} {claim : NodeClaim} {options : Options} {topology : Topology}
  {manager : ReservationManager} {evaluation : Evaluation} {pod : Pod} {podData : PodData}
  {relaxMinValues : Bool}

variable {requirements narrowed : Requirements} {instanceTypes : List InstanceType}
variable {panic : ReservationPanic}

theorem addCompatible_eq_ok {reject : Requirements.CompatibilityError → Rejection}
    {added result : Requirements}
    (done : addCompatible tables reject requirements added = .ok result) :
    requirements.isCompatible tables added tables.wellKnownLabels ∧
      result = requirements.add tables added.values := by
  unfold addCompatible at done
  unfold isCompatible
  cases compatible : requirements.compatible tables added tables.wellKnownLabels with
  | error reason =>
    rw [compatible] at done
    cases done
  | ok _ =>
    rw [compatible] at done
    exact ⟨rfl, (Except.ok.inj done).symm⟩

variable {allocation : Option Allocation} {base : Requirements} {hostname : String}
variable {candidates offerings : List Offering} {offering : Offering}
variable {attempt : Nat → Requirements → Except ReservationPanic (Except SchedulingError Placement)}
variable {index : Nat} {alternatives : List Requirements} {placement : Placement}

theorem narrowByDevices_eq_ok {allocate : Option Allocation}
    (done : narrowByDevices tables options podData allocate requirements = .ok (narrowed,
      allocation)) :
    ∃ added, narrowed = requirements.add tables added := by
  unfold narrowByDevices at done
  split_ifs at done with asked unresolved
  · cases allocate with
    | none => cases done
    | some allocated =>
      obtain ⟨result, adds, same⟩ := except_map_eq_ok.mp done
      obtain ⟨rfl, -⟩ := Prod.mk.inj same
      exact ⟨_, (addCompatible_eq_ok adds).2⟩
  · obtain ⟨rfl, -⟩ := Prod.mk.inj (Except.ok.inj done)
    exact ⟨[], rfl⟩

theorem narrowByTopology_eq_ok {groupOrder : RangeOrder TopologyGroup}
    {domainOrder : Nat → RangeOrder String}
    (done : claim.narrowByTopology tables topology groupOrder domainOrder pod podData requirements =
      .ok narrowed) :
    ∃ topologyRequirements, topology.addRequirements tables groupOrder domainOrder pod claim.taints
        podData.strictRequirements requirements = .ok topologyRequirements ∧
      requirements.isCompatible tables topologyRequirements tables.wellKnownLabels ∧
      narrowed = requirements.add tables topologyRequirements.values := by
  unfold narrowByTopology at done
  cases added : topology.addRequirements tables groupOrder domainOrder pod claim.taints
      podData.strictRequirements requirements with
  | error reason =>
    rw [added] at done
    cases done
  | ok topologyRequirements =>
    rw [added] at done
    obtain ⟨compatible, same⟩ := addCompatible_eq_ok done
    exact ⟨topologyRequirements, rfl, compatible, same⟩

theorem narrowInstanceTypes_eq_ok
    (done : claim.narrowInstanceTypes tables topology pod podData relaxMinValues allocation
      requirements = .ok (narrowed, instanceTypes)) :
    narrowed.SameSets requirements ∧ (requirements.Named → narrowed.Named) ∧ instanceTypes ≠ [] ∧
      ∀ it ∈ instanceTypes, it ∈ claim.instanceTypeOptions ∧
        ∃ group ∈ claim.daemonOverheadGroups, it ∈ group.instanceTypes ∧
          Suits tables narrowed (merge [claim.requests, podData.requests]) group it := by
  unfold narrowInstanceTypes at done
  dsimp only at done
  have member := fun it : InstanceType => @suits_of_mem_filter tables claim.instanceTypeOptions
    requirements pod podData.requests (merge [claim.requests, podData.requests])
    claim.daemonOverheadGroups relaxMinValues it
  generalize filterInstanceTypesByRequirements tables claim.instanceTypeOptions requirements pod
    podData.requests claim.daemonOverheadGroups (merge [claim.requests, podData.requests])
    relaxMinValues = filtered at done member
  obtain ⟨remaining, unsatisfiable, error⟩ := filtered
  have relaxed : ∀ {result : Requirements}, (if relaxMinValues then
      relaxMinValuesTo unsatisfiable requirements else requirements) = result →
      result.SameSets requirements ∧ (requirements.Named → result.Named) := by
    rintro result rfl
    split_ifs
    · exact ⟨relaxMinValuesTo_sameSets unsatisfiable requirements, relaxMinValuesTo_named⟩
    · exact ⟨.refl requirements, id⟩
  have suits : ∀ {result : Requirements}, result.SameSets requirements → ∀ it ∈ remaining,
      it ∈ claim.instanceTypeOptions ∧ ∃ group ∈ claim.daemonOverheadGroups,
        it ∈ group.instanceTypes ∧
          Suits tables result (merge [claim.requests, podData.requests]) group it := by
    intro result same it left
    obtain ⟨given, group, inGroups, ofGroup, suited⟩ := member it left
    exact ⟨given, group, inGroups, ofGroup, suited.of_sameSets tables same.symm⟩
  by_cases empty : remaining.isEmpty
  · rw [if_pos empty] at done
    cases done
  · rw [if_neg empty] at done
    cases allocation with
    | none =>
      obtain ⟨same, rfl⟩ := Prod.mk.inj (Except.ok.inj done)
      obtain ⟨sets, named⟩ := relaxed same
      exact ⟨sets, named, by simpa using empty, suits sets⟩
    | some allocation =>
      dsimp only at done
      by_cases none : (remaining.filter fun it =>
          allocation.instanceTypes.contains it.name).isEmpty
      · rw [if_pos none] at done
        cases done
      · rw [if_neg none] at done
        obtain ⟨same, rfl⟩ := Prod.mk.inj (Except.ok.inj done)
        obtain ⟨sets, named⟩ := relaxed same
        exact ⟨sets, named, by simpa using none, fun it left =>
          suits sets it (mem_filter.mp left).1⟩

variable (tables) in
/-- How a pod narrows a NodeClaim: by volumes and devices, topology, and instance types. -/
structure Narrowing (claim : NodeClaim) (topology : Topology) (evaluation : Evaluation) (pod : Pod)
    (podData : PodData) (base requirements : Requirements) (instanceTypes : List InstanceType) : Prop where
  nonempty : instanceTypes ≠ []
  suits : ∀ it ∈ instanceTypes, it ∈ claim.instanceTypeOptions ∧
    ∃ group ∈ claim.daemonOverheadGroups, it ∈ group.instanceTypes ∧
      Suits tables requirements (Resources.merge [claim.requests, podData.requests]) group it
  named : base.Named → requirements.Named
  topology : ∃ alternative added topologyRequirements,
    topology.addRequirements tables (evaluation.groupOrder alternative)
      (evaluation.domainOrder alternative) pod claim.taints podData.strictRequirements
      (base.add tables added) = .ok topologyRequirements ∧
    (base.add tables added).isCompatible tables topologyRequirements tables.wellKnownLabels = true ∧
    requirements.SameSets ((base.add tables added).add tables topologyRequirements.values)

theorem narrowing_of_narrow {alternative : Nat} {volumeRequirements : Requirements}
    (done : claim.narrow tables options topology evaluation alternative pod podData base
      volumeRequirements relaxMinValues = .ok (requirements, instanceTypes)) :
    claim.Narrowing tables topology evaluation pod podData base requirements instanceTypes := by
  obtain ⟨withVolumes, volumesDone, done⟩ := bind_eq_ok.mp done
  obtain ⟨⟨withDevices, allocation⟩, devicesDone, done⟩ := bind_eq_ok.mp done
  obtain ⟨withTopology, topologyDone, done⟩ := bind_eq_ok.mp done
  obtain ⟨-, rfl⟩ := addCompatible_eq_ok volumesDone
  obtain ⟨devices, rfl⟩ := narrowByDevices_eq_ok devicesDone
  obtain ⟨topologyRequirements, added, compatible, rfl⟩ := narrowByTopology_eq_ok topologyDone
  obtain ⟨sets, named, nonempty, suits⟩ := narrowInstanceTypes_eq_ok done
  have joined : (base.add tables volumeRequirements.values).add tables devices =
      base.add tables (volumeRequirements.values ++ devices) := (foldl_append ..).symm
  rw [joined] at added compatible sets named
  exact
    { nonempty := nonempty
      suits := suits
      named := fun baseNamed => named ((baseNamed.add tables _).add tables _)
      topology := ⟨alternative, _, topologyRequirements, added, compatible, sets⟩ }

theorem Narrowing.implies
    (narrowing : claim.Narrowing tables topology evaluation pod podData base requirements
      instanceTypes) : requirements.Implies base := by
  obtain ⟨_, added, topologyRequirements, -, -, same⟩ := narrowing.topology
  exact (same.implies.trans (implies_add tables _ _)).trans (implies_add tables base added)

theorem reservable_ensures (candidates : List Offering) : Ensures
      (fun panic => ∃ offering ∈ candidates,
        manager.canReserve tables hostname offering = .error panic)
      (fun offerings => ∀ offering ∈ offerings,
        offering ∈ candidates ∧ manager.canReserve tables hostname offering = .ok true)
      (reservable tables manager hostname candidates) := by
  induction candidates with
  | nil => exact fun _ member => by cases member
  | cons candidate rest ih =>
    cases canDone : manager.canReserve tables hostname candidate with
    | error panic =>
      rw [reservable, canDone]
      exact ⟨candidate, mem_cons_self, canDone⟩
    | ok can =>
      rw [reservable, canDone]
      refine (ih.imp ?_).map fun others _ kept offering member => ?_
      · rintro panic ⟨offering, listed, fails⟩
        exact ⟨offering, mem_cons_of_mem _ listed, fails⟩
      · have later : offering ∈ others → offering ∈ candidate :: rest ∧
            manager.canReserve tables hostname offering = .ok true := fun inOthers =>
          (kept offering inOthers).imp_left (mem_cons_of_mem _)
        cases can with
        | false => exact later member
        | true =>
          rcases mem_cons.mp member with rfl | inOthers
          · exact ⟨mem_cons_self, canDone⟩
          · exact later inOthers

theorem offeringsToReserve_ensures (instanceTypes : List InstanceType) (requirements : Requirements) :
    Ensures (fun panic => ∃ offering ∈ reservedCandidates tables instanceTypes requirements,
        manager.canReserve tables claim.hostname offering = .error panic)
      (Ensures (fun _ => True) fun offerings => ∀ offering ∈ offerings,
        offering ∈ reservedCandidates tables instanceTypes requirements ∧
          manager.canReserve tables claim.hostname offering = .ok true)
      (claim.offeringsToReserve tables options manager instanceTypes requirements) := by
  unfold offeringsToReserve
  split_ifs
  · exact fun _ member => by cases member
  · refine (reservable_ensures _).bind fun reserved _ kept => ?_
    split_ifs
    · trivial
    · trivial
    · exact kept
  · exact (reservable_ensures _).bind fun reserved _ kept => kept

theorem tryAlternatives_ensures {Fails : ReservationPanic → Prop} {Post : Placement → Prop}
    (each : ∀ alternative volumeRequirements,
      Ensures Fails (Ensures (fun _ => True) Post) (attempt alternative volumeRequirements)) :
    Ensures Fails (Ensures (fun _ => True) Post) (tryAlternatives attempt index alternatives) := by
  fun_induction tryAlternatives attempt index alternatives with
  | case1 => trivial
  | case2 index volumeRequirements rest panic tried => exact (each _ _).of_error tried
  | case3 index volumeRequirements rest placement tried => exact (each _ _).of_ok tried
  | case4 index volumeRequirements rest error tried ih =>
    refine ih.except_map fun outcome _ post => ?_
    cases outcome with
    | error errors => trivial
    | ok placement => exact post

def baseRequirements (tables : LabelTables) (claim : NodeClaim) (podData : PodData) : Requirements :=
  (Requirements.newRequirements tables claim.requirements.values).add tables
    podData.requirements.values

variable (tables) in
structure Accepts (claim : NodeClaim) (topology : Topology) (manager : ReservationManager)
    (evaluation : Evaluation) (pod : Pod) (podData : PodData) (placement : Placement) : Prop where
  tolerated : toleratesPod claim.taints pod = []
  compatible : claim.requirements.isCompatible tables podData.requirements tables.wellKnownLabels = true
  narrowing : claim.Narrowing tables topology evaluation pod podData
    (claim.baseRequirements tables podData) placement.requirements placement.instanceTypes
  reserves : ∀ offering ∈ placement.offeringsToReserve,
    offering ∈ reservedCandidates tables placement.instanceTypes placement.requirements ∧
      manager.canReserve tables claim.hostname offering = .ok true

variable (tables) in
def Panics (claim : NodeClaim) (manager : ReservationManager) (panic : ReservationPanic) : Prop :=
  ∃ instanceTypes requirements, instanceTypes ⊆ claim.instanceTypeOptions ∧
    ∃ offering ∈ reservedCandidates tables instanceTypes requirements,
      manager.canReserve tables claim.hostname offering = .error panic

/-- A NodeClaim that takes a pod tolerates it, has instance types left, and can
reserve what it means to. It panics only on an unknown offering. -/
theorem canAdd_ensures (claim : NodeClaim) (options : Options) (topology : Topology)
    (manager : ReservationManager) (evaluation : Evaluation) (pod : Pod) (podData : PodData)
    (relaxMinValues : Bool) :
    Ensures (claim.Panics tables manager)
      (Ensures (fun _ => True) (claim.Accepts tables topology manager evaluation pod podData))
      (claim.canAdd tables options topology manager evaluation pod podData relaxMinValues) := by
  unfold canAdd
  cases tolerated : toleratesPod claim.taints pod with
  | cons taint rest => trivial
  | nil =>
    cases compatible : claim.requirements.compatible tables podData.requirements
        tables.wellKnownLabels with
    | error reason => trivial
    | ok _ =>
      have each : ∀ alternative volumeRequirements, Ensures (claim.Panics tables manager)
          (Ensures (fun _ => True) (claim.Accepts tables topology manager evaluation pod podData))
          (claim.tryVolumeAlternative tables options topology manager evaluation pod podData
            (claim.baseRequirements tables podData) relaxMinValues alternative volumeRequirements) := by
        intro alternative volumeRequirements
        unfold tryVolumeAlternative
        cases narrowed : claim.narrow tables options topology evaluation alternative pod podData
            (claim.baseRequirements tables podData) volumeRequirements relaxMinValues with
        | error error => trivial
        | ok result =>
          have narrowing := narrowing_of_narrow narrowed
          refine ((offeringsToReserve_ensures result.2 result.1).imp fun panic unknown =>
            ⟨result.2, result.1, fun it member => (narrowing.suits it member).1, unknown⟩).except_map
              fun offerings _ reserves => ?_
          cases offerings with
          | error error => trivial
          | ok offerings =>
            exact
              { tolerated := tolerated
                compatible := by simp [isCompatible, compatible]
                narrowing := narrowing
                reserves := reserves }
      refine (tryAlternatives_ensures each).except_map fun outcome _ accepts => ?_
      cases outcome with
      | error errors => trivial
      | ok placement => exact accepts

theorem accepts_of_canAdd
    (taken : claim.canAdd tables options topology manager evaluation pod podData relaxMinValues =
      .ok (.ok placement)) :
    claim.Accepts tables topology manager evaluation pod podData placement :=
  (canAdd_ensures claim options topology manager evaluation pod podData relaxMinValues).of_ok taken

end NodeClaim

end Kraftsman.Provisioning
