import Kraftsman.Provisioning.InFlight

/-!
Contract: the capacity of reservations throughout a scheduling run.

Owns: what reserving and releasing change, the balance between the capacity left
and its holders, and that no reservation is misused.
Does not own: which offerings a NodeClaim prefers.
-/

namespace Kraftsman.Provisioning

open Apis CloudProvider Data Data.FallibleLoop Scheduling GoMap Requirement SolveRun NodeClaim AList List
open ReservationManager

variable {tables : LabelTables} (manager : ReservationManager)

namespace ReservationManager

variable {manager} {manager' : ReservationManager} {hostname : String} {offering : Offering}

def holders (manager : ReservationManager) (reservationID : String) : Finset String :=
  manager.reservations.keys.toFinset.filter fun hostname => reservationID ∈ manager.held hostname

theorem mem_holders {reservationID : String} :
    hostname ∈ manager.holders reservationID ↔ reservationID ∈ manager.held hostname := by
  unfold holders
  rw [Finset.mem_filter, mem_toFinset, and_iff_right_iff_imp]
  intro holds
  by_contra absent
  have missing : manager.reservations.lookup hostname = none :=
    lookup_eq_none.mpr fun present => absent (mem_keys.mp present)
  simp [held, missing] at holds

/-! ### Effects -/

theorem reserveOne_eq_ok (done : manager.reserveOne tables hostname offering = .ok manager') :
    (offering.reservationID tables ∈ manager.held hostname ∧ manager' = manager) ∨
      (offering.reservationID tables ∉ manager.held hostname ∧
        1 ≤ manager.remaining (offering.reservationID tables) ∧
        (∀ host, manager'.held host =
          if host = hostname then insert (offering.reservationID tables) (manager.held hostname)
          else manager.held host) ∧
        manager'.capacity = manager.capacity.insert (offering.reservationID tables)
          (manager.remaining (offering.reservationID tables) - 1)) := by
  unfold reserveOne at done
  dsimp only at done
  split_ifs at done with holds exceeds
  · exact .inl ⟨holds, (Except.ok.inj done).symm⟩
  · cases done
    refine .inr ⟨holds, by omega, fun host => ?_, rfl⟩
    unfold held
    rw [lookup_insert_eq]
    split_ifs <;> rfl

theorem remaining_of_insert {key : String} {value : Int}
    (same : manager'.capacity = manager.capacity.insert key value) (reservationID : String) :
    manager'.remaining reservationID =
      if reservationID = key then value else manager.remaining reservationID := by
  unfold remaining
  rw [same, lookup_insert_eq]
  split_ifs <;> rfl

theorem held_release (hostname host : String) (offering : Offering) :
    (manager.release tables hostname offering).held host =
      if host = hostname then (manager.held hostname).erase (offering.reservationID tables)
      else manager.held host := by
  unfold release
  dsimp only
  split_ifs with holds same same
  · subst same
    simp [held]
  · simp [held, same]
  · subst same
    exact (Finset.erase_eq_of_notMem holds).symm
  · rfl

theorem capacity_release (hostname : String) (offering : Offering) :
    (offering.reservationID tables ∈ manager.held hostname ∧
      (manager.release tables hostname offering).capacity =
        manager.capacity.insert (offering.reservationID tables)
          (manager.remaining (offering.reservationID tables) + 1)) ∨
    (offering.reservationID tables ∉ manager.held hostname ∧
      manager.release tables hostname offering = manager) := by
  unfold release
  dsimp only
  split_ifs with holds
  · exact .inl ⟨holds, rfl⟩
  · exact .inr ⟨holds, rfl⟩

variable {offerings : List Offering} {known : String → Prop}

theorem held_reserve (done : manager.reserve tables hostname offerings = .ok manager')
    (host : String) :
    manager'.held host =
      if host = hostname then
        manager.held hostname ∪ (offerings.map (·.reservationID tables)).toFinset
      else manager.held host := by
  let Kept : List Offering → ReservationManager → Prop := fun rest middle =>
    (if host = hostname then
        middle.held host ∪ (rest.map (·.reservationID tables)).toFinset
      else middle.held host) =
    if host = hostname then manager.held hostname ∪ (offerings.map (·.reservationID tables)).toFinset
    else manager.held host
  have start : Kept offerings manager := by
    dsimp only [Kept]
    split_ifs with same
    · rw [same]
    · rfl
  have step : ∀ offering rest middle middle', Kept (offering :: rest) middle →
      middle.reserveOne tables hostname offering = .ok middle' → Kept rest middle' := by
    intro offering rest middle middle' kept one
    dsimp only [Kept] at kept ⊢
    rw [← kept]
    rcases reserveOne_eq_ok one with ⟨holds, rfl⟩ | ⟨-, -, holds, -⟩
    · split_ifs with same
      · subst same
        rw [map_cons, toFinset_cons, Finset.union_insert,
          Finset.insert_eq_of_mem (Finset.mem_union_left _ holds)]
      · rfl
    · rw [holds host]
      split_ifs with same
      · subst same
        rw [map_cons, toFinset_cons, Finset.union_insert, Finset.insert_union]
      · rfl
  have final := foldlM_preserves Kept step start done
  rw [← final]
  split_ifs <;> simp

theorem held_foldl_release (offerings : List Offering) (manager : ReservationManager)
    (hostname host : String) :
    (offerings.foldl (fun manager offering => manager.release tables hostname offering) manager).held
        host =
      if host = hostname then
        manager.held hostname \ (offerings.map (·.reservationID tables)).toFinset
      else manager.held host := by
  induction offerings generalizing manager with
  | nil => split_ifs with same <;> simp [same]
  | cons offering rest ih =>
    rw [foldl_cons, ih]
    by_cases same : host = hostname
    · rw [if_pos same, if_pos same, held_release, if_pos rfl, map_cons, toFinset_cons,
        Finset.sdiff_insert, Finset.erase_sdiff_comm]
    · rw [if_neg same, if_neg same, held_release, if_neg same]

/-! ### Balance -/

/-- What is left and the hosts that hold it make up the capacity. -/
def Balanced (initial : String → Int) (manager : ReservationManager) : Prop :=
  ∀ reservationID, manager.remaining reservationID + (manager.holders reservationID).card =
    initial reservationID ∧ 0 ≤ manager.remaining reservationID

variable {initial : String → Int}

theorem Balanced.reserveOne (balanced : manager.Balanced initial)
    (done : manager.reserveOne tables hostname offering = .ok manager') :
    manager'.Balanced initial := by
  rcases reserveOne_eq_ok done with ⟨-, rfl⟩ | ⟨free, left, holds, capacity⟩
  · exact balanced
  · intro reservationID
    obtain ⟨sum, nonneg⟩ := balanced reservationID
    rw [remaining_of_insert capacity]
    by_cases same : reservationID = offering.reservationID tables
    · have holders : manager'.holders reservationID = insert hostname (manager.holders reservationID) := by
        ext host
        rw [mem_holders, holds, Finset.mem_insert, mem_holders]
        split_ifs with isHost
        · simp [isHost, same]
        · simp [isHost]
      have notHeld : hostname ∉ manager.holders reservationID := by
        rw [mem_holders, same]
        exact free
      rw [holders, Finset.card_insert_of_notMem notHeld, if_pos same, ← same]
      rw [← same] at left
      omega
    · have holders : manager'.holders reservationID = manager.holders reservationID := by
        ext host
        rw [mem_holders, holds, mem_holders]
        split_ifs with isHost
        · simp [isHost, same]
        · rfl
      rw [holders, if_neg same]
      exact ⟨sum, nonneg⟩

theorem Balanced.release (balanced : manager.Balanced initial) :
    (manager.release tables hostname offering).Balanced initial := by
  rcases @capacity_release tables manager hostname offering with ⟨holds, capacity⟩ | ⟨-, same⟩
  · intro reservationID
    obtain ⟨sum, nonneg⟩ := balanced reservationID
    rw [remaining_of_insert capacity]
    by_cases same : reservationID = offering.reservationID tables
    · have holders : (manager.release tables hostname offering).holders reservationID =
          (manager.holders reservationID).erase hostname := by
        ext host
        rw [mem_holders, held_release, Finset.mem_erase, mem_holders]
        split_ifs with isHost
        · simp [isHost, same]
        · simp [isHost]
      have held : hostname ∈ manager.holders reservationID := by
        rw [mem_holders, same]
        exact holds
      have positive : 1 ≤ (manager.holders reservationID).card := Finset.card_pos.mpr ⟨hostname, held⟩
      rw [holders, Finset.card_erase_of_mem held, if_pos same, ← same]
      omega
    · have holders : (manager.release tables hostname offering).holders reservationID =
          manager.holders reservationID := by
        ext host
        rw [mem_holders, held_release, mem_holders]
        split_ifs with isHost
        · simp [isHost, same]
        · rfl
      rw [holders, if_neg same]
      exact ⟨sum, nonneg⟩
  · rw [same]
    exact balanced

def Knows (known : String → Prop) (manager : ReservationManager) : Prop :=
  ∀ reservationID, known reservationID → reservationID ∈ manager.capacity

theorem Knows.reserveOne (knows : manager.Knows known)
    (done : manager.reserveOne tables hostname offering = .ok manager') : manager'.Knows known := by
  rcases reserveOne_eq_ok done with ⟨-, rfl⟩ | ⟨-, -, -, capacity⟩
  · exact knows
  · intro reservationID isKnown
    rw [capacity, mem_insert]
    exact .inr (knows reservationID isKnown)

theorem Knows.release (knows : manager.Knows known) :
    (manager.release tables hostname offering).Knows known := by
  rcases @capacity_release tables manager hostname offering with ⟨-, capacity⟩ | ⟨-, same⟩
  · intro reservationID isKnown
    rw [capacity, mem_insert]
    exact .inr (knows reservationID isKnown)
  · rw [same]
    exact knows

/-! ### Reserving what can be reserved -/

theorem reserve_succeeds
    (can : ∀ offering ∈ offerings, offering.reservationID tables ∈ manager.held hostname ∨
      1 ≤ manager.remaining (offering.reservationID tables)) :
    ∃ manager', manager.reserve tables hostname offerings = .ok manager' := by
  let Ready : List Offering → ReservationManager → Prop := fun rest middle =>
    ∀ offering ∈ rest, offering.reservationID tables ∈ middle.held hostname ∨
      1 ≤ middle.remaining (offering.reservationID tables)
  have step : ∀ offering rest middle, Ready (offering :: rest) middle →
      ∃ middle', middle.reserveOne tables hostname offering = .ok middle' ∧ Ready rest middle' := by
    intro offering rest middle ready
    have one : ∃ middle', middle.reserveOne tables hostname offering = .ok middle' := by
      unfold reserveOne
      dsimp only
      split_ifs with holds exceeds
      · exact ⟨_, rfl⟩
      · rcases ready offering mem_cons_self with isHeld | left
        · exact absurd isHeld holds
        · omega
      · exact ⟨_, rfl⟩
    obtain ⟨middle', done⟩ := one
    refine ⟨middle', done, fun other member => ?_⟩
    have before := ready other (mem_cons_of_mem _ member)
    rcases reserveOne_eq_ok done with ⟨-, rfl⟩ | ⟨-, -, holds, capacity⟩
    · exact before
    · rw [holds, if_pos rfl, remaining_of_insert capacity, Finset.mem_insert]
      split_ifs with same
      · exact .inl (.inl same)
      · exact before.imp_left .inr
  obtain ⟨manager', done, -⟩ := foldlM_succeeds Ready step can
  exact ⟨manager', done⟩

theorem canReserve_ne_error (known : offering.reservationID tables ∈ manager.capacity)
    (panic : ReservationPanic) : manager.canReserve tables hostname offering ≠ .error panic := by
  unfold canReserve
  split_ifs with holds
  · exact fun failed => by cases failed
  · obtain ⟨capacity, found⟩ := Option.isSome_iff_exists.mp (lookup_isSome.mpr known)
    rw [found]
    exact fun failed => by cases failed

theorem Balanced.canReserve (balanced : manager.Balanced initial)
    (can : manager.canReserve tables hostname offering = .ok true) :
    offering.reservationID tables ∈ manager.held hostname ∨
      1 ≤ manager.remaining (offering.reservationID tables) := by
  unfold ReservationManager.canReserve at can
  split_ifs at can with holds
  · exact .inl holds
  · right
    have nonneg := (balanced (offering.reservationID tables)).2
    cases found : manager.capacity.lookup (offering.reservationID tables) with
    | none =>
      rw [found] at can
      cases can
    | some capacity =>
      rw [found] at can
      have nonzero : capacity ≠ 0 := by simpa using can
      simp only [remaining, found, Option.getD_some] at nonneg ⊢
      omega

end ReservationManager

/-! ### The capacity at the start -/

/-- Offerings name one capacity type, and reserved ones one reservation. -/
structure Definite (tables : LabelTables) (offering : Offering) : Prop where
  capacityType : ∃ value, offering.requirements.lookup capacityTypeLabelKey =
    some (.newRequirement tables capacityTypeLabelKey .opIn [value])
  reservationID : offering.capacityType tables = capacityTypeReserved →
    ∃ value, offering.requirements.lookup tables.reservationIDLabel =
      some (.newRequirement tables tables.reservationIDLabel .opIn [value])

variable {offering : Offering} {claim : NodeClaim} {manager reserved : ReservationManager}
variable {offerings : List Offering} {input : SolveInput} {run : SolveRun}

theorem Definite.isReserved (definite : Definite tables offering)
    (reserved : offering.capacityType tables = capacityTypeReserved) :
    isReserved offering := by
  obtain ⟨value, found⟩ := definite.capacityType
  have isValue : tables.normalizeValue (tables.normalizeKey capacityTypeLabelKey) value =
      capacityTypeReserved := by
    rw [← reserved, Offering.capacityType, Requirements.get_of_lookup tables found]
    simp [Requirement.any, operator, newRequirement, newRequirementWithFlexibility]
  simp [Provisioning.isReserved, found, operator, has, newRequirement,
    newRequirementWithFlexibility, isValue]

theorem mem_leastCapacity {capacity : GoMap String Int} {reservationID : String} :
    reservationID ∈ leastCapacity tables capacity offering ↔
      reservationID ∈ capacity ∨ reservationID = offering.reservationID tables := by
  rw [← lookup_isSome, ← lookup_isSome, leastCapacity, lookup_alter]
  split_ifs with same
  · subst same
    cases capacity.lookup (offering.reservationID tables) with
    | none => simp
    | some current =>
      dsimp only
      split_ifs <;> simp
  · simp [same]

theorem mem_buildReservationCapacity {instanceTypes : GoMap String (List InstanceType)}
    {nodePool : String} {its : List InstanceType} {it : InstanceType}
    (found : instanceTypes.lookup nodePool = some its) (listed : it ∈ its)
    (offered : offering ∈ it.offerings) (reserved : isReserved offering) :
    offering.reservationID tables ∈ buildReservationCapacity tables instanceTypes := by
  have folded : ∀ (offerings : List Offering) (capacity : GoMap String Int),
      offering ∈ offerings ∨ offering.reservationID tables ∈ capacity →
      offering.reservationID tables ∈ offerings.foldl (leastCapacity tables) capacity := by
    intro offerings
    induction offerings with
    | nil =>
      rintro capacity (impossible | known)
      · cases impossible
      · exact known
    | cons first rest ih =>
      intro capacity known
      apply ih
      rw [mem_leastCapacity]
      rcases known with member | known
      · rcases mem_cons.mp member with rfl | later
        · exact .inr (.inr rfl)
        · exact .inl later
      · exact .inr (.inl known)
  apply folded
  left
  rw [mem_filter, mem_flatMap]
  exact ⟨⟨its, mem_values_iff.mpr ⟨nodePool, found⟩, mem_flatMap.mpr ⟨it, listed, offered⟩⟩,
    reserved⟩

/-! ### NodeClaims and what they hold -/

def reservationIDs (tables : LabelTables) (offerings : List Offering) : Finset String :=
  (offerings.map (·.reservationID tables)).toFinset

theorem NodeClaim.held_releaseReservedOfferings
    (own : manager.held claim.hostname = reservationIDs tables claim.reservedOfferings)
    (done : manager.reserve tables claim.hostname offerings = .ok reserved) (host : String) :
    (claim.releaseReservedOfferings tables reserved offerings).held host =
      if host = claim.hostname then reservationIDs tables offerings else manager.held host := by
  unfold releaseReservedOfferings
  rw [held_foldl_release, held_reserve done, held_reserve done, if_pos rfl, own]
  split_ifs with same
  · ext reservationID
    simp only [reservationIDs, Finset.mem_sdiff, Finset.mem_union, mem_toFinset, mem_map,
      mem_filter, decide_eq_true_eq]
    grind
  · rfl

theorem NodeClaim.add_induction (Invariant : ReservationManager → Prop)
    (reserveOne : ∀ manager offering manager', Invariant manager →
      manager.reserveOne tables claim.hostname offering = .ok manager' → Invariant manager')
    (release : ∀ manager offering, Invariant manager →
      Invariant (manager.release tables claim.hostname offering)) (start : Invariant manager)
    (done : manager.reserve tables claim.hostname offerings = .ok reserved) :
    Invariant (claim.releaseReservedOfferings tables reserved offerings) := by
  have afterReserve : Invariant reserved := foldlM_preserves (fun _ => Invariant)
      (fun offering _ middle middle' kept one => reserveOne middle offering middle' kept one) start done
  exact foldlRecOn _ _ afterReserve fun middle kept offering _ => release middle offering kept

/-- What is left and what is held make up the capacity, NodeClaims hold what they
reserved, and nobody else holds anything. -/
structure Scheduler.Accounted (tables : LabelTables) (initial : String → Int) (known : String → Prop)
    (s : Scheduler) : Prop where
  balanced : s.reservationManager.Balanced initial
  knows : s.reservationManager.Knows known
  own : ∀ claim ∈ s.newNodeClaims,
    s.reservationManager.held claim.hostname = reservationIDs tables claim.reservedOfferings
  strangers : ∀ host, (∀ claim ∈ s.newNodeClaims, claim.hostname ≠ host) →
    s.reservationManager.held host = ∅

namespace Scheduler

variable {s s' : Scheduler} {initial : String → Int} {known : String → Prop} {answers : Answers}
  {pod : Pod} {podData : PodData} {placed : Placed}

theorem Accounted.place (accounted : s.Accounted tables initial known) (names : s.DistinctNames)
    (placing : Placing tables s answers pod podData s' placed) :
    s'.Accounted tables initial known := by
  have names' := names.step placing
  cases placing with
  | existing => exact ⟨accounted.balanced, accounted.knows, accounted.own, accounted.strangers⟩
  | @inflight claims index claim placement reserved perm found taken done =>
    have inFlight : claim ∈ s.newNodeClaims := perm.mem_iff.mp (mem_of_getElem? found)
    have held := held_releaseReservedOfferings (accounted.own claim inFlight) done
    have isPlaced : claim.placed pod podData placement ∈
        claims.set index (claim.placed pod podData placement) :=
      List.mem_set (List.getElem?_eq_some_iff.mp found).1 _
    refine ⟨?_, ?_, fun other member => ?_, fun host strange => ?_⟩
    · exact add_induction (ReservationManager.Balanced initial)
        (fun _ _ _ kept one => kept.reserveOne one) (fun _ _ kept => kept.release)
        accounted.balanced done
    · exact add_induction (ReservationManager.Knows known)
        (fun _ _ _ kept one => kept.reserveOne one) (fun _ _ kept => kept.release)
        accounted.knows done
    · rw [held]
      rcases mem_or_eq_of_mem_set member with kept | rfl
      · split_ifs with same
        · -- names are distinct, so it is the NodeClaim that took the pod
          have isClaim : other = claim.placed pod podData placement :=
            inj_on_of_nodup_map names'.distinct member isPlaced same
          rw [isClaim]
          rfl
        · exact accounted.own other (perm.mem_iff.mp kept)
      · exact if_pos rfl
    · have different : host ≠ claim.hostname := fun same => strange _ isPlaced same.symm
      rw [held, if_neg different]
      apply accounted.strangers
      intro other member same
      obtain ⟨position, listed⟩ := mem_iff_getElem?.mp (perm.mem_iff.mpr member)
      by_cases here : position = index
      · subst here
        rw [found] at listed
        cases listed
        exact different same.symm
      · refine strange other (mem_iff_getElem?.mpr ⟨position, ?_⟩) same
        rw [getElem?_set_ne (Ne.symm here), listed]
  | @fresh claims template index instanceTypes claim placement reserved perm listed within opened
      taken done =>
      have isNew : ∀ other ∈ s.newNodeClaims, other.hostname ≠ claim.hostname := by
        rw [opened]
        exact names.fresh (answers.draw index)
      have nothing : s.reservationManager.held claim.hostname =
          reservationIDs tables claim.reservedOfferings := by
        rw [accounted.strangers claim.hostname isNew, opened]
        rfl
      have held := held_releaseReservedOfferings nothing done
      refine ⟨?_, ?_, fun other member => ?_, fun host strange => ?_⟩
      · exact add_induction (ReservationManager.Balanced initial)
          (fun _ _ _ kept one => kept.reserveOne one) (fun _ _ kept => kept.release)
          accounted.balanced done
      · exact add_induction (ReservationManager.Knows known)
          (fun _ _ _ kept one => kept.reserveOne one) (fun _ _ kept => kept.release)
          accounted.knows done
      · rw [held]
        rcases mem_append.mp member with old | last
        · have inFlight := perm.mem_iff.mp old
          rw [if_neg (isNew other inFlight)]
          exact accounted.own other inFlight
        · obtain rfl := mem_singleton.mp last
          exact if_pos rfl
      · dsimp only at strange ⊢
        have different : host ≠ claim.hostname := fun same =>
          strange _ (mem_append_right _ mem_cons_self) same.symm
        rw [held, if_neg different]
        exact accounted.strangers host fun other member =>
          strange other (mem_append_left _ (perm.mem_iff.mpr member))

/-! ### No misuse -/

theorem Accounted.safe (accounted : s.Accounted tables initial known) {claim : NodeClaim}
    (isKnown : ∀ it ∈ claim.instanceTypeOptions, ∀ offering ∈ it.offerings,
      offering.capacityType tables = capacityTypeReserved → known (offering.reservationID tables)) :
    s.Safe tables claim := by
  constructor
  · intro evaluation pod podData relaxMinValues panic failed
    obtain ⟨instanceTypes, requirements, subset, offering, candidate, fails⟩ :=
      (canAdd_ensures claim _ _ _ _ _ _ _).of_error failed
    obtain ⟨offered, reserved⟩ := mem_filter.mp candidate
    obtain ⟨it, listed, ofType⟩ := mem_flatMap.mp offered
    have isReserved : offering.capacityType tables = capacityTypeReserved := by
      simp only [Bool.and_eq_true, decide_eq_true_eq] at reserved
      exact reserved.1.1
    exact canReserve_ne_error
      (accounted.knows _ (isKnown it (subset listed) offering ofType isReserved)) panic fails
  · intro evaluation pod podData relaxMinValues placement taken
    apply reserve_succeeds
    intro offering member
    exact accounted.balanced.canReserve ((accepts_of_canAdd taken).reserves offering member).2

end Scheduler

/-! ### Runs -/

def SolveInput.Reserves (tables : LabelTables) (input : SolveInput) (reservationID : String) : Prop :=
  reservationID ∈ buildReservationCapacity tables input.instanceTypes

def SolveInput.reservationCapacity (tables : LabelTables) (input : SolveInput)
    (reservationID : String) : Int :=
  (newReservationManager tables input.instanceTypes).remaining reservationID

theorem SolveRun.Sound.allSafe
    (definite : ∀ nodePool its, input.instanceTypes.lookup nodePool = some its → ∀ it ∈ its,
      ∀ offering ∈ it.offerings, Definite tables offering)
    (sound : run.Sound tables (input.config tables))
    (synced : run.Synced tables (input.config tables))
    (accounted : run.scheduler.Accounted tables (input.reservationCapacity tables)
      (input.Reserves tables)) : run.scheduler.AllSafe tables := by
  have known : ∀ template ∈ (input.config tables).nodeClaimTemplates,
      ∀ it ∈ template.instanceTypeOptions, ∀ offering ∈ it.offerings,
        offering.capacityType tables = capacityTypeReserved →
          input.Reserves tables (offering.reservationID tables) := by
    intro template listed it member offering offered reserved
    obtain ⟨nodePool, -, isTemplate⟩ := SolveInput.mem_templates tables listed
    have provided := isTemplate.instanceTypes member
    cases found : input.instanceTypes.lookup nodePool.name with
    | none => simp [found] at provided
    | some its =>
      rw [found] at provided
      exact mem_buildReservationCapacity found provided offered
        ((definite nodePool.name its found it provided offering offered).isReserved reserved)
  constructor
  · intro claim member
    obtain ⟨template, listed, stems⟩ := (sound.grounded claim member).template
    exact accounted.safe fun it left => known template listed it (stems.instanceTypes left)
  · intro template listed instanceTypes within nodeID
    rw [synced.config] at listed
    exact accounted.safe fun it left =>
      known template listed it (Scheduler.instanceTypesWithinLimits_subset within left)

theorem Scheduler.Accounted.step {initial : String → Int} {known : String → Prop} {run' : SolveRun}
    {event : SolveEvent} (accounted : run.scheduler.Accounted tables initial known)
    (names : run.scheduler.DistinctNames) (transition : Transition tables run event run') :
    run'.scheduler.Accounted tables initial known := by
  cases transition with
  | place _ _ _ placing => exact accounted.place names placing
  | _ => exact ⟨accounted.balanced, accounted.knows, accounted.own, accounted.strangers⟩

theorem SolveInput.start_accounted {start : SolveRun}
    (nonneg : ∀ reservationID, 0 ≤ input.reservationCapacity tables reservationID)
    (started : input.start tables = some start) :
    start.scheduler.Accounted tables (input.reservationCapacity tables) (input.Reserves tables) := by
  obtain ⟨topology, -, rfl⟩ := input.start_eq_some tables started
  refine ⟨fun reservationID => ?_, fun _ isKnown => isKnown,
    fun _ impossible => absurd impossible not_mem_nil, fun _ _ => rfl⟩
  exact ⟨Int.add_zero _, nonneg reservationID⟩

/-- Throughout a run, what is left of a reservation and the hosts that hold it
make up its capacity, NodeClaims hold exactly the reservations of their reserved
offerings, and no event misuses a reservation. -/
theorem run_accounts_for_reservations {input : SolveInput} {start run : SolveRun}
    (nonneg : ∀ reservationID, 0 ≤ input.reservationCapacity tables reservationID)
    (definite : ∀ nodePool its, input.instanceTypes.lookup nodePool = some its → ∀ it ∈ its,
      ∀ offering ∈ it.offerings, Definite tables offering)
    (started : input.start tables = some start)
    (reached : Reaches (SolveRun.apply tables) (fun _ _ => True) start run) :
    (∀ reservationID,
      run.scheduler.reservationManager.remaining reservationID +
        (run.scheduler.reservationManager.holders reservationID).card =
          input.reservationCapacity tables reservationID ∧
      0 ≤ run.scheduler.reservationManager.remaining reservationID) ∧
    (∀ claim ∈ run.scheduler.newNodeClaims,
      run.scheduler.reservationManager.held claim.hostname =
        reservationIDs tables claim.reservedOfferings) ∧
    ∀ event panic, run.apply tables event ≠ .error panic := by
  have sound := sound_of_reached started reached
  have synced := synced_of_reached tables started reached
  have accounted : run.scheduler.Accounted tables (input.reservationCapacity tables)
      (input.Reserves tables) :=
    reached.invariant_along
      (fun run => run.scheduler.Accounted tables (input.reservationCapacity tables)
        (input.Reserves tables))
      (SolveInput.start_accounted nonneg started)
      fun _ _ _ earlier accounted _ done =>
        accounted.step (sound_of_reached started earlier).names (transition_of_apply done)
  exact ⟨accounted.balanced, accounted.own, fun event panic failed =>
    (apply_ensures run event).of_error failed (sound.allSafe definite synced accounted)⟩

def reservationTables : LabelTables :=
  { LabelTables.base with
    reservationIDLabel := "reservation-id"
    wellKnownLabels := insert "reservation-id" LabelTables.base.wellKnownLabels }

def reservedOffering : Offering :=
  { requirements := .newLabelRequirements reservationTables (GoMap.ofList [
      (capacityTypeLabelKey, capacityTypeReserved), (labelTopologyZone, "a"),
      ("reservation-id", "r-1")])
    price := 0
    reservationCapacity := 1 }

def oneReserved : SolveInput :=
  { nodePools := [{ name := "reserving" }]
    instanceTypes := GoMap.ofList [("reserving",
      [{ smallInstance with offerings := [reservedOffering, onDemandOffering "a" 1] }])]
    pods := [podNamed "first" 4, podNamed "second" 3] }

theorem run_accounts_for_one_reservation : ∃ start run,
    oneReserved.start reservationTables = some start ∧
    Reaches (SolveRun.apply reservationTables) (fun _ _ => True) start run ∧
    run.scheduler.newNodeClaims.map (fun claim => claim.reservedOfferings.length) = [1, 0] ∧
    run.scheduler.reservationManager.remaining "r-1" = 0 ∧
    (run.scheduler.reservationManager.holders "r-1").card = 1 := by
  obtain ⟨start, run, started, reaches, claims, remaining⟩ := oneReserved.exists_of_follow
    reservationTables (Q := fun run =>
      (run.scheduler.newNodeClaims.map fun claim => claim.reservedOfferings.length) = [1, 0] ∧
        run.scheduler.reservationManager.remaining "r-1" = 0)
    [.pop, .attempt {} {}, .pop, .attempt {} {}] (by decide +kernel)
  have built : buildReservationCapacity reservationTables oneReserved.instanceTypes =
      ofList [("r-1", 1)] := by decide +kernel
  have nonneg : ∀ reservationID,
      0 ≤ oneReserved.reservationCapacity reservationTables reservationID := by
    intro reservationID
    unfold SolveInput.reservationCapacity newReservationManager ReservationManager.remaining
    rw [built]
    have single : (ofList [("r-1", (1 : Int))]).lookup reservationID =
        if reservationID = "r-1" then some 1 else none :=
      lookup_insert_eq ∅ "r-1" reservationID 1
    rw [single]
    split_ifs <;> decide
  have definite : ∀ nodePool its, oneReserved.instanceTypes.lookup nodePool = some its →
      ∀ it ∈ its, ∀ offering ∈ it.offerings, Definite reservationTables offering := by
    intro nodePool its found it listed offering offered
    have single : oneReserved.instanceTypes.lookup nodePool =
        if nodePool = "reserving" then
          some [{ smallInstance with offerings := [reservedOffering, onDemandOffering "a" 1] }]
        else none := lookup_insert_eq ∅ "reserving" nodePool _
    rw [single] at found
    split_ifs at found
    cases found
    obtain rfl := mem_singleton.mp listed
    rcases mem_pair.mp offered with rfl | rfl
    · exact ⟨⟨capacityTypeReserved, by decide +kernel⟩, fun _ => ⟨"r-1", by decide +kernel⟩⟩
    · exact ⟨⟨capacityTypeOnDemand, by decide +kernel⟩,
        fun reserved => absurd reserved (by decide +kernel)⟩
  have accounts := run_accounts_for_reservations nonneg definite started reaches
  obtain ⟨sum, -⟩ := accounts.1 "r-1"
  have capacity : oneReserved.reservationCapacity reservationTables "r-1" = 1 := by decide +kernel
  exact ⟨start, run, started, reaches, claims, remaining, by omega⟩

end Kraftsman.Provisioning
