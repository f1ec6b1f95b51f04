import Kraftsman.DynamicResources.Soundness

/-!
Contract: how the devices a search has found are laid out.

They come claim by claim, request by request and slot by slot, offered by the
pools or by the instance type.

Owns: narrowed pools, the devices a search is offered, and the devices picked for
slots.
Does not own: which devices a search picks.
-/

namespace Kraftsman.DynamicResources

open Apis Data Scheduling List

def slicedDevices (tables : LabelTables) (pools : List Pool) : List DeviceWithID :=
  pools.flatMap fun pool => pool.slices.flatMap (sliceDevices tables pool.key)

def Pool.Sliced (tables : LabelTables) (pool : Pool) : Prop :=
  pool.devices = pool.slices.flatMap (sliceDevices tables pool.key)

structure Pool.Within (tables : LabelTables) (initial : List Pool) (pool : Pool) : Prop where
  sliced : pool.Sliced tables
  slices : ∃ old ∈ initial, pool.key = old.key ∧ pool.slices ⊆ old.slices

section Pools

variable {tables : LabelTables} {initial pools : List Pool}

variable {pool : Pool} {requirements : Requirements} {nodeName : String}

theorem Pool.Within.offers (narrowed : pool.Within tables initial) {dw : DeviceWithID}
    (member : dw ∈ pool.devices) : dw ∈ slicedDevices tables initial := by
  obtain ⟨old, inInitial, sameKey, kept⟩ := narrowed.slices
  rw [narrowed.sliced, sameKey] at member
  obtain ⟨slice, inSlices, inSlice⟩ := mem_flatMap.mp member
  exact mem_flatMap.mpr ⟨old, inInitial, mem_flatMap.mpr ⟨slice, kept inSlices, inSlice⟩⟩

theorem filterPool_eq_some {narrowed : Pool}
    (done : filterPool tables requirements nodeName pool = some narrowed) :
    narrowed.Sliced tables ∧ narrowed.key = pool.key ∧
      narrowed.slices = pool.slices.filter fun slice =>
        sliceMatchesRequirements tables slice requirements nodeName := by
  unfold filterPool at done
  dsimp only at done
  split_ifs at done
  cases done
  exact ⟨rfl, rfl, rfl⟩

theorem within_filterPools (narrowed : ∀ pool ∈ pools, pool.Within tables initial) :
    ∀ pool ∈ filterPools tables pools requirements nodeName, pool.Within tables initial := by
  intro pool member
  obtain ⟨old, inPools, filtered⟩ := mem_filterMap.mp member
  obtain ⟨sliced, sameKey, slices⟩ := filterPool_eq_some filtered
  obtain ⟨first, inInitial, firstKey, kept⟩ := (narrowed old inPools).slices
  refine ⟨sliced, first, inInitial, sameKey.trans firstKey, ?_⟩
  intro slice inSlices
  rw [slices] at inSlices
  exact kept (mem_of_mem_filter inSlices)

theorem within_self (sliced : ∀ pool ∈ pools, pool.Sliced tables) :
    ∀ pool ∈ pools, pool.Within tables pools :=
  fun pool member => ⟨sliced pool member, pool, member, rfl, fun _ inSlices => inSlices⟩

theorem devices_eq_slicedDevices (sliced : ∀ pool ∈ pools, pool.Sliced tables) :
    pools.flatMap Pool.devices = slicedDevices tables pools := by
  unfold slicedDevices
  rw [flatMap_def, flatMap_def, map_congr_left sliced]

theorem sliced_filterPools :
    ∀ pool ∈ filterPools tables pools requirements nodeName, pool.Sliced tables := by
  intro pool member
  obtain ⟨old, -, filtered⟩ := mem_filterMap.mp member
  exact (filterPool_eq_some filtered).1

theorem PoolBuilder.sliced_build {builder : PoolBuilder} {key : PoolKey}
    (built : builder.build tables key = some pool) : pool.Sliced tables := by
  unfold build at built
  dsimp only at built
  split_ifs at built
  · cases built
    rfl
  · cases built
    rfl

theorem sliced_gatherPools {slices : List ResourceSlice} :
    ∀ pool ∈ gatherPools tables slices requirements nodeName, pool.Sliced tables := by
  intro pool member
  obtain ⟨entry, -, built⟩ := mem_filterMap.mp member
  exact PoolBuilder.sliced_build built

end Pools

def SearchContext.Offered (ctx : SearchContext) (initial : List Pool) (dw : DeviceWithID) : Prop :=
  dw ∈ slicedDevices ctx.env.tables initial ∨ dw ∈ ctx.templateDevices

theorem SearchContext.Offered.candidate {ctx : SearchContext} {initial : List Pool}
    (published : ∀ pool ∈ initial, pool.From ctx.env.inClusterSlices) {dw : DeviceWithID}
    (offered : ctx.Offered initial dw) : ctx.Candidate dw := by
  refine offered.imp_left fun inPools => ?_
  obtain ⟨pool, inInitial, inPool⟩ := mem_flatMap.mp inPools
  obtain ⟨slice, inSlices, inSlice⟩ := mem_flatMap.mp inPool
  obtain ⟨current, own⟩ := (published pool inInitial).slices_published slice inSlices
  exact published_of_mem_sliceDevices current own inSlice

namespace Search

structure Slot where
  claimIdx : Nat
  reqIdx : Nat
  rd : RequestData
  slotIdx : Nat

/-- A slot, its device and the capacity it consumes. -/
structure Pick extends Slot where
  dw : DeviceWithID
  consumed : Option Capacities

def Pick.taken (pick : Pick) : DeviceAllocationMetadata := ⟨pick.claimIdx, pick.dw, pick.consumed⟩

section Parts

variable (ctx : SearchContext) (initial : List Pool) (Recalls : MatchKey → Prop)

/-- A request whose offered devices may be cached as matches. -/
structure Recallable (claimIdx reqIdx : Nat) (rd : RequestData) : Prop where
  offered : ∀ dw ∈ allModeDevices ctx rd, ctx.Offered initial dw
  recalls : ∀ dw, ctx.Offered initial dw → deviceMatchesSelectors ctx.env dw rd.selectors = .ok true →
    Recalls ⟨dw.id, claimIdx, reqIdx⟩

/-- A device that is offered and matches. Slots of an All-mode request are for its
devices in order. -/
structure Fits (pick : Pick) : Prop where
  offered : ctx.Offered initial pick.dw
  recalled : Recalls ⟨pick.dw.id, pick.claimIdx, pick.reqIdx⟩
  listed : pick.rd.allocationMode = .all →
    (allModeDevices ctx pick.rd)[pick.slotIdx]? = some pick.dw

/-- The slots of a request but for the first ones. -/
def slotsFrom (claimIdx reqIdx : Nat) (rd : RequestData) (filled left : Nat) : List Slot :=
  (range' filled left).map fun slotIdx => ⟨claimIdx, reqIdx, rd, slotIdx⟩

def slotsOfRequests (claimIdx : Nat) (requests : List (RequestData × Nat)) : List Slot :=
  requests.flatMap fun request => slotsFrom claimIdx request.2 request.1 0 (numSlots ctx request.1)

def slotsOfClaims (claims : List (ClaimData × Nat)) : List Slot :=
  claims.flatMap fun claim => slotsOfRequests ctx claim.2 claim.1.requests.zipIdx

/-- The devices found for a request, one for each slot. -/
structure Fills (claimIdx reqIdx : Nat) (rd : RequestData)
    (block : List DeviceAllocationMetadata) : Prop where
  length : block.length = numSlots ctx rd
  claimIndex : ∀ taken ∈ block, taken.claimIndex = claimIdx
  candidate : ∀ taken ∈ block, ctx.Offered initial taken.deviceWithID
  accepted : ∀ taken ∈ block, Recalls ⟨taken.deviceWithID.id, claimIdx, reqIdx⟩
  all : rd.allocationMode = .all →
    block.map (fun taken => taken.deviceWithID) = allModeDevices ctx rd

def FillsRequests (claimIdx : Nat) (requests : List (RequestData × Nat))
    (blocks : List (List DeviceAllocationMetadata)) : Prop :=
  List.Forall₂ (fun request => Fills ctx initial Recalls claimIdx request.2 request.1)
    requests blocks

def FillsClaims (claims : List (ClaimData × Nat))
    (blocks : List (List (List DeviceAllocationMetadata))) : Prop :=
  List.Forall₂ (fun claim => FillsRequests ctx initial Recalls claim.2 claim.1.requests.zipIdx)
    claims blocks

end Parts

variable {ctx : SearchContext} {initial : List Pool} {Recalls Other : MatchKey → Prop}
variable {picks : List Pick} {claimIdx : Nat} {claims : List (ClaimData × Nat)}

theorem Fits.imp {pick : Pick} (fits : Fits ctx initial Recalls pick)
    (weaker : ∀ key, Recalls key → Other key) : Fits ctx initial Other pick :=
  ⟨fits.offered, weaker _ fits.recalled, fits.listed⟩

theorem FillsClaims.imp {blocks : List (List (List DeviceAllocationMetadata))}
    (fills : FillsClaims ctx initial Recalls claims blocks)
    (weaker : ∀ key, Recalls key → Other key) : FillsClaims ctx initial Other claims blocks :=
  List.Forall₂.imp (fun _ _ => List.Forall₂.imp fun _ _ fills =>
    { fills with accepted := fun taken member => weaker _ (fills.accepted taken member) }) fills

theorem mem_slotsOfClaims {slot : Slot} (member : slot ∈ slotsOfClaims ctx claims) :
    ∃ claim ∈ claims, slot.claimIdx = claim.2 ∧ slot.rd ∈ claim.1.requests := by
  obtain ⟨claim, inClaims, inClaim⟩ := mem_flatMap.mp member
  obtain ⟨request, inRequests, inRequest⟩ := mem_flatMap.mp inClaim
  obtain ⟨slotIdx, -, rfl⟩ := mem_map.mp inRequest
  exact ⟨claim, inClaims, rfl, fst_mem_of_mem_zipIdx inRequests⟩

section

variable (fits : ∀ pick ∈ picks, Fits ctx initial Recalls pick)
include fits

theorem fills_of_picks {reqIdx : Nat} {rd : RequestData}
    (slots : picks.map Pick.toSlot = slotsFrom claimIdx reqIdx rd 0 (numSlots ctx rd)) :
    Fills ctx initial Recalls claimIdx reqIdx rd (picks.map Pick.taken) := by
  have own : ∀ pick ∈ picks, pick.claimIdx = claimIdx ∧ pick.reqIdx = reqIdx ∧ pick.rd = rd := by
    intro pick member
    have inSlots : pick.toSlot ∈ slotsFrom claimIdx reqIdx rd 0 (numSlots ctx rd) :=
      slots ▸ mem_map_of_mem member
    obtain ⟨slotIdx, -, same⟩ := mem_map.mp inSlots
    rw [← same]
    exact ⟨rfl, rfl, rfl⟩
  have length : picks.length = numSlots ctx rd := by
    simpa [slotsFrom] using congrArg length slots
  refine ⟨by rw [length_map, length], ?_, ?_, ?_, fun isAll => ?_⟩
  · exact forall_mem_map.mpr fun pick member => (own pick member).1
  · exact forall_mem_map.mpr fun pick member => (fits pick member).offered
  · refine forall_mem_map.mpr fun pick member => ?_
    obtain ⟨rfl, rfl, -⟩ := own pick member
    exact (fits pick member).recalled
  · have count : numSlots ctx rd = (allModeDevices ctx rd).length := by simp [numSlots, isAll]
    have listed : picks.map (fun pick => some pick.dw) = (allModeDevices ctx rd).map some := by
      calc picks.map (fun pick => some pick.dw)
          = picks.map fun pick => (allModeDevices ctx rd)[pick.slotIdx]? := by
            refine map_congr_left fun pick member => ?_
            obtain ⟨-, -, rfl⟩ := own pick member
            exact ((fits pick member).listed isAll).symm
        _ = (picks.map Pick.toSlot).map fun slot => (allModeDevices ctx rd)[slot.slotIdx]? := by
            rw [map_map]
            rfl
        _ = (allModeDevices ctx rd).map some := by
            rw [slots, slotsFrom, map_map, count]
            exact ext_getElem (by simp) (by simp)
    rw [map_map]
    exact map_injective_iff.mpr (Option.some_injective _) (by rw [← listed, map_map]; rfl)

theorem fillsRequests_of_picks {requests : List (RequestData × Nat)}
    (slots : picks.map Pick.toSlot = slotsOfRequests ctx claimIdx requests) :
    ∃ blocks, picks.map Pick.taken = blocks.flatten ∧
      FillsRequests ctx initial Recalls claimIdx requests blocks := by
  induction requests generalizing picks with
  | nil =>
    obtain rfl := map_eq_nil_iff.mp slots
    exact ⟨[], rfl, .nil⟩
  | cons request rest ih =>
    obtain ⟨own, others, rfl, ownSlots, otherSlots⟩ := map_eq_append_iff.mp slots
    rw [forall_mem_append] at fits
    obtain ⟨blocks, isBlocks, fills⟩ := ih fits.2 otherSlots
    exact ⟨own.map Pick.taken :: blocks, by rw [map_append, isBlocks, flatten_cons],
      .cons (fills_of_picks fits.1 ownSlots) fills⟩

theorem fillsClaims_of_picks (slots : picks.map Pick.toSlot = slotsOfClaims ctx claims) :
    ∃ blocks, picks.map Pick.taken = blocks.flatten.flatten ∧
      FillsClaims ctx initial Recalls claims blocks := by
  induction claims generalizing picks with
  | nil =>
    obtain rfl := map_eq_nil_iff.mp slots
    exact ⟨[], rfl, .nil⟩
  | cons claim rest ih =>
    obtain ⟨own, others, rfl, ownSlots, otherSlots⟩ := map_eq_append_iff.mp slots
    rw [forall_mem_append] at fits
    obtain ⟨ownBlocks, isOwn, ownFills⟩ := fillsRequests_of_picks fits.1 ownSlots
    obtain ⟨blocks, isBlocks, fills⟩ := ih fits.2 otherSlots
    exact ⟨ownBlocks :: blocks, by rw [map_append, isOwn, isBlocks, flatten_cons,
      flatten_append], .cons ownFills fills⟩

end

end Search

end Kraftsman.DynamicResources
