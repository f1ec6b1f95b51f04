import Kraftsman.DynamicResources.Types
import Kraftsman.Utils.Resources

/-!
Contract: instance types and their offerings, as cloud providers describe them.

Owns: allocatable resources, compatible offerings, launch prices, and minimum
numbers of values.
Does not own: which instance types a NodePool or a NodeClaim considers.
-/

namespace Kraftsman.CloudProvider

open Apis Data List
open Kraftsman.DynamicResources (ResourceSlice)
open Scheduling

/-- Resources the kubelet and system daemons take. -/
structure InstanceTypeOverhead where
  kubeReserved : ResourceList := ∅
  systemReserved : ResourceList := ∅
  evictionThreshold : ResourceList := ∅
  deriving DecidableEq

def InstanceTypeOverhead.total (overhead : InstanceTypeOverhead) : ResourceList :=
  Resources.merge [overhead.kubeReserved, overhead.systemReserved, overhead.evictionThreshold]

structure Offering where
  requirements : Requirements
  price : ℚ
  available : Bool := true
  reservationCapacity : Int := 0
  capacityOverride : ResourceList := ∅
  overheadOverride : Option InstanceTypeOverhead := none
  deriving DecidableEq

/-- A kind of instance, with the devices it promises. -/
structure InstanceType where
  name : String
  requirements : Requirements
  offerings : List Offering
  capacity : ResourceList
  overhead : InstanceTypeOverhead := {}
  resourceSliceTemplates : List ResourceSlice := []
  deriving DecidableEq

/-- The price of an instance type without an offering. -/
abbrev Price := WithTop ℚ

def capacityTypeReserved : String := "reserved"

def capacityTypeSpot : String := "spot"

def capacityTypeOnDemand : String := "on-demand"

variable (tables : LabelTables)

def capacityTypeRequirement (capacityType : String) : Requirements :=
  .newRequirements tables [.newRequirement tables capacityTypeLabelKey .opIn [capacityType]]

namespace Offering

variable (offering : Offering)

def capacityType : String :=
  (offering.requirements.get tables capacityTypeLabelKey).any

def zone : String :=
  (offering.requirements.get tables labelTopologyZone).any

def reservationID : String :=
  (offering.requirements.get tables tables.reservationIDLabel).any

/-- Whether a node with these requirements can launch from it. -/
def compatible (requirements : Requirements) : Bool :=
  requirements.isCompatible tables offering.requirements tables.wellKnownLabels

def hasOverride : Bool :=
  !offering.capacityOverride.entries.isEmpty || offering.overheadOverride.isSome

end Offering

def availableOfferings (offerings : List Offering) : List Offering :=
  offerings.filter (·.available)

variable (offerings : List Offering) (requirements : Requirements)

def compatibleOfferings : List Offering :=
  offerings.filter (·.compatible tables requirements)

def cheapest : List Offering → Price
  | [] => ⊤
  | offering :: rest => rest.foldl (fun price other => min price other.price) (offering.price : Price)

def mostExpensive : List Offering → Price
  | [] => ⊤
  | offering :: rest => rest.foldl (fun price other => max price other.price) (offering.price : Price)

/-- The capacity types in the order a launch prefers them. -/
def capacityTypePrecedence : List String :=
  [capacityTypeReserved, capacityTypeSpot, capacityTypeOnDemand]

/-- Price the compatible offerings of the capacity type a launch prefers. -/
def launchPriceBy (price : List Offering → Price) (offerings : List Offering)
    (requirements : Requirements) : Price :=
  let byType := capacityTypePrecedence.map fun capacityType =>
    compatibleOfferings tables (compatibleOfferings tables offerings requirements)
      (capacityTypeRequirement tables capacityType)
  match byType.find? (!·.isEmpty) with
  | some offerings => price offerings
  | none => ⊤

def worstLaunchPrice : Price :=
  launchPriceBy tables mostExpensive offerings requirements

def cheapestLaunchPrice : Price :=
  launchPriceBy tables cheapest offerings requirements

structure AllocatableOfferings where
  allocatable : ResourceList
  offerings : List Offering

def sameResources (left right : ResourceList) : Bool :=
  left.entries.Perm right.entries

def Offering.sameOverride (left right : Offering) : Bool :=
  sameResources left.capacityOverride right.capacityOverride &&
    match left.overheadOverride, right.overheadOverride with
    | none, none => true
    | some left, some right =>
      sameResources left.kubeReserved right.kubeReserved &&
        sameResources left.systemReserved right.systemReserved &&
        sameResources left.evictionThreshold right.evictionThreshold
    | _, _ => false

def insertByOverride : List (List Offering) → Offering → List (List Offering)
  | [], offering => [[offering]]
  | group :: rest, offering =>
    if group.head?.any (·.sameOverride offering) then (group ++ [offering]) :: rest
    else group :: insertByOverride rest offering

variable (it : InstanceType)

namespace InstanceType

/-- The resources left for pods. Huge pages are taken from the memory. -/
def computeAllocatable (capacityOverride : ResourceList)
    (overheadOverride : Option InstanceTypeOverhead) : ResourceList :=
  let capacity :=
    if capacityOverride.entries.isEmpty then it.capacity
    else Resources.merge [it.capacity, capacityOverride]
  let overhead :=
    match overheadOverride with
    | none => it.overhead.total
    | some override => Resources.merge [it.overhead.total, override.total]
  (capacity.entries.filter fun entry => entry.1.startsWith "hugepages-").foldl
    (fun allocatable entry =>
      allocatable.insert "memory" (max 0 (Resources.amount allocatable "memory" - entry.2)))
    (Resources.subtract capacity overhead)

/-- The available offerings by what they change, those without a change first. -/
def allocatableOfferingsList : List AllocatableOfferings :=
  let available := availableOfferings it.offerings
  let overriding := (available.filter (·.hasOverride)).foldl insertByOverride []
  { allocatable := it.computeAllocatable ∅ none,
    offerings := available.filter (!·.hasOverride) } ::
  overriding.map fun group =>
    { allocatable := it.computeAllocatable (group.head?.elim ∅ (·.capacityOverride))
        (group.head?.bind (·.overheadOverride)),
      offerings := group }

/-- The cheapest price at which requirements are met. -/
def cheapestCompatible (requirements : Requirements) : Price :=
  cheapest (compatibleOfferings tables (availableOfferings it.offerings) requirements)

def offeringPrice (zone capacityType : String) : Option ℚ :=
  (it.offerings.find? fun offering =>
    offering.zone tables = zone && offering.capacityType tables = capacityType).map (·.price)

end InstanceType

theorem insertByOverride_perm (groups : List (List Offering)) (offering : Offering) :
    (insertByOverride groups offering).flatten.Perm (offering :: groups.flatten) := by
  induction groups with
  | nil => exact .refl _
  | cons group rest ih =>
    unfold insertByOverride
    split_ifs
    · simp
    · exact (ih.append_left group).trans perm_middle

theorem foldl_insertByOverride_perm (offerings : List Offering) (groups : List (List Offering)) :
    (offerings.foldl insertByOverride groups).flatten.Perm (offerings ++ groups.flatten) := by
  induction offerings generalizing groups with
  | nil => exact .refl _
  | cons offering rest ih =>
    exact (ih _).trans (((insertByOverride_perm groups offering).append_left rest).trans
      perm_middle)

theorem flatMap_allocatableOfferingsList_perm :
    (it.allocatableOfferingsList.flatMap (·.offerings)).Perm (availableOfferings it.offerings) := by
  have groups := foldl_insertByOverride_perm
    ((availableOfferings it.offerings).filter (·.hasOverride)) []
  refine .trans ?_ (filter_append_perm (·.hasOverride) _)
  refine .trans ?_ perm_append_comm
  simpa [InstanceType.allocatableOfferingsList, flatMap_map] using groups.append_left _

theorem mem_allocatableOfferingsList {it : InstanceType} {launch : AllocatableOfferings}
    {offering : Offering} (listed : launch ∈ it.allocatableOfferingsList)
    (offered : offering ∈ launch.offerings) :
    offering ∈ it.offerings ∧ offering.available :=
  mem_filter.mp ((flatMap_allocatableOfferingsList_perm it).mem_iff.mp
    (mem_flatMap.mpr ⟨launch, listed, offered⟩))

variable (its : List InstanceType) (requirements : Requirements)

/-- By the cheapest offering that is available and compatible. -/
def orderByPrice : List InstanceType :=
  its.insertionSort fun left right =>
    left.cheapestCompatible tables requirements ≤ right.cheapestCompatible tables requirements

def listedValues (its : List InstanceType) (key : String) : Finset String :=
  its.foldl (fun values it => values ∪ (it.requirements.get tables key).values) ∅

/-- The keys for which too few values are listed, with how many there are. -/
def unsatisfiedMinValues : GoMap String Nat :=
  GoMap.ofList (requirements.values.filterMap fun requirement =>
    match requirement.minValues with
    | none => none
    | some minValues =>
      let listed := (listedValues tables its requirement.key).card
      if (listed : Int) < minValues then some (requirement.key, listed) else none)

/-- Walk over instance types until enough values are listed for every key. The
result has how many were visited and the keys without enough. -/
def satisfyMinValuesFrom (requirements : Requirements) :
    (visited its : List InstanceType) → GoMap String Nat → Nat × GoMap String Nat
  | visited, [], incompatible => (visited.length, incompatible)
  | visited, it :: rest, _ =>
    let visited := visited ++ [it]
    let incompatible := unsatisfiedMinValues tables visited requirements
    if incompatible.entries.isEmpty then (visited.length, ∅)
    else satisfyMinValuesFrom requirements visited rest incompatible

/-- How many instance types it takes to list enough values for every key, and the
keys for which all of them are too few. -/
def satisfiesMinValues : Nat × GoMap String Nat :=
  if requirements.hasMinValues then satisfyMinValuesFrom tables requirements [] its ∅ else (0, ∅)

end Kraftsman.CloudProvider
