import Kraftsman.DynamicResources.Counters

/-!
Contract: the controller that knows which devices the claims of a cluster hold.

It observes one claim after another and patches its indexes by what changed for
the devices of the claim.

Owns: the indexes after any sequence of observations, and how they relate to the
claims as last observed.
Does not own: which devices a scheduling run may hand out again.
-/

namespace Kraftsman.DynamicResources

open Apis Data GoMap AList Option List

/-! ### Claims -/

/-- A device of a claim, with the capacity consumed if it can be shared. -/
structure DeviceRequestAllocationResult where
  device : CloudDeviceID
  consumedCapacity : Option Capacities := none

structure ObservedClaim extends ResourceClaim where
  results : List DeviceRequestAllocationResult := []

def ResourceClaimConsumerReference.isPod (ref : ResourceClaimConsumerReference) : Bool :=
  ref.resource = "pods" && ref.apiGroup = ""

def ObservedClaim.deviceResults (claim : ObservedClaim) : List DeviceRequestAllocationResult :=
  if claim.allocation.isNone then [] else claim.results

/-! ### The controller -/

structure DeviceContribution where
  consumedCapacity : Option Capacities := none

structure ClaimMetadata where
  releasable : Bool := false
  podUIDs : List String := []
  contributions : GoMap CloudDeviceID DeviceContribution := ∅

/-- What a claim consumes of a shared device, and for which pods. -/
structure ContributionMetadata where
  podUIDs : List String
  consumedCapacity : Capacities

/-- What all claims of a device add up to. -/
structure DeviceMetadata where
  releasable : Bool := true
  podUIDs : List String := []
  shared : Bool := false
  consumedCapacity : Capacities := ∅
  contributions : List ContributionMetadata := []

structure DeviceAllocationController where
  allocatedDevices : GoMap CloudDeviceID DeviceMetadata := ∅
  claimsPerDevice : GoMap CloudDeviceID (GoMap ResourceClaimID Unit) := ∅
  claimMetadata : GoMap ResourceClaimID ClaimMetadata := ∅

/-- The metadata of a claim. It is releasable if reserved, and for pods only. -/
def claimMetadata (claim : ResourceClaim) (contributions : GoMap CloudDeviceID DeviceContribution) :
    ClaimMetadata :=
  claim.reservedFor.foldl (fun metadata ref =>
    if ref.isPod then { metadata with podUIDs := metadata.podUIDs ++ [ref.uid] }
    else { metadata with releasable := false })
    { releasable := !claim.reservedFor.isEmpty, contributions := contributions }

/-- What a claim contributes to its devices; of a device listed again, the last counts. -/
def contributionsOf (results : List DeviceRequestAllocationResult) :
    GoMap CloudDeviceID DeviceContribution :=
  results.foldl (fun contributions result =>
    contributions.insert result.device { consumedCapacity := result.consumedCapacity }) ∅

variable (device : CloudDeviceID)

def addClaim (metadata : DeviceMetadata) (claim : ClaimMetadata) : DeviceMetadata :=
  let metadata := { metadata with
    releasable := metadata.releasable && claim.releasable
    podUIDs := metadata.podUIDs ++ claim.podUIDs }
  match ((claim.contributions.lookup device).getD {}).consumedCapacity with
  | none => metadata
  | some consumed =>
    { metadata with
      shared := true
      consumedCapacity := addCounters metadata.consumedCapacity consumed
      contributions := metadata.contributions ++
        [{ podUIDs := claim.podUIDs, consumedCapacity := consumed }] }

def deviceMetadata (known : GoMap ResourceClaimID ClaimMetadata) (order : RangeOrder ResourceClaimID)
    (device : CloudDeviceID) (claims : GoMap ResourceClaimID Unit) : DeviceMetadata :=
  ((order.visit 0 claims.keys).map fun name => (known.lookup name).getD {}).foldl (addClaim device) {}

namespace DeviceAllocationController

variable (controller : DeviceAllocationController)

def claimsFor (device : CloudDeviceID) : GoMap ResourceClaimID Unit :=
  (controller.claimsPerDevice.lookup device).getD ∅

def contributed (name : ResourceClaimID) : GoMap CloudDeviceID DeviceContribution :=
  ((controller.claimMetadata.lookup name).getD {}).contributions

def computeDeviceMetadata (order : RangeOrder ResourceClaimID) (device : CloudDeviceID) :
    DeviceMetadata :=
  deviceMetadata controller.claimMetadata order device (controller.claimsFor device)

variable (order : CloudDeviceID → RangeOrder ResourceClaimID)

/-- A claim does not hold a device any more. -/
def dropDevice (name : ResourceClaimID) (controller : DeviceAllocationController)
    (device : CloudDeviceID) : DeviceAllocationController :=
  let claims := (controller.claimsFor device).erase name
  if claims.entries.isEmpty then
    { controller with
      claimsPerDevice := controller.claimsPerDevice.erase device
      allocatedDevices := controller.allocatedDevices.erase device }
  else
    let controller := { controller with
      claimsPerDevice := controller.claimsPerDevice.insert device claims }
    { controller with
      allocatedDevices := controller.allocatedDevices.insert device
        (controller.computeDeviceMetadata (order device) device) }

def addDevice (name : ResourceClaimID) (controller : DeviceAllocationController)
    (device : CloudDeviceID) : DeviceAllocationController :=
  let controller := { controller with
    claimsPerDevice := controller.claimsPerDevice.insert device
      ((controller.claimsFor device).insert name ()) }
  { controller with
    allocatedDevices := controller.allocatedDevices.insert device
      (controller.computeDeviceMetadata (order device) device) }

def finalizeClaim (name : ResourceClaimID) : DeviceAllocationController :=
  let dropped := (controller.contributed name).keys.foldl (dropDevice order name) controller
  { dropped with claimMetadata := dropped.claimMetadata.erase name }

def reconcileClaim (claim : ObservedClaim) : DeviceAllocationController :=
  if claim.deviceResults.isEmpty then controller.finalizeClaim order claim.id
  else
    let contributions := contributionsOf claim.deviceResults
    let devicesToRemove := (controller.contributed claim.id).keys.filter (· ∉ contributions)
    let noted := { controller with
      claimMetadata := controller.claimMetadata.insert claim.id
        (DynamicResources.claimMetadata claim.toResourceClaim contributions) }
    contributions.keys.foldl (addDevice order claim.id)
      (devicesToRemove.foldl (dropDevice order claim.id) noted)

end DeviceAllocationController

/-- A claim as it is, or that it is gone. -/
inductive ClaimObservation where
  | reconcile (claim : ObservedClaim) (order : CloudDeviceID → RangeOrder ResourceClaimID)
  | finalize (name : ResourceClaimID) (order : CloudDeviceID → RangeOrder ResourceClaimID)

def DeviceAllocationController.apply (controller : DeviceAllocationController) :
    ClaimObservation → DeviceAllocationController
  | .reconcile claim order => controller.reconcileClaim order claim
  | .finalize name order => controller.finalizeClaim order name

def observe (observed : GoMap ResourceClaimID ObservedClaim) :
    ClaimObservation → GoMap ResourceClaimID ObservedClaim
  | .reconcile claim _ => observed.insert claim.id claim
  | .finalize name _ => observed.erase name

variable (events : List ClaimObservation)

def controllerAfter : DeviceAllocationController :=
  events.foldl DeviceAllocationController.apply {}

def observedAfter : GoMap ResourceClaimID ObservedClaim :=
  events.foldl observe ∅

/-! ### What the claims say -/

namespace ObservedClaim

variable (claim : ObservedClaim)

def lists (device : CloudDeviceID) : Bool := claim.deviceResults.any (·.device = device)

def podUIDs : List String := (claim.reservedFor.filter (·.isPod)).map (·.uid)

def releasable : Bool := !claim.reservedFor.isEmpty && claim.reservedFor.all (·.isPod)

end ObservedClaim

def DeviceRequestAllocationResult.amount (result : DeviceRequestAllocationResult)
    (dimension : QualifiedName) : Quantity :=
  ((result.consumedCapacity.getD ∅).lookup dimension).getD 0

namespace ObservedClaim

variable (claim : ObservedClaim) (device : CloudDeviceID) (dimension : QualifiedName)

def consumed : Quantity :=
  ((claim.deviceResults.filter (·.device = device)).map (·.amount dimension)).sum

/-- What all but the last result for a device consume of a dimension. -/
def overwritten : Quantity :=
  ((claim.deviceResults.filter (·.device = device)).dropLast.map (·.amount dimension)).sum

end ObservedClaim

def holders (observed : GoMap ResourceClaimID ObservedClaim) (device : CloudDeviceID) :
    List ObservedClaim :=
  observed.values.filter (·.lists device)

/-- The indexes are those recomputed from the claims. -/
structure DeviceAllocationController.Recomputed (controller : DeviceAllocationController)
    (observed : GoMap ResourceClaimID ObservedClaim) : Prop where
  claims : ∀ device name, name ∈ controller.claimsFor device ↔
    ∃ claim, observed.lookup name = some claim ∧ claim.lists device = true
  allocated : ∀ device, device ∈ controller.allocatedDevices ↔ holders observed device ≠ []
  podUIDs : ∀ device metadata, controller.allocatedDevices.lookup device = some metadata →
    metadata.podUIDs.Perm ((holders observed device).flatMap (·.podUIDs))
  releasable : ∀ device metadata, controller.allocatedDevices.lookup device = some metadata →
    metadata.releasable = (holders observed device).all (·.releasable)
  consumedCapacity : ∀ device metadata, controller.allocatedDevices.lookup device = some metadata →
    ∀ dimension, (metadata.consumedCapacity.lookup dimension).getD 0 =
      ((holders observed device).map (·.consumed device dimension)).sum

/-! ### Closed forms -/

private theorem foldl_references (refs : List ResourceClaimConsumerReference)
    (metadata : ClaimMetadata) :
    refs.foldl (fun metadata ref =>
      if ref.isPod then { metadata with podUIDs := metadata.podUIDs ++ [ref.uid] }
      else { metadata with releasable := false }) metadata =
      { releasable := metadata.releasable && refs.all (·.isPod)
        podUIDs := metadata.podUIDs ++ (refs.filter (·.isPod)).map (·.uid)
        contributions := metadata.contributions } := by
  induction refs generalizing metadata with
  | nil => simp
  | cons ref rest ih =>
    rw [foldl_cons, ih]
    cases isPod : ref.isPod <;> simp [isPod]

theorem claimMetadata_eq (claim : ObservedClaim)
    (contributions : GoMap CloudDeviceID DeviceContribution) :
    claimMetadata claim.toResourceClaim contributions =
      { releasable := claim.releasable, podUIDs := claim.podUIDs, contributions := contributions } := by
  unfold claimMetadata
  rw [foldl_references]
  rfl

theorem lookup_contributionsOf (results : List DeviceRequestAllocationResult) (device : CloudDeviceID) :
    (contributionsOf results).lookup device =
      (results.filter (·.device = device)).getLast?.map fun result =>
        { consumedCapacity := result.consumedCapacity } := by
  unfold contributionsOf
  induction results using reverseRecOn with
  | nil => rfl
  | append_singleton results last ih =>
    rw [foldl_append, foldl_cons, foldl_nil, lookup_insert_eq, ih, filter_append]
    by_cases same : last.device = device
    · simp [same]
    · simp [same, Ne.symm same]

def ClaimMetadata.recorded (claim : ClaimMetadata) (device : CloudDeviceID) : Option Capacities :=
  ((claim.contributions.lookup device).getD {}).consumedCapacity

theorem foldl_addClaim (claims : List ClaimMetadata) (metadata : DeviceMetadata) :
    claims.foldl (addClaim device) metadata =
      { releasable := metadata.releasable && claims.all (·.releasable)
        podUIDs := metadata.podUIDs ++ claims.flatMap (·.podUIDs)
        shared := metadata.shared || claims.any fun claim => (claim.recorded device).isSome
        consumedCapacity := (claims.filterMap (·.recorded device)).foldl addCounters
          metadata.consumedCapacity
        contributions := metadata.contributions ++ claims.filterMap fun claim =>
          (claim.recorded device).map fun consumed =>
            { podUIDs := claim.podUIDs, consumedCapacity := consumed } } := by
  induction claims generalizing metadata with
  | nil => simp
  | cons claim rest ih =>
    rw [foldl_cons, ih]
    have unfolded : addClaim device metadata claim =
        match claim.recorded device with
        | none => { metadata with
            releasable := metadata.releasable && claim.releasable
            podUIDs := metadata.podUIDs ++ claim.podUIDs }
        | some consumed => { metadata with
            releasable := metadata.releasable && claim.releasable
            podUIDs := metadata.podUIDs ++ claim.podUIDs
            shared := true
            consumedCapacity := addCounters metadata.consumedCapacity consumed
            contributions := metadata.contributions ++
              [{ podUIDs := claim.podUIDs, consumedCapacity := consumed }] } := rfl
    rw [unfolded]
    cases recorded : claim.recorded device <;> simp [recorded, Bool.and_assoc]

/-! ### The indexes at a device -/

abbrev DeviceView := Option (GoMap ResourceClaimID Unit) × Option DeviceMetadata

def contributedBy (known : GoMap ResourceClaimID ClaimMetadata) (name : ResourceClaimID) :
    GoMap CloudDeviceID DeviceContribution :=
  ((known.lookup name).getD {}).contributions

namespace DeviceView

variable (known : GoMap ResourceClaimID ClaimMetadata) (order : RangeOrder ResourceClaimID)
variable (device : CloudDeviceID) (name : ResourceClaimID) (view : DeviceView)

def claims : GoMap ResourceClaimID Unit := view.1.getD ∅

def drop : DeviceView :=
  if (view.claims.erase name).entries.isEmpty then (none, none)
  else (some (view.claims.erase name),
    some (deviceMetadata known order device (view.claims.erase name)))

def add : DeviceView :=
  (some (view.claims.insert name ()),
    some (deviceMetadata known order device (view.claims.insert name ())))

/-- The indexes at a device agree with what is known of the claims. -/
structure Settled : Prop where
  claims : ∀ name, name ∈ view.claims ↔ device ∈ contributedBy known name
  entry : (view.2 = none ∧ view.claims.entries = []) ∨
    (view.claims.entries ≠ [] ∧ ∃ order, view.2 = some (deviceMetadata known order device view.claims))

end DeviceView

section Views

variable {known known' other : GoMap ResourceClaimID ClaimMetadata}
variable {device : CloudDeviceID} {name : ResourceClaimID} {view : DeviceView}

theorem deviceMetadata_congr {order : RangeOrder ResourceClaimID} {claims : GoMap ResourceClaimID Unit}
    (same : ∀ name ∈ claims, known'.lookup name = known.lookup name) :
    deviceMetadata known' order device claims = deviceMetadata known order device claims := by
  unfold deviceMetadata
  congr 1
  apply List.map_congr_left
  intro name member
  rw [same name (RangeOrder.mem_visit.mp member)]

theorem contributedBy_congr (same : known'.lookup name = known.lookup name) :
    contributedBy known' name = contributedBy known name := by
  unfold contributedBy
  rw [same]

namespace DeviceView

section

variable (settled : view.Settled known device)
  (agree : ∀ other ≠ name, known'.lookup other = known.lookup other)
include settled agree

theorem Settled.unchanged (before : device ∉ contributedBy known name)
    (now : device ∉ contributedBy known' name) :
    view.Settled known' device := by
  have absent : name ∉ view.claims := fun member => before ((settled.claims name).mp member)
  have same : ∀ other ∈ view.claims, known'.lookup other = known.lookup other := by
    intro other member
    apply agree
    rintro rfl
    exact absent member
  refine ⟨fun other => ?_, ?_⟩
  · by_cases isName : other = name
    · subst isName
      exact ⟨fun member => absurd member absent, fun member => absurd member now⟩
    · rw [settled.claims, contributedBy_congr (agree other isName)]
  · refine settled.entry.imp_right (And.imp_right ?_)
    rintro ⟨order, isEntry⟩
    exact ⟨order, by rw [isEntry, deviceMetadata_congr same]⟩

/-- A device that is not held any more is settled once it is dropped, whether or
not the claim is known. -/
theorem Settled.drop (known_eq : ∀ claim ≠ name, other.lookup claim = known.lookup claim)
    (now : device ∉ contributedBy known' name) (order : RangeOrder ResourceClaimID) :
    (view.drop other order device name).Settled known' device := by
  have members : ∀ claim, claim ∈ view.claims.erase name ↔ device ∈ contributedBy known' claim := by
    intro claim
    rw [mem_erase, settled.claims]
    by_cases isName : claim = name
    · subst isName
      simp [now]
    · rw [contributedBy_congr (agree claim isName)]
      simp [isName]
  unfold DeviceView.drop
  split_ifs with empty
  · rw [List.isEmpty_iff] at empty
    refine ⟨fun claim => ?_, .inl ⟨rfl, rfl⟩⟩
    rw [← members]
    have same : view.claims.erase name = ∅ := ext empty
    rw [same]
    rfl
  · rw [List.isEmpty_iff] at empty
    refine ⟨members, .inr ⟨empty, order, ?_⟩⟩
    apply congrArg some
    apply deviceMetadata_congr
    intro claim member
    have isOther : claim ≠ name := (mem_erase.mp member).1
    rw [known_eq claim isOther, agree claim isOther]

end

theorem Settled.add (settled : view.Settled known device)
    (agree : ∀ other ≠ name, known'.lookup other = known.lookup other)
    (now : device ∈ contributedBy known' name) (order : RangeOrder ResourceClaimID) :
    (view.add known' order device name).Settled known' device := by
  refine ⟨fun claim => ?_, .inr ⟨?_, order, rfl⟩⟩
  · have split : claim ∈ view.claims.insert name () ↔ claim = name ∨ claim ∈ view.claims :=
      mem_insert _
    refine split.trans ?_
    rw [settled.claims]
    by_cases isName : claim = name
    · subst isName
      simp [now]
    · rw [contributedBy_congr (agree claim isName)]
      simp [isName]
  · intro empty
    have member : name ∈ view.claims.insert name () := (mem_insert _).mpr (.inl rfl)
    exact lookup_eq_none.mp (lookup_eq_none_of_entries_nil empty name) member

end DeviceView

end Views

namespace DeviceAllocationController

def view (controller : DeviceAllocationController) (device : CloudDeviceID) : DeviceView :=
  (controller.claimsPerDevice.lookup device, controller.allocatedDevices.lookup device)

def Settled (controller : DeviceAllocationController) : Prop :=
  ∀ device, (controller.view device).Settled controller.claimMetadata device

variable {controller : DeviceAllocationController}
variable {order : CloudDeviceID → RangeOrder ResourceClaimID} {name : ResourceClaimID}

variable (device : CloudDeviceID)

theorem dropDevice_here : (controller.dropDevice order name device).view device =
      (controller.view device).drop controller.claimMetadata (order device) device name := by
  unfold dropDevice DeviceView.drop
  dsimp only
  have claims : (controller.view device).claims = controller.claimsFor device := rfl
  rw [claims]
  split_ifs
  · exact Prod.ext (by simp [view]) (by simp [view])
  · simp [view, computeDeviceMetadata, claimsFor]

theorem dropDevice_elsewhere {device other : CloudDeviceID} (different : other ≠ device) :
    (controller.dropDevice order name device).view other = controller.view other := by
  unfold dropDevice
  dsimp only
  split_ifs
  · simp [view, different]
  · simp [view, different]

theorem dropDevice_claimMetadata :
    (controller.dropDevice order name device).claimMetadata = controller.claimMetadata := by
  unfold dropDevice
  dsimp only
  split_ifs <;> rfl

theorem addDevice_here : (controller.addDevice order name device).view device =
      (controller.view device).add controller.claimMetadata (order device) device name := by
  have claims : (controller.view device).claims = controller.claimsFor device := rfl
  unfold addDevice DeviceView.add
  rw [claims]
  simp [view, computeDeviceMetadata, claimsFor]

theorem addDevice_elsewhere {device other : CloudDeviceID} (different : other ≠ device) :
    (controller.addDevice order name device).view other = controller.view other := by
  simp [addDevice, view, different]

theorem addDevice_claimMetadata :
    (controller.addDevice order name device).claimMetadata = controller.claimMetadata := rfl

variable {devices : List CloudDeviceID}

theorem foldl_view {visit : DeviceAllocationController → CloudDeviceID → DeviceAllocationController}
    (change : GoMap ResourceClaimID ClaimMetadata → CloudDeviceID → DeviceView → DeviceView)
    (known : ∀ controller device, (visit controller device).claimMetadata = controller.claimMetadata)
    (here : ∀ controller device, (visit controller device).view device =
      change controller.claimMetadata device (controller.view device))
    (elsewhere : ∀ controller device other, other ≠ device →
      (visit controller device).view other = controller.view other) (nodup : devices.Nodup) :
    (devices.foldl visit controller).claimMetadata = controller.claimMetadata ∧ ∀ device,
      (devices.foldl visit controller).view device =
        if device ∈ devices then change controller.claimMetadata device (controller.view device)
        else controller.view device := by
  let Same : DeviceAllocationController → Prop := fun state =>
    state.claimMetadata = controller.claimMetadata
  have kept : ∀ state key, Same state → Same (visit state key) :=
    fun state key same => (known state key).trans same
  have changed : ∀ state key, Same state →
      (visit state key).view key = change controller.claimMetadata key (state.view key) := by
    intro state key same
    rw [here, same]
  exact ⟨foldlRecOn (motive := Same) devices visit rfl fun state same key _ =>
    kept state key same, read_foldl _ Same kept changed elsewhere nodup rfl⟩

theorem foldl_dropDevice (nodup : devices.Nodup) :
    (devices.foldl (dropDevice order name) controller).claimMetadata = controller.claimMetadata ∧
      ∀ device, (devices.foldl (dropDevice order name) controller).view device =
        if device ∈ devices then
          (controller.view device).drop controller.claimMetadata (order device) device name
        else controller.view device :=
  foldl_view (fun known device view => view.drop known (order device) device name)
    (fun _ => dropDevice_claimMetadata) (fun _ => dropDevice_here)
    (fun _ _ _ => dropDevice_elsewhere) nodup

theorem foldl_addDevice (nodup : devices.Nodup) :
    (devices.foldl (addDevice order name) controller).claimMetadata = controller.claimMetadata ∧
      ∀ device, (devices.foldl (addDevice order name) controller).view device =
        if device ∈ devices then
          (controller.view device).add controller.claimMetadata (order device) device name
        else controller.view device :=
  foldl_view (fun known device view => view.add known (order device) device name)
    (fun _ => addDevice_claimMetadata) (fun _ => addDevice_here)
    (fun _ _ _ => addDevice_elsewhere) nodup

theorem finalizeClaim_settled (settled : controller.Settled) :
    (controller.finalizeClaim order name).Settled ∧
      (controller.finalizeClaim order name).claimMetadata = controller.claimMetadata.erase name := by
  obtain ⟨known, views⟩ := @foldl_dropDevice controller order name _
    (controller.contributed name).keys_nodup
  have erased : (controller.finalizeClaim order name).claimMetadata =
      controller.claimMetadata.erase name := congrArg (·.erase name) known
  refine ⟨fun device => ?_, erased⟩
  rw [erased]
  have isView : (controller.finalizeClaim order name).view device = _ := views device
  have agree : ∀ other ≠ name, (controller.claimMetadata.erase name).lookup other =
      controller.claimMetadata.lookup other := fun other different => lookup_erase_ne different
  have now : device ∉ contributedBy (controller.claimMetadata.erase name) name := by
    unfold contributedBy
    rw [lookup_erase]
    exact notMem_empty _
  rw [isView]
  split_ifs with held
  · exact (settled device).drop agree (fun _ _ => rfl) now _
  · exact (settled device).unchanged agree held now

/-- What the controller keeps of a claim that holds devices. -/
def notedMetadata (claim : ObservedClaim) : ClaimMetadata :=
  DynamicResources.claimMetadata claim.toResourceClaim (contributionsOf claim.deviceResults)

theorem notedMetadata_eq (claim : ObservedClaim) : notedMetadata claim =
    ⟨claim.releasable, claim.podUIDs, contributionsOf claim.deviceResults⟩ :=
  claimMetadata_eq claim _

theorem contributedBy_insert {known : GoMap ResourceClaimID ClaimMetadata} {metadata : ClaimMetadata} :
    contributedBy (known.insert name metadata) name = metadata.contributions := by
  unfold contributedBy
  rw [lookup_insert]
  rfl

theorem reconcileClaim_settled {claim : ObservedClaim} (settled : controller.Settled)
    (holds : claim.deviceResults ≠ []) :
    (controller.reconcileClaim order claim).Settled ∧
      (controller.reconcileClaim order claim).claimMetadata =
        controller.claimMetadata.insert claim.id (notedMetadata claim) := by
  let known := controller.claimMetadata.insert claim.id (notedMetadata claim)
  let noted : DeviceAllocationController := { controller with claimMetadata := known }
  obtain ⟨droppedKnown, dropped⟩ := @foldl_dropDevice noted order claim.id _
    (List.Nodup.filter (· ∉ contributionsOf claim.deviceResults)
      (controller.contributed claim.id).keys_nodup)
  obtain ⟨addedKnown, added⟩ := @foldl_addDevice (((controller.contributed claim.id).keys.filter
      (· ∉ contributionsOf claim.deviceResults)).foldl (dropDevice order claim.id) noted)
    order claim.id _ (contributionsOf claim.deviceResults).keys_nodup
  have reconciled : controller.reconcileClaim order claim = _ :=
    if_neg (by simpa [List.isEmpty_iff] using holds)
  have isKnown : (controller.reconcileClaim order claim).claimMetadata = known := by
    rw [reconciled]
    exact addedKnown.trans droppedKnown
  refine ⟨fun device => ?_, isKnown⟩
  have isView : (controller.reconcileClaim order claim).view device = _ :=
    (congrArg (·.view device) reconciled).trans (added device)
  rw [isKnown, isView, dropped device, droppedKnown]
  have agree : ∀ other ≠ claim.id, known.lookup other = controller.claimMetadata.lookup other :=
    fun other different => lookup_insert_ne different
  have now : contributedBy known claim.id = contributionsOf claim.deviceResults :=
    contributedBy_insert.trans (by rw [notedMetadata_eq])
  have removed : device ∈ (controller.contributed claim.id).keys.filter
      (· ∉ contributionsOf claim.deviceResults) ↔
        device ∈ contributedBy controller.claimMetadata claim.id ∧
          device ∉ contributionsOf claim.deviceResults := by
    rw [mem_filter, decide_eq_true_eq]
    rfl
  have start := settled device
  split_ifs with holdsNow heldBefore heldBefore
  · exact absurd holdsNow (removed.mp heldBefore).2
  · exact start.add agree (now ▸ holdsNow) _
  · exact start.drop agree agree (now ▸ holdsNow) _
  · refine start.unchanged agree (fun before => heldBefore ?_) (now ▸ holdsNow)
    exact removed.mpr ⟨before, holdsNow⟩

/-- The controller knows the claims that hold devices as last observed. -/
structure Knows (controller : DeviceAllocationController)
    (observed : GoMap ResourceClaimID ObservedClaim) : Prop where
  settled : controller.Settled
  known : ∀ name, controller.claimMetadata.lookup name =
    (observed.lookup name).bind fun claim =>
      if claim.deviceResults = [] then none else some (notedMetadata claim)

theorem knows_start : ({} : DeviceAllocationController).Knows ∅ where
  settled _ := ⟨fun _ => iff_of_false (notMem_empty _) (notMem_empty _), .inl ⟨rfl, rfl⟩⟩
  known _ := rfl

variable {observed : GoMap ResourceClaimID ObservedClaim}

theorem Knows.finalize (knows : controller.Knows observed) :
    (controller.finalizeClaim order name).Settled ∧ ∀ other,
      (controller.finalizeClaim order name).claimMetadata.lookup other =
        if other = name then none
        else (observed.lookup other).bind fun claim =>
          if claim.deviceResults = [] then none else some (notedMetadata claim) := by
  obtain ⟨settled, known⟩ := @finalizeClaim_settled controller order name knows.settled
  refine ⟨settled, fun other => ?_⟩
  rw [known, lookup_erase_eq, knows.known]

theorem Knows.apply (knows : controller.Knows observed) (event : ClaimObservation) :
    (controller.apply event).Knows (observe observed event) := by
  cases event with
  | finalize name order =>
    obtain ⟨settled, known⟩ := @Knows.finalize _ order name _ knows
    refine ⟨settled, fun other => (known other).trans ?_⟩
    unfold observe
    rw [lookup_erase_eq]
    split_ifs <;> rfl
  | reconcile claim order =>
    by_cases holds : claim.deviceResults = []
    · have same : controller.reconcileClaim order claim = controller.finalizeClaim order claim.id :=
        if_pos (List.isEmpty_iff.mpr holds)
      obtain ⟨settled, known⟩ := @Knows.finalize _ order claim.id _ knows
      rw [DeviceAllocationController.apply, same]
      refine ⟨settled, fun other => (known other).trans ?_⟩
      unfold observe
      rw [lookup_insert_eq]
      split_ifs <;> simp [holds]
    · obtain ⟨settled, known⟩ := @reconcileClaim_settled _ order _ knows.settled holds
      refine ⟨settled, fun other => ?_⟩
      rw [DeviceAllocationController.apply, known, lookup_insert_eq, knows.known]
      unfold observe
      rw [lookup_insert_eq]
      split_ifs <;> simp [holds]

theorem knows_after : (controllerAfter events).Knows (observedAfter events) := by
  unfold controllerAfter observedAfter
  induction events using reverseRecOn with
  | nil => exact knows_start
  | append_singleton events last ih =>
    rw [foldl_append, foldl_append]
    exact ih.apply last

/-! ### Recomputation -/

variable {device : CloudDeviceID}

theorem mem_contributionsOf (claim : ObservedClaim) :
    device ∈ contributionsOf claim.deviceResults ↔ claim.lists device := by
  rw [← lookup_isSome, lookup_contributionsOf, isSome_map, List.getLast?_isSome]
  unfold ObservedClaim.lists
  rw [List.any_eq_true, ne_eq, List.filter_eq_nil_iff]
  push Not
  rfl

theorem Knows.mem_claimsFor (knows : controller.Knows observed) (device : CloudDeviceID)
    (name : ResourceClaimID) :
    name ∈ controller.claimsFor device ↔
      ∃ claim, observed.lookup name = some claim ∧ claim.lists device := by
  refine ((knows.settled device).claims name).trans ?_
  unfold contributedBy
  rw [knows.known]
  cases found : observed.lookup name with
  | none => simp
  | some claim =>
    rw [bind_some]
    split_ifs with empty
    · have absent : claim.lists device = false := by simp [ObservedClaim.lists, empty]
      simp [absent]
    · rw [getD_some, notedMetadata_eq, mem_contributionsOf]
      simp

def holderNames (observed : GoMap ResourceClaimID ObservedClaim) (device : CloudDeviceID) :
    List ResourceClaimID :=
  (observed.entries.filter fun entry => entry.2.lists device).map (·.1)

theorem holders_eq (observed : GoMap ResourceClaimID ObservedClaim) (device : CloudDeviceID) :
    holders observed device =
      (observed.entries.filter fun entry => entry.2.lists device).map (·.2) := by
  unfold holders values
  rw [List.filter_map]
  rfl

theorem Knows.perm_holders (knows : controller.Knows observed) (order : RangeOrder ResourceClaimID) :
    ((order.visit 0 (controller.claimsFor device).keys).map fun name =>
      (controller.claimMetadata.lookup name).getD {}).Perm
        ((holders observed device).map notedMetadata) := by
  have nodup : (holderNames observed device).Nodup :=
    (List.filter_sublist.map _).nodup observed.nodupKeys
  have names : (order.visit 0 (controller.claimsFor device).keys).Perm
      (holderNames observed device) := by
    refine (order.perm 0 _).trans ((perm_ext_iff_of_nodup (keys_nodup _) nodup).mpr ?_)
    intro name
    refine (knows.mem_claimsFor device name).trans ?_
    unfold holderNames
    rw [List.mem_map]
    constructor
    · rintro ⟨claim, found, lists⟩
      exact ⟨⟨name, claim⟩, mem_filter.mpr ⟨mem_entries_iff.mpr found, lists⟩, rfl⟩
    · rintro ⟨⟨other, claim⟩, member, rfl⟩
      obtain ⟨listed, lists⟩ := mem_filter.mp member
      exact ⟨claim, mem_entries_iff.mp listed, lists⟩
  refine (names.map _).trans (List.Perm.of_eq ?_)
  rw [holders_eq]
  unfold holderNames
  rw [List.map_map, List.map_map]
  apply List.map_congr_left
  rintro ⟨name, claim⟩ member
  obtain ⟨listed, lists⟩ := mem_filter.mp member
  have holds : claim.deviceResults ≠ [] := by
    intro empty
    simp [ObservedClaim.lists, empty] at lists
  simp [knows.known, mem_entries_iff.mp listed, holds]

/-- What is kept for a device: nothing if no claim lists it, and otherwise the sum
of the metadata of those that do, in some order. -/
theorem Knows.entry (knows : controller.Knows observed) (device : CloudDeviceID) :
    (controller.allocatedDevices.lookup device = none ∧ holders observed device = []) ∨
      (holders observed device ≠ [] ∧ ∃ claims : List ClaimMetadata,
        claims.Perm ((holders observed device).map notedMetadata) ∧
        controller.allocatedDevices.lookup device = some (claims.foldl (addClaim device) {})) := by
  have settled := knows.settled device
  have empty_iff : (controller.claimsFor device).entries = [] ↔ holders observed device = [] := by
    have length := (@Knows.perm_holders _ _ device knows .listed).length_eq
    rw [length_map, length_map] at length
    have keys : (RangeOrder.listed.visit 0 (controller.claimsFor device).keys).length =
        (controller.claimsFor device).entries.length := length_map _
    rw [← length_eq_zero_iff, ← length_eq_zero_iff, ← length, keys]
  rcases settled.entry with ⟨isNone, empty⟩ | ⟨nonempty, order, isSome⟩
  · exact .inl ⟨isNone, empty_iff.mp empty⟩
  · exact .inr ⟨fun none => nonempty (empty_iff.mpr none), _, knows.perm_holders order, isSome⟩

end DeviceAllocationController

/-! ### Consumed capacity -/

def amountOf (capacities : Capacities) (dimension : QualifiedName) : Quantity :=
  (capacities.lookup dimension).getD 0

theorem amountOf_addCounters (stored added : Capacities) (dimension : QualifiedName) :
    amountOf (addCounters stored added) dimension =
      amountOf stored dimension + amountOf added dimension := by
  unfold amountOf addCounters
  rw [lookup_rangeAlter]
  cases added.lookup dimension <;> simp

theorem amountOf_foldl_addCounters (added : List Capacities) (stored : Capacities)
    (dimension : QualifiedName) :
    amountOf (added.foldl addCounters stored) dimension =
      amountOf stored dimension + (added.map (amountOf · dimension)).sum := by
  induction added generalizing stored with
  | nil => simp
  | cons first rest ih =>
    rw [foldl_cons, ih, amountOf_addCounters, map_cons, sum_cons, add_assoc]

def recordedAmount (dimension : QualifiedName) (claim : ClaimMetadata) : Quantity :=
  amountOf ((claim.recorded device).getD ∅) dimension

theorem sum_filterMap_recorded (dimension : QualifiedName) (claims : List ClaimMetadata) :
    ((claims.filterMap (·.recorded device)).map (amountOf · dimension)).sum =
      (claims.map (recordedAmount device dimension)).sum := by
  induction claims with
  | nil => rfl
  | cons claim rest ih =>
    rw [filterMap_cons, map_cons, sum_cons, ← ih]
    unfold recordedAmount
    cases claim.recorded device with
    | none => simp [amountOf]
    | some consumed => simp

namespace DeviceAllocationController

theorem recordedAmount_notedMetadata (claim : ObservedClaim) (device : CloudDeviceID)
    (dimension : QualifiedName) :
    claim.consumed device dimension = claim.overwritten device dimension +
        recordedAmount device dimension (notedMetadata claim) := by
  have recorded : (notedMetadata claim).recorded device =
      (claim.deviceResults.filter (·.device = device)).getLast?.bind (·.consumedCapacity) := by
    unfold ClaimMetadata.recorded
    rw [notedMetadata_eq, lookup_contributionsOf]
    cases (claim.deviceResults.filter (·.device = device)).getLast? <;> rfl
  unfold ObservedClaim.consumed ObservedClaim.overwritten recordedAmount
  rw [recorded]
  rcases eq_nil_or_concat (claim.deviceResults.filter (·.device = device)) with
    empty | ⟨earlier, last, isSplit⟩
  · simp [empty, amountOf]
  · rw [isSplit, concat_eq_append, dropLast_concat, getLast?_concat, map_append,
      sum_append, bind_some]
    simp [DeviceRequestAllocationResult.amount, amountOf]

variable {controller : DeviceAllocationController} {observed : GoMap ResourceClaimID ObservedClaim}

theorem Knows.metadata (knows : controller.Knows observed) {device : CloudDeviceID}
    {metadata : DeviceMetadata} (found : controller.allocatedDevices.lookup device = some metadata) :
    metadata.podUIDs.Perm ((holders observed device).flatMap (·.podUIDs)) ∧
      metadata.releasable = (holders observed device).all (·.releasable) ∧
      ∀ dimension, amountOf metadata.consumedCapacity dimension +
          ((holders observed device).map (·.overwritten device dimension)).sum =
        ((holders observed device).map (·.consumed device dimension)).sum := by
  rcases knows.entry device with ⟨isNone, -⟩ | ⟨-, claims, perm, isSome⟩
  · cases isNone.symm.trans found
  obtain rfl := some.inj (isSome.symm.trans found)
  rw [foldl_addClaim]
  refine ⟨?_, ?_, fun dimension => ?_⟩
  · have podUIDs := perm.flatMap_right (·.podUIDs)
    rw [List.flatMap_map] at podUIDs
    simpa [notedMetadata_eq] using podUIDs
  · rw [Bool.true_and, perm.all_eq, List.all_map]
    simp [notedMetadata_eq, Function.comp_def]
  · have amounts := (perm.map (recordedAmount device dimension)).sum_eq
    rw [List.map_map] at amounts
    rw [amountOf_foldl_addCounters, sum_filterMap_recorded, amounts]
    have nothing : amountOf (∅ : Capacities) dimension = 0 := rfl
    rw [nothing, zero_add, ← sum_map_add]
    congr 1
    apply List.map_congr_left
    intro claim _
    rw [recordedAmount_notedMetadata, add_comm]
    rfl

/-- After any events, the indexes are those recomputed from the claims as last
observed, exactly if the results that are overwritten by later ones for the same
device consume nothing of it in total. -/
theorem recomputed_after_iff (events : List ClaimObservation) :
    (controllerAfter events).Recomputed (observedAfter events) ↔ ∀ device dimension,
      ((holders (observedAfter events) device).map (·.overwritten device dimension)).sum = 0 := by
  have knows := knows_after events
  constructor
  · intro recomputed device dimension
    rcases knows.entry device with ⟨-, empty⟩ | ⟨-, claims, -, isSome⟩
    · rw [empty]
      rfl
    · have consumed := recomputed.consumedCapacity device _ isSome dimension
      have balance := (knows.metadata isSome).2.2 dimension
      unfold amountOf at balance
      rw [consumed] at balance
      simpa using balance
  · intro nothing
    refine ⟨knows.mem_claimsFor, fun device => ?_, fun device metadata found =>
      (knows.metadata found).1, fun device metadata found => (knows.metadata found).2.1,
      fun device metadata found dimension => ?_⟩
    · rw [← lookup_isSome]
      rcases knows.entry device with ⟨isNone, empty⟩ | ⟨nonempty, claims, -, isSome⟩
      · simp [isNone, empty]
      · simp [isSome, nonempty]
    · have balance := (knows.metadata found).2.2 dimension
      rw [nothing device dimension, add_zero] at balance
      exact balance

/-! ### A device that is listed twice -/

def sharedDevice : CloudDeviceID := { driver := "gpu.example.com", pool := "rack", device := "gpu-0" }

def claimTwice : ObservedClaim where
  id := { nameSpace := "default", name := "twice" }
  allocation := some none
  results :=
    [{ device := sharedDevice, consumedCapacity := some (GoMap.ofList [("memory", 5)]) },
      { device := sharedDevice, consumedCapacity := some (GoMap.ofList [("memory", 5)]) }]

/-- The controller counts the last of the results alone. -/
theorem claimTwice_counts_once :
    ¬ (controllerAfter [.reconcile claimTwice fun _ => .listed]).Recomputed
      (observedAfter [.reconcile claimTwice fun _ => .listed]) := by
  intro recomputed
  have consumed : ((controllerAfter [.reconcile claimTwice fun _ => .listed]).allocatedDevices.lookup
      sharedDevice).map (fun metadata => amountOf metadata.consumedCapacity "memory") = some 5 := by
    decide +kernel
  obtain ⟨metadata, found, amount⟩ := map_eq_some_iff.mp consumed
  have claimed : ((holders (observedAfter [.reconcile claimTwice fun _ => .listed])
      sharedDevice).map (·.consumed sharedDevice "memory")).sum = 10 := by decide +kernel
  have same := recomputed.consumedCapacity sharedDevice metadata found "memory"
  exact absurd (amount.symm.trans same) (by decide +kernel)

end DeviceAllocationController

end Kraftsman.DynamicResources
