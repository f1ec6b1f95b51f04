import Kraftsman.Data.FallibleLoop
import Kraftsman.DynamicResources.Request

/-!
Contract: what a validated request holds.

An All-mode request lists the devices that match it. An instance type on which a
claim wants too many devices loses its template devices.

Owns: the meaning of selectors, the devices a request takes, and the number a
claim wants.
Does not own: the search.
-/

namespace Kraftsman.DynamicResources

open Apis Data FallibleLoop List

variable (env : Environment)

def deviceSatisfies (selectors : List String) (dw : DeviceWithID) : Bool :=
  selectors.all fun expression => env.deviceMatches expression dw.id.driver dw.device = some true

def requestSelectors (req : ExactDeviceRequest) : List String :=
  ((env.deviceClass req.deviceClassName).bind celSelectors).getD [] ++
    (celSelectors req.selectors).getD []

def matchingDevices (req : ExactDeviceRequest) (devices : List DeviceWithID) : List DeviceWithID :=
  devices.filter (deviceSatisfies env (requestSelectors env req))

section Selectors

variable {env} {selectors : List String} {dw : DeviceWithID}

theorem deviceMatchesSelectors_eq_ok {verdict : Bool}
    (done : deviceMatchesSelectors env dw selectors = .ok verdict) :
    verdict = deviceSatisfies env selectors dw := by
  induction selectors with
  | nil => exact (Except.ok.inj done).symm
  | cons expression rest ih =>
    rw [deviceMatchesSelectors] at done
    split at done
    · cases done
    · next rejected =>
        rw [← Except.ok.inj done]
        simp [deviceSatisfies, rejected]
    · next accepted =>
        rw [ih done]
        simp [deviceSatisfies, accepted]

theorem deviceMatchesSelectors_of_satisfies (satisfied : deviceSatisfies env selectors dw) :
    deviceMatchesSelectors env dw selectors = .ok true := by
  induction selectors with
  | nil => rfl
  | cons expression rest ih =>
    have parts := all_eq_true.mp satisfied
    have accepted : env.deviceMatches expression dw.id.driver dw.device = some true := by
      simpa using parts expression (by simp)
    have others : deviceSatisfies env rest dw :=
      all_eq_true.mpr fun other member => parts other (by simp [member])
    rw [deviceMatchesSelectors, accepted]
    exact ih others

theorem deviceMatchesSelectors_iff_satisfies :
    deviceMatchesSelectors env dw selectors = .ok true ↔ deviceSatisfies env selectors dw :=
  ⟨fun done => (deviceMatchesSelectors_eq_ok done).symm, deviceMatchesSelectors_of_satisfies⟩

end Selectors

def fixedCount (req : ExactDeviceRequest) : Nat :=
  match req.allocationMode with
  | .exactCount => req.count
  | .all => 0

def inClusterShare (pools : List Pool) (req : ExactDeviceRequest) : List DeviceWithID :=
  match req.allocationMode with
  | .exactCount => []
  | .all => matchingDevices env req (pools.flatMap Pool.devices)

def templateShare (templates : GoMap InstanceTypeID (List DeviceWithID)) (it : InstanceTypeID)
    (req : ExactDeviceRequest) : List DeviceWithID :=
  match req.allocationMode with
  | .exactCount => []
  | .all => matchingDevices env req ((templates.lookup it).getD [])

/-- A request as validation reads it, with the template devices that are kept. -/
structure RequestData.Validated (env : Environment) (pools : List Pool)
    (templates : GoMap InstanceTypeID (List DeviceWithID)) (kept : InstanceTypeID → Prop)
    (request : DeviceRequest) (req : ExactDeviceRequest) (rd : RequestData) : Prop where
  exactly : request.exactly = some req
  selectors : rd.selectors = requestSelectors env req
  allocationMode : rd.allocationMode = req.allocationMode
  numDevices : rd.numDevices = fixedCount req
  capacityRequests : rd.capacityRequests = req.capacity.getD ∅
  allDevices : rd.allDevices = inClusterShare env pools req
  takes : ∀ it, kept it →
    (rd.allTemplateDevicesByIT.lookup it).getD [] = templateShare env templates it req
  drops : ∀ it, ¬ kept it → (rd.allTemplateDevicesByIT.lookup it).getD [] = []

def wantedDevices (pools : List Pool) (templates : GoMap InstanceTypeID (List DeviceWithID))
    (it : InstanceTypeID) (reqs : List ExactDeviceRequest) : Nat :=
  (reqs.map fun req => fixedCount req + (inClusterShare env pools req).length +
    (templateShare env templates it req).length).sum

inductive ValidatedRequests (env : Environment) (pools : List Pool)
    (templates : GoMap InstanceTypeID (List DeviceWithID)) (kept : InstanceTypeID → Prop) :
    List DeviceRequest → List ExactDeviceRequest → List RequestData → Prop
  | nil : ValidatedRequests env pools templates kept [] [] []
  | cons {request : DeviceRequest} {req : ExactDeviceRequest} {rd : RequestData}
      {requests : List DeviceRequest} {reqs : List ExactDeviceRequest} {data : List RequestData}
      (own : rd.Validated env pools templates kept request req)
      (others : ValidatedRequests env pools templates kept requests reqs data) :
      ValidatedRequests env pools templates kept (request :: requests) (req :: reqs) (rd :: data)

section Validation

variable {env} {pools : List Pool}
variable {templates : GoMap InstanceTypeID (List DeviceWithID)}

variable {selectors : List String} {requests : List DeviceRequest} {data : List RequestData}

variable {found : List DeviceWithID} {request : String} {reqs : List ExactDeviceRequest}

theorem collectAllModeFromDevices_eq_ok {devices : List DeviceWithID}
    (done : collectAllModeFromDevices env selectors devices = .ok found) :
    found = devices.filter (deviceSatisfies env selectors) :=
  filterM_eq_ok (fun _ _ tested => deviceMatchesSelectors_eq_ok tested) done

theorem collectAllModePoolDevices_eq_ok
    (done : collectAllModePoolDevices env request selectors pools = .ok found) :
    found = (pools.flatMap Pool.devices).filter (deviceSatisfies env selectors) := by
  induction pools generalizing found with
  | nil => exact (Except.ok.inj done).symm
  | cons pool rest ih =>
    rw [collectAllModePoolDevices] at done
    split_ifs at done
    split at done
    · cases done
    · next own collected =>
        obtain ⟨others, restDone, rfl⟩ := map_eq_ok.mp done
        rw [flatMap_cons, filter_append, collectAllModeFromDevices_eq_ok collected, ih restDone]

theorem collectAllModeTemplates_eq_ok {inCluster : List DeviceWithID}
    {byIT : GoMap InstanceTypeID (List DeviceWithID)}
    (done : collectAllModeTemplates env request selectors inCluster templates = .ok byIT)
    (it : InstanceTypeID) :
    (byIT.lookup it).getD [] =
      ((templates.lookup it).getD []).filter (deviceSatisfies env selectors) := by
  -- the entries that are left have not been collected yet
  let collecting : List (Sigma fun _ : InstanceTypeID => List DeviceWithID) →
      GoMap InstanceTypeID (List DeviceWithID) → Prop := fun rest byIT =>
    (∀ entry ∈ rest, templates.lookup entry.1 = some entry.2) ∧ rest.NodupKeys ∧
      ∀ it, (byIT.lookup it).getD [] = if it ∈ rest.keys then []
        else ((templates.lookup it).getD []).filter (deviceSatisfies env selectors)
  have start : collecting templates.entries ∅ := by
    refine ⟨fun entry member => GoMap.mem_entries_iff.mp member, templates.nodupKeys, ?_⟩
    intro it
    by_cases listed : it ∈ templates.entries.keys
    · simp [listed]
    · have absent : templates.lookup it = none := AList.lookup_eq_none.mpr listed
      simp [absent]
  have finished := foldlM_preserves collecting ?_ start done
  · simpa using finished.2.2 it
  · rintro entry rest byIT byIT' ⟨known, distinct, soFar⟩ iteration
    have notLeft : entry.1 ∉ rest.keys := (nodupKeys_cons.mp distinct).1
    split at iteration
    · cases iteration
    next found collected =>
    have isFound : found = ((templates.lookup entry.1).getD []).filter
        (deviceSatisfies env selectors) := by
      rw [known entry (by simp)]
      exact collectAllModeFromDevices_eq_ok collected
    have before := soFar entry.1
    rw [keys_cons, if_pos (mem_cons_self)] at before
    cases iteration
    refine ⟨fun other member => known other (by simp [member]), (nodupKeys_cons.mp distinct).2, ?_⟩
    intro it
    by_cases same : it = entry.1
    · subst same
      rw [if_neg notLeft, ← isFound]
      split_ifs with anything
      · rw [GoMap.lookup_insert_eq, if_pos rfl, Option.getD_some]
      · simp only [Bool.or_eq_true, Bool.not_eq_true', not_or, Bool.not_eq_false,
          List.isEmpty_iff] at anything
        rw [before, anything.1]
    · have other : (byIT.lookup it).getD [] = if it ∈ rest.keys then []
          else ((templates.lookup it).getD []).filter (deviceSatisfies env selectors) := by
        rw [soFar it, keys_cons]
        simp [same]
      rw [← other]
      split_ifs
      · rw [GoMap.lookup_insert_eq, if_neg same]
      · rfl

theorem validateExactRequest_eq_ok {request : DeviceRequest} {req : ExactDeviceRequest}
    {rd : RequestData} (isExactly : request.exactly = some req)
    (done : validateExactRequest env request.name req pools templates = .ok rd) :
    rd.Validated env pools templates (fun _ => True) request req := by
  unfold validateExactRequest at done
  split at done
  · cases done
  next classSelectors isClass =>
  split at done
  · cases done
  · cases done
  next classExpressions requestExpressions isClassCEL isRequestCEL =>
  have selectors : classExpressions ++ requestExpressions = requestSelectors env req := by
    simp [requestSelectors, isClass, isClassCEL, isRequestCEL]
  dsimp only at done
  split at done
  · cases done
  split at done
  · next isExact =>
      cases done
      exact ⟨isExactly, selectors, isExact.symm, by simp [fixedCount, isExact], rfl,
        by simp [inClusterShare, isExact], fun it _ => by simp [templateShare, isExact],
        fun it dropped => absurd trivial dropped⟩
  · next isAll =>
      rw [bind_eq_ok] at done
      obtain ⟨inCluster, collected, done⟩ := done
      obtain ⟨byIT, collectedTemplates, rfl⟩ := map_eq_ok.mp done
      refine ⟨isExactly, selectors, isAll.symm, by simp [fixedCount, isAll], rfl, ?_, ?_,
        fun it dropped => absurd trivial dropped⟩
      · simp only [inClusterShare, isAll, matchingDevices, ← selectors]
        exact collectAllModePoolDevices_eq_ok collected
      · intro it _
        simp only [templateShare, isAll, matchingDevices, ← selectors]
        exact collectAllModeTemplates_eq_ok collectedTemplates it

theorem validateRequests_eq_ok (done : validateRequests env pools templates requests = .ok data) :
    ∃ reqs, ValidatedRequests env pools templates (fun _ => True) requests reqs data := by
  induction requests generalizing data with
  | nil =>
    cases done
    exact ⟨[], .nil⟩
  | cons request rest ih =>
    rw [validateRequests] at done
    split at done
    · cases done
    · next req isExactly =>
        rw [bind_eq_ok] at done
        obtain ⟨own, ownDone, done⟩ := done
        obtain ⟨others, restDone, rfl⟩ := map_eq_ok.mp done
        obtain ⟨reqs, validated⟩ := ih restDone
        exact ⟨req :: reqs, .cons (validateExactRequest_eq_ok isExactly ownDone) validated⟩

variable {kept : InstanceTypeID → Prop}

theorem ValidatedRequests.related
    (validated : ValidatedRequests env pools templates kept requests reqs data) :
    List.Forall₂ (fun request rd => ∃ req, rd.Validated env pools templates kept request req)
      requests data := by
  induction validated with
  | nil => exact .nil
  | cons own _ ih => exact .cons ⟨_, own⟩ ih

section

variable (validated : ValidatedRequests env pools templates (fun _ => True) requests reqs data)
include validated

theorem ValidatedRequests.wanted (it : InstanceTypeID) :
    baseTotalDevices data + templateCount data it = wantedDevices env pools templates it reqs := by
  induction validated with
  | nil => rfl
  | cons own others rest =>
    simp only [baseTotalDevices, templateCount, wantedDevices, map_cons, sum_cons,
      own.numDevices, own.allDevices, own.takes it trivial] at rest ⊢
    omega

theorem ValidatedRequests.pruned {dropped : List InstanceTypeID}
    (keeps : ∀ it, kept it → it ∉ dropped) (drops : ∀ it, ¬ kept it → it ∈ dropped ∨
      ∀ rd ∈ data, (rd.allTemplateDevicesByIT.lookup it).getD [] = []) :
    ValidatedRequests env pools templates kept requests reqs (data.map fun request =>
      { request with allTemplateDevicesByIT := request.allTemplateDevicesByIT.eraseAll dropped }) := by
  induction validated with
  | nil => exact .nil
  | cons own others ih =>
    refine .cons ?_ (ih fun it notKept =>
      (drops it notKept).imp_right fun nothing other member => nothing other (by simp [member]))
    refine ⟨own.exactly, own.selectors, own.allocationMode, own.numDevices, own.capacityRequests,
      own.allDevices, ?_, ?_⟩
    · intro it isKept
      rw [GoMap.lookup_eraseAll, if_neg (keeps it isKept), own.takes it trivial]
    · intro it notKept
      rw [GoMap.lookup_eraseAll]
      rcases drops it notKept with isDropped | nothing
      · rw [if_pos isDropped, Option.getD_none]
      · split_ifs
        · rfl
        · exact nothing _ (by simp)

end

structure ClaimData.Validated (env : Environment) (pools : List Pool)
    (templates : GoMap InstanceTypeID (List DeviceWithID)) (claim : ResourceClaim)
    (reqs : List ExactDeviceRequest) (cd : ClaimData) : Prop where
  id : cd.id = claim.id
  requests : ValidatedRequests env pools templates
    (fun it => wantedDevices env pools templates it reqs ≤ allocationResultsMaxSize)
    claim.requests reqs cd.requests
  limit : baseTotalDevices cd.requests ≤ allocationResultsMaxSize

theorem mem_prunedInstanceTypes {requests : List RequestData} {it : InstanceTypeID} :
    it ∈ prunedInstanceTypes requests ↔ (∃ rd ∈ requests, it ∈ rd.allTemplateDevicesByIT) ∧
        allocationResultsMaxSize < baseTotalDevices requests + templateCount requests it := by
  unfold prunedInstanceTypes
  rw [mem_filter, mem_dedup, mem_flatMap, decide_eq_true_eq]
  simp only [AList.mem_keys]

theorem validateClaimRequest_eq_ok {claim : ResourceClaim} {cd : ClaimData}
    (done : validateClaimRequest env claim pools templates = .ok cd) :
    ∃ reqs, cd.Validated env pools templates claim reqs := by
  unfold validateClaimRequest at done
  rw [bind_eq_ok] at done
  obtain ⟨constraints, -, done⟩ := done
  rw [bind_eq_ok] at done
  obtain ⟨data, isData, done⟩ := done
  obtain ⟨reqs, validated⟩ := validateRequests_eq_ok isData
  obtain ⟨limit, done⟩ := guard_eq_ok.mp done
  obtain ⟨-, done⟩ := guard_eq_ok.mp done
  cases done
  refine ⟨reqs, rfl, validated.pruned ?_ ?_, ?_⟩
  · intro it fits isPruned
    have tooMany := (mem_prunedInstanceTypes.mp isPruned).2
    rw [validated.wanted it] at tooMany
    omega
  · intro it tooMany
    by_cases listed : ∃ rd ∈ data, it ∈ rd.allTemplateDevicesByIT
    · refine .inl (mem_prunedInstanceTypes.mpr ⟨listed, ?_⟩)
      rw [validated.wanted it]
      omega
    · refine .inr fun rd member => ?_
      have absent : it ∉ rd.allTemplateDevicesByIT := fun inTemplates => listed ⟨rd, member, inTemplates⟩
      rw [AList.lookup_eq_none.mpr absent, Option.getD_none]
  · have same : baseTotalDevices (data.map fun request => { request with
        allTemplateDevicesByIT := request.allTemplateDevicesByIT.eraseAll (prunedInstanceTypes data) }) =
          baseTotalDevices data := by
      unfold baseTotalDevices
      rw [map_map]
      rfl
    rw [same]
    omega

end Validation

end Kraftsman.DynamicResources
