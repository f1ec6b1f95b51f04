import Kraftsman.DynamicResources.Constraint
import Kraftsman.DynamicResources.Pool

/-!
Contract: validating a claim and preparing its requests for the search.

Owns: the selector test, the validation errors, the devices an All-mode request
has to take, and the limit on the devices of a claim.
Does not own: CEL expressions, which the environment evaluates.
-/

namespace Kraftsman.DynamicResources

open Apis Data Scheduling

/-- What an allocator reads and never changes. -/
structure Environment where
  tables : LabelTables
  /-- The selectors of a device class, if the class exists. -/
  deviceClass : String → Option (List DeviceSelector)
  /-- Whether a CEL expression compiles. -/
  compiles : String → Bool
  /-- The verdict of a CEL expression, absent if evaluation fails. -/
  deviceMatches : String → DriverID → Device → Option Bool
  inClusterSlices : List ResourceSlice
  attributeBindings : AttributeBindings
  deletingPodUIDs : Finset String

inductive ClaimError where
  | distinctAttribute
  | unsupportedConstraint
  | onlyExactly (request : String)
  | classNotFound (request deviceClass : String)
  | classSelector (request deviceClass : String)
  | requestSelector (request : String)
  | celCompile (request expression : String)
  | celEvaluation (request expression : String)
  | poolInvalid (request : String) (pool : PoolKey)
  | poolIncomplete (request : String) (pool : PoolKey)
  | tooManyDevices (total : Nat)
  | allInstanceTypesPruned
  deriving DecidableEq

def allocationResultsMaxSize : Nat := 32

def ClaimError.message (claim : String) : ClaimError → String
  | .distinctAttribute => s!"claim \"{claim}\": DistinctAttribute constraints not done yet"
  | .unsupportedConstraint => s!"claim \"{claim}\": unsupported constraint type"
  | .onlyExactly request =>
    s!"claim \"{claim}\" request \"{request}\": only Exactly requests are supported"
  | .classNotFound request deviceClass =>
    s!"claim \"{claim}\" request \"{request}\": DeviceClass \"{deviceClass}\" not found"
  | .classSelector request deviceClass =>
    s!"claim \"{claim}\" request \"{request}\": DeviceClass \"{deviceClass}\" has unsupported selector type (only CEL is supported)"
  | .requestSelector request =>
    s!"claim \"{claim}\" request \"{request}\": unsupported selector type (only CEL is supported)"
  | .celCompile request expression =>
    s!"claim \"{claim}\" request \"{request}\": CEL expression \"{expression}\" failed to compile"
  | .celEvaluation request expression =>
    s!"claim \"{claim}\" request \"{request}\": CEL expression \"{expression}\" evaluation failed"
  | .poolInvalid request pool =>
    s!"claim \"{claim}\" request \"{request}\": pool {pool.driver}/{pool.pool} is invalid (duplicate device names)"
  | .poolIncomplete request pool =>
    s!"claim \"{claim}\" request \"{request}\": pool {pool.driver}/{pool.pool} is incomplete (missing slices)"
  | .tooManyDevices total =>
    s!"claim \"{claim}\" requests {total} total devices, exceeding maximum of {allocationResultsMaxSize}"
  | .allInstanceTypesPruned =>
    s!"claim \"{claim}\": all instance types pruned, no instance type can satisfy this claim without exceeding the maximum of {allocationResultsMaxSize} devices"

/-- A validated request. An All-mode request carries its devices. -/
structure RequestData where
  name : String
  numDevices : Nat
  allocationMode : DeviceAllocationMode
  allDevices : List DeviceWithID := []
  allTemplateDevicesByIT : GoMap InstanceTypeID (List DeviceWithID) := ∅
  /-- The CEL expressions of the class and the request. -/
  selectors : List String
  capacityRequests : Capacities := ∅

structure ClaimData where
  id : ResourceClaimID
  requests : List RequestData
  constraints : List MatchAttributeConstraint

def deviceMatchesSelectors (env : Environment) (device : DeviceWithID) :
    List String → Except String Bool
  | [] => .ok true
  | expression :: rest =>
    match env.deviceMatches expression device.id.driver device.device with
    | none => .error expression
    | some false => .ok false
    | some true => deviceMatchesSelectors env device rest

variable (env : Environment)

def collectAllModeFromDevices (selectors : List String) (devices : List DeviceWithID) :
    Except String (List DeviceWithID) :=
  devices.filterM fun device => deviceMatchesSelectors env device selectors

/-- The matching devices of all pools. An invalid or incomplete pool fails the request. -/
def collectAllModePoolDevices (env : Environment) (request : String) (selectors : List String) :
    List Pool → Except ClaimError (List DeviceWithID)
  | [] => .ok []
  | pool :: rest =>
    if pool.invalid then .error (.poolInvalid request pool.key)
    else if pool.incomplete then .error (.poolIncomplete request pool.key)
    else
      match collectAllModeFromDevices env selectors pool.devices with
      | .error expression => .error (.celEvaluation request expression)
      | .ok found => do
        let others ← collectAllModePoolDevices env request selectors rest
        return found ++ others

/-- The template devices each instance type has to take. Without any it is kept
only if there are in-cluster devices. -/
def collectAllModeTemplates (request : String) (selectors : List String)
    (inCluster : List DeviceWithID) (templateDevicesByIT : GoMap InstanceTypeID (List DeviceWithID)) :
    Except ClaimError (GoMap InstanceTypeID (List DeviceWithID)) :=
  templateDevicesByIT.entries.foldlM (fun byIT entry =>
    match collectAllModeFromDevices env selectors entry.2 with
    | .error expression => .error (.celEvaluation request expression)
    | .ok found =>
      .ok (if !found.isEmpty || !inCluster.isEmpty then byIT.insert entry.1 found else byIT)) ∅

def celSelectors (selectors : List DeviceSelector) : Option (List String) :=
  selectors.mapM fun selector => selector.cel

def validateExactRequest (requestName : String) (req : ExactDeviceRequest) (pools : List Pool)
    (templateDevicesByIT : GoMap InstanceTypeID (List DeviceWithID)) :
    Except ClaimError RequestData :=
  match env.deviceClass req.deviceClassName with
  | none => .error (.classNotFound requestName req.deviceClassName)
  | some classSelectors =>
    match celSelectors classSelectors, celSelectors req.selectors with
    | none, _ => .error (.classSelector requestName req.deviceClassName)
    | some _, none => .error (.requestSelector requestName)
    | some classExpressions, some requestExpressions =>
      let selectors := classExpressions ++ requestExpressions
      match selectors.find? fun expression => !env.compiles expression with
      | some expression => .error (.celCompile requestName expression)
      | none =>
        let capacityRequests := req.capacity.getD ∅
        match req.allocationMode with
        | .exactCount => .ok {
            name := requestName
            numDevices := req.count
            allocationMode := .exactCount
            selectors := selectors
            capacityRequests := capacityRequests }
        | .all => do
          let inCluster ← collectAllModePoolDevices env requestName selectors pools
          let templates ← collectAllModeTemplates env requestName selectors inCluster
            templateDevicesByIT
          return {
            name := requestName
            numDevices := 0
            allocationMode := .all
            allDevices := inCluster
            allTemplateDevicesByIT := templates
            selectors := selectors
            capacityRequests := capacityRequests }

def validateConstraints : List DeviceConstraint → Except ClaimError (List MatchAttributeConstraint)
  | [] => .ok []
  | constraint :: rest =>
    match constraint.matchAttribute, constraint.distinctAttribute with
    | some attributeName, _ => do
      let others ← validateConstraints rest
      return { requestNames := constraint.requests, attributeName := attributeName } :: others
    | none, some _ => .error .distinctAttribute
    | none, none => .error .unsupportedConstraint

/-- The requests of a claim; prioritized alternatives are not supported. -/
def validateRequests (env : Environment) (pools : List Pool)
    (templateDevicesByIT : GoMap InstanceTypeID (List DeviceWithID)) :
    List DeviceRequest → Except ClaimError (List RequestData)
  | [] => .ok []
  | request :: rest =>
    match request.exactly with
    | none => .error (.onlyExactly request.name)
    | some exactly => do
      let data ← validateExactRequest env request.name exactly pools templateDevicesByIT
      let others ← validateRequests env pools templateDevicesByIT rest
      return data :: others

variable (requests : List RequestData)

def baseTotalDevices : Nat :=
  (requests.map fun request => request.numDevices + request.allDevices.length).sum

def templateCount (it : InstanceTypeID) : Nat :=
  (requests.map fun request => ((request.allTemplateDevicesByIT.lookup it).getD []).length).sum

def prunedInstanceTypes : List InstanceTypeID :=
  (requests.flatMap fun request => request.allTemplateDevicesByIT.keys).dedup.filter fun it =>
    baseTotalDevices requests + templateCount requests it > allocationResultsMaxSize

/-- Validate a claim. Instance types beyond the limit lose their template devices;
a claim that loses all fails. -/
def validateClaimRequest (claim : ResourceClaim) (pools : List Pool)
    (templateDevicesByIT : GoMap InstanceTypeID (List DeviceWithID)) :
    Except ClaimError ClaimData := do
  let constraints ← validateConstraints claim.constraints
  let requests ← validateRequests env pools templateDevicesByIT claim.requests
  if baseTotalDevices requests > allocationResultsMaxSize then
    throw (.tooManyDevices (baseTotalDevices requests))
  let allITs := (requests.flatMap fun request => request.allTemplateDevicesByIT.keys).dedup
  let pruned := prunedInstanceTypes requests
  if allITs.length > 0 && pruned.length = allITs.length then
    throw .allInstanceTypesPruned
  return {
    id := claim.id
    requests := requests.map fun request =>
      { request with allTemplateDevicesByIT := request.allTemplateDevicesByIT.eraseAll pruned }
    constraints := constraints }

end Kraftsman.DynamicResources
