import Kraftsman.DynamicResources.Types

/-!
Contract: constraints over the devices of a claim.

Owns: attribute lookups, bindings as they are queried, and the constraint that
all devices share an attribute.
Does not own: how bindings are built, or when a constraint is consulted.
-/

namespace Kraftsman.DynamicResources

open Data

abbrev AttributeBindings := GoMap QualifiedName (GoMap NodePoolID
  (GoMap InstanceTypeID (GoMap CloudDeviceID (Finset CloudDeviceID))))

namespace AttributeBindings

variable (bindings : AttributeBindings) (nodePool : NodePoolID) (instanceType : InstanceTypeID)
  (attributeName : QualifiedName)

def boundTo (device : DeviceID) : Option (Finset CloudDeviceID) := do
  let attributeBindings ← bindings.lookup attributeName
  let nodePoolBindings ← attributeBindings.lookup nodePool
  let itBindings ← nodePoolBindings.lookup instanceType
  itBindings.lookup device.toCloudDeviceID

def hasBindings (device : DeviceID) : Bool :=
  (bindings.boundTo nodePool instanceType attributeName device).isSome

/-- Whether two devices are bound. A device is bound to itself if it is at all. -/
def bound (deviceA deviceB : DeviceID) : Bool :=
  match bindings.boundTo nodePool instanceType attributeName deviceA with
  | none => false
  | some deviceBindings =>
    if deviceA.toCloudDeviceID = deviceB.toCloudDeviceID then decide (deviceBindings ≠ ∅)
    else decide (deviceB.toCloudDeviceID ∈ deviceBindings)

end AttributeBindings

/-- What is needed to consult the bindings for an instance type. -/
structure AttributeBindingFallback where
  bindings : AttributeBindings
  nodePool : NodePoolID
  instanceTypeID : InstanceTypeID

def cutSlash (name : String) : Option (String × String) :=
  match name.toList.span (· ≠ '/') with
  | (domain, _ :: id) => some (String.ofList domain, String.ofList id)
  | (_, []) => none

/-- An attribute. A name qualified by the device's driver matches the unqualified one. -/
def lookupAttribute (device : Device) (deviceID : DeviceID) (attributeName : QualifiedName) :
    Option DeviceAttribute :=
  match device.attributes.lookup attributeName with
  | some attr => some attr
  | none =>
    match cutSlash attributeName with
    | none => none
    | some (domain, id) => if domain = deviceID.driver then device.attributes.lookup id else none

/-- The devices of some requests share an attribute. The first one decides whether
values or bindings are compared. -/
structure MatchAttributeConstraint where
  requestNames : List String
  attributeName : QualifiedName
  attributeValue : Option DeviceAttribute := none
  attributeBindingFallback : Option AttributeBindingFallback := none
  usedBinding : Bool := false
  allocatedDeviceIDs : List DeviceID := []

namespace MatchAttributeConstraint

variable (constraint : MatchAttributeConstraint) (requestName : String)

/-- Whether the constraint covers a request; without names it covers all. -/
def appliesTo : Bool :=
  constraint.requestNames.isEmpty || constraint.requestNames.contains requestName

def add (device : Device) (deviceID : DeviceID) : Option MatchAttributeConstraint :=
  if !constraint.appliesTo requestName then some constraint
  else
    let allocatedDeviceIDs := constraint.allocatedDeviceIDs ++ [deviceID]
    match lookupAttribute device deviceID constraint.attributeName with
    | some attr =>
      if constraint.usedBinding then none
      else if constraint.allocatedDeviceIDs.isEmpty then
        some { constraint with
          attributeValue := some attr
          allocatedDeviceIDs := allocatedDeviceIDs }
      else if constraint.attributeValue ≠ some attr then none
      else some { constraint with allocatedDeviceIDs := allocatedDeviceIDs }
    | none =>
      if !constraint.allocatedDeviceIDs.isEmpty && !constraint.usedBinding then none
      else
        match constraint.attributeBindingFallback with
        | none => none
        | some fallback =>
          if !fallback.bindings.hasBindings fallback.nodePool fallback.instanceTypeID
              constraint.attributeName deviceID then none
          else
            match constraint.allocatedDeviceIDs with
            | [] => some { constraint with
                usedBinding := true
                allocatedDeviceIDs := allocatedDeviceIDs }
            | first :: _ =>
              if !fallback.bindings.bound fallback.nodePool fallback.instanceTypeID
                  constraint.attributeName first deviceID then none
              else some { constraint with allocatedDeviceIDs := allocatedDeviceIDs }

def remove : MatchAttributeConstraint :=
  if !constraint.appliesTo requestName then constraint
  else
    let allocatedDeviceIDs := constraint.allocatedDeviceIDs.dropLast
    if allocatedDeviceIDs.isEmpty then
      { constraint with
        attributeValue := none
        usedBinding := false
        allocatedDeviceIDs := allocatedDeviceIDs }
    else { constraint with allocatedDeviceIDs := allocatedDeviceIDs }

def reset (constraint : MatchAttributeConstraint) : MatchAttributeConstraint :=
  { constraint with attributeValue := none, usedBinding := false, allocatedDeviceIDs := [] }

end MatchAttributeConstraint

/-- Account for a device in all constraints of a claim, or in none. -/
def addConstraints (requestName : String) (device : Device) (deviceID : DeviceID) :
    List MatchAttributeConstraint → Bool × List MatchAttributeConstraint
  | [] => (true, [])
  | constraint :: rest =>
    match constraint.add requestName device deviceID with
    | none => (false, constraint :: rest)
    | some added =>
      match addConstraints requestName device deviceID rest with
      | (true, rest) => (true, added :: rest)
      | (false, rest) => (false, added.remove requestName :: rest)

end Kraftsman.DynamicResources
