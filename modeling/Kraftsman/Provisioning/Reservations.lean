import Kraftsman.CloudProvider.InstanceTypes

/-!
Contract: the capacity of reservations that NodeClaims of one run hold.

Owns: the capacity that is left of each reservation and which reservations a
host holds.
Does not own: which offerings a NodeClaim reserves, and when.
-/

namespace Kraftsman.Provisioning

open Apis CloudProvider Data

/-- Misuse of the reservations, which stops the program. -/
inductive ReservationPanic where
  | nonExistentOffering (reservationID : String)
  | overReserved (reservationID : String)
  deriving DecidableEq, Repr

/-- The reservations of hosts, and what is left of each. -/
structure ReservationManager where
  reservations : GoMap String (Finset String) := ∅
  capacity : GoMap String Int := ∅

variable (tables : LabelTables)

def isReserved (offering : Offering) : Bool :=
  (offering.requirements.lookup capacityTypeLabelKey).any fun requirement =>
    requirement.operator = .opIn && requirement.has capacityTypeReserved

def leastCapacity (capacity : GoMap String Int) (offering : Offering) : GoMap String Int :=
  capacity.alter (offering.reservationID tables) fun current =>
    match current with
    | none => some offering.reservationCapacity
    | some current =>
      if current > offering.reservationCapacity then some offering.reservationCapacity
      else some current

def buildReservationCapacity (instanceTypes : GoMap String (List InstanceType)) :
    GoMap String Int :=
  ((instanceTypes.values.flatMap fun its => its.flatMap (·.offerings)).filter isReserved).foldl
    (leastCapacity tables) ∅

def newReservationManager (instanceTypes : GoMap String (List InstanceType)) : ReservationManager :=
  { capacity := buildReservationCapacity tables instanceTypes }

namespace ReservationManager

variable (manager : ReservationManager)

def held (hostname : String) : Finset String :=
  (manager.reservations.lookup hostname).getD ∅

def remaining (reservationID : String) : Int :=
  (manager.capacity.lookup reservationID).getD 0

variable (hostname : String) (offering : Offering)

def canReserve : Except ReservationPanic Bool :=
  if offering.reservationID tables ∈ manager.held hostname then .ok true
  else
    match manager.capacity.lookup (offering.reservationID tables) with
    | none => .error (.nonExistentOffering (offering.reservationID tables))
    | some capacity => .ok (capacity ≠ 0)

def reserveOne : Except ReservationPanic ReservationManager :=
  let id := offering.reservationID tables
  if id ∈ manager.held hostname then .ok manager
  else if manager.remaining id - 1 < 0 then .error (.overReserved id)
  else
    .ok { reservations := manager.reservations.insert hostname (insert id (manager.held hostname))
          capacity := manager.capacity.insert id (manager.remaining id - 1) }

def reserve (hostname : String) (offerings : List Offering) :
    Except ReservationPanic ReservationManager :=
  offerings.foldlM (fun manager offering => manager.reserveOne tables hostname offering) manager

def release : ReservationManager :=
  let id := offering.reservationID tables
  if id ∈ manager.held hostname then
    { reservations := manager.reservations.insert hostname ((manager.held hostname).erase id)
      capacity := manager.capacity.insert id (manager.remaining id + 1) }
  else manager

end ReservationManager

end Kraftsman.Provisioning
