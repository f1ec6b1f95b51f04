import Kraftsman.Provisioning.NodeClaim

/-!
Contract: the prices and markets that consolidation limits replacements to.

The simulation says which NodeClaims the candidates' pods need. Consolidation
keeps their cheap instance types, and on spot capacity those that can launch.

Owns: the price filter over several NodeClaims, and the choice of spot markets.
Does not own: the simulation, and whether candidates are replaced.
-/

namespace Kraftsman.Provisioning.NodeClaim

open Apis CloudProvider Data Scheduling

/-- The most that the launch of an instance type can cost. -/
def worstPrice (tables : LabelTables) (requirements : Requirements) (it : InstanceType) : Price :=
  worstLaunchPrice tables (availableOfferings it.offerings) requirements

/-- Keep what costs less than a price. It fails with the keys for which too few
values are listed. -/
def removeInstanceTypeOptionsByPriceAndMinValues (tables : LabelTables) (claim : NodeClaim)
    (requirements : Requirements) (maxPrice : Price) : Except (GoMap String Nat) NodeClaim :=
  let remaining := claim.instanceTypeOptions.filter fun it =>
    worstPrice tables requirements it < maxPrice
  let unsatisfied := (satisfiesMinValues tables remaining requirements).2
  if unsatisfied.entries.isEmpty then .ok { claim with instanceTypeOptions := remaining }
  else .error unsatisfied

end Kraftsman.Provisioning.NodeClaim

namespace Kraftsman.Disruption

open Kraftsman.Apis hiding NodeClaim
open Kraftsman.CloudProvider hiding cheapestLaunchPrice satisfiesMinValues
open Data
open Kraftsman.Provisioning (NodeClaim)
open Scheduling

/-- What consolidation reads of labels when it compares offerings. -/
structure Consolidation where
  tables : LabelTables

/-- The zones in which a replacement can and cannot launch, and the cheapest price. -/
structure SpotReplacementMarket where
  admitted : Finset String := ∅
  rejected : Finset String := ∅
  price : Price := ⊤
  deriving DecidableEq

/-- The instance types tried in turn, and the zones that all of them can launch
in: those of the cheapest one that has any. -/
def launchableSpotReplacementMarkets (options : List InstanceType)
    (market : InstanceType → SpotReplacementMarket) : List InstanceType × Finset String :=
  let anchors := (options.filter fun it => market it |>.admitted.Nonempty).insertionSort
    fun left right => (market left).price ≤ (market right).price
  let zones := anchors.map fun anchor =>
    ((market anchor).admitted \ (market anchor).rejected).erase ""
  match zones.find? fun zones => zones.Nonempty with
  | none => ([], ∅)
  | some zones =>
    (options.filter fun it => ((market it).admitted ∩ zones).Nonempty &&
      (market it).rejected ∩ zones = ∅ && "" ∉ (market it).rejected, zones)

namespace Consolidation

variable (c : Consolidation) (claim : NodeClaim)

/-- The instance types that cost less than a price wherever they are launched. -/
def affordable (price : Price) : List InstanceType :=
  claim.instanceTypeOptions.filter fun it =>
    NodeClaim.worstPrice c.tables claim.requirements it < price

/-- The least of the prices that cannot be exceeded, infinite without options. -/
def cheapestLaunchPrice : Price :=
  claim.instanceTypeOptions.foldl
    (fun cheapest it => min cheapest (NodeClaim.worstPrice c.tables claim.requirements it)) ⊤

variable (claims : List NodeClaim)

def cheapestAggregateLaunchPrice : Price :=
  (claims.map c.cheapestLaunchPrice).sum

/-- The limit for one of several NodeClaims: its cheapest price and an equal share
of what is left. -/
def claimPriceLimit (limit : ℚ) (claim : NodeClaim) : Price :=
  if 1 < claims.length then
    c.cheapestLaunchPrice claim +
      ((limit - (c.cheapestAggregateLaunchPrice claims).untopD 0) / claims.length : ℚ)
  else limit

/-- Keep what fits the limits, or nothing if even the cheapest choice reaches the limit. -/
def filterReplacementsByAggregatePrice (limit : ℚ) : Except (GoMap String Nat) (List NodeClaim) :=
  if limit ≤ c.cheapestAggregateLaunchPrice claims then
    .ok (claims.map fun claim => { claim with instanceTypeOptions := [] })
  else
    claims.mapM fun claim => claim.removeInstanceTypeOptionsByPriceAndMinValues c.tables
      claim.requirements (c.claimPriceLimit claims limit claim)

end Consolidation

end Kraftsman.Disruption
