import Kraftsman.Data.OrderStatistics
import Kraftsman.Data.RelatedLists
import Kraftsman.Disruption.Consolidation
import Kraftsman.Provisioning.ReservationAccounting

/-!
Contract: what instance types the price filter leaves to several NodeClaims.

Owns: the limits of the NodeClaims and their sum, and what any choice of
instance types costs.
Does not own: the decision that the filter is part of.
-/

namespace Kraftsman.Disruption

open Kraftsman.Apis hiding NodeClaim
open Kraftsman.CloudProvider hiding cheapestLaunchPrice satisfiesMinValues
open Data
open Kraftsman.Provisioning (NodeClaim)
open Scheduling List

theorem sum_lt_sum_of_forall₂ {α β : Type*} {left : List α} {right : List β} {lower : α → Price}
    {upper : β → Price} (below : List.Forall₂ (fun item other => lower item < upper other) left right)
    (nonempty : right ≠ []) : (left.map lower).sum < (right.map upper).sum := by
  induction below with
  | nil => exact absurd rfl nonempty
  | @cons item other items others own rest ih =>
    cases others with
    | nil =>
      cases rest
      simpa using own
    | cons next others => exact WithTop.add_lt_add own (ih (cons_ne_nil _ _))

namespace Consolidation

variable {c : Consolidation} {claims : List NodeClaim} {limit : ℚ}

theorem sum_claimPriceLimit (nonempty : claims ≠ [])
    (affordable : ¬ (limit : Price) ≤ c.cheapestAggregateLaunchPrice claims) :
    (claims.map (c.claimPriceLimit claims limit)).sum = limit := by
  by_cases several : 1 < claims.length
  · obtain ⟨total, isTotal⟩ := WithTop.ne_top_iff_exists.mp (not_le.mp affordable).ne_top
    have positive : (claims.length : ℚ) ≠ 0 := by
      rw [Nat.cast_ne_zero]
      omega
    have limits : claims.map (c.claimPriceLimit claims limit) = claims.map fun claim =>
        c.cheapestLaunchPrice claim + ((limit - total) / claims.length : ℚ) := by
      refine map_congr_left fun claim _ => ?_
      unfold claimPriceLimit
      rw [if_pos several, ← isTotal]
      rfl
    have share : claims.length • (((limit - total) / claims.length : ℚ) : Price) =
        ((limit - total : ℚ) : Price) := by
      rw [← WithTop.coe_nsmul, nsmul_eq_mul, mul_div_cancel₀ _ positive]
    rw [limits, sum_map_add, map_const', sum_replicate, share]
    rw [show (claims.map c.cheapestLaunchPrice).sum = (total : Price) from isTotal.symm,
      ← WithTop.coe_add, add_sub_cancel]
  · obtain ⟨claim, rfl⟩ : ∃ claim, claims = [claim] := by
      rw [← length_eq_one_iff]
      have := length_pos_iff.mpr nonempty
      omega
    simp [claimPriceLimit]

structure Filtered (c : Consolidation) (limit : Price) (claim filtered : NodeClaim) : Prop where
  requirements : filtered.requirements = claim.requirements
  below : ∀ it ∈ filtered.instanceTypeOptions,
    NodeClaim.worstPrice c.tables claim.requirements it < limit

section

variable {claim filtered : NodeClaim} {limit : Price}
  (done : claim.removeInstanceTypeOptionsByPriceAndMinValues c.tables claim.requirements limit =
    .ok filtered)
include done

theorem eq_of_remove :
    filtered = { claim with instanceTypeOptions := c.affordable claim limit } := by
  unfold NodeClaim.removeInstanceTypeOptionsByPriceAndMinValues at done
  dsimp only at done
  split_ifs at done
  exact (Except.ok.inj done).symm

theorem filtered_of_remove : Filtered c limit claim filtered := by
  obtain rfl := eq_of_remove done
  exact ⟨rfl, fun it member => of_decide_eq_true (mem_filter.mp member).2⟩

end

theorem cheapestLaunchPrice_lt_claimPriceLimit {claim : NodeClaim} (member : claim ∈ claims)
    (affordable : c.cheapestAggregateLaunchPrice claims < limit) :
    c.cheapestLaunchPrice claim < c.claimPriceLimit claims limit claim := by
  obtain ⟨total, isTotal⟩ := WithTop.ne_top_iff_exists.mp affordable.ne_top
  have belowLimit : total < limit := by
    rw [← isTotal] at affordable
    exact WithTop.coe_lt_coe.mp affordable
  unfold claimPriceLimit
  split_ifs with several
  · have finite : c.cheapestLaunchPrice claim ≠ ⊤ := by
      intro isTop
      obtain ⟨before, after, rfl⟩ := append_of_mem member
      exact affordable.ne_top (by simp [cheapestAggregateLaunchPrice, isTop])
    obtain ⟨own, isOwn⟩ := WithTop.ne_top_iff_exists.mp finite
    have share : 0 < (limit - total) / claims.length := by
      have : (1 : ℚ) < claims.length := by exact_mod_cast several
      exact div_pos (by linarith) (by linarith)
    rw [← isOwn, ← isTotal, ← WithTop.coe_add, WithTop.coe_lt_coe]
    exact lt_add_of_pos_right own share
  · obtain ⟨only, rfl⟩ : ∃ only, claims = [only] := by
      rw [← length_eq_one_iff]
      have := length_pos_of_mem member
      omega
    obtain rfl := mem_singleton.mp member
    simpa [cheapestAggregateLaunchPrice] using affordable

open Kraftsman.Provisioning (reservationTables smallInstance)

def spotOffering (price : ℚ) : Offering :=
  { requirements := .newLabelRequirements reservationTables (GoMap.ofList [
      (capacityTypeLabelKey, capacityTypeSpot), (labelTopologyZone, "a")])
    price := price }

/-- An instance type on spot capacity, and reserved if there is an offering for it. -/
def spotOrReserved (price : ℚ) (reserved : List Offering) : InstanceType :=
  { smallInstance with offerings := reserved ++ [spotOffering price] }

def defaultConsolidation : Consolidation := { tables := reservationTables }

def spotClaim (price : ℚ) : NodeClaim :=
  Provisioning.newNodeClaim reservationTables
    { nodePoolName := "replacing", requirements := ∅, instanceTypeOptions := []
      daemonOverheadGroups := [] } [spotOrReserved price [], spotOrReserved 9 []] 0

end Consolidation

end Kraftsman.Disruption
