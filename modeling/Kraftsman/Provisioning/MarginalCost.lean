import Kraftsman.Provisioning.InFlight

/-!
Contract: how far placements by price are from the cheapest ones.

Owns: the NodeClaims in flight that fit a pod, how far the chosen one is from the
least increase in price, and when a new NodeClaim is preferred.
Does not own: when a NodeClaim fits, and what a launch costs.
-/

namespace Kraftsman.Provisioning

open Apis CloudProvider Data Scheduling FallibleLoop Scheduler List

namespace Scheduler

variable {tables : LabelTables} {s : Scheduler} {answers : Answers} {pod : Pod} {podData : PodData}
variable {placements : List InflightPlacement} {best : InflightPlacement}

theorem cheaperThan_iff {tolerance left right : ℚ} (positive : 0 < tolerance) (leftNonneg : 0 ≤ left)
    (rightNonneg : 0 ≤ right) :
    cheaperThan tolerance left right = true ↔ left < (1 - tolerance) * right := by
  unfold cheaperThan
  rw [decide_eq_true_iff, abs_of_nonneg leftNonneg, abs_of_nonneg rightNonneg, gt_iff_lt]
  rcases le_total left right with le | le
  · rw [max_eq_right le]
    constructor <;> intro <;> linarith
  · rw [max_eq_left le]
    constructor <;> intro <;> nlinarith

theorem cheapestOf_eq_none : s.cheapestOf placements = none ↔ placements = [] := by
  rcases placements.eq_nil_or_concat' with rfl | ⟨earlier, last, rfl⟩
  · exact ⟨fun _ => rfl, fun _ => rfl⟩
  · unfold cheapestOf
    rw [foldl_append]
    cases earlier.foldl s.cheaperOf none <;> simp [cheaperOf]

/-- The comparison is not transitive, but the choice never drifts: what is chosen
is below everything before it. -/
theorem cheapestOf_within (positive : 0 < s.config.priceTieTolerance)
    (nonneg : ∀ placement ∈ placements, 0 ≤ placement.delta)
    (found : s.cheapestOf placements = some best) :
    ∃ earlier later, placements = earlier ++ best :: later ∧
      (∀ other ∈ earlier, best.delta < other.delta) ∧
      ∀ other ∈ placements, (1 - s.config.priceTieTolerance) * best.delta ≤ other.delta := by
  induction length : placements.length using Nat.strongRecOn generalizing placements best with
  | ind size ih =>
    obtain ⟨earlier, later, rfl, before, after⟩ := cheapestOf_eq_some found
    have bestNonneg : 0 ≤ best.delta := nonneg best (by simp)
    have below : ∀ other ∈ earlier, best.delta < other.delta := by
      intro other member
      obtain ⟨kept, isKept⟩ : ∃ kept, s.cheapestOf earlier = some kept :=
        Option.ne_none_iff_exists'.mp (mt cheapestOf_eq_none.mp (ne_nil_of_mem member))
      have nonnegEarlier : ∀ placement ∈ earlier, 0 ≤ placement.delta :=
        fun placement inEarlier => nonneg placement (by simp [inEarlier])
      obtain ⟨_, _, same, -, least⟩ := ih earlier.length (by simp [← length]) nonnegEarlier isKept rfl
      have keptNonneg := nonnegEarlier kept (by simp [same])
      exact ((cheaperThan_iff positive bestNonneg keptNonneg).mp (before kept isKept)).trans_le
        (least other member)
    refine ⟨earlier, later, rfl, below, fun other member => ?_⟩
    have lower : (1 - s.config.priceTieTolerance) * best.delta ≤ best.delta := by nlinarith
    rcases mem_append.mp member with inEarlier | rest
    · exact lower.trans (below other inEarlier).le
    · rcases mem_cons.mp rest with rfl | inLater
      · exact lower
      · have notCheaper := after other inLater
        rw [← Bool.not_eq_true, cheaperThan_iff positive (nonneg other member) bestNonneg] at notCheaper
        exact not_lt.mp notCheaper

/-- The NodeClaims in flight that fit the pod, in order. -/
def fitting (tables : LabelTables) (s : Scheduler) (answers : Answers) (pod : Pod)
    (podData : PodData) : List InflightPlacement :=
  s.newNodeClaims.zipIdx.filterMap fun indexed =>
    (s.evaluateInflight tables answers pod podData indexed).toOption.join

theorem inflightPlacements_eq_ok
    (done : s.inflightPlacements tables answers pod podData = .ok placements) :
    placements = s.fitting tables answers pod podData := by
  unfold inflightPlacements at done
  rw [parallelizeUntil.eq_mapM] at done
  obtain ⟨outcomes, evaluated, rfl⟩ := except_map_eq_ok.mp done
  unfold fitting
  generalize s.newNodeClaims.zipIdx = claims at evaluated ⊢
  have related := mapM_eq_ok.mp evaluated
  clear done evaluated
  induction related with
  | nil => rfl
  | cons found _ ih =>
    rw [filterMap_cons, filterMap_cons, found, ih]
    rfl

theorem delta_nonneg (fits : best ∈ s.fitting tables answers pod podData) : 0 ≤ best.delta := by
  obtain ⟨indexed, -, found⟩ := mem_filterMap.mp fits
  rw [Option.join_eq_some_iff, toOption_eq_some, evaluateInflight, except_map_eq_ok] at found
  obtain ⟨outcome, -, taken⟩ := found
  obtain ⟨placement, -, rfl⟩ := Option.map_eq_some_iff.mp taken
  dsimp only [marginalLaunchPrice]
  split_ifs
  · split
    · exact le_max_right _ _
    · exact le_refl 0
  · exact le_refl 0

theorem commitInflight_opened {s' : Scheduler} {placed : Placed}
    (done : s.commitInflight tables answers pod podData best = .ok (s', placed)) :
    placed.opened = none := by
  obtain ⟨added, -, same⟩ := except_map_eq_ok.mp done
  cases same
  rfl

/-- A new NodeClaim is only preferred to one in flight if it is cheaper. -/
theorem cheaper_of_opened {s' : Scheduler} {placed : Placed}
    (done : s.addToCheaper tables answers pod podData best = .ok (s', placed))
    (opens : placed.opened ≠ none) :
    ∃ fresh price, s.evaluateNewNodeClaim tables answers pod podData = .ok (.ok fresh) ∧
      freshPrice tables fresh = some price ∧
      cheaperThan s.config.priceTieTolerance price best.delta = true := by
  unfold addToCheaper at done
  split_ifs at done with costs
  · obtain ⟨outcome, evaluated, rest⟩ := bind_eq_ok.mp done
    cases outcome with
    | error error => exact absurd (commitInflight_opened rest) opens
    | ok fresh =>
      dsimp only at rest
      split_ifs at rest with cheaper
      · cases isPrice : freshPrice tables fresh with
        | none => simp [isPrice] at cheaper
        | some price =>
          rw [isPrice, Option.any_some] at cheaper
          exact ⟨fresh, price, evaluated, isPrice, cheaper⟩
      · exact absurd (commitInflight_opened rest) opens
  · exact absurd (commitInflight_opened done) opens

end Scheduler

end Kraftsman.Provisioning
