import Kraftsman.Disruption.ReplacementPrices

/-!
Contract: the markets that spot replacements are limited to.

The zones come from one instance type, the anchor. Others are kept if they do as
well in these zones.

Owns: which instance types are kept, and when an anchor loses all of them.
Does not own: what the cloud provider says of an offering.
-/

namespace Kraftsman.Disruption

open Kraftsman.CloudProvider hiding cheapestLaunchPrice satisfiesMinValues
open Kraftsman.Data (find?_insertionSort)
open Kraftsman.Provisioning (smallInstance)

namespace SpotReplacementMarket

variable (market : SpotReplacementMarket)

/-- A zone that a replacement can be limited to. -/
def Opens (zone : String) : Prop :=
  zone ≠ "" ∧ zone ∈ market.admitted ∧ zone ∉ market.rejected

/-- Whether a replacement can launch in some of the zones, and cannot in none. -/
def LaunchesIn (zones : Finset String) : Prop :=
  (∃ zone ∈ zones, zone ∈ market.admitted) ∧ (∀ zone ∈ zones, zone ∉ market.rejected) ∧
    "" ∉ market.rejected

/-- Whether there is a zone to limit a replacement to. -/
def Usable : Prop := "" ∉ market.rejected ∧ ∃ zone, market.Opens zone

def openZones : Finset String := (market.admitted \ market.rejected).erase ""

variable {market}

theorem mem_openZones {zone : String} : zone ∈ market.openZones ↔ market.Opens zone := by
  rw [openZones, Finset.mem_erase, Finset.mem_sdiff, Opens]

theorem nonempty_openZones : market.openZones.Nonempty ↔ ∃ zone, market.Opens zone :=
  exists_congr fun _ => mem_openZones

instance : Decidable (∃ zone, market.Opens zone) :=
  decidable_of_iff _ nonempty_openZones

theorem launchesIn_openZones {anchor : SpotReplacementMarket} :
    market.LaunchesIn anchor.openZones ↔ (∃ zone, anchor.Opens zone ∧ zone ∈ market.admitted) ∧
      (∀ zone, anchor.Opens zone → zone ∉ market.rejected) ∧ "" ∉ market.rejected := by
  simp only [LaunchesIn, mem_openZones]

theorem launchesIn_of_opens (named : "" ∉ market.rejected) (opens : ∃ zone, market.Opens zone) :
    market.LaunchesIn market.openZones := by
  obtain ⟨zone, opens⟩ := opens
  exact launchesIn_openZones.mpr ⟨⟨zone, opens, opens.2.1⟩, fun _ other => other.2.2, named⟩

theorem LaunchesIn.usable {anchor : SpotReplacementMarket}
    (launches : market.LaunchesIn anchor.openZones) : market.Usable := by
  obtain ⟨⟨zone, opens, admitted⟩, clear, named⟩ := launchesIn_openZones.mp launches
  exact ⟨named, zone, opens.1, admitted, clear zone opens⟩

end SpotReplacementMarket

section

variable (options : List InstanceType) (market : InstanceType → SpotReplacementMarket)

/-- The options that open a zone. -/
def offered : List InstanceType := options.filter fun it => ∃ zone, (market it).Opens zone

/-- No option that opens a zone is cheaper, and none before it is as cheap. -/
structure Anchors (anchor : InstanceType) : Prop where
  opens : anchor ∈ offered options market
  cheapest : ∀ it ∈ offered options market, (market anchor).price ≤ (market it).price
  first : ∀ it ∈ offered options market, (market it).price ≤ (market anchor).price →
    (offered options market).idxOf anchor ≤ (offered options market).idxOf it

variable {options market}

theorem anchors_iff {anchor : InstanceType} : Anchors options market anchor ↔
    (offered options market).argmin (fun it => (market it).price) = some anchor := by
  refine ⟨fun ⟨opens, cheapest, first⟩ => ?_, fun found => ?_⟩
  · exact List.mem_argmin_iff.mpr ⟨opens, cheapest, first⟩
  · obtain ⟨opens, cheapest, first⟩ := List.mem_argmin_iff.mp found
    exact ⟨opens, cheapest, first⟩

/-- The zones come from the anchor, if there is one. -/
theorem launchableSpotReplacementMarkets_eq : launchableSpotReplacementMarkets options market =
      ((offered options market).argmin fun it => (market it).price).elim ([], ∅) fun anchor =>
        (options.filter fun it =>
          ((market it).admitted ∩ (market anchor).openZones).Nonempty &&
            (market it).rejected ∩ (market anchor).openZones = ∅ &&
            "" ∉ (market it).rejected, (market anchor).openZones) := by
  have isOffered : (options.filter fun it => (market it).admitted.Nonempty).filter
      (fun it => (market it).openZones.Nonempty) = offered options market := by
    rw [List.filter_filter, offered]
    refine List.filter_congr fun it _ => ?_
    rw [← Bool.decide_and, decide_eq_decide, SpotReplacementMarket.nonempty_openZones]
    exact and_iff_left_of_imp fun ⟨zone, opens⟩ => ⟨zone, opens.2.1⟩
  unfold launchableSpotReplacementMarkets
  simp only [← SpotReplacementMarket.openZones.eq_def]
  rw [List.find?_map, Function.comp_def, find?_insertionSort fun it => (market it).price, isOffered]
  cases (offered options market).argmin fun it => (market it).price <;> rfl

theorem mem_launchableSpotReplacementMarkets {anchor it : InstanceType}
    (anchors : Anchors options market anchor) :
    it ∈ (launchableSpotReplacementMarkets options market).1 ↔
      it ∈ options ∧ (market it).LaunchesIn (market anchor).openZones := by
  rw [launchableSpotReplacementMarkets_eq, anchors_iff.mp anchors]
  refine List.mem_filter.trans (and_congr_right fun _ => ?_)
  simp only [SpotReplacementMarket.LaunchesIn, Bool.and_eq_true, decide_eq_true_eq, Finset.Nonempty,
    Finset.mem_inter, Finset.eq_empty_iff_forall_notMem, not_and', and_assoc]
  simp only [and_comm]

/-- The instance types returned can launch wherever they are limited to. One is
returned whenever some is usable, if and only if a rejection without a zone of the
first cheapest option that opens a zone leaves another option that is admitted in
one of these zones and rejected in none, unless no option is usable. -/
theorem launchable_markets_iff_anchor (options : List InstanceType)
    (market : InstanceType → SpotReplacementMarket) :
    ((∀ it ∈ (launchableSpotReplacementMarkets options market).1,
        (market it).LaunchesIn (launchableSpotReplacementMarkets options market).2) ∧
      ((launchableSpotReplacementMarkets options market).1 ≠ [] ↔
        ∃ it ∈ options, (market it).Usable)) ↔
    ∀ anchor, Anchors options market anchor → "" ∈ (market anchor).rejected →
      (∃ it ∈ options, (market it).Usable) →
        ∃ it ∈ options, (∃ zone, (market anchor).Opens zone ∧ zone ∈ (market it).admitted) ∧
          (∀ zone, (market anchor).Opens zone → zone ∉ (market it).rejected) ∧
          "" ∉ (market it).rejected := by
  simp only [← SpotReplacementMarket.launchesIn_openZones]
  cases found : (offered options market).argmin fun it => (market it).price with
  | none =>
    have unusable : ¬∃ it ∈ options, (market it).Usable := by
      rintro ⟨it, option, -, opens⟩
      have empty : offered options market = [] := List.argmin_eq_none.mp found
      have member : it ∈ offered options market := List.mem_filter.mpr ⟨option, by simpa using opens⟩
      rw [empty] at member
      cases member
    rw [launchableSpotReplacementMarkets_eq, found]
    simpa [anchors_iff, found] using unusable
  | some anchor =>
    have anchors := anchors_iff.mpr found
    have kept : ∀ it, it ∈ (launchableSpotReplacementMarkets options market).1 ↔ _ :=
      fun it => mem_launchableSpotReplacementMarkets anchors
    have zones : (launchableSpotReplacementMarkets options market).2 =
        (market anchor).openZones := by
      rw [launchableSpotReplacementMarkets_eq, found]
      rfl
    have someKept : (launchableSpotReplacementMarkets options market).1 ≠ [] ↔
        ∃ it ∈ options, (market it).LaunchesIn (market anchor).openZones := by
      rw [← List.length_pos_iff, List.length_pos_iff_exists_mem]
      exact exists_congr kept
    have sound : ∀ it ∈ (launchableSpotReplacementMarkets options market).1,
        (market it).LaunchesIn (launchableSpotReplacementMarkets options market).2 := by
      intro it member
      rw [zones]
      exact ((kept it).mp member).2
    constructor
    · rintro ⟨-, complete⟩ other isAnchor - usable
      obtain rfl := Option.some.inj (found.symm.trans (anchors_iff.mp isAnchor))
      exact someKept.mp (complete.mpr usable)
    · intro keeps
      refine ⟨sound, fun returned => ?_, fun usable => someKept.mpr ?_⟩
      · obtain ⟨it, option, launches⟩ := someKept.mp returned
        exact ⟨it, option, launches.usable⟩
      · by_cases unnamed : "" ∈ (market anchor).rejected
        · exact keeps anchor anchors unnamed usable
        · -- without such a rejection the anchor itself is kept
          obtain ⟨option, opens⟩ := List.mem_filter.mp anchors.opens
          exact ⟨anchor, option, SpotReplacementMarket.launchesIn_of_opens unnamed (by simpa using opens)⟩

/-- The cheaper instance type is rejected without a zone, and no other one is
offered in its zones. -/
theorem anchor_without_zone_hides_usable_type :
    let market (it : InstanceType) : SpotReplacementMarket :=
      if it = smallInstance then { admitted := {"a"}, rejected := {""}, price := (1 : ℚ) }
      else { admitted := {"b"}, price := (2 : ℚ) }
    let other := { smallInstance with name := "other" }
    (launchableSpotReplacementMarkets [smallInstance, other] market).1 = [] ∧
      (market other).Usable := by
  refine ⟨by decide +kernel, by decide +kernel, "b", ?_, ?_⟩ <;> decide +kernel

end

end Kraftsman.Disruption
