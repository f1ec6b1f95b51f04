import Kraftsman.Data.OrderStatistics
import Kraftsman.Data.Runs
import Kraftsman.Provisioning.TopologyGroup
import Kraftsman.Scheduling.RequirementAlgebra

/-!
Contract: the domains a spread constraint leaves to a pod.

Owns: the skew rule over the counts of a group, that the search for the next
domain follows it, and the skew of pods that go where it sends them.
Does not own: which pods a run counts.
-/

namespace Kraftsman.Provisioning.TopologyGroup

open Apis Data Scheduling List

section Spread

variable {tables : LabelTables} {group : TopologyGroup} {order : RangeOrder String} {pod : Pod}
variable {podDomains nodeDomains : Requirement} {domain : String}

/-- One if the pod counts itself. -/
def self (group : TopologyGroup) (pod : Pod) : Int := if group.selects pod then 1 else 0

/-- The counts of the domains that the pod supports. -/
def supportedCounts (group : TopologyGroup) (podDomains : Requirement) : List Int :=
  (group.domains.entries.filter fun entry => podDomains.has entry.1).map fun entry => entry.2

/-- The least count that skew is measured from: zero if fewer domains are
supported than there should be, none without any. -/
def IsGlobalMin (group : TopologyGroup) (podDomains : Requirement) (least : Int) : Prop :=
  if group.minDomains.any fun minDomains =>
      ((group.supportedCounts podDomains).length : Int) < minDomains then least = 0
  else IsLeast {count | count ∈ group.supportedCounts podDomains} least

theorem isLeast_foldl_min {counts : List Int} {start : Int} (nonempty : counts ≠ [])
    (below : ∀ count ∈ counts, count ≤ start) :
    IsLeast {count | count ∈ counts} (counts.foldl min start) := by
  have lt_iff : ∀ bound, counts.foldl min start < bound ↔
      start < bound ∨ ∃ count ∈ counts, count < bound := fun bound =>
    foldl_min_lt_iff id bound start counts
  have lower : ∀ count ∈ counts, counts.foldl min start ≤ count := fun count member =>
    not_lt.mp fun less => lt_irrefl _ ((lt_iff _).mpr (.inr ⟨count, member, less⟩))
  refine ⟨?_, lower⟩
  -- the start is only left if some count is as large
  obtain ⟨least, member, atMost⟩ : ∃ least ∈ counts, least ≤ counts.foldl min start := by
    rcases (lt_iff _).mp (Int.lt_succ _) with atStart | ⟨least, member, less⟩
    · obtain ⟨count, member⟩ := exists_mem_of_ne_nil counts nonempty
      exact ⟨count, member, (below count member).trans (Int.lt_add_one_iff.mp atStart)⟩
    · exact ⟨least, member, Int.lt_add_one_iff.mp less⟩
  exact le_antisymm (lower least member) atMost ▸ member

theorem domainMinCount_eq (key : group.key ≠ labelHostname) : group.domainMinCount podDomains =
      if group.minDomains.any fun minDomains =>
          ((group.supportedCounts podDomains).length : Int) < minDomains then 0
      else (group.supportedCounts podDomains).foldl min maxInt32 := by
  unfold domainMinCount supportedCounts
  rw [if_neg key, length_map, foldl_map]

theorem mem_candidateDomains
    (concrete : nodeDomains.complement = false → nodeDomains.gte = none ∧ nodeDomains.lte = none) :
    domain ∈ group.candidateDomains order nodeDomains ↔
      domain ∈ group.domains ∧ nodeDomains.has domain := by
  unfold candidateDomains
  split_ifs with isIn
  · have isConcrete : nodeDomains.complement = false := by
      unfold Requirement.operator at isIn
      split_ifs at isIn
      simp_all
    obtain ⟨noLow, noHigh⟩ := concrete isConcrete
    simp [RangeOrder.mem_visit, Requirement.has, isConcrete, noLow, noHigh, and_comm]
  · simp [RangeOrder.mem_visit, AList.mem_keys]

theorem foldl_choose {cost : String → Int} {domains : List String} {top : Int}
    (below : ∀ domain ∈ domains, cost domain < top) :
    let chosen := domains.foldl (fun (chosen : String × Int) domain =>
      if cost domain < chosen.2 then (domain, cost domain) else chosen) ("", top)
    (domains = [] ∧ chosen = ("", top)) ∨
      (chosen.1 ∈ domains ∧ chosen.2 = cost chosen.1 ∧ ∀ domain ∈ domains, chosen.2 ≤ cost domain) := by
  induction domains using reverseRecOn with
  | nil => exact .inl ⟨rfl, rfl⟩
  | append_singleton domains last ih =>
    rw [foldl_append, foldl_cons, foldl_nil]
    have lastBelow : cost last < top := below last (by simp)
    split_ifs with less
    · refine .inr ⟨by simp, rfl, fun domain member => ?_⟩
      rcases mem_append.mp member with earlier | isLast
      · rcases ih (fun domain member => below domain (by simp [member])) with
          ⟨rfl, -⟩ | ⟨-, -, least⟩
        · cases earlier
        · exact less.le.trans (least domain earlier)
      · rw [mem_singleton.mp isLast]
    · rcases ih (fun domain member => below domain (by simp [member])) with
        ⟨-, isStart⟩ | ⟨member, isCost, least⟩
      · rw [isStart] at less
        exact absurd lastBelow less
      · refine .inr ⟨by simp [member], isCost, fun domain isMember => ?_⟩
        rcases mem_append.mp isMember with earlier | isLast
        · exact least domain earlier
        · rw [mem_singleton.mp isLast]
          exact not_lt.mp less

/-- The domain is known, the node may be in it, and one more pod does not exceed the skew. -/
structure Allows (group : TopologyGroup) (pod : Pod) (podDomains nodeDomains : Requirement)
    (domain : String) : Prop where
  known : domain ∈ group.domains
  node : nodeDomains.has domain = true
  skew : ∀ least, group.IsGlobalMin podDomains least →
    group.count domain + group.self pod - least ≤ group.maxSkew

theorem self_range (group : TopologyGroup) (pod : Pod) :
    0 ≤ group.self pod ∧ group.self pod ≤ 1 := by
  unfold self
  split_ifs <;> simp

theorem count_lt
    (counts : ∀ entry ∈ group.domains.entries, (entry.2 : Int) + group.self pod < maxInt32)
    (domain : String) : (group.count domain : Int) + group.self pod < maxInt32 := by
  have atMost := self_range group pod
  unfold count
  cases found : group.domains.lookup domain with
  | none => simpa [maxInt32] using atMost.2.trans_lt (by decide)
  | some count => exact counts ⟨domain, count⟩ (GoMap.mem_entries_iff.mpr found)

theorem skew_iff (key : group.key ≠ labelHostname) (skew : 0 ≤ group.maxSkew)
    (counts : ∀ domain, group.count domain + group.self pod < maxInt32) :
    group.count domain + group.self pod - group.domainMinCount podDomains ≤ group.maxSkew ↔
      ∀ least, group.IsGlobalMin podDomains least →
        group.count domain + group.self pod - least ≤ group.maxSkew := by
  have below : ∀ count ∈ group.supportedCounts podDomains, count ≤ maxInt32 := by
    intro count member
    obtain ⟨entry, inEntries, rfl⟩ := mem_map.mp member
    have isCount : group.count entry.1 = entry.2 := by
      rw [count, GoMap.mem_entries_iff.mp (mem_of_mem_filter inEntries), Option.getD_some]
    have := counts entry.1
    have := self_range group pod
    omega
  rw [domainMinCount_eq key]
  unfold IsGlobalMin
  split_ifs with few
  · simp
  · by_cases none : group.supportedCounts podDomains = []
    · have := counts domain
      simp only [none, foldl_nil, not_mem_nil, Set.ofPred_false]
      refine ⟨fun _ least isLeast => absurd isLeast.1 (Set.notMem_empty _), fun _ => by omega⟩
    · have isLeast := isLeast_foldl_min none below
      exact ⟨fun within least least' => isLeast.unique least' ▸ within, fun all => all _ isLeast⟩

/-- The next domain follows the skew rule in exact integers: the valid domains are
those that the rule allows, one of least count is chosen, and the search fails
only if no domain is valid. -/
theorem nextDomainTopologySpread_follows_skew (tables : LabelTables) (group : TopologyGroup)
    (order : RangeOrder String) (pod : Pod) (podDomains nodeDomains : Requirement)
    (key : group.key ≠ labelHostname) (skew : 0 ≤ group.maxSkew) (named : "" ∉ group.domains)
    (counts : ∀ entry ∈ group.domains.entries, (entry.2 : Int) + group.self pod < maxInt32)
    (label : String) (built : nodeDomains.Built tables label)
    (next : Requirement × Finset String)
    (found : group.nextDomainTopologySpread tables order pod podDomains nodeDomains = next) :
    (∀ domain, domain ∈ next.2 ↔ group.Allows pod podDomains nodeDomains domain) ∧
    ((next.2 = ∅ ∧ next.1 = .newRequirement tables group.key .opDoesNotExist []) ∨
      ∃ domain ∈ next.2, next.1 = .newRequirement tables group.key .opIn [domain] ∧
        ∀ other ∈ next.2, group.count domain ≤ group.count other) := by
  replace counts := count_lt counts
  have noHost : group.hostName nodeDomains = none := if_neg key
  unfold nextDomainTopologySpread at found
  rw [noHost] at found
  have valid : ∀ domain, domain ∈ (group.candidateDomains order nodeDomains).filter (fun domain =>
      decide (group.count domain + group.self pod - group.domainMinCount podDomains ≤ group.maxSkew)) ↔
      group.Allows pod podDomains nodeDomains domain := by
    intro domain
    rw [mem_filter, mem_candidateDomains built.spec.2.2.concrete, decide_eq_true_iff, skew_iff key skew counts]
    exact ⟨fun ⟨⟨known, node⟩, skew⟩ => ⟨known, node, skew⟩,
      fun ⟨known, node, skew⟩ => ⟨⟨known, node⟩, skew⟩⟩
  unfold self at valid counts
  dsimp only at found
  generalize (group.candidateDomains order nodeDomains).filter _ = domains at found valid
  rcases @foldl_choose (fun domain => group.count domain + if group.selects pod then 1 else 0)
    domains _ (fun domain _ => counts domain) with ⟨rfl, start⟩ | ⟨member, isCost, least⟩
  · subst found
    exact ⟨by simpa using valid, .inl ⟨rfl, rfl⟩⟩
  · rw [if_neg fun unnamed => named (by rw [← unnamed]; exact ((valid _).mp member).known)] at found
    subst found
    refine ⟨by simpa using valid, .inr ⟨_, mem_toFinset.mpr member, rfl, fun other isOther => ?_⟩⟩
    have atMost := isCost ▸ least other (mem_toFinset.mp isOther)
    omega

end Spread

/-- A group that spreads every pod over its zone. -/
def oneZone (count : Nat) : TopologyGroup :=
  { key := labelTopologyZone, type := .spread, maxSkew := 1, minDomains := none
    namespaces := {"default"}, rawSelector := some {}, nodeFilter := {}, owners := ∅
    domains := GoMap.ofList [("a", count)], emptyDomains := ∅ }

def anyZone : Requirement := .newRequirement .base labelTopologyZone .opExists []

/-- The last count below the 32-bit limit: the zone is valid and yet not chosen. -/
theorem full_zone_not_chosen :
    (oneZone (2 ^ 31 - 2)).nextDomainTopologySpread .base .listed {} anyZone anyZone =
      (.newRequirement .base labelTopologyZone .opDoesNotExist [], {"a"}) := by
  decide +kernel

def twoZones (first second : Nat) : TopologyGroup :=
  { oneZone 0 with domains := GoMap.ofList [("a", first), ("b", second)] }

/-- Only the zone with fewer pods is within the skew. -/
theorem zone_chosen_by_skew :
    ((twoZones 3 1).nextDomainTopologySpread .base .listed {} anyZone anyZone).2 = {"b"} ∧
    (twoZones 3 1).Allows {} anyZone anyZone "b" ∧ ¬ (twoZones 3 1).Allows {} anyZone anyZone "a" := by
  have valid : ((twoZones 3 1).nextDomainTopologySpread .base .listed {} anyZone anyZone).2 =
      {"b"} := by decide +kernel
  have follows := nextDomainTopologySpread_follows_skew .base (twoZones 3 1) .listed {} anyZone
    anyZone (by decide) (by decide) (by decide) (by decide +kernel) labelTopologyZone
    (.new (by decide) .opExists none []) _ rfl
  rw [valid] at follows
  exact ⟨valid, (follows.1 "b").mp (by decide), fun allowed => absurd ((follows.1 "a").mpr allowed)
    (by decide)⟩

/-- A pod goes to a domain. -/
structure SpreadEvent where
  order : RangeOrder String
  pod : Pod
  nodeDomains : Requirement
  domain : String

/-- Count the pod if the group selects it. -/
def spreadTo (group : TopologyGroup) (event : SpreadEvent) : Except Empty TopologyGroup :=
  .ok (if group.selects event.pod then group.record [event.domain] else group)

/-- The domain is one that the group offers the pod, while no count is at the
32-bit limit. -/
structure Offered (tables : LabelTables) (podDomains : Requirement) (group : TopologyGroup)
    (event : SpreadEvent) : Prop where
  valid : event.domain ∈ (group.nextDomainTopologySpread tables event.order event.pod podDomains
    event.nodeDomains).2
  counts : ∀ entry ∈ group.domains.entries, (entry.2 : Int) + group.self event.pod < maxInt32

/-- The counts of the known domains that the pods support differ by at most the bound. -/
def SkewAtMost (podDomains : Requirement) (bound : Int) (group : TopologyGroup) : Prop :=
  ∀ left ∈ group.domains, ∀ right ∈ group.domains, podDomains.has left → podDomains.has right →
    (group.count left : Int) - group.count right ≤ bound

section Skew

variable {tables : LabelTables} {group : TopologyGroup} {podDomains : Requirement}
variable {event : SpreadEvent} {domain : String}

theorem count_record (other : String) : (group.record [domain]).count other =
    if other = domain then group.count domain + 1 else group.count other := by
  have recorded : (group.record [domain]).domains =
    group.domains.insert domain (group.count domain + 1) := rfl
  rw [count, recorded, GoMap.lookup_insert_eq]
  split_ifs <;> rfl

theorem domainMinCount_le (key : group.key ≠ labelHostname) (known : domain ∈ group.domains)
    (supported : podDomains.has domain) :
    group.domainMinCount podDomains ≤ group.count domain := by
  rw [domainMinCount_eq key]
  split_ifs
  · exact Int.natCast_nonneg _
  · obtain ⟨count, found⟩ := Option.isSome_iff_exists.mp (AList.lookup_isSome.mpr known)
    have listed : (count : Int) ∈ group.supportedCounts podDomains :=
      mem_map.mpr ⟨⟨domain, count⟩, mem_filter.mpr ⟨GoMap.mem_entries_iff.mpr found, supported⟩, rfl⟩
    rw [TopologyGroup.count, found, Option.getD_some]
    exact Int.lt_add_one_iff.mp
      ((foldl_min_lt_iff id _ _ _).mpr (.inr ⟨count, listed, Int.lt_add_one_iff.mpr le_rfl⟩))

/-- A domain that is offered is known and stays within the skew. -/
theorem Offered.spec (key : group.key ≠ labelHostname) (offered : group.Offered tables podDomains event) :
    event.domain ∈ group.domains ∧ (group.count event.domain : Int) + group.self event.pod -
      group.domainMinCount podDomains ≤ group.maxSkew := by
  have noHost : group.hostName event.nodeDomains = none := if_neg key
  have valid : event.domain ∈ ((group.candidateDomains event.order event.nodeDomains).filter
      fun domain => decide ((group.count domain : Int) + group.self event.pod -
        group.domainMinCount podDomains ≤ group.maxSkew)).toFinset := by
    have valid := offered.valid
    unfold nextDomainTopologySpread at valid
    rw [noHost] at valid
    simp only [apply_ite Prod.snd, ite_self] at valid
    exact valid
  obtain ⟨candidate, within⟩ := mem_filter.mp (mem_toFinset.mp valid)
  refine ⟨?_, of_decide_eq_true within⟩
  unfold candidateDomains at candidate
  split_ifs at candidate
  · exact of_decide_eq_true (mem_filter.mp candidate).2
  · exact AList.mem_keys.mpr (RangeOrder.mem_visit.mp (mem_filter.mp candidate).1)

theorem SkewAtMost.record {bound : Int} (skew : group.SkewAtMost podDomains bound)
    (key : group.key ≠ labelHostname) (allowed : group.maxSkew ≤ bound)
    (offered : group.Offered tables podDomains event) (selected : group.selects event.pod) :
    (group.record [event.domain]).SkewAtMost podDomains bound := by
  obtain ⟨known, within⟩ := offered.spec key
  have mem_record : ∀ {other}, other ∈ (group.record [event.domain]).domains → other ∈ group.domains :=
    fun isRecorded => ((AList.mem_insert _).mp isRecorded).elim (· ▸ known) id
  intro left isLeft right isRight supportsLeft supportsRight
  have atMost := skew left (mem_record isLeft) right (mem_record isRight) supportsLeft supportsRight
  -- the domain of the pod ends at most the allowed skew above the least count
  have least := domainMinCount_le key (mem_record isRight) supportsRight
  have counted : group.self event.pod = 1 := if_pos selected
  rw [count_record, count_record]
  split_ifs with onLeft onRight onRight
  · subst onLeft onRight
    omega
  · subst onLeft
    push_cast
    omega
  · subst onRight
    push_cast
    omega
  · exact atMost

end Skew

structure SpreadFrom (start : TopologyGroup) (podDomains : Requirement) (bound : Int)
    (group : TopologyGroup) : Prop where
  key : group.key = start.key
  maxSkew : group.maxSkew = start.maxSkew
  skew : group.SkewAtMost podDomains bound
  counts : ∀ domain, (group.count domain : Int) < maxInt32

/-- While pods with the same supported domains go where their spread constraint
offers a place, the counts of those domains differ by no more than the allowed
skew, or by no more than at the start if that is larger. This is for other keys
than the hostname, and as long as one more pod does not take a count to the
32-bit limit; the counts then stay below it, and none wraps around. -/
theorem spread_keeps_skew (tables : LabelTables) {start group : TopologyGroup}
    {podDomains : Requirement} (key : start.key ≠ labelHostname) {bound : Int}
    (allowed : start.maxSkew ≤ bound) (skew : start.SkewAtMost podDomains bound)
    (counts : ∀ domain, (start.count domain : Int) < maxInt32)
    (reached : Reaches spreadTo (Offered tables podDomains) start group) :
    group.SkewAtMost podDomains bound ∧ ∀ domain, (group.count domain : Int) < maxInt32 := by
  have kept : SpreadFrom start podDomains bound group := by
    refine reached.invariant (SpreadFrom start podDomains bound) ⟨rfl, rfl, skew, counts⟩ ?_
    intro group event group' kept offered done
    obtain rfl := Except.ok.inj done
    split_ifs with selected
    · refine ⟨kept.key, kept.maxSkew, kept.skew.record (kept.key ▸ key) (kept.maxSkew ▸ allowed)
        offered selected, fun domain => ?_⟩
      have counted : group.self event.pod = 1 := if_pos selected
      have below := count_lt offered.counts event.domain
      rw [count_record]
      split_ifs
      · push_cast
        omega
      · exact kept.counts domain
    · exact kept
  exact ⟨kept.skew, kept.counts⟩

theorem spread_over_two_zones : ∃ group,
    Reaches spreadTo (Offered .base anyZone) (twoZones 0 0) group ∧ group.count "a" = 1 ∧
      group.count "b" = 1 ∧ group.SkewAtMost anyZone 1 := by
  have zero : ∀ domain, (twoZones 0 0).count domain = 0 := by
    intro domain
    have known : domain ∈ (twoZones 0 0).domains.keys → (twoZones 0 0).count domain = 0 := by
      revert domain
      decide +kernel
    by_cases member : domain ∈ (twoZones 0 0).domains.keys
    · exact known member
    · rw [count, AList.lookup_eq_none.mpr (mt AList.mem_keys.mp member), Option.getD_none]
  have start : (twoZones 0 0).SkewAtMost anyZone 1 := by
    intro left _ right _ _ _
    rw [zero left, zero right]
    decide
  have first : (twoZones 0 0).Offered .base anyZone ⟨.listed, {}, anyZone, "a"⟩ :=
    ⟨by decide +kernel, by decide +kernel⟩
  have second : ((twoZones 0 0).record ["a"]).Offered .base anyZone ⟨.listed, {}, anyZone, "b"⟩ :=
    ⟨by decide +kernel, by decide +kernel⟩
  have reached : Reaches spreadTo (Offered .base anyZone) (twoZones 0 0)
    (((twoZones 0 0).record ["a"]).record ["b"]) := .step (.step .start first rfl) second rfl
  have kept := spread_keeps_skew .base (by decide) (by decide) start (fun domain => by
    rw [zero domain]
    decide) reached
  exact ⟨_, reached, by decide +kernel, by decide +kernel, kept.1⟩

end Kraftsman.Provisioning.TopologyGroup
