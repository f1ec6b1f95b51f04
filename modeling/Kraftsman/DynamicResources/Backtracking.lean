import Kraftsman.DynamicResources.SearchRules

/-!
Contract: the search only takes devices that pass their checks.

Owns: soundness of a search and its preservation by every step of it.
Does not own: the checks themselves.
-/

namespace Kraftsman.DynamicResources

open Apis Data Search List

variable {ctx : SearchContext} {Requested : RequestData → Prop}

variable {tentative : Tentative} {rd : RequestData} {dw : DeviceWithID}
variable {consumed : Option Capacities}

private theorem checkCapacity_admits {consumed : Capacities}
    (passed : checkCapacity ctx tentative rd dw = some (some consumed)) {name : QualifiedName}
    {amount : Quantity} (consumes : consumed.lookup name = some amount) :
    ∃ capacity, dw.device.capacity.lookup name = some capacity ∧ ctx.committedCapacity dw.id name +
        capacityAt (tentative.capacities dw.id.template) (dw.id, name) + amount ≤
          capacity.value := by
  unfold checkCapacity at passed
  split_ifs at passed
  split at passed
  · cases passed
  · cases passed
  · split_ifs at passed with fits
    obtain rfl := Option.some.inj (Option.some.inj passed)
    have entry := all_eq_true.mp fits ⟨name, amount⟩ (GoMap.mem_entries_iff.mpr consumes)
    split at entry
    · cases entry
    · next capacity found => exact ⟨capacity, found, of_decide_eq_true entry⟩

private theorem checkCapacity_computes (passed : checkCapacity ctx tentative rd dw = some consumed) :
    computeConsumedCapacity rd.capacityRequests dw.device.capacity = some consumed := by
  unfold checkCapacity at passed
  split_ifs at passed
  split at passed
  · cases passed
  · next computed => exact computed.trans passed
  · next amounts computed =>
      split_ifs at passed
      exact computed.trans passed

private theorem checkCounters_admits (passed : checkCounters ctx tentative dw)
    {consumption : DeviceCounterConsumption} (member : consumption ∈ dw.device.consumesCounters)
    {name : String} {amount : Quantity} (consumes : consumption.counters.lookup name = some amount) :
    ∃ sets budget, ctx.remainingCounterSets dw.id = some sets ∧
      getSetCounter sets consumption.counterSet name = some budget ∧
      amount.value ≤ budget.value - Quantity.value (counterAt (tentative.counters dw.id.template)
        (dw.id.poolKey, consumption.counterSet, name)) := by
  unfold checkCounters at passed
  split_ifs at passed with empty
  · rw [isEmpty_iff.mp empty] at member
    cases member
  · split at passed
    · cases passed
    · next sets found =>
        have covered := (Bool.and_eq_true_iff.mp (all_eq_true.mp passed consumption member)).2
        have entry := all_eq_true.mp covered ⟨name, amount⟩ (GoMap.mem_entries_iff.mpr consumes)
        split at entry
        · cases entry
        · next budget isBudget =>
            exact ⟨sets, budget, found, isBudget, of_decide_eq_true entry⟩

theorem admissible_of_checks {search : Search} (sound : search.toTentative.Sound ctx Requested)
    (requested : Requested rd) (candidate : ctx.Candidate dw)
    (passed : available ctx search.toTentative rd dw = some consumed)
    (allowed : countersAllow ctx search dw) (claimIdx : Nat) :
    Admissible ctx Requested search.allocatedDevicesMetadata
      { claimIndex := claimIdx, deviceWithID := dw, consumedCapacity := consumed } where
  candidate := candidate
  free exclusive := (available_admits passed exclusive).1
  exclusive exclusive := (available_admits passed exclusive).2.2
  counters := by
    intro consumption member name amount consumes
    have checked : checkCounters ctx search.toTentative dw := by
      unfold countersAllow at allowed
      split_ifs at allowed with empty
      · rw [isEmpty_iff.mp empty] at member
        cases member
      · exact (Bool.and_eq_true_iff.mp allowed).2
    obtain ⟨sets, budget, found, isBudget, fits⟩ := checkCounters_admits checked member consumes
    rw [sound.counters] at fits
    exact ⟨sets, budget, found, isBudget, fits⟩
  capacity := by
    intro amounts name amount isConsumed consumes
    obtain rfl : consumed = some amounts := isConsumed
    have multi : dw.device.allowMultipleAllocations := by
      by_contra exclusive
      cases (available_admits passed (by simpa using exclusive)).2.2
    unfold available at passed
    rw [if_pos multi] at passed
    obtain ⟨capacity, found, fits⟩ := checkCapacity_admits passed consumes
    rw [sound.capacities (dw.id, name)] at fits
    exact ⟨capacity, found, fits⟩
  requested := by
    refine ⟨rd, requested, fun multi => ?_⟩
    unfold available at passed
    rw [if_pos multi] at passed
    exact checkCapacity_computes passed

variable {initial : List Pool} {Recalls : MatchKey → Prop} {search found : Search}

theorem Tentative.Sound.same {other : Tentative} (sound : tentative.Sound ctx Requested)
    (published : ∀ pool ∈ initial, pool.From ctx.env.inClusterSlices)
    (same : tentative.Same ctx initial other) : other.Sound ctx Requested where
  counters template key := by rw [same.counters, same.metadata, sound.counters]
  counters_present taken member set name consumes :=
    same.present _ _ _ _ (sound.counters_present taken (same.metadata ▸ member) set name consumes)
  capacities key := by rw [same.capacities, same.metadata, sound.capacities]
  multi_present taken member multi :=
    same.entries _ _ (sound.multi_present taken (same.metadata ▸ member) multi)
  present_multi template id entry := by
    rcases same.shared template id entry with old | ⟨isTemplate, dw, offered, facts⟩
    · exact sound.present_multi template id old
    · exact ⟨isTemplate, dw, offered.candidate published, facts⟩
  once id untracked := by
    have before := sound.once id fun entry => untracked (same.entries _ _ entry)
    rcases same.devices id with equal | shared
    · rw [same.metadata, before, if_congr equal.symm rfl rfl]
    · exact absurd shared.1 untracked
  admissible earlier taken isPrefix := sound.admissible earlier taken (same.metadata ▸ isPrefix)

theorem Tentative.Sound.follows {picks : List Pick} (sound : search.toTentative.Sound ctx Requested)
    (published : ∀ pool ∈ initial, pool.From ctx.env.inClusterSlices)
    (follows : Follows ctx initial Recalls search picks found)
    (requested : ∀ pick ∈ picks, Requested pick.rd) : found.toTentative.Sound ctx Requested := by
  induction follows with
  | done same => exact sound.same published same.tentative
  | take same fits passed allowed _ isTightened _ ih =>
    rw [forall_mem_cons] at requested
    have tried := sound.same published same.tentative
    refine ih ?_ requested.2
    rw [tighten_tentative isTightened]
    exact tried.record (admissible_of_checks tried requested.1 (fits.offered.candidate published)
      passed allowed _) fun exclusive => (available_admits passed exclusive).2.1

end Kraftsman.DynamicResources
