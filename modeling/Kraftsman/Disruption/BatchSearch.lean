import Kraftsman.Disruption.Methods

/-!
Contract: what multi-node consolidation evaluates when it searches for the
largest batch.

Owns: how many batches a search simulates, of which sizes, and the longest one it
accepts. The limit of a hundred is used as a position, so a batch can have one
candidate too many.
-/

namespace Kraftsman.Disruption.MultiNode

variable {answers : BatchAnswers} {candidates : List Candidate} {low high : Nat}
  {saved : Option Command}

theorem candidates_of_accepted {batch : List Candidate} {cmd : Command}
    (isBatch : accepted answers batch = some cmd) : cmd.candidates = batch := by
  unfold accepted at isBatch
  split at isBatch
  case h_1 | h_2 =>
    split_ifs at isBatch
    cases isBatch
    rfl
  all_goals cases isBatch

/-- What is kept by each way a search goes on after a batch holds of the search. -/
theorem search_induction {motive : Nat → Nat → Option Command → BatchSearch → Prop}
    (ends : ∀ low high saved, ¬low < high → motive low high saved { returned := some saved })
    (stops : ∀ low high saved returned, low < high →
      accepted answers (candidates.take ((low + high - 1) / 2 + 1)) = none →
      (∀ cmd, returned = some (some cmd) → saved = some cmd) →
      motive low high saved { simulated := [(low + high - 1) / 2 + 1], returned })
    (accepts : ∀ low high saved cmd, low < high →
      accepted answers (candidates.take ((low + high - 1) / 2 + 1)) = some cmd →
      let rest := search answers candidates ((low + high - 1) / 2 + 1) high (some cmd)
      motive ((low + high - 1) / 2 + 1) high (some cmd) rest → motive low high saved
        { rest with simulated := ((low + high - 1) / 2 + 1) :: rest.simulated })
    (rejects : ∀ low high saved, low < high →
      accepted answers (candidates.take ((low + high - 1) / 2 + 1)) = none →
      let rest := search answers candidates low ((low + high - 1) / 2) saved
      motive low ((low + high - 1) / 2) saved rest → motive low high saved
        { rest with simulated := ((low + high - 1) / 2 + 1) :: rest.simulated }) :
    motive low high saved (search answers candidates low high saved) := by
  induction width : high - low using Nat.strong_induction_on generalizing low high saved with
  | _ width ih =>
    by_cases unsearched : low < high
    · rw [search, if_pos unsearched]
      dsimp only
      split
      case h_1 told =>
        exact stops _ _ _ _ unsearched (by rw [accepted, told]) fun _ found => by cases found
      case h_2 told =>
        exact stops _ _ _ _ unsearched (by rw [accepted, told]) fun _ => Option.some.inj
      all_goals
        split
        · rename_i cmd isBatch
          exact accepts _ _ _ cmd unsearched isBatch (ih _ (by omega) rfl)
        · rename_i isBatch
          exact rejects _ _ _ unsearched isBatch (ih _ (by omega) rfl)
    · rw [search, if_neg unsearched]
      exact ends low high saved unsearched

theorem simulated_bounds : ∀ size ∈ (search answers candidates low high saved).simulated,
    low < size ∧ size ≤ high := by
  refine search_induction (motive := fun low high _ found =>
    ∀ size ∈ found.simulated, low < size ∧ size ≤ high) ?_ ?_ ?_ ?_
  · exact fun _ _ _ _ _ mem => by cases mem
  · intro low high _ _ unsearched _ _ size mem
    rcases List.mem_singleton.mp mem with rfl
    omega
  · intro low high _ _ unsearched _ rest ih
    refine List.forall_mem_cons.mpr ⟨by omega, fun size mem => ?_⟩
    have := ih size mem
    omega
  · intro low high _ unsearched _ rest ih
    refine List.forall_mem_cons.mpr ⟨by omega, fun size mem => ?_⟩
    have := ih size mem
    omega

/-- Each batch halves the positions that are left. -/
theorem two_pow_le_of_lt_length :
    ∀ count < (search answers candidates low high saved).simulated.length,
      2 ^ count ≤ high - low := by
  have halves : ∀ {low high left : Nat} (rest : List Nat), low < high → left ≤ (high - low) / 2 →
      (∀ count < rest.length, 2 ^ count ≤ left) →
      ∀ count < rest.length + 1, 2 ^ count ≤ high - low := by
    intro low high left rest unsearched half ih count lt
    cases count with
    | zero => omega
    | succ count =>
      have := ih count (Nat.lt_of_succ_lt_succ lt)
      omega
  refine search_induction (motive := fun low high _ found =>
    ∀ count < found.simulated.length, 2 ^ count ≤ high - low) ?_ ?_ ?_ ?_
  · exact fun _ _ _ _ _ lt => by cases lt
  · exact fun low high _ _ unsearched _ _ =>
      halves [] unsearched (Nat.zero_le _) fun _ lt => by cases lt
  · exact fun low high _ _ unsearched _ ih => halves _ unsearched (by omega) ih
  · exact fun low high _ unsearched _ ih => halves _ unsearched (by omega) ih

/-- A batch larger than the next one is simulated only if the next one is accepted. -/
theorem mem_simulated_iff (unsearched : low < high) {size : Nat}
    (larger : (low + high - 1) / 2 + 1 < size) :
    size ∈ (search answers candidates low high saved).simulated ↔
      ∃ cmd, accepted answers (candidates.take ((low + high - 1) / 2 + 1)) = some cmd ∧
        size ∈ (search answers candidates ((low + high - 1) / 2 + 1) high (some cmd)).simulated := by
  revert unsearched larger
  refine search_induction (motive := fun low high _ found =>
    low < high → (low + high - 1) / 2 + 1 < size → (size ∈ found.simulated ↔
      ∃ cmd, accepted answers (candidates.take ((low + high - 1) / 2 + 1)) = some cmd ∧
        size ∈ (search answers candidates ((low + high - 1) / 2 + 1) high (some cmd)).simulated))
    ?_ ?_ ?_ ?_
  · exact fun low high _ searched unsearched => absurd unsearched searched
  · intro low high _ _ _ rejects _ _ larger
    simp [rejects, larger.ne']
  · intro low high _ cmd _ accepts rest _ _ larger
    simp [accepts, larger.ne', rest]
  · intro low high _ _ rejects rest _ _ larger
    have smaller : size ∉ rest.simulated := fun mem => by
      have := simulated_bounds size mem
      omega
    simp [rejects, larger.ne', smaller]

variable (answers candidates) in
/-- The command of the longest batch, of these sizes, that is accepted. -/
def Longest (sizes : List Nat) (cmd : Command) : Prop :=
  ∃ size ∈ sizes, accepted answers (candidates.take size) = some cmd ∧
    cmd.candidates = candidates.take size ∧
    ∀ other ∈ sizes, accepted answers (candidates.take other) ≠ none → other ≤ size

theorem search_returns : ∀ {cmd : Command},
    (search answers candidates low high saved).returned = some (some cmd) →
    (saved = some cmd ∧ ∀ size ∈ (search answers candidates low high saved).simulated,
      accepted answers (candidates.take size) = none) ∨
    Longest answers candidates (search answers candidates low high saved).simulated cmd := by
  refine search_induction (motive := fun low high saved found => ∀ {cmd : Command},
    found.returned = some (some cmd) →
    (saved = some cmd ∧ ∀ size ∈ found.simulated, accepted answers (candidates.take size) = none) ∨
      Longest answers candidates found.simulated cmd) ?_ ?_ ?_ ?_
  · exact fun _ _ _ _ _ found => .inl ⟨Option.some.inj found, fun _ mem => by cases mem⟩
  · exact fun _ _ _ _ _ rejects isSaved _ found =>
      .inl ⟨isSaved _ found, List.forall_mem_singleton.mpr rejects⟩
  · intro low high _ batch _ accepts rest ih cmd found
    rcases ih found with ⟨isBatch, others⟩ | ⟨size, mem, isBatch, isFirst, others⟩
    · cases isBatch
      exact .inr ⟨_, List.mem_cons_self, accepts, candidates_of_accepted accepts,
        List.forall_mem_cons.mpr
          ⟨fun _ => le_rfl, fun other mem accepts => absurd (others other mem) accepts⟩⟩
    · exact .inr ⟨size, List.mem_cons_of_mem _ mem, isBatch, isFirst, List.forall_mem_cons.mpr
        ⟨fun _ => (simulated_bounds size mem).1.le, others⟩⟩
  · intro low high saved _ rejects rest ih cmd found
    rcases ih found with ⟨isSaved, others⟩ | ⟨size, mem, isBatch, isFirst, others⟩
    · exact .inl ⟨isSaved, List.forall_mem_cons.mpr ⟨rejects, others⟩⟩
    · exact .inr ⟨size, List.mem_cons_of_mem _ mem, isBatch, isFirst, List.forall_mem_cons.mpr
        ⟨absurd rejects, others⟩⟩

theorem firstN_returns {max : Nat} {cmd : Command}
    (found : (firstNConsolidationOption answers candidates max).returned = some (some cmd)) :
    Longest answers candidates (firstNConsolidationOption answers candidates max).simulated cmd := by
  unfold firstNConsolidationOption at found ⊢
  by_cases few : candidates.length < 2
  · rw [if_pos few] at found
    cases found
  · rw [if_neg few] at found ⊢
    obtain ⟨isSaved, -⟩ | longest := search_returns found
    · cases isSaved
    · exact longest

/-- A batch of a hundred and one candidates is simulated after six others, all accepted. -/
theorem hundred_and_one_mem_iff : 101 ∈ (search answers candidates 1 101 none).simulated ↔
    ∀ size ∈ [51, 76, 89, 95, 98, 100], accepted answers (candidates.take size) ≠ none := by
  have last : ∀ saved, 101 ∈ (search answers candidates 100 101 saved).simulated := by
    intro saved
    rw [search]
    simp
  simp [mem_simulated_iff, last, Option.ne_none_iff_exists']

/-- A search among two candidates or more simulates at most one batch more than
the limit can be halved, each of two or more, and returns the command of the
longest batch it accepts. It keeps to the limit exactly if there are at most a
hundred candidates, or one of the batches on the way to the limit is not accepted. -/
theorem firstN_within_limit_iff {answers : BatchAnswers} {candidates : List Candidate}
    (two : 2 ≤ candidates.length) :
    let limit := min candidates.length 100
    let found := firstNConsolidationOption answers candidates limit
    found.simulated.length ≤ Nat.log2 limit + 1 ∧
    (∀ size ∈ found.simulated, 2 ≤ size ∧ size ≤ min candidates.length 101) ∧
    (∀ cmd, found.returned = some (some cmd) → Longest answers candidates found.simulated cmd) ∧
    ((∀ size ∈ found.simulated, size ≤ limit) ↔ candidates.length ≤ 100 ∨
      ∃ size ∈ [51, 76, 89, 95, 98, 100], accepted answers (candidates.take size) = none) := by
  intro limit found
  obtain ⟨last, isSearch, inRange, few, many⟩ : ∃ last,
      found = search answers candidates 1 last none ∧ last ≤ min candidates.length 101 ∧
      (candidates.length ≤ 100 → last ≤ limit) ∧ (100 < candidates.length → last = 101) := by
    refine ⟨_, if_neg (by omega), ?_, ?_, ?_⟩ <;> split_ifs <;> omega
  have bounds : ∀ size ∈ found.simulated, 1 < size ∧ size ≤ last := by
    rw [isSearch]
    exact simulated_bounds
  refine ⟨?_, fun size mem => ?_, fun cmd => firstN_returns, ?_⟩
  · by_contra! more
    rw [isSearch] at more
    have halved := two_pow_le_of_lt_length _ more
    have := Nat.lt_log2_self (n := limit)
    omega
  · have := bounds size mem
    omega
  · by_cases fits : candidates.length ≤ 100
    · exact iff_of_true (fun size mem => (bounds size mem).2.trans (few fits)) (.inl fits)
    · have exceeds : (∀ size ∈ found.simulated, size ≤ limit) ↔ 101 ∉ found.simulated := by
        refine ⟨fun within mem => ?_, fun absent size mem => ?_⟩
        · have := within _ mem
          omega
        · have := bounds size mem
          have : size ≠ 101 := fun same => absent (same ▸ mem)
          omega
      rw [exceeds, isSearch, many (by omega), hundred_and_one_mem_iff, or_iff_right fits]
      simp only [ne_eq, not_forall, not_not, exists_prop]

def deletable (count : Nat) : List Candidate :=
  List.replicate count
    { stateNode := {}, nodeClaim := { name := "deletable" }, nodePool := { name := "" } }

/-- Batches of up to sixty candidates are deleted, larger ones are kept. -/
def deleteSixty : BatchAnswers :=
  { simulate := fun batch => if batch.length ≤ 60 then .delete else .noOp }

/-- Among a hundred and fifty candidates, the batch of 76 is not accepted. -/
theorem deleteSixty_within_limit :
    (firstNConsolidationOption deleteSixty (deletable 150)
        (min (deletable 150).length 100)).returned =
      some (some (commandFor ((deletable 150).take 60) 0)) ∧
    ∀ size ∈ (firstNConsolidationOption deleteSixty (deletable 150)
      (min (deletable 150).length 100)).simulated, size ≤ min (deletable 150).length 100 := by
  have length : (deletable 150).length = 150 := List.length_replicate
  refine ⟨?_, (firstN_within_limit_iff (by omega)).2.2.2.mpr (.inr ⟨76, by decide, ?_⟩)⟩
  · simp [firstNConsolidationOption, search, accepted, deleteSixty, length]
  · simp [accepted, deleteSixty, length]

/-- All of a hundred and one candidates are disrupted by one command. -/
theorem firstN_exceeds_limit :
    (firstNConsolidationOption { simulate := fun _ => .delete } (deletable 101)
        (min (deletable 101).length 100)).returned = some (some (commandFor (deletable 101) 0)) ∧
      min (deletable 101).length 100 < (deletable 101).length := by
  have length : (deletable 101).length = 101 := List.length_replicate
  have all : (deletable 101).take 101 = deletable 101 := List.take_of_length_le length.le
  simp [firstNConsolidationOption, search, accepted, length, all]

end Kraftsman.Disruption.MultiNode
