import Kraftsman.Disruption.BatchSearch

/-!
Contract: no method disrupts more nodes of a NodePool than its budgets allow.

Owns: what budgets allow, stated without the loops that compute it, and the bound
on the commands of every method.
Does not own: which of the admitted candidates a method prefers.
-/

namespace Kraftsman.Disruption

open Apis Data State StaticDrift SingleNode MultiNode Option List

/-! ### What the budgets allow -/

def Snapshot.total (snapshot : Snapshot) (nodePool : String) : Nat :=
  snapshot.nodes.countP fun n => countsTowardsTotal n && labelValue n.labels nodePoolLabelKey = nodePool

def Snapshot.disrupted (snapshot : Snapshot) (nodePool : String) : Nat :=
  snapshot.nodes.countP fun n =>
    countsTowardsTotal n && isDisrupting n && labelValue n.labels nodePoolLabelKey = nodePool

def budgetValue (clock : Clock) (total : Nat) (budget : Budget) : Option Int :=
  clock.intStr.getScaledValueFromIntOrPercent (getIntStrFromValue clock.intStr budget.nodes) total

/-- An invalid schedule, or an active budget with an invalid value. -/
def budgetInvalid (clock : Clock) (total : Nat) (budget : Budget) : Bool :=
  match budget.isActive clock with
  | none => true
  | some active => active && (budgetValue clock total budget).isNone

/-- The smallest value of the active budgets for a reason: zero if one is invalid,
none if none applies. -/
def minimumBudget (nodePool : NodePool) (clock : Clock) (total : Nat) (reason : DisruptionReason) :
    Option Int :=
  if nodePool.budgets.any (budgetInvalid clock total) then some 0
  else
    ((nodePool.budgets.filter fun budget =>
      budget.appliesTo reason && budget.isActive clock = some true).filterMap
        (budgetValue clock total)).min?

theorem isSome_getAllowedDisruptions (budget : Budget) (clock : Clock) (total : Nat) :
    (budget.getAllowedDisruptions clock total).isSome = !budgetInvalid clock total budget := by
  unfold Budget.getAllowedDisruptions budgetInvalid budgetValue
  cases budget.isActive clock with
  | none => rfl
  | some active =>
    cases active <;> cases clock.intStr.getScaledValueFromIntOrPercent
      (getIntStrFromValue clock.intStr budget.nodes) total <;> rfl

theorem getAllowedDisruptionsByReason_spec (nodePool : NodePool) (clock : Clock) (total : Nat)
    (reason : DisruptionReason) :
    (nodePool.getAllowedDisruptionsByReason clock total reason).2 =
      !nodePool.budgets.any (budgetInvalid clock total) ∧
    ∀ budget ∈ nodePool.budgets, budget.appliesTo reason →
      (nodePool.getAllowedDisruptionsByReason clock total reason).1 ≤
        (budget.getAllowedDisruptions clock total).getD 0 := by
  unfold NodePool.getAllowedDisruptionsByReason
  induction nodePool.budgets using reverseRecOn with
  | nil => simp
  | append_singleton budgets last ih =>
    obtain ⟨valid, bounded⟩ := ih
    rw [foldl_append, foldl_cons, foldl_nil]
    refine ⟨?_, fun budget member applies => ?_⟩
    · dsimp only
      rw [valid, isSome_getAllowedDisruptions]
      simp
    · dsimp only
      rcases mem_append.mp member with earlier | isLast
      · have below := bounded budget earlier applies
        split_ifs
        · exact (min_le_left _ _).trans below
        · exact below
      · obtain rfl := mem_singleton.mp isLast
        rw [if_pos applies]
        exact min_le_right _ _

variable {nodePool : NodePool} {reason : DisruptionReason} {snapshot : Snapshot}
variable {candidate : Candidate} {candidates : List Candidate} {cmd : Command}

theorem mustGetAllowedDisruptions_le {clock : Clock} {total : Nat} {minimum : Int}
    (isMinimum : minimumBudget nodePool clock total reason = some minimum) :
    nodePool.mustGetAllowedDisruptions clock total reason ≤ minimum := by
  obtain ⟨valid, bounded⟩ := getAllowedDisruptionsByReason_spec nodePool clock total reason
  have unfolded : nodePool.mustGetAllowedDisruptions clock total reason =
      if (nodePool.getAllowedDisruptionsByReason clock total reason).2 then
        (nodePool.getAllowedDisruptionsByReason clock total reason).1 else 0 := by
    unfold NodePool.mustGetAllowedDisruptions
    rcases nodePool.getAllowedDisruptionsByReason clock total reason with ⟨allowed, _ | _⟩ <;> rfl
  unfold minimumBudget at isMinimum
  split_ifs at isMinimum with invalid
  · rw [unfolded, valid, invalid]
    exact (some.inj isMinimum).le
  · obtain ⟨listed, -⟩ := min?_eq_some_iff.mp isMinimum
    obtain ⟨budget, filtered, isValue⟩ := mem_filterMap.mp listed
    obtain ⟨member, applies⟩ := mem_filter.mp filtered
    obtain ⟨applies, active⟩ := Bool.and_eq_true_iff.mp applies
    have allowed : budget.getAllowedDisruptions clock total = some minimum := by
      simp [Budget.getAllowedDisruptions, of_decide_eq_true active, ← isValue, budgetValue]
    have below := bounded budget member applies
    rw [allowed, getD_some] at below
    rw [unfolded, valid, if_pos (by simp [invalid])]
    exact below

/-! ### Allowances -/

theorem lookup_increment (counts : GoMap String Nat) (key other : String) :
    ((increment counts key).lookup other).getD 0 =
      (counts.lookup other).getD 0 + if key = other then 1 else 0 := by
  unfold increment
  by_cases same : other = key
  · subst same
    simp
  · simp [same, Ne.symm same]

theorem countNodes_spec (nodes : List StateNode) (nodePool : String) :
    ((countNodes nodes).1.lookup nodePool).getD 0 = nodes.countP (fun n =>
          countsTowardsTotal n && labelValue n.labels nodePoolLabelKey = nodePool) ∧
      ((countNodes nodes).2.lookup nodePool).getD 0 =
        nodes.countP (fun n => countsTowardsTotal n && isDisrupting n &&
          labelValue n.labels nodePoolLabelKey = nodePool) := by
  unfold countNodes
  induction nodes using reverseRecOn with
  | nil => exact ⟨rfl, rfl⟩
  | append_singleton nodes last ih =>
    obtain ⟨numNodes, disrupting⟩ := ih
    rw [foldl_append, foldl_cons, foldl_nil, countP_append, countP_append, ← numNodes, ← disrupting]
    cases counts : countsTowardsTotal last with
    | false => simp [counts]
    | true =>
      cases disrupts : isDisrupting last <;>
        simp [countP_cons, counts, disrupts, lookup_increment]

theorem allowance_buildDisruptionBudgetMapping (member : nodePool ∈ snapshot.nodePools) :
    (buildDisruptionBudgetMapping snapshot reason).allowance nodePool.name =
      max (nodePool.mustGetAllowedDisruptions snapshot.clock (snapshot.total nodePool.name) reason -
        snapshot.disrupted nodePool.name) 0 := by
  obtain ⟨numNodes, disrupting⟩ := countNodes_spec snapshot.nodes nodePool.name
  unfold BudgetMapping.allowance buildDisruptionBudgetMapping Snapshot.total Snapshot.disrupted
  rw [← numNodes, ← disrupting]
  exact congrArg (Option.getD · 0) (GoMap.lookup_foldl_insert (fun nodePool : NodePool => nodePool.name)
    _ snapshot.nodup ∅ member)

def BudgetMapping.Nonneg (mapping : BudgetMapping) : Prop := ∀ nodePool, 0 ≤ mapping.allowance nodePool

theorem nonneg_buildDisruptionBudgetMapping (snapshot : Snapshot) (reason : DisruptionReason) :
    (buildDisruptionBudgetMapping snapshot reason).Nonneg := by
  intro name
  unfold buildDisruptionBudgetMapping
  generalize snapshot.nodePools = nodePools
  induction nodePools using reverseRecOn with
  | nil => exact le_rfl
  | append_singleton nodePools last ih =>
    dsimp only at ih ⊢
    rw [foldl_append, foldl_cons, foldl_nil]
    unfold BudgetMapping.allowance at ih ⊢
    rw [GoMap.lookup_insert_eq]
    split_ifs
    · exact le_max_right _ _
    · exact ih

theorem allowance_spend (mapping : BudgetMapping) (nodePool other : String) :
    (mapping.spend nodePool).allowance other =
      mapping.allowance other - if nodePool = other then 1 else 0 := by
  unfold BudgetMapping.spend BudgetMapping.allowance
  by_cases same : other = nodePool
  · subst same
    simp
  · simp [same, Ne.symm same]

variable {mapping : BudgetMapping}

theorem BudgetMapping.Nonneg.spend (nonneg : mapping.Nonneg) {nodePool : String}
    (left : mapping.allowance nodePool ≠ 0) : (mapping.spend nodePool).Nonneg := by
  intro other
  have lower := nonneg other
  rw [allowance_spend]
  split_ifs with same
  · subst same
    omega
  · omega

/-! ### Candidates of a NodePool -/

def candidateCount (nodePool : String) (candidates : List Candidate) : Nat :=
  candidates.countP (·.nodePool.name = nodePool)

def commandCount (nodePool : String) (cmds : List Command) : Nat :=
  (cmds.map fun cmd => candidateCount nodePool cmd.candidates).sum

/-- No more candidates of a NodePool are disrupted than allowed. -/
def BudgetMapping.Admits (mapping : BudgetMapping) (cmds : List Command) : Prop :=
  ∀ nodePool, (commandCount nodePool cmds : Int) ≤ mapping.allowance nodePool

variable (nodePool : String)

theorem candidateCount_cons (candidate : Candidate) (rest : List Candidate) :
    candidateCount nodePool (candidate :: rest) =
      candidateCount nodePool rest + if candidate.nodePool.name = nodePool then 1 else 0 := by
  simp [candidateCount, countP_cons]

theorem commandCount_single (cmd : Command) :
    commandCount nodePool [cmd] = candidateCount nodePool cmd.candidates := by
  simp [commandCount]

theorem candidateCount_withinBudgets (eligible : Candidate → Bool) (nonneg : mapping.Nonneg)
    (candidates : List Candidate) (nodePool : String) :
    (candidateCount nodePool (withinBudgets eligible mapping candidates).1 : Int) ≤
      mapping.allowance nodePool := by
  induction candidates generalizing mapping with
  | nil => exact nonneg nodePool
  | cons candidate rest ih =>
    unfold withinBudgets
    split_ifs with ineligible exhausted
    · exact ih nonneg
    · exact ih nonneg
    · have others := ih (nonneg.spend exhausted)
      rw [allowance_spend] at others
      rw [candidateCount_cons]
      split_ifs at others ⊢ <;> omega

theorem candidateCount_single_le (nonneg : mapping.Nonneg)
    (left : mapping.allowance candidate.nodePool.name ≠ 0) (nodePool : String) :
    (candidateCount nodePool [candidate] : Int) ≤ mapping.allowance nodePool := by
  have lower := nonneg nodePool
  rw [candidateCount_cons, candidateCount, countP_nil]
  split_ifs with same
  · subst same
    omega
  · simpa using lower

/-! ### Methods -/

theorem BudgetMapping.Nonneg.admits_nil (nonneg : mapping.Nonneg) : mapping.Admits [] := nonneg

theorem admits_single
    (fits : ∀ nodePool, (candidateCount nodePool cmd.candidates : Int) ≤ mapping.allowance nodePool) :
    mapping.Admits [cmd] := by
  intro nodePool
  exact fits nodePool

variable (consolidated : Bool) (order : RangeOrder Candidate)

theorem Emptiness.admits (validation : Validation) (mapping : BudgetMapping)
    (candidates : List Candidate) (isSnapshot : validation.snapshot.getD snapshot = snapshot) :
    (buildDisruptionBudgetMapping snapshot .empty).Admits
      (Emptiness.computeCommands consolidated order validation mapping candidates).1 := by
  have nonneg := nonneg_buildDisruptionBudgetMapping snapshot .empty
  unfold Emptiness.computeCommands
  dsimp only
  split_ifs
  · exact nonneg.admits_nil
  · exact nonneg.admits_nil
  · split
    · rename_i valid validated
      unfold validateEmptyCandidates at validated
      split at validated
      · cases validated
      · dsimp only at validated
        split_ifs at validated
        split at validated
        · cases validated
        · rename_i current found
          rw [found, getD_some] at isSnapshot
          subst isSnapshot
          split_ifs at validated
          cases validated
          exact admits_single (candidateCount_withinBudgets _ nonneg _)
    · exact nonneg.admits_nil
    · exact nonneg.admits_nil

theorem StaticDrift.drifts_le (nonneg : mapping.Nonneg) (state : NodePoolState)
    (nodePool : NodePool) (candidates : List Candidate) :
    (StaticDrift.drifts mapping state nodePool candidates).1 ≤ mapping.allowance nodePool.name := by
  have lower := nonneg nodePool.name
  unfold StaticDrift.drifts
  dsimp only
  split_ifs
  · exact lower
  · exact lower
  · have isGranted := (state.reserves_reserveNodeCount nodePool.name (nodeLimit nodePool)
      (min (mapping.allowance nodePool.name) candidates.length)).granted_eq
    split_ifs at isGranted <;> omega

theorem commandCount_append (cmds others : List Command) :
    commandCount nodePool (cmds ++ others) = commandCount nodePool cmds + commandCount nodePool others := by
  simp [commandCount]

theorem commandCount_map_single (candidates : List Candidate) (replacements : List Replacement) :
    commandCount nodePool (candidates.map fun candidate =>
        { candidates := [candidate], replacements := replacements }) =
      candidateCount nodePool candidates := by
  induction candidates with
  | nil => rfl
  | cons candidate rest ih =>
    rw [map_cons, ← singleton_append, commandCount_append, ih,
      commandCount_single, candidateCount_cons]
    simp [candidateCount, countP_cons, add_comm]

theorem candidateCount_take_candidatesOf (candidates : List Candidate) (count : Nat)
    (nodePool other : String) :
    candidateCount other ((candidatesOf candidates nodePool).take count) ≤
      if nodePool = other then count else 0 := by
  split_ifs with same
  · exact countP_le_length.trans (length_take_le _ _)
  · refine (countP_eq_zero.mpr fun candidate member => ?_).le
    have isMember := (mem_filter.mp (mem_of_mem_take member)).2
    have isNodePool : candidate.nodePool.name = nodePool := of_decide_eq_true isMember
    simpa [isNodePool] using same

theorem StaticDrift.commandCount_driftNodePool_le (nonneg : mapping.Nonneg)
    (candidates : List Candidate) (found : List Command × NodePoolState) (name nodePool : String) :
    (commandCount nodePool (driftNodePool mapping candidates found name).1 : Int) ≤
      commandCount nodePool found.1 + if name = nodePool then mapping.allowance nodePool else 0 := by
  have lower := nonneg nodePool
  unfold driftNodePool
  dsimp only
  cases isFirst : (candidatesOf candidates name).head? with
  | none =>
    dsimp only
    split_ifs <;> omega
  | some first =>
    have member := mem_filter.mp (mem_of_mem_head? isFirst)
    have isName : first.nodePool.name = name := of_decide_eq_true member.2
    have drifts := drifts_le nonneg found.2 first.nodePool (candidatesOf candidates name)
    have taken := candidateCount_take_candidatesOf candidates
      (StaticDrift.drifts mapping found.2 first.nodePool (candidatesOf candidates name)).1.toNat
      name nodePool
    rw [isName] at drifts
    dsimp only
    rw [commandCount_append, commandCount_map_single]
    split_ifs at taken ⊢ with same
    · subst same
      omega
    · omega

theorem StaticDrift.commandCount_foldl_le (nonneg : mapping.Nonneg) (candidates : List Candidate)
    {names : List String} (nodup : names.Nodup) (found : List Command × NodePoolState)
    (nodePool : String) :
    (commandCount nodePool (names.foldl (driftNodePool mapping candidates) found).1 : Int) ≤
      commandCount nodePool found.1 + if nodePool ∈ names then mapping.allowance nodePool else 0 := by
  induction names generalizing found with
  | nil => simp
  | cons name rest ih =>
    obtain ⟨notMem, nodup⟩ := nodup_cons.mp nodup
    have first := commandCount_driftNodePool_le nonneg candidates found name nodePool
    have others := ih nodup (driftNodePool mapping candidates found name)
    rw [foldl_cons]
    by_cases same : name = nodePool
    · subst same
      rw [if_neg notMem] at others
      rw [if_pos rfl] at first
      rw [if_pos (mem_cons_self ..)]
      omega
    · rw [if_neg same] at first
      have inRest : nodePool ∈ name :: rest ↔ nodePool ∈ rest := by simp [Ne.symm same]
      simp only [inRest]
      omega

theorem StaticDrift.admits (pools : RangeOrder String) (state : NodePoolState)
    (nonneg : mapping.Nonneg) (candidates : List Candidate) :
    mapping.Admits (computeCommands pools state mapping candidates).1 := by
  intro nodePool
  have nodup : (pools.visit 0 (nodePoolNames candidates)).Nodup :=
    (pools.perm 0 _).nodup_iff.mpr (nodup_dedup _)
  have counted := commandCount_foldl_le nonneg candidates nodup ([], state) nodePool
  have lower := nonneg nodePool
  have none : commandCount nodePool [] = 0 := rfl
  unfold computeCommands driftNodePools
  dsimp only at counted ⊢
  split_ifs at counted <;> omega

theorem Drift.admits (simulate : Candidate → Simulation) (pins : Candidate → Bool)
    (nonneg : mapping.Nonneg) (candidates : List Candidate) :
    mapping.Admits (Drift.computeCommands order simulate pins mapping candidates).1 := by
  unfold Drift.computeCommands
  dsimp only
  generalize filter _ _ ++ _ = candidates
  induction candidates with
  | nil => exact nonneg.admits_nil
  | cons candidate rest ih =>
    unfold Drift.firstCommand
    by_cases exhausted : mapping.allowance candidate.nodePool.name = 0
    · rw [if_pos exhausted]
      exact ih
    · have single := candidateCount_single_le nonneg exhausted
      rw [if_neg exhausted]
      cases simulate candidate with
      | failed => exact nonneg.admits_nil
      | noOp | timedOut => exact ih
      | delete => exact admits_single single
      | replace replacements =>
        dsimp only
        split_ifs
        · exact ih
        · exact admits_single single

theorem candidateCount_sublist {others : List Candidate} (sublist : candidates.Sublist others)
    (nodePool : String) :
    candidateCount nodePool candidates ≤ candidateCount nodePool others :=
  sublist.countP_le

theorem MultiNode.admits (answers : BatchAnswers) (before after : Validation)
    (nonneg : mapping.Nonneg) (candidates : List Candidate) :
    mapping.Admits
      (computeCommands consolidated order answers before after mapping candidates).1 := by
  have disruptable := candidateCount_withinBudgets (fun _ => true) nonneg
    (sortCandidates order candidates)
  unfold computeCommands
  dsimp only
  split_ifs
  · exact nonneg.admits_nil
  · split
    · exact nonneg.admits_nil
    · exact nonneg.admits_nil
    · rename_i cmd found
      obtain ⟨size, -, -, isBatch, -⟩ := firstN_returns found
      cases validateConsolidation before after cmd with
      | valid =>
        refine admits_single fun nodePool => le_trans ?_ (disruptable nodePool)
        rw [isBatch]
        exact_mod_cast candidateCount_sublist (take_sublist size _) nodePool
      | invalid | failed => exact nonneg.admits_nil

/-- Proposals and what is left make up the allowances at the start. -/
structure Walk.Within (walk : Walk) (initial : BudgetMapping) : Prop where
  nonneg : walk.mapping.Nonneg
  spent : ∀ nodePool, (commandCount nodePool (walk.proposals.map (·.1)) : Int) +
    walk.mapping.allowance nodePool = initial.allowance nodePool

theorem Walk.Within.hold {walk : Walk} {initial : BudgetMapping} (within : walk.Within initial)
    (left : walk.mapping.allowance candidate.nodePool.name ≠ 0) (replacements index : Nat) :
    (walk.hold candidate replacements index).Within initial where
  nonneg := within.nonneg.spend left
  spent nodePool := by
    have spent := within.spent nodePool
    have single : candidateCount nodePool (commandFor [candidate] replacements).candidates =
        if candidate.nodePool.name = nodePool then 1 else 0 := by
      simp [commandFor, candidateCount, countP_cons]
    unfold Walk.hold
    rw [map_append, map_singleton, commandCount_append, commandCount_single, single,
      allowance_spend]
    split_ifs <;> omega

theorem SingleNode.walk_within (answers : WalkAnswers) (maxCommands : Int)
    {initial : BudgetMapping} (candidates : List Candidate) {index : Nat} {walk : Walk}
    (within : walk.Within initial) :
    (SingleNode.walk answers maxCommands index walk candidates).Within initial := by
  induction candidates generalizing index walk with
  | nil => exact within
  | cons candidate rest ih =>
    unfold SingleNode.walk
    by_cases expired : answers.expired index
    · rw [if_pos expired]
      exact within
    by_cases skipped : walk.skips answers index candidate
    · rw [if_neg expired, if_pos skipped]
      exact ih within
    · rw [if_neg expired, if_neg skipped]
      have left : walk.mapping.allowance candidate.nodePool.name ≠ 0 := by
        intro exhausted
        exact skipped (by simp [Walk.skips, exhausted])
      have proposed : ∀ replacements, (if !answers.approve index then
          SingleNode.walk answers maxCommands (index + 1) walk rest
        else if maxCommands ≤ (walk.hold candidate replacements index).proposals.length then
          walk.hold candidate replacements index
        else SingleNode.walk answers maxCommands (index + 1)
          (walk.hold candidate replacements index) rest).Within initial := by
        intro replacements
        split_ifs
        · exact ih within
        · exact within.hold left replacements index
        · exact ih (within.hold left replacements index)
      cases answers.simulate index with
      | noOp | timedOut | failed => exact ih within
      | delete => exact proposed 0
      | replace replacements => exact proposed replacements

theorem startedCommand_count {answers : AdmissionAnswers} {place : Nat} {started : Command}
    (starts : startedCommand answers place cmd = some started) (nodePool : String) :
    candidateCount nodePool started.candidates ≤ candidateCount nodePool cmd.candidates := by
  unfold startedCommand at starts
  dsimp only at starts
  split_ifs at starts
  rw [← some.inj starts]
  exact candidateCount_sublist filter_sublist nodePool

theorem SingleNode.commandCount_admitProposals (answers : AdmissionAnswers) (place : Nat)
    (attempted : Bool) (proposals : List (Command × Nat)) (nodePool : String) :
    commandCount nodePool (admitProposals answers place attempted proposals).1 ≤
      commandCount nodePool (proposals.map (·.1)) := by
  induction proposals generalizing place attempted with
  | nil => exact Nat.le_refl _
  | cons proposal rest ih =>
    obtain ⟨cmd, position⟩ := proposal
    have split : commandCount nodePool (((cmd, position) :: rest).map (·.1)) =
        candidateCount nodePool cmd.candidates + commandCount nodePool (rest.map (·.1)) := by
      simp [commandCount]
    unfold admitProposals
    split_ifs
    · exact (ih _ _).trans (Nat.le_add_left _ _)
    · cases validateConsolidation (answers.before place) (answers.after place) cmd with
      | failed => exact Nat.zero_le _
      | invalid => exact (ih _ _).trans (Nat.le_add_left _ _)
      | valid =>
        dsimp only
        cases starts : startedCommand answers place cmd with
        | none => exact Nat.zero_le _
        | some started =>
          have head := startedCommand_count starts nodePool
          have others := ih (place + 1) true
          dsimp only
          rw [← singleton_append, commandCount_append, commandCount_single]
          omega

theorem SingleNode.admits (pools : RangeOrder String) (unseen evaluated : List String)
    (maxCommands : Int) (answers : WalkAnswers) (admission : AdmissionAnswers)
    (nonneg : mapping.Nonneg) (candidates : List Candidate) :
    mapping.Admits (computeCommands consolidated order pools unseen evaluated maxCommands answers
      admission mapping candidates).1 := by
  have start : Walk.Within { mapping := mapping } mapping := ⟨nonneg, fun _ => by simp [commandCount]⟩
  have within := @SingleNode.walk_within answers maxCommands mapping
    (resumeCoverageCycle evaluated (shuffleCandidates pools unseen (sortCandidates order candidates)))
    0 _ start
  unfold computeCommands
  dsimp only
  generalize SingleNode.walk _ _ _ _ _ = walk at within ⊢
  split_ifs
  · exact nonneg.admits_nil
  · cases proposed : walk.proposals with
    | nil => exact nonneg.admits_nil
    | cons proposal rest =>
      dsimp only
      cases validateConsolidation (admission.before 0) (admission.after 0) proposal.1 with
      | valid =>
        intro nodePool
        have spent := within.spent nodePool
        have left := within.nonneg nodePool
        rw [proposed, map_cons, ← singleton_append, commandCount_append] at spent
        dsimp only
        omega
      | invalid | failed => exact nonneg.admits_nil
  · intro nodePool
    have spent := within.spent nodePool
    have left := within.nonneg nodePool
    have admitted := commandCount_admitProposals admission 0 false walk.proposals nodePool
    omega

/-! ### The bound -/

/-- Where a method last computed allowances from: at the validation for empty
nodes, at the start of the pass otherwise. -/
def Method.budgetsFrom (method : Method) (answers : PassAnswers) (snapshot : Snapshot) : Snapshot :=
  match method with
  | .emptiness => answers.validation.snapshot.getD snapshot
  | _ => snapshot

theorem Method.admits (method : Method) (answers : PassAnswers) (snapshot : Snapshot)
    (candidates : List Candidate) :
    (buildDisruptionBudgetMapping (method.budgetsFrom answers snapshot) method.reason).Admits
      (method.computeCommands answers (buildDisruptionBudgetMapping snapshot method.reason)
        candidates).1 := by
  have nonneg := nonneg_buildDisruptionBudgetMapping snapshot method.reason
  cases method with
  | emptiness =>
    refine Emptiness.admits _ _ _ _ _ ?_
    unfold Method.budgetsFrom
    cases answers.validation.snapshot <;> rfl
  | staticDrift => exact StaticDrift.admits _ _ nonneg _
  | drift => exact Drift.admits _ _ _ nonneg _
  | multiNode => exact MultiNode.admits _ _ _ _ _ nonneg _
  | singleNode => exact SingleNode.admits _ _ _ _ _ _ _ _ nonneg _

/-- The commands of a pass name at most as many candidates of a NodePool as its
smallest budget leaves beside the nodes disrupted already. Nodes whose instance is
terminating count neither as nodes nor as disrupted. -/
theorem commands_within_budgets (method : Method) (answers : PassAnswers) (snapshot : Snapshot)
    (candidates : List Candidate) {nodePool : NodePool} {minimum : Int}
    (managed : nodePool ∈ (method.budgetsFrom answers snapshot).nodePools)
    (isMinimum : minimumBudget nodePool (method.budgetsFrom answers snapshot).clock
      ((method.budgetsFrom answers snapshot).total nodePool.name) method.reason = some minimum) :
    (commandCount nodePool.name (method.computeCommands answers
      (buildDisruptionBudgetMapping snapshot method.reason) candidates).1 : Int) ≤
        max 0 (minimum - (method.budgetsFrom answers snapshot).disrupted nodePool.name) := by
  have counted := method.admits answers snapshot candidates nodePool.name
  have allowed := mustGetAllowedDisruptions_le isMinimum
  rw [allowance_buildDisruptionBudgetMapping managed] at counted
  omega

def readyNode (name : String) (named : name ≠ "") (terminating : Bool) : StateNode :=
  let labels := GoMap.ofList [(nodePoolLabelKey, "default"), (nodeRegisteredLabelKey, "true"),
    (nodeInitializedLabelKey, "true")]
  { node := some { name := name, labels := labels, providerID := name, name_ne := named }
    nodeClaim := some { name := name, labels := labels, providerID := name, name_ne := named,
                        instanceTerminating := terminating } }

def oneNodePool : NodePool := { name := "default", budgets := [{ nodes := "1" }] }

def twoNodes (terminating : Bool) : Snapshot where
  nodes := [readyNode "left" (by decide) terminating, readyNode "right" (by decide) false]
  nodePools := [oneNodePool]
  clock := { now := 0, parseSchedule := fun _ => none }
  nodup := by decide

def emptyCandidate : Candidate :=
  { stateNode := readyNode "right" (by decide) false
    nodeClaim := { name := "right", providerID := "right" }
    nodePool := oneNodePool }

/-- A pass in a cluster that does not change. -/
def steadyPass (snapshot : Snapshot) (current : List Candidate) : PassAnswers :=
  let validation : Validation := { current := some current, snapshot := some snapshot }
  { validation := validation
    revalidation := validation
    simulateDrift := fun _ => .noOp
    pinsDrift := fun _ => false
    batches := { simulate := fun _ => .noOp }
    walk := { simulate := fun _ => .noOp }
    admission := { before := fun _ => validation, after := fun _ => validation } }

/-- The only empty node of a NodePool with a budget of one is disrupted. -/
theorem commands_within_budget_of_one :
    commandCount "default" (Method.emptiness.computeCommands (steadyPass (twoNodes false)
        [emptyCandidate]) (buildDisruptionBudgetMapping (twoNodes false) .empty)
        [emptyCandidate]).1 = 1 ∧
      (commandCount "default" (Method.emptiness.computeCommands (steadyPass (twoNodes false)
        [emptyCandidate]) (buildDisruptionBudgetMapping (twoNodes false) .empty)
        [emptyCandidate]).1 : Int) ≤ max 0 (1 - ((twoNodes false).disrupted "default" : Nat)) :=
  ⟨by decide +kernel, @commands_within_budgets .emptiness
    (steadyPass (twoNodes false) [emptyCandidate]) (twoNodes false) [emptyCandidate] oneNodePool 1
    (mem_singleton.mpr rfl) (by decide +kernel)⟩

/-- A managed, initialized node that is marked for deletion does not take from the
budget once its instance is terminating: a budget of one is spent again. -/
theorem terminating_node_takes_no_budget :
    minimumBudget oneNodePool (twoNodes true).clock
        ((twoNodes true).nodes.countP fun n => n.managed && n.initialized) .empty = some 1 ∧
      ((twoNodes true).nodes.countP fun n => n.managed && n.initialized && isDisrupting n) = 1 ∧
      commandCount "default" (Method.emptiness.computeCommands (steadyPass (twoNodes true)
        [emptyCandidate]) (buildDisruptionBudgetMapping (twoNodes true) .empty)
        [emptyCandidate]).1 = 1 := by
  decide +kernel

end Kraftsman.Disruption
