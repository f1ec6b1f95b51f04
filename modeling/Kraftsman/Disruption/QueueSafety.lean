import Kraftsman.Disruption.Queue
import Kraftsman.State.Events

/-!
Contract: what holds of the disruption queue in every run.

Owns: that candidates are deleted only after their replacements were seen
initialized, that no candidate is in two commands, what a completed command
leaves behind, and when a command succeeds.
Does not own: whether replacements become ready.
-/

namespace Kraftsman.Disruption

open Data Data.FallibleLoop State GoMap Option List

/-! ### Observing replacements -/

def AllSeen (seen : Nat → Prop) (index : Nat) (replacements : List Replacement) : Prop :=
  ∀ offset replacement, replacements[offset]? = some replacement →
    replacement.initialized = true → seen (index + offset)

variable {seen : Nat → Prop}

theorem AllSeen.mono {seen' : Nat → Prop} {index : Nat} {replacements : List Replacement}
    (all : AllSeen seen index replacements) (more : ∀ i, seen i → seen' i) :
    AllSeen seen' index replacements :=
  fun offset replacement found initialized => more _ (all offset replacement found initialized)

theorem allSeen_cons {index : Nat} {replacement : Replacement} {rest : List Replacement} :
    AllSeen seen index (replacement :: rest) ↔
      (replacement.initialized → seen index) ∧ AllSeen seen (index + 1) rest := by
  constructor
  · intro all
    refine ⟨all 0 replacement rfl, fun offset other found initialized => ?_⟩
    have seen := all (offset + 1) other found initialized
    rwa [show index + (offset + 1) = index + 1 + offset by omega] at seen
  · rintro ⟨first, others⟩ offset other found initialized
    cases offset with
    | zero =>
      cases found
      exact first initialized
    | succ offset =>
      have seen := others offset other found initialized
      rwa [show index + 1 + offset = index + (offset + 1) by omega] at seen

section Observe

variable (nodeClaimExists : String → Bool) (get : Nat → ReplacementRead)

theorem length_observeReplacements (index : Nat) (replacements : List Replacement) :
    (observeReplacements nodeClaimExists get index replacements).1.length =
      replacements.length := by
  induction replacements generalizing index with
  | nil => rfl
  | cons replacement rest ih =>
    unfold observeReplacements
    split_ifs <;> simp [ih]

variable {index : Nat} {replacements : List Replacement}

theorem allSeen_observeReplacements (all : AllSeen seen index replacements) :
    AllSeen (fun i => seen i ∨
        (i, .found true) ∈ (observeReplacements nodeClaimExists get index replacements).2.1)
      index (observeReplacements nodeClaimExists get index replacements).1 := by
  induction replacements generalizing index with
  | nil => exact fun offset replacement found => by simp [observeReplacements] at found
  | cons replacement rest ih =>
    obtain ⟨first, others⟩ := allSeen_cons.mp all
    have observed := ih others
    unfold observeReplacements
    split_ifs with known gone now
    · exact allSeen_cons.mpr ⟨fun _ => .inl (first known), observed⟩
    · exact all.mono fun _ => .inl
    · exact allSeen_cons.mpr ⟨fun _ => .inr (mem_cons_self ..),
        observed.mono fun i => Or.imp_right (mem_cons_of_mem _)⟩
    · exact allSeen_cons.mpr ⟨fun initialized => absurd initialized known,
        observed.mono fun i => Or.imp_right (mem_cons_of_mem _)⟩

theorem initialized_of_ready
    (ready : (observeReplacements nodeClaimExists get index replacements).2.2 = .ready) :
    ∀ replacement ∈ (observeReplacements nodeClaimExists get index replacements).1,
      replacement.initialized := by
  induction replacements generalizing index with
  | nil => exact fun _ member => absurd member (by simp [observeReplacements])
  | cons replacement rest ih =>
    unfold observeReplacements at ready ⊢
    dsimp only at ready ⊢
    split_ifs at ready ⊢ with known gone now
    · exact forall_mem_cons.mpr ⟨known, ih ready⟩
    · exact forall_mem_cons.mpr ⟨rfl, ih ready⟩
    · cases later : (observeReplacements nodeClaimExists get (index + 1) rest).2.2 <;>
        rw [later] at ready <;> cases ready

end Observe

/-- What an attempt to carry a command out can do to it. -/
structure Attempt (cmd cmd' : Command) (reads : List (Nat × ReplacementRead)) (deletes : Bool) :
    Prop where
  candidates : cmd'.candidates = cmd.candidates
  length : cmd'.replacements.length = cmd.replacements.length
  seen : ∀ seen, AllSeen seen 0 cmd.replacements →
    AllSeen (fun i => seen i ∨ (i, .found true) ∈ reads) 0 cmd'.replacements
  ready : deletes = true → ∀ replacement ∈ cmd'.replacements, replacement.initialized = true

theorem Attempt.providerIDs {cmd cmd' : Command} {reads : List (Nat × ReplacementRead)}
    {deletes : Bool} (attempt : Attempt cmd cmd' reads deletes) :
    cmd'.providerIDs = cmd.providerIDs := by
  unfold Command.providerIDs
  rw [attempt.candidates]

theorem attempt_waitOrTerminate (nodeClaimExists : String → Bool) (retryDuration : Int)
    (responses : Responses) (cmd : Command) :
    Attempt cmd (waitOrTerminate nodeClaimExists retryDuration responses cmd).1
      (waitOrTerminate nodeClaimExists retryDuration responses cmd).2.1
      (waitOrTerminate nodeClaimExists retryDuration responses cmd).2.2.1 where
  candidates := rfl
  length := length_observeReplacements nodeClaimExists responses.get 0 cmd.replacements
  seen _ all := allSeen_observeReplacements nodeClaimExists responses.get all
  ready deletes := initialized_of_ready nodeClaimExists responses.get (of_decide_eq_true deletes)

/-! ### What an event can do -/

namespace QueueRun

def InFlight (run : QueueRun) (k : Nat) (cmd : Command) : Prop :=
  (∃ id, run.providerIDToCommand.lookup id = some k) ∧ run.commands.lookup k = some cmd

/-- A command that may be added to the queue. -/
structure Startable (ids : GoMap String Nat) (cmd : Command) : Prop where
  unfinished : cmd.succeeded = false
  uninitialized : ∀ replacement ∈ cmd.replacements, replacement.initialized = false
  free : ∀ id ∈ cmd.providerIDs, ids.lookup id = none

def StartsFree (run : QueueRun) : Prop :=
  ∀ starting, run.starting = some starting →
    Startable run.providerIDToCommand starting.command

variable {run run' : QueueRun} {name : String} {k : Nat} {cmd cmd' : Command} {event : QueueEvent}
variable {reads : List (Nat × ReplacementRead)} {deletes : Bool}

variable {order : RangeOrder String} {A : Type*} {success : Bool}

theorem commandForNodeClaim_inFlight (found : run.commandForNodeClaim order name = some (k, cmd)) :
    run.InFlight k cmd := by
  obtain ⟨id, -, isCommand⟩ := exists_of_findSome?_eq_some found
  obtain ⟨k', mapped, isCommand⟩ := bind_eq_some_iff.mp isCommand
  obtain ⟨cmd', stored, isCommand⟩ := bind_eq_some_iff.mp isCommand
  split_ifs at isCommand
  obtain ⟨rfl, rfl⟩ := Prod.mk.inj (some.inj isCommand)
  exact ⟨⟨id, mapped⟩, stored⟩

def Prepares (run run' : QueueRun) : Prop :=
  ∃ cluster starting, run' = { run with cluster := cluster, starting := starting } ∧
    ∀ started, starting = some started → Startable run.providerIDToCommand started.command

def Enqueues (run run' : QueueRun) (cmd : Command) : Prop :=
  Startable run.providerIDToCommand cmd ∧
    run' = { run with
      providerIDToCommand := run.providerIDToCommand.insertAll cmd.providerIDs run.nextID
      commands := run.commands.insert run.nextID cmd
      nextID := run.nextID + 1
      starting := none }

def Retries (run run' : QueueRun) (k : Nat) (cmd cmd' : Command)
    (reads : List (Nat × ReplacementRead)) (deletes : Bool) : Prop :=
  Attempt cmd cmd' reads deletes ∧ cmd'.succeeded = cmd.succeeded ∧
    run' = { run with
      commands := run.commands.insert k cmd'
      trace := run.trace ++ attempted k cmd' reads deletes }

def Completes (run run' : QueueRun) (k : Nat) (cmd cmd' : Command)
    (reads : List (Nat × ReplacementRead)) (deletes success : Bool) : Prop :=
  Attempt cmd cmd' reads deletes ∧
    (success = false → cmd.succeeded = false →
      run.cluster.unmarkForDeletion cmd.providerIDs = .ok run'.cluster) ∧
    ∃ cluster, run' = { run with
      cluster := cluster
      providerIDToCommand := run.providerIDToCommand.eraseAll cmd.providerIDs
      commands := run.commands.insert k cmd'
      trace := run.trace ++ attempted k cmd' reads deletes ++ [.complete k success] }

theorem mapError_eq_ok {E F : Type*} {change : E → F} {computation : Except E A} {result : A}
    (done : computation.mapError change = .ok result) : computation = .ok result := by
  cases computation with
  | error failure => cases done
  | ok value => exact congrArg _ (Except.ok.inj done)

theorem prepares_refl (free : run.StartsFree) : run.Prepares run :=
  ⟨run.cluster, run.starting, rfl, free⟩

theorem prepares_abandon (run : QueueRun) : run.Prepares { run with starting := none } :=
  ⟨run.cluster, none, rfl, nofun⟩

section

variable (free : run.StartsFree)
include free

theorem prepares_startCommand (candidates : List Candidate) (replacements : Nat)
    (creationTimestamp : Int) :
    run.Prepares (run.startCommand candidates replacements creationTimestamp) := by
  unfold startCommand
  dsimp only
  split_ifs with busy
  · exact prepares_refl free
  · refine ⟨run.cluster, _, rfl, fun started isStarted => ?_⟩
    cases isStarted
    simp only [hasAny, Bool.or_eq_true, List.any_eq_true, not_or, not_exists, not_and,
      not_isSome_iff_eq_none] at busy
    exact ⟨rfl, fun replacement member => by rw [List.eq_of_mem_replicate member], busy.2⟩

theorem prepares_markDisrupted (fails : Nat → Bool) : run.Prepares (run.markDisrupted fails) := by
  unfold markDisrupted
  split
  · rename_i cmd isStarting
    have startable := free _ isStarting
    dsimp only
    split_ifs
    · exact run.prepares_abandon
    · refine ⟨run.cluster, _, rfl, fun started isStarted => ?_⟩
      cases isStarted
      refine ⟨startable.unfinished, startable.uninitialized, fun id listed => startable.free id ?_⟩
      obtain ⟨candidate, marked, rfl⟩ := mem_map.mp listed
      obtain ⟨entry, filtered, rfl⟩ := mem_map.mp marked
      have member := fst_mem_of_mem_zipIdx (mem_of_mem_filter filtered)
      exact mem_map_of_mem member
  · exact prepares_refl free

theorem prepares_createReplacementNodeClaims {nodeClaimNames : Option (List String)}
    (done : run.createReplacementNodeClaims nodeClaimNames = .ok run') : run.Prepares run' := by
  unfold createReplacementNodeClaims at done
  split at done
  · rename_i cmd isStarting
    have startable := free _ isStarting
    split at done
    · cases done
      exact run.prepares_abandon
    · split_ifs at done
      · cases done
        exact run.prepares_abandon
      · obtain ⟨cluster, -, rfl⟩ := map_eq_ok.mp done
        refine ⟨cluster, _, rfl, fun started isStarted => ?_⟩
        cases isStarted
        refine ⟨startable.unfinished, fun replacement member => ?_, startable.free⟩
        obtain ⟨i, inRange, rfl⟩ := getElem_of_mem member
        have short : i < cmd.replacements.length := by
          rw [length_zipWith] at inRange
          omega
        rw [getElem_zipWith]
        exact startable.uninitialized (cmd.replacements.get ⟨i, short⟩) (get_mem ..)
  · cases done
    exact prepares_refl free

theorem enqueue_cases (done : run.enqueue = .ok run') :
    run.Prepares run' ∨ ∃ cmd, run.Enqueues run' cmd := by
  unfold enqueue at done
  split at done
  · rename_i cmd isStarting
    split_ifs at done
    exact .inr ⟨cmd, free _ isStarting, (Except.ok.inj done).symm⟩
  · exact .inl (Except.ok.inj done ▸ prepares_refl free)

end

theorem completeCommand_eq_ok (done : run.completeCommand k cmd success = .ok run') :
    (cmd.succeeded → run'.cluster = run.cluster) ∧
    (cmd.succeeded = false → run.cluster.unmarkForDeletion cmd.providerIDs = .ok run'.cluster) ∧
      ∃ cluster, run' = { run with
        cluster := cluster
        providerIDToCommand := run.providerIDToCommand.eraseAll cmd.providerIDs
        trace := run.trace ++ [.complete k success] } := by
  unfold completeCommand at done
  by_cases succeeded : cmd.succeeded
  · rw [if_pos succeeded] at done
    cases done
    exact ⟨fun _ => rfl, fun failed => absurd succeeded (by simp [failed]), run.cluster, rfl⟩
  · rw [if_neg succeeded] at done
    obtain ⟨cluster, unmarked, rfl⟩ := map_eq_ok.mp done
    exact ⟨fun isSucceeded => absurd isSucceeded succeeded, fun _ => mapError_eq_ok unmarked, cluster,
      rfl⟩

theorem reconcile_cases (free : run.StartsFree) {responses : Responses}
    (done : run.reconcile order name responses = .ok run') :
    run.Prepares run' ∨ ∃ k cmd cmd' reads deletes, run.InFlight k cmd ∧
      (run.Retries run' k cmd cmd' reads deletes ∨
        ∃ success, run.Completes run' k cmd cmd' reads deletes success) := by
  unfold reconcile at done
  split at done
  · exact .inl (Except.ok.inj done ▸ prepares_refl free)
  · rename_i k cmd found
    have attempt := attempt_waitOrTerminate
      (fun name => (run.cluster.nodeClaimNameToProviderID.lookup name).isSome)
      (getMaxRetryDuration run.providerIDToCommand.keys.length) responses cmd
    have unfinished : (waitOrTerminate
      (fun name => (run.cluster.nodeClaimNameToProviderID.lookup name).isSome)
      (getMaxRetryDuration run.providerIDToCommand.keys.length) responses cmd).1.succeeded =
        cmd.succeeded := rfl
    dsimp only at done
    generalize waitOrTerminate _ _ _ _ = attempted at attempt unfinished done
    obtain ⟨cmd', reads, deletes, outcome⟩ := attempted
    dsimp only at attempt unfinished done
    refine .inr ⟨k, cmd, ?_⟩
    have inFlight := commandForNodeClaim_inFlight found
    cases outcome with
    | recoverable =>
      exact ⟨cmd', reads, deletes, inFlight, .inl ⟨attempt, unfinished, (Except.ok.inj done).symm⟩⟩
    | unrecoverable =>
      obtain ⟨-, unmarked, cluster, isRun⟩ := completeCommand_eq_ok done
      refine ⟨cmd', reads, deletes, inFlight, .inr ⟨false, attempt, fun _ failed => ?_, cluster, ?_⟩⟩
      · exact attempt.providerIDs ▸ unmarked (unfinished.trans failed)
      · rw [isRun, ← attempt.providerIDs]
        rfl
    | succeeded =>
      rw [if_neg (by decide), if_pos rfl] at done
      obtain ⟨-, -, cluster, isRun⟩ := completeCommand_eq_ok done
      refine ⟨{ cmd' with succeeded := true }, reads, deletes, inFlight,
        .inr ⟨true, ⟨attempt.candidates, attempt.length, attempt.seen, attempt.ready⟩, nofun,
          cluster, ?_⟩⟩
      rw [isRun, ← attempt.providerIDs]
      rfl

theorem apply_cases (free : run.StartsFree) (done : run.apply event = .ok run') :
    run.Prepares run' ∨ (∃ cmd, run.Enqueues run' cmd) ∨
      ∃ k cmd cmd' reads deletes, run.InFlight k cmd ∧ (run.Retries run' k cmd cmd' reads deletes ∨
          ∃ success, run.Completes run' k cmd cmd' reads deletes success) := by
  cases event with
  | startCommand candidates replacements creationTimestamp =>
    cases done
    exact .inl (prepares_startCommand free candidates replacements creationTimestamp)
  | markDisrupted fails =>
    cases done
    exact .inl (prepares_markDisrupted free fails)
  | createReplacementNodeClaims nodeClaimNames =>
    exact .inl (prepares_createReplacementNodeClaims free done)
  | enqueue => exact (enqueue_cases free done).imp_right .inl
  | reconcile order name responses => exact (reconcile_cases free done).imp_right .inr
  | clusterChanges cluster =>
    cases done
    exact .inl ⟨cluster, run.starting, rfl, free⟩

/-! ### Commands and provider ids -/

structure Owns (run : QueueRun) : Prop where
  /-- A provider id leads to a command that has it and is not finished. -/
  stored : ∀ id k, run.providerIDToCommand.lookup id = some k →
    ∃ cmd, run.commands.lookup k = some cmd ∧ id ∈ cmd.providerIDs ∧ cmd.succeeded = false
  /-- All provider ids of a command in flight lead to it. -/
  owned : ∀ k cmd, run.InFlight k cmd → ∀ id ∈ cmd.providerIDs,
    run.providerIDToCommand.lookup id = some k
  fresh : ∀ k cmd, run.commands.lookup k = some cmd → k < run.nextID
  starts : run.StartsFree
  /-- No provider id leads to a completed command. -/
  left : ∀ k success, .complete k success ∈ run.trace →
    k < run.nextID ∧ ∀ id, run.providerIDToCommand.lookup id ≠ some k

theorem owns_of_enqueues (owns : run.Owns) (enqueues : run.Enqueues run' cmd) : run'.Owns := by
  obtain ⟨startable, rfl⟩ := enqueues
  have ids := lookup_insertAll cmd.providerIDs run.nextID run.providerIDToCommand
  have commands := lookup_insert_eq run.commands run.nextID
  -- Earlier commands have smaller identities.
  have earlier : ∀ id k, run.providerIDToCommand.lookup id = some k → k < run.nextID := by
    intro id k mapped
    obtain ⟨other, stored, -⟩ := owns.stored id k mapped
    exact owns.fresh k other stored
  refine ⟨?_, ?_, ?_, nofun, ?_⟩
  · intro id k mapped
    rw [ids] at mapped
    split_ifs at mapped with listed
    · cases mapped
      exact ⟨cmd, by rw [commands, if_pos rfl], listed, startable.unfinished⟩
    · obtain ⟨other, stored, isListed⟩ := owns.stored id k mapped
      exact ⟨other, by rw [commands, if_neg (earlier id k mapped).ne, stored], isListed⟩
  · rintro k other ⟨⟨id', mapped⟩, stored⟩ id listed
    rw [commands] at stored
    rw [ids] at mapped ⊢
    split_ifs at stored with isNew
    · cases stored
      rw [if_pos listed, isNew]
    · split_ifs at mapped
      · exact absurd (some.inj mapped).symm isNew
      · have leads := owns.owned k other ⟨⟨id', mapped⟩, stored⟩ id listed
        rw [if_neg, leads]
        intro isNewID
        rw [startable.free id isNewID] at leads
        cases leads
  · intro k other stored
    rw [commands] at stored
    split_ifs at stored with isNew
    · exact isNew ▸ Nat.lt_succ_self _
    · exact (owns.fresh k other stored).trans (Nat.lt_succ_self _)
  · intro k success completed
    obtain ⟨below, gone⟩ := owns.left k success completed
    refine ⟨below.trans (Nat.lt_succ_self _), fun id mapped => ?_⟩
    rw [ids] at mapped
    split_ifs at mapped
    · exact below.ne (some.inj mapped).symm
    · exact gone id mapped

theorem owns_of_retries (owns : run.Owns) (inFlight : run.InFlight k cmd)
    (retries : run.Retries run' k cmd cmd' reads deletes) :
    run'.Owns := by
  obtain ⟨attempt, unfinished, rfl⟩ := retries
  have commands := lookup_insert_eq run.commands k
  refine ⟨?_, ?_, ?_, owns.starts, ?_⟩
  · intro id k' mapped
    obtain ⟨other, stored, listed, isUnfinished⟩ := owns.stored id k' mapped
    rw [commands]
    split_ifs with same
    · obtain rfl : other = cmd := by
        rw [same, inFlight.2] at stored
        exact (some.inj stored).symm
      exact ⟨cmd', rfl, attempt.providerIDs ▸ listed, unfinished.trans isUnfinished⟩
    · exact ⟨other, stored, listed, isUnfinished⟩
  · rintro k' other ⟨mapped, stored⟩ id listed
    rw [commands] at stored
    split_ifs at stored with same
    · cases stored
      rw [attempt.providerIDs] at listed
      exact same ▸ owns.owned k cmd inFlight id listed
    · exact owns.owned k' other ⟨mapped, stored⟩ id listed
  · intro k' other stored
    rw [commands] at stored
    split_ifs at stored with same
    · exact same ▸ owns.fresh k cmd inFlight.2
    · exact owns.fresh k' other stored
  · intro k' success completed
    refine owns.left k' success ?_
    simpa [attempted] using completed

theorem owns_of_completes (owns : run.Owns) (inFlight : run.InFlight k cmd)
    (completes : run.Completes run' k cmd cmd' reads deletes success) :
    run'.Owns := by
  obtain ⟨attempt, -, cluster, rfl⟩ := completes
  have commands := lookup_insert_eq run.commands k
  have ids := lookup_eraseAll cmd.providerIDs run.providerIDToCommand
  -- No provider id leads to the command once its own ones are gone.
  have gone : ∀ id, id ∉ cmd.providerIDs → run.providerIDToCommand.lookup id ≠ some k := by
    intro id unlisted mapped
    obtain ⟨other, stored, listed, -⟩ := owns.stored id k mapped
    rw [inFlight.2] at stored
    exact unlisted (some.inj stored ▸ listed)
  have other_of_mapped : ∀ {id k'}, (run.providerIDToCommand.eraseAll cmd.providerIDs).lookup id =
      some k' → k' ≠ k ∧ run.providerIDToCommand.lookup id = some k' := by
    intro id k' mapped
    rw [ids] at mapped
    split_ifs at mapped with unlisted
    exact ⟨fun same => gone id unlisted (same ▸ mapped), mapped⟩
  refine ⟨?_, ?_, ?_, ?_, ?_⟩
  · intro id k' mapped
    obtain ⟨different, mapped⟩ := other_of_mapped mapped
    rw [commands, if_neg different]
    exact owns.stored id k' mapped
  · rintro k' other ⟨⟨id', mapped⟩, stored⟩ id listed
    obtain ⟨different, mapped⟩ := other_of_mapped mapped
    rw [commands, if_neg different] at stored
    have leads := owns.owned k' other ⟨⟨id', mapped⟩, stored⟩ id listed
    rw [ids, if_neg, leads]
    intro isCandidate
    rw [owns.owned k cmd inFlight id isCandidate] at leads
    exact different (some.inj leads).symm
  · intro k' other stored
    rw [commands] at stored
    split_ifs at stored with same
    · exact same ▸ owns.fresh k cmd inFlight.2
    · exact owns.fresh k' other stored
  · intro starting isStarting
    have startable := owns.starts starting isStarting
    refine ⟨startable.unfinished, startable.uninitialized, fun id listed => ?_⟩
    rw [ids, startable.free id listed, ite_self]
  · intro k' success' completed
    have cases : (success' = success ∧ k' = k) ∨ .complete k' success' ∈ run.trace := by
      simpa [attempted, or_comm, and_comm] using completed
    rcases cases with ⟨-, rfl⟩ | earlier
    · exact ⟨owns.fresh k' cmd inFlight.2, fun id mapped => (other_of_mapped mapped).1 rfl⟩
    · obtain ⟨below, left⟩ := owns.left k' success' earlier
      exact ⟨below, fun id mapped => left id (other_of_mapped mapped).2⟩

theorem apply_owns (owns : run.Owns) (done : run.apply event = .ok run') : run'.Owns := by
  rcases apply_cases owns.starts done with ⟨cluster, starting, rfl, startable⟩ |
    ⟨cmd, enqueues⟩ | ⟨k, cmd, cmd', reads, deletes, inFlight, retries | ⟨success, completes⟩⟩
  · exact ⟨owns.stored, owns.owned, owns.fresh, startable, owns.left⟩
  · exact owns_of_enqueues owns enqueues
  · exact owns_of_retries owns inFlight retries
  · exact owns_of_completes owns inFlight completes

/-! ### Deletions and observations -/

/-- Every deletion comes after all replacements of its command were seen initialized. -/
def Justified (count : Nat → Option Nat) (trace : List QueueAction) : Prop :=
  ∀ before k name after, trace = before ++ .delete k name :: after →
    ∃ n, count k = some n ∧ ∀ i < n, .read k i (.found true) ∈ before

theorem split_append {first second before after : List A} {a : A}
    (split : first ++ second = before ++ a :: after) :
    (∃ rest, before = first ++ rest ∧ second = rest ++ a :: after) ∨
      ∃ rest, first = before ++ a :: rest := by
  rcases append_eq_append_iff.mp split with ⟨rest, isBefore, isSecond⟩ | ⟨rest, isFirst, isAfter⟩
  · exact .inl ⟨rest, isBefore, isSecond⟩
  · cases rest with
    | nil => exact .inl ⟨[], by simpa using isFirst.symm, by simpa using isAfter.symm⟩
    | cons other others =>
      obtain ⟨rfl, -⟩ := cons.inj isAfter
      exact .inr ⟨others, isFirst⟩

theorem justified_append {count : Nat → Option Nat} {trace segment : List QueueAction}
    (justified : Justified count trace)
    (further : ∀ before k name after, segment = before ++ .delete k name :: after →
      ∃ n, count k = some n ∧ ∀ i < n, .read k i (.found true) ∈ trace ++ before) :
    Justified count (trace ++ segment) := by
  intro before k name after split
  rcases split_append split with ⟨rest, rfl, isSegment⟩ | ⟨rest, isTrace⟩
  · exact further rest k name after isSegment
  · exact justified before k name rest isTrace

theorem delete_of_attempted {k' : Nat} {before after : List QueueAction}
    (split : attempted k cmd reads deletes = before ++ .delete k' name :: after) :
    deletes ∧ k' = k ∧ ∀ read ∈ reads, .read k read.1 read.2 ∈ before := by
  obtain ⟨rest, isBefore, isDeletion⟩ := (split_append split).resolve_right fun ⟨rest, isReads⟩ =>
    absurd (isReads ▸ mem_append_right before (mem_cons_self ..)) (by simp)
  have member : .delete k' name ∈ rest ++ QueueAction.delete k' name :: after := by simp
  rw [← isDeletion] at member
  split_ifs at member with deleting
  · obtain ⟨candidate, -, same⟩ := mem_map.mp member
    obtain ⟨rfl, -⟩ := QueueAction.delete.inj same
    refine ⟨deleting, rfl, fun read listed => ?_⟩
    rw [isBefore]
    exact mem_append_left _ (mem_map.mpr ⟨read, listed, rfl⟩)
  · cases member

def replacementCount (run : QueueRun) (k : Nat) : Option Nat :=
  (run.commands.lookup k).map (·.replacements.length)

/-- What the trace tells of the replacements and candidates. -/
structure Observes (run : QueueRun) : Prop where
  seen : ∀ k cmd, run.commands.lookup k = some cmd →
    AllSeen (fun i => .read k i (.found true) ∈ run.trace) 0 cmd.replacements
  justified : Justified run.replacementCount run.trace

theorem observes_attempted (observes : run.Observes) (inFlight : run.InFlight k cmd)
    (attempt : Attempt cmd cmd' reads deletes) :
    Observes { run with
      commands := run.commands.insert k cmd'
      trace := run.trace ++ attempted k cmd' reads deletes } := by
  have commands := lookup_insert_eq run.commands k
  have read_mem : ∀ i, .read k i (.found true) ∈ run.trace ∨ (i, .found true) ∈ reads →
      .read k i (.found true) ∈ run.trace ++ attempted k cmd' reads deletes := by
    rintro i (earlier | now)
    · exact mem_append_left _ earlier
    · exact mem_append_right _ (mem_append_left _ (mem_map.mpr ⟨_, now, rfl⟩))
  have seen := attempt.seen _ (observes.seen k cmd inFlight.2)
  constructor
  · intro k' other stored
    rw [commands] at stored
    split_ifs at stored with same
    · cases stored
      subst same
      exact seen.mono read_mem
    · exact (observes.seen k' other stored).mono fun i => mem_append_left _
  · have counts : ∀ k' n, run.replacementCount k' = some n →
        ((run.commands.insert k cmd').lookup k').map (·.replacements.length) = some n := by
      intro k' n counted
      rw [commands]
      split_ifs with same
      · rw [← counted, same, replacementCount, inFlight.2, map_some, map_some, attempt.length]
      · exact counted
    refine justified_append (fun before k' name after split => ?_) fun before k' name after split => ?_
    · obtain ⟨n, counted, isSeen⟩ := observes.justified before k' name after split
      exact ⟨n, counts k' n counted, isSeen⟩
    · obtain ⟨deleting, rfl, readBefore⟩ := delete_of_attempted split
      refine ⟨cmd'.replacements.length, by simp [replacementCount], fun i inRange => ?_⟩
      have found : cmd'.replacements[i]? = some (cmd'.replacements.get ⟨i, inRange⟩) :=
        getElem?_eq_getElem inRange
      have initialized := attempt.ready deleting _ (get_mem cmd'.replacements ⟨i, inRange⟩)
      have isSeen := seen i _ found initialized
      rw [Nat.zero_add] at isSeen
      rcases isSeen with earlier | now
      · exact mem_append_left _ earlier
      · exact mem_append_right _ (readBefore _ now)

theorem observes_of_enqueues (owns : run.Owns) (observes : run.Observes)
    (enqueues : run.Enqueues run' cmd) : run'.Observes := by
  obtain ⟨startable, rfl⟩ := enqueues
  have commands := lookup_insert_eq run.commands run.nextID
  constructor
  · intro k other stored
    rw [commands] at stored
    split_ifs at stored
    · cases stored
      intro offset replacement found initialized
      rw [startable.uninitialized replacement (mem_of_getElem? found)] at initialized
      cases initialized
    · exact observes.seen k other stored
  · intro before k name after split
    obtain ⟨n, counted, isSeen⟩ := observes.justified before k name after split
    refine ⟨n, ?_, isSeen⟩
    obtain ⟨other, stored, -⟩ := map_eq_some_iff.mp counted
    rw [← counted, replacementCount, replacementCount, commands,
      if_neg (owns.fresh k other stored).ne]

theorem apply_observes (owns : run.Owns) (observes : run.Observes)
    (done : run.apply event = .ok run') : run'.Observes := by
  rcases apply_cases owns.starts done with ⟨cluster, starting, rfl, -⟩ |
    ⟨cmd, enqueues⟩ | ⟨k, cmd, cmd', reads, deletes, inFlight, ⟨attempt, -, rfl⟩ |
      ⟨success, attempt, -, cluster, rfl⟩⟩
  · exact ⟨observes.seen, observes.justified⟩
  · exact observes_of_enqueues owns observes enqueues
  · exact observes_attempted observes inFlight attempt
  · have attempted := observes_attempted observes inFlight attempt
    refine ⟨fun k' other stored => (attempted.seen k' other stored).mono fun i =>
      mem_append_left _, justified_append attempted.justified fun before k' name after split => ?_⟩
    have member : .delete k' name ∈ [QueueAction.complete k success] := by
      rw [split]
      simp
    simp at member

end QueueRun

/-! ### Runs -/

theorem setMarkedForDeletion_marks {marked : Bool} {c c' : Cluster} {ids : List String}
    (done : c.setMarkedForDeletion marked ids = .ok c') :
    ∀ id ∈ ids, ∀ n, c'.nodes.lookup id = some n → n.markedForDeletion = marked := by
  let Invariant : List String → Cluster → Prop := fun rest c =>
    ∀ id ∈ ids, id ∈ rest ∨ ∀ n, c.nodes.lookup id = some n → n.markedForDeletion = marked
  have start : Invariant ids c := fun id listed => .inl listed
  suffices finished : Invariant [] c' from
    fun id listed => (finished id listed).resolve_left not_mem_nil
  refine foldlM_preserves Invariant ?_ start done
  intro id rest c c' holds done other listed
  cases found : c.nodes.lookup id with
  | none =>
    rw [found] at done
    cases done
    rcases holds other listed with next | kept
    · rcases mem_cons.mp next with rfl | later
      · exact .inr fun n stored => by simp [found] at stored
      · exact .inl later
    · exact .inr kept
  | some n =>
    rw [found] at done
    have nodes := Cluster.lookup_replaceNode done other
    by_cases same : other = id
    · refine .inr fun n' stored => ?_
      rw [nodes, if_pos same] at stored
      rw [← some.inj stored]
    · rw [if_neg same] at nodes
      rw [nodes]
      exact (holds other listed).imp_left fun next => (mem_cons.mp next).resolve_left same

/-- In every run of the queue, a NodeClaim is deleted only after all replacements
of its command were seen initialized; a provider id belongs to at most one command
in flight and to none that is completed; and a command that completes without
success leaves no candidate marked for deletion. -/
theorem run_disrupts_safely {cluster : Cluster} {run : QueueRun}
    (reached : Reaches QueueRun.apply (fun _ _ => True) { cluster := cluster } run) :
    (∀ before k name after, run.trace = before ++ .delete k name :: after →
      ∃ cmd, run.commands.lookup k = some cmd ∧
        ∀ i < cmd.replacements.length, .read k i (.found true) ∈ before) ∧
    (∀ k k' cmd cmd' id, run.InFlight k cmd → run.InFlight k' cmd' →
      id ∈ cmd.providerIDs → id ∈ cmd'.providerIDs → k = k') ∧
    (∀ k success, .complete k success ∈ run.trace →
      ∀ id, run.providerIDToCommand.lookup id ≠ some k) ∧
    ∀ event run' k cmd, run.apply event = .ok run' →
      .complete k false ∉ run.trace → .complete k false ∈ run'.trace →
      run'.commands.lookup k = some cmd → ∀ id ∈ cmd.providerIDs,
      ∀ n, run'.cluster.nodes.lookup id = some n → n.markedForDeletion = false := by
  obtain ⟨owns, observes⟩ : run.Owns ∧ run.Observes := by
    refine reached.invariant (fun run => run.Owns ∧ run.Observes) ?_ ?_
    · exact ⟨⟨nofun, nofun, nofun, nofun, nofun⟩, ⟨nofun, by simp [QueueRun.Justified]⟩⟩
    · intro run event run' ⟨owns, observes⟩ _ done
      exact ⟨QueueRun.apply_owns owns done, QueueRun.apply_observes owns observes done⟩
  refine ⟨?_, ?_, fun k success completed => (owns.left k success completed).2, ?_⟩
  · intro before k name after split
    obtain ⟨n, counted, seen⟩ := observes.justified before k name after split
    obtain ⟨cmd, stored, rfl⟩ := map_eq_some_iff.mp counted
    exact ⟨cmd, stored, seen⟩
  · intro k k' cmd cmd' id inFlight inFlight' listed listed'
    have leads := owns.owned k cmd inFlight id listed
    rw [owns.owned k' cmd' inFlight' id listed'] at leads
    exact (some.inj leads).symm
  · intro event run' k cmd done before after stored id listed n found
    rcases QueueRun.apply_cases owns.starts done with ⟨_, _, rfl, -⟩ | ⟨_, -, rfl⟩ |
      ⟨k', old, new, reads, deletes, inFlight, ⟨-, -, rfl⟩ |
        ⟨success, attempt, unmarked, cluster', rfl⟩⟩
    · exact absurd after before
    · exact absurd after before
    · exact absurd (by simpa [QueueRun.attempted] using after) before
    · obtain ⟨rfl, rfl⟩ : k = k' ∧ false = success := by
        simpa [QueueRun.attempted, before] using after
      obtain ⟨⟨id', mapped⟩, isOld⟩ := inFlight
      obtain ⟨other, isOther, -, unfinished⟩ := owns.stored id' k mapped
      obtain rfl := some.inj (isOld.symm.trans isOther)
      rw [AList.lookup_insert] at stored
      cases stored
      exact setMarkedForDeletion_marks (unmarked rfl unfinished) id
        (attempt.providerIDs ▸ listed) n found

def instanceCandidate (nodeClaim : Apis.NodeClaim) : Candidate :=
  { stateNode := { nodeClaim := some nodeClaim }
    nodeClaim := nodeClaim
    nodePool := { name := "default" } }

def oneInstance : Cluster where
  nodes := GoMap.ofList [("i-1", { nodeClaim := some { name := "c-1", providerID := "i-1" } })]

/-- The first command fails since its replacement is gone, and unmarks the candidate;
the second one marks it again and deletes it after its own was seen initialized. -/
theorem run_deletes_after_second_attempt :
    ∃ run cmd, Reaches QueueRun.apply (fun _ _ => True) { cluster := oneInstance } run ∧
      run.commands.lookup 1 = some cmd ∧
      (∀ i < cmd.replacements.length, .read 1 i (.found true) ∈
        [QueueAction.read 0 0 .notFound, .complete 0 false, .read 1 0 (.found true)]) ∧
      (∀ id, run.providerIDToCommand.lookup id ≠ some 0) ∧
      (run.cluster.nodes.lookup "i-1").map (·.markedForDeletion) = some true := by
  obtain ⟨run, reached, traced, marked⟩ : ∃ run,
      Reaches QueueRun.apply (fun _ _ => True) { cluster := oneInstance } run ∧
      run.trace = [.read 0 0 .notFound, .complete 0 false, .read 1 0 (.found true),
        .delete 1 "c-1", .complete 1 true] ∧
      (run.cluster.nodes.lookup "i-1").map (·.markedForDeletion) = some true :=
    Reaches.exists_of_follow
      [.startCommand [instanceCandidate { name := "c-1", providerID := "i-1" }] 1 0,
        .markDisrupted fun _ => false, .createReplacementNodeClaims (some ["r-1"]), .enqueue,
        .reconcile .listed "c-1" { get := fun _ => .notFound },
        .startCommand [instanceCandidate { name := "c-1", providerID := "i-1" }] 1 0,
        .markDisrupted fun _ => false, .createReplacementNodeClaims (some ["r-2"]), .enqueue,
        .reconcile .listed "c-1" { get := fun _ => .found true }] (by decide +kernel)
  obtain ⟨deletes, -, left, -⟩ := run_disrupts_safely reached
  obtain ⟨cmd, stored, seen⟩ := deletes
    [.read 0 0 .notFound, .complete 0 false, .read 1 0 (.found true)] 1 "c-1" [.complete 1 true] traced
  exact ⟨run, cmd, reached, stored, seen, left 0 false (by simp [traced]), marked⟩

/-! ### Commands that were carried out -/

/-- What is undone at the candidates of a command. -/
inductive Undo where
  | untaint
  | clearCondition
  | unmarkForDeletion
  deriving DecidableEq, Repr

/-- What a reconciliation undoes: all of it for a command given up, except for the
marks of one that succeeded. -/
def undone (cmd : Command) : Outcome → List Undo
  | .succeeded | .recoverable => []
  | .unrecoverable =>
    [.untaint, .clearCondition] ++ if cmd.succeeded then [] else [.unmarkForDeletion]

namespace QueueRun

variable (run : QueueRun) (responses : Responses) (cmd : Command)

def retryDuration : Int := getMaxRetryDuration run.providerIDToCommand.keys.length

def outcome : Outcome :=
  (waitOrTerminate (fun name => (run.cluster.nodeClaimNameToProviderID.lookup name).isSome)
    run.retryDuration responses cmd).2.2.2

/-- Every replacement is initialized, and every candidate deleted or gone. -/
structure CarriedOut : Prop where
  initialized : ∀ i replacement, cmd.replacements[i]? = some replacement →
    replacement.initialized = true ∨ responses.get i = .found true
  deleted : ∀ i < cmd.candidates.length, responses.deleteFails i = false

variable {run responses cmd}

theorem ready_observeReplacements {nodeClaimExists : String → Bool} {get : Nat → ReplacementRead}
    {index : Nat} {replacements : List Replacement}
    (initialized : ∀ i replacement, replacements[i]? = some replacement →
      replacement.initialized ∨ get (index + i) = .found true) :
    (observeReplacements nodeClaimExists get index replacements).2.2 = .ready := by
  induction replacements generalizing index with
  | nil => rfl
  | cons replacement rest ih =>
    have later : (observeReplacements nodeClaimExists get (index + 1) rest).2.2 = .ready := by
      refine ih fun i other found => ?_
      rw [Nat.add_assoc, Nat.add_comm 1]
      exact initialized (i + 1) other found
    unfold observeReplacements
    dsimp only
    rcases initialized 0 replacement rfl with known | now
    · rw [if_pos known]
      exact later
    · rw [Nat.add_zero] at now
      simp only [now, reduceCtorEq, false_and, if_false, if_true]
      split_ifs <;> exact later

theorem outcome_of_carriedOut (run : QueueRun) (carriedOut : CarriedOut responses cmd) :
    run.outcome responses cmd =
      if responses.now - cmd.creationTimestamp > run.retryDuration then .unrecoverable
      else .succeeded := by
  have noneFails : (range cmd.candidates.length).any responses.deleteFails = false :=
    any_eq_false.mpr fun i listed => by
      simp [carriedOut.deleted i (mem_range.mp listed)]
  have ready : (observeReplacements
      (fun name => (run.cluster.nodeClaimNameToProviderID.lookup name).isSome) responses.get 0
      cmd.replacements).2.2 = .ready :=
    ready_observeReplacements (by simpa using carriedOut.initialized)
  unfold outcome waitOrTerminate
  dsimp only
  rw [ready, noneFails]
  rfl

/-- A reconciliation unmarks the candidates exactly where `undone` says so, and what
undoes anything completes the command without success. -/
theorem reconcile_undoes {run' : QueueRun} {order : RangeOrder String} {name : String} {k : Nat}
    (found : run.commandForNodeClaim order name = some (k, cmd))
    (done : run.reconcile order name responses = .ok run') :
    (undone cmd (run.outcome responses cmd) ≠ [] →
      run'.trace.getLast? = some (.complete k false)) ∧
    if .unmarkForDeletion ∈ undone cmd (run.outcome responses cmd) then
      run.cluster.unmarkForDeletion cmd.providerIDs = .ok run'.cluster
    else run'.cluster = run.cluster := by
  have attempt := attempt_waitOrTerminate
    (fun name => (run.cluster.nodeClaimNameToProviderID.lookup name).isSome) run.retryDuration
    responses cmd
  have unfinished : (waitOrTerminate
      (fun name => (run.cluster.nodeClaimNameToProviderID.lookup name).isSome) run.retryDuration
      responses cmd).1.succeeded = cmd.succeeded := rfl
  unfold reconcile at done
  rw [found] at done
  unfold outcome
  unfold retryDuration at attempt unfinished ⊢
  dsimp only at done
  generalize waitOrTerminate _ _ _ _ = attempted at attempt unfinished done ⊢
  obtain ⟨cmd', reads, deletes, ends⟩ := attempted
  cases ends with
  | succeeded =>
    cases done
    exact ⟨fun undoes => absurd rfl undoes, rfl⟩
  | recoverable =>
    cases done
    exact ⟨fun undoes => absurd rfl undoes, rfl⟩
  | unrecoverable =>
    dsimp only at attempt unfinished done
    obtain ⟨same, unmarked, cluster, isRun⟩ := completeCommand_eq_ok done
    refine ⟨fun _ => isRun ▸ getLast?_concat, ?_⟩
    cases succeeded : cmd.succeeded with
    | false => simpa [undone, succeeded, attempt.providerIDs] using unmarked (unfinished.trans succeeded)
    | true => simpa [undone, succeeded] using same (unfinished.trans succeeded)

theorem reconcile_of_succeeded {order : RangeOrder String} {name : String} {k : Nat}
    (found : run.commandForNodeClaim order name = some (k, cmd))
    (succeeded : run.outcome responses cmd = .succeeded) :
    ∃ run', run.reconcile order name responses = .ok run' ∧
      run'.trace.getLast? = some (.complete k true) := by
  unfold outcome at succeeded
  unfold reconcile
  rw [found]
  dsimp only
  unfold retryDuration at succeeded
  generalize waitOrTerminate _ _ _ _ = attempted at succeeded ⊢
  obtain ⟨cmd', reads, deletes, outcome⟩ := attempted
  cases succeeded
  exact ⟨_, rfl, getLast?_concat⟩

end QueueRun

/-- A command that was carried out completes as succeeded, and nothing is undone, if
and only if its time is not over. -/
theorem carried_out_completes_iff {run : QueueRun} {order : RangeOrder String} {name : String}
    {k : Nat} {cmd : Command} {responses : Responses}
    (found : run.commandForNodeClaim order name = some (k, cmd))
    (carriedOut : QueueRun.CarriedOut responses cmd) :
    (undone cmd (run.outcome responses cmd) = [] ∧
      ∃ run', run.reconcile order name responses = .ok run' ∧ run'.cluster = run.cluster ∧
        run'.trace.getLast? = some (.complete k true)) ↔
    responses.now - cmd.creationTimestamp ≤ run.retryDuration := by
  have ends := run.outcome_of_carriedOut carriedOut
  split_ifs at ends with late
  · refine iff_of_false ?_ (not_le.mpr late)
    rintro ⟨nothing, -⟩
    rw [ends] at nothing
    cases nothing
  · obtain ⟨run', done, completes⟩ := QueueRun.reconcile_of_succeeded found ends
    have kept := (QueueRun.reconcile_undoes found done).2
    rw [ends] at kept ⊢
    exact iff_of_true ⟨rfl, run', done, kept, completes⟩ (not_lt.mp late)

def deletion : Command :=
  { candidates := [instanceCandidate { name := "c-1", providerID := "i-1" }] }

def carrying (cmd : Command) : QueueRun where
  cluster := oneInstance
  providerIDToCommand := GoMap.ofList (cmd.providerIDs.map (·, 0))
  commands := GoMap.ofList [(0, cmd)]

/-- Two NodeClaims with one replacement, which is seen initialized. -/
def exchange : Command where
  candidates := [instanceCandidate { name := "c-1", providerID := "i-1" },
    instanceCandidate { name := "c-2", providerID := "i-2" }]
  replacements := [{ name := "r-1" }]

theorem timely_exchange_completes :
    undone exchange ((carrying exchange).outcome { get := fun _ => .found true } exchange) = [] ∧
      ∃ run', (carrying exchange).reconcile .listed "c-2" { get := fun _ => .found true } = .ok run' ∧
        run'.cluster = (carrying exchange).cluster ∧
        run'.trace.getLast? = some (.complete 0 true) :=
  (carried_out_completes_iff rfl ⟨fun _ _ _ => .inr rfl, fun _ _ => rfl⟩).mpr (by decide)

/-- The candidate is deleted after ten minutes. It is untainted all the same. -/
theorem late_deletion_is_undone :
    (carrying deletion).commandForNodeClaim .listed "c-1" = some (0, deletion) ∧
      QueueRun.CarriedOut { now := 600001 } deletion ∧
      undone deletion ((carrying deletion).outcome { now := 600001 } deletion) =
        [.untaint, .clearCondition, .unmarkForDeletion] ∧
      ((carrying deletion).reconcile .listed "c-1" { now := 600001 }).map (·.trace) =
        .ok [.delete 0 "c-1", .complete 0 false] :=
  ⟨rfl, ⟨nofun, fun _ _ => rfl⟩, by decide, by decide +kernel⟩

end Kraftsman.Disruption
