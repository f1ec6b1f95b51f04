import Kraftsman.Data.Runs
import Kraftsman.State.NodePoolHealth

/-!
Contract: NodeClaims that do not launch, register or initialize in time.

One reconcile reads the NodePool, patches it and deletes the NodeClaim. Each
request may fail, and a reconcile that failed is retried.

Owns: the liveness reconcile, what it records about the NodePool, and how many
failures the history of one NodeClaim records.
Does not own: the conditions of a NodeClaim, which other reconcilers set.
-/

namespace Kraftsman.Lifecycle

open Data State Option Bool

/-- A condition that is not true is false or unknown; time zero means no transition. -/
structure Condition where
  isTrue : Bool
  lastTransitionTime : Int
  deriving DecidableEq

/-- What is read of a NodeClaim. `nodePoolOwners` are the UIDs of owning NodePools. -/
structure NodeClaim where
  nodePoolLabel : Option String
  nodePoolOwners : List String := []
  launched : Option Condition
  registered : Option Condition
  initialized : Bool := false

structure NodePool where
  uid : String
  registrationTimeoutAnnotation : String := ""
  registrationUnhealthy : Bool := false

inductive ApiError where
  | notFound
  | conflict
  | other
  deriving DecidableEq, Repr

/-- How a timeout is handled, and the time at which it was checked. -/
structure Attempt where
  now : Int
  get : Except ApiError NodePool
  patch : Except ApiError Unit := .ok ()
  delete : Except ApiError Unit := .ok ()

/-- The answers in one reconcile, for each timeout and the read of the registration timeout. -/
structure Answers where
  launch : Attempt
  timeoutGet : Except ApiError NodePool
  registration : Attempt
  initialization : Attempt

/-- The reconciler's settings. `parseDuration` is the Go parser of durations. -/
structure Options where
  parseDuration : String → Option Int
  nodeClaimInitializationTimeout : Int := 0
  nodeClaimInitializationTimeoutShadow : Bool := false

def minute : Int := 60 * 1000000000

def launchTimeout : Int := 5 * minute

def registrationTimeout : Int := 15 * minute

inductive Result where
  | done
  | requeue
  | requeueAfter (delay : Int)
  | error (error : ApiError)
  deriving DecidableEq

/-- What reconciles change. `failures` are the NodePools a failure was recorded
for; `deleted` NodeClaims are gone or on their way. -/
structure Ledger where
  health : NodePoolHealth := ∅
  failures : List String := []
  deleted : Bool := false

def Ledger.fail (s : Ledger) (nodePoolUID : String) : Ledger :=
  { s with health := s.health.update nodePoolUID false, failures := s.failures ++ [nodePoolUID] }

/-- The registration timeout of a NodePool; a malformed one selects the default. -/
def registrationTimeoutForNodePool (options : Options) (np : NodePool) : Int :=
  if np.registrationTimeoutAnnotation = "" then registrationTimeout
  else
    match options.parseDuration np.registrationTimeoutAnnotation with
    | none => registrationTimeout
    | some timeout => if timeout ≤ 0 then registrationTimeout else timeout

variable (options : Options) (nodeClaim : NodeClaim)

def registrationTimeoutFor (get : Except ApiError NodePool) : Except ApiError Int :=
  match nodeClaim.nodePoolLabel with
  | none => .ok registrationTimeout
  | some _ =>
    match get with
    | .ok nodePool => .ok (registrationTimeoutForNodePool options nodePool)
    | .error .notFound => .ok registrationTimeout
    | .error error => .error error

variable (attempt : Attempt)

/-- Record a failure of the NodePool, which is patched first if that makes it unhealthy. -/
def updateNodePoolRegistrationHealth (s : Ledger) : Except ApiError Ledger :=
  if nodeClaim.nodePoolLabel.getD "" = "" then .ok s
  else
    match attempt.get with
    | .error error => .error error
    | .ok nodePool =>
      if nodePool.uid ∉ nodeClaim.nodePoolOwners then .ok s
      else if (s.health.dryRun nodePool.uid false).status = .unhealthy ∧
          nodePool.registrationUnhealthy = false then
        match attempt.patch with
        | .ok _ | .error .notFound => .ok (s.fail nodePool.uid)
        | .error error => .error error
      else .ok (s.fail nodePool.uid)

def deleteNodeClaimForTimeout (attempt : Attempt) (s : Ledger) : Except ApiError Unit × Ledger :=
  match attempt.delete with
  | .ok _ => (.ok (), { s with deleted := true })
  | .error .notFound => (.error .notFound, { s with deleted := true })
  | .error error => (.error error, s)

/-- Record the failure, then delete. The reconcile goes on only after a deletion. -/
def timeOut (s : Ledger) : Option Result × Ledger :=
  match updateNodePoolRegistrationHealth nodeClaim attempt s with
  | .error .conflict => (some .requeue, s)
  | .error .other => (some (.error .other), s)
  -- a NodePool that is not found does not keep the NodeClaim
  | .error .notFound => delete s
  | .ok recorded => delete recorded
where
  delete (s : Ledger) : Option Result × Ledger :=
    match deleteNodeClaimForTimeout attempt s with
    | (.ok _, s) => (none, s)
    | (.error .notFound, s) => (some .done, s)
    | (.error error, s) => (some (.error error), s)

/-- Delete a NodeClaim that does not initialize. No failure is recorded. -/
def reconcileInitializationTimeout (registered : Condition) (attempt : Attempt) (s : Ledger) :
    Result × Ledger :=
  if options.nodeClaimInitializationTimeout ≤ 0 then (.done, s)
  else if nodeClaim.initialized then (.done, s)
  else if registered.lastTransitionTime = 0 then (.requeue, s)
  else
    let timeUntilTimeout :=
      options.nodeClaimInitializationTimeout - (attempt.now - registered.lastTransitionTime)
    if timeUntilTimeout > 0 then (.requeueAfter timeUntilTimeout, s)
    else if options.nodeClaimInitializationTimeoutShadow then
      (.requeueAfter options.nodeClaimInitializationTimeout, s)
    else
      match deleteNodeClaimForTimeout attempt s with
      | (.ok _, s) | (.error .notFound, s) => (.done, s)
      | (.error error, s) => (.error error, s)

def reconcileRegistrationTimeout (answers : Answers) (s : Ledger) : Result × Ledger :=
  match nodeClaim.registered with
  | none => (.requeue, s)
  | some registered =>
    match registrationTimeoutFor options nodeClaim answers.timeoutGet with
    | .error error => (.error error, s)
    | .ok timeout =>
      let timeUntilTimeout :=
        timeout - (answers.registration.now - registered.lastTransitionTime)
      if timeUntilTimeout > 0 then (.requeueAfter timeUntilTimeout, s)
      else
        match timeOut nodeClaim answers.registration s with
        | (some result, s) => (result, s)
        | (none, s) => (.done, s)

/-- The liveness reconcile. After a deletion for its launch the registration is still checked. -/
def reconcile (answers : Answers) (s : Ledger) : Result × Ledger :=
  match nodeClaim.registered.filter (·.isTrue) with
  | some registered =>
    reconcileInitializationTimeout options nodeClaim registered answers.initialization s
  | none =>
    match nodeClaim.launched with
    | none => (.requeue, s)
    | some launched =>
      if launched.isTrue then reconcileRegistrationTimeout options nodeClaim answers s
      else
        let timeUntilTimeout := launchTimeout - (answers.launch.now - launched.lastTransitionTime)
        if timeUntilTimeout > 0 then (.requeueAfter timeUntilTimeout, s)
        else
          match timeOut nodeClaim answers.launch s with
          | (some result, s) => (result, s)
          | (none, s) => reconcileRegistrationTimeout options nodeClaim answers s

/-- A reconcile, or a change of NodePool health elsewhere. Deleted NodeClaims are
finalized instead; reconciles from a cache that does not show the deletion yet are
left out. -/
inductive LivenessEvent where
  | reconcile (nodeClaim : NodeClaim) (answers : Answers)
  | elsewhere (health : NodePoolHealth)

def step (options : Options) (s : Ledger) : LivenessEvent → Except Unit Ledger
  | .reconcile nodeClaim answers =>
    if s.deleted then .error () else .ok (reconcile options nodeClaim answers s).2
  | .elsewhere health => .ok { s with health := health }

/-- The NodePool of a timeout: the one named, if it is there and owns the NodeClaim. -/
def attributed : Option String :=
  if nodeClaim.nodePoolLabel.getD "" = "" then none
  else
    match attempt.get with
    | .error _ => none
    | .ok nodePool => if nodePool.uid ∈ nodeClaim.nodePoolOwners then some nodePool.uid else none

def launchExpired (nodeClaim : NodeClaim) (answers : Answers) : Bool :=
  !(nodeClaim.registered.any (·.isTrue)) &&
    nodeClaim.launched.any fun launched => !launched.isTrue &&
      launchTimeout - (answers.launch.now - launched.lastTransitionTime) ≤ 0

def registrationExpired (answers : Answers) : Bool :=
  nodeClaim.registered.any fun registered => !registered.isTrue &&
    match registrationTimeoutFor options nodeClaim answers.timeoutGet with
    | .error _ => false
    | .ok timeout => timeout - (answers.registration.now - registered.lastTransitionTime) ≤ 0

/-- The deletion went through, or the NodeClaim was gone. -/
def Deletes (attempt : Attempt) : Prop := attempt.delete = .ok () ∨ attempt.delete = .error .notFound

/-- A recorded failure goes with a deletion, and an expired launch is not followed
by an expired registration. -/
def CountsOnce (options : Options) : LivenessEvent → Prop
  | .elsewhere _ => True
  | .reconcile nodeClaim answers =>
    if launchExpired nodeClaim answers then
      (attributed nodeClaim answers.launch).isSome → Deletes answers.launch ∧
        (answers.launch.delete = .ok () → registrationExpired options nodeClaim answers →
          attributed nodeClaim answers.registration = none)
    else
      nodeClaim.launched.any (·.isTrue) → registrationExpired options nodeClaim answers →
        (attributed nodeClaim answers.registration).isSome → Deletes answers.registration

/-- Nothing or the attributed failure is recorded. -/
def Recorded (s recorded : Ledger) : Prop :=
  recorded = s ∨ ∃ uid, attributed nodeClaim attempt = some uid ∧ recorded = s.fail uid

section Recording

variable {nodeClaim attempt} {s s' : Ledger}

theorem updateNodePoolRegistrationHealth_eq_ok
    (updated : updateNodePoolRegistrationHealth nodeClaim attempt s = .ok s') :
    Recorded nodeClaim attempt s s' := by
  unfold updateNodePoolRegistrationHealth at updated
  unfold Recorded attributed
  split_ifs at updated with unnamed
  · exact .inl (Except.ok.inj updated).symm
  · cases got : attempt.get with
    | error error =>
      rw [got] at updated
      cases updated
    | ok nodePool =>
      rw [got] at updated
      dsimp only at updated
      split_ifs at updated with owned
      · refine .inr ⟨nodePool.uid, by simp [unnamed, owned], ?_⟩
        split at updated
        · exact (Except.ok.inj updated).symm
        · exact (Except.ok.inj updated).symm
        · cases updated
      · exact .inr ⟨nodePool.uid, by simp [unnamed, owned], (Except.ok.inj updated).symm⟩
      · exact .inl (Except.ok.inj updated).symm

theorem updateNodePoolRegistrationHealth_of_attributed {uid : String}
    (isAttributed : attributed nodeClaim attempt = some uid) (patched : attempt.patch = .ok ()) :
    updateNodePoolRegistrationHealth nodeClaim attempt s = .ok (s.fail uid) := by
  unfold attributed at isAttributed
  unfold updateNodePoolRegistrationHealth
  split_ifs at isAttributed ⊢ with unnamed
  cases got : attempt.get with
  | error error => simp [got] at isAttributed
  | ok nodePool =>
    rw [got] at isAttributed
    dsimp only at isAttributed ⊢
    split_ifs at isAttributed with owned
    cases isAttributed
    simp only [owned, not_true_eq_false, if_false, patched, ite_self]

/-- The reconcile goes on only after a deletion. -/
inductive TimedOut (nodeClaim : NodeClaim) (attempt : Attempt) (s : Ledger) :
    Option Result × Ledger → Prop where
  /-- the update was refused -/
  | refused (result : Result) : TimedOut nodeClaim attempt s (some result, s)
  /-- the NodeClaim was deleted -/
  | deleted {recorded : Ledger}
      (records : Recorded nodeClaim attempt s recorded)
      (done : attempt.delete = .ok ()) :
      TimedOut nodeClaim attempt s (none, { recorded with deleted := true })
  /-- the NodeClaim was gone -/
  | gone {recorded : Ledger}
      (records : Recorded nodeClaim attempt s recorded)
      (done : attempt.delete = .error .notFound) :
      TimedOut nodeClaim attempt s (some .done, { recorded with deleted := true })
  /-- the deletion failed -/
  | kept {recorded : Ledger}
      (records : Recorded nodeClaim attempt s recorded)
      (failed : ¬Deletes attempt) (result : Result) :
      TimedOut nodeClaim attempt s (some result, recorded)

theorem timeOut_spec (nodeClaim : NodeClaim) (attempt : Attempt) (s : Ledger) :
    TimedOut nodeClaim attempt s (timeOut nodeClaim attempt s) := by
  have deletion : ∀ {recorded : Ledger}, Recorded nodeClaim attempt s recorded →
      TimedOut nodeClaim attempt s (timeOut.delete attempt recorded) := by
    intro recorded records
    unfold timeOut.delete deleteNodeClaimForTimeout
    cases answer : attempt.delete with
    | ok _ => exact .deleted records answer
    | error error =>
      cases error with
      | notFound => exact .gone records answer
      | conflict | other => exact .kept records (by simp [Deletes, answer]) _
  unfold timeOut
  cases updated : updateNodePoolRegistrationHealth nodeClaim attempt s with
  | ok recorded => exact deletion (updateNodePoolRegistrationHealth_eq_ok updated)
  | error error =>
    cases error with
    | notFound => exact deletion (.inl rfl)
    | conflict | other => exact .refused _

theorem timeOut_of_attributed {uid : String}
    (isAttributed : attributed nodeClaim attempt = some uid) (patched : attempt.patch = .ok ()) :
    timeOut nodeClaim attempt s = timeOut.delete attempt (s.fail uid) := by
  unfold timeOut
  rw [updateNodePoolRegistrationHealth_of_attributed isAttributed patched]

end Recording

/-- A NodeClaim still reconciled has recorded no failure, and any at most one. -/
structure CountedOnce (s : Ledger) : Prop where
  untouched : s.deleted = false → s.failures = []
  atMostOne : s.failures.length ≤ 1

section Counting

variable {options nodeClaim attempt} {answers : Answers} {s : Ledger}

theorem CountedOnce.ofFresh (fresh : s.failures = []) : CountedOnce s :=
  ⟨fun _ => fresh, by simp [fresh]⟩

theorem CountedOnce.ofDeleted {recorded : Ledger} (fresh : s.failures = [])
    (records : Recorded nodeClaim attempt s recorded) : CountedOnce { recorded with deleted := true } := by
  constructor
  · intro absurdity
    cases absurdity
  · rcases records with rfl | ⟨uid, -, rfl⟩
    · simp [fresh]
    · simp [Ledger.fail, fresh]

theorem CountedOnce.timeOut (fresh : s.failures = [])
    (deletes : (attributed nodeClaim attempt).isSome → Deletes attempt) :
    CountedOnce (timeOut nodeClaim attempt s).2 := by
  have spec := timeOut_spec nodeClaim attempt s
  generalize Lifecycle.timeOut nodeClaim attempt s = outcome at spec ⊢
  cases spec with
  | refused result => exact .ofFresh fresh
  | deleted records _ | gone records _ => exact .ofDeleted fresh records
  | kept records failed result =>
    rcases records with rfl | ⟨uid, isAttributed, -⟩
    · exact .ofFresh fresh
    · exact absurd (deletes (by simp [isAttributed])) failed

theorem CountedOnce.timeOut_of_deleted (counted : CountedOnce s) (deleted : s.deleted)
    (unattributed : s.failures ≠ [] → attributed nodeClaim attempt = none) :
    CountedOnce (Lifecycle.timeOut nodeClaim attempt s).2 := by
  have recorded_counted : ∀ {recorded : Ledger}, Recorded nodeClaim attempt s recorded →
      recorded.deleted ∧ recorded.failures.length ≤ 1 := by
    rintro recorded (rfl | ⟨uid, isAttributed, rfl⟩)
    · exact ⟨deleted, counted.atMostOne⟩
    · have fresh : s.failures = [] := by
        by_contra touched
        simp [unattributed touched] at isAttributed
      simp [Ledger.fail, deleted, fresh]
  have spec := timeOut_spec nodeClaim attempt s
  generalize Lifecycle.timeOut nodeClaim attempt s = outcome at spec ⊢
  cases spec with
  | refused result => exact counted
  | deleted records done | gone records done =>
    exact ⟨fun absurdity => (by cases absurdity), (recorded_counted records).2⟩
  | kept records failed result =>
    obtain ⟨stillDeleted, few⟩ := recorded_counted records
    exact ⟨fun kept => Bool.noConfusion (stillDeleted.symm.trans kept), few⟩

theorem reconcileRegistrationTimeout_eq
    (unregistered : nodeClaim.registered.any (·.isTrue) = false) :
    (reconcileRegistrationTimeout options nodeClaim answers s).2 =
      if registrationExpired options nodeClaim answers then
        (timeOut nodeClaim answers.registration s).2
      else s := by
  unfold reconcileRegistrationTimeout registrationExpired
  cases condition : nodeClaim.registered with
  | none => rfl
  | some registered =>
    have notTrue : registered.isTrue = false := by simpa [condition] using unregistered
    cases timeout : registrationTimeoutFor options nodeClaim answers.timeoutGet with
    | error error => simp
    | ok duration =>
      simp only [any_some, notTrue, Bool.not_false, Bool.true_and, decide_eq_true_eq]
      by_cases remaining :
          duration - (answers.registration.now - registered.lastTransitionTime) > 0
      · rw [if_pos remaining, if_neg (not_le.mpr remaining)]
      · rw [if_neg remaining, if_pos (not_lt.mp remaining)]
        split <;> simp_all

theorem reconcileInitializationTimeout_failures {registered : Condition} :
    (reconcileInitializationTimeout options nodeClaim registered attempt s).2.failures =
      s.failures := by
  unfold reconcileInitializationTimeout deleteNodeClaimForTimeout
  dsimp only
  cases attempt.delete with
  | ok _ => split_ifs <;> rfl
  | error error => cases error <;> split_ifs <;> rfl

theorem CountedOnce.launch (unregistered : nodeClaim.registered.any (·.isTrue) = false)
    (fresh : s.failures = [])
    (once : (attributed nodeClaim answers.launch).isSome → Deletes answers.launch ∧
      (answers.launch.delete = .ok () → registrationExpired options nodeClaim answers →
        attributed nodeClaim answers.registration = none)) :
    CountedOnce (match Lifecycle.timeOut nodeClaim answers.launch s with
      | (some result, s) => (result, s)
      | (none, s) => reconcileRegistrationTimeout options nodeClaim answers s).2 := by
  have spec := timeOut_spec nodeClaim answers.launch s
  rcases outcome : Lifecycle.timeOut nodeClaim answers.launch s with ⟨_ | result, after⟩
  · rw [outcome] at spec
    cases spec with
    | @deleted recorded records done =>
      have counted : CountedOnce { recorded with deleted := true } := .ofDeleted fresh records
      dsimp only
      rw [reconcileRegistrationTimeout_eq unregistered]
      split_ifs with expired
      · refine counted.timeOut_of_deleted rfl fun touched => ?_
        rcases records with rfl | ⟨uid, isAttributed, -⟩
        · exact absurd fresh touched
        · exact (once (by simp [isAttributed])).2 done expired
      · exact counted
  · have counted := CountedOnce.timeOut fresh fun attributed => (once attributed).1
    rwa [outcome] at counted

theorem reconcile_of_launchExpired (expired : launchExpired nodeClaim answers) :
    nodeClaim.registered.any (·.isTrue) = false ∧ reconcile options nodeClaim answers s =
        match timeOut nodeClaim answers.launch s with
        | (some result, s) => (result, s)
        | (none, s) => reconcileRegistrationTimeout options nodeClaim answers s := by
  simp only [launchExpired, and_eq_true, not_eq_true'] at expired
  obtain ⟨unregistered, late⟩ := expired
  refine ⟨unregistered, ?_⟩
  have filtered : nodeClaim.registered.filter (·.isTrue) = none := by
    cases condition : nodeClaim.registered <;> simp_all [filter_eq_none_iff]
  cases launched : nodeClaim.launched with
  | none => simp [launched] at late
  | some condition =>
    simp only [launched, any_some, and_eq_true, not_eq_true', decide_eq_true_eq] at late
    have notRemaining : ¬launchTimeout - (answers.launch.now - condition.lastTransitionTime) > 0 :=
      not_lt.mpr late.2
    simp only [reconcile, filtered, launched, late.1, false_eq_true, if_false, notRemaining]

theorem reconcile_of_not_launchExpired (inTime : launchExpired nodeClaim answers = false) :
    (reconcile options nodeClaim answers s).2.failures = s.failures ∧
        (nodeClaim.launched.any (·.isTrue) = false ∨ nodeClaim.registered.any (·.isTrue)) ∨
      nodeClaim.launched.any (·.isTrue) ∧ nodeClaim.registered.any (·.isTrue) = false ∧
        reconcile options nodeClaim answers s =
          reconcileRegistrationTimeout options nodeClaim answers s := by
  unfold reconcile
  cases condition : nodeClaim.registered.filter (·.isTrue) with
  | some registered =>
    obtain ⟨found, isTrue⟩ := filter_eq_some_iff.mp condition
    exact .inl ⟨reconcileInitializationTimeout_failures, .inr (by simp [found, isTrue])⟩
  | none =>
    have unregistered : nodeClaim.registered.any (·.isTrue) = false := by
      cases found : nodeClaim.registered <;> simp_all [filter_eq_none_iff]
    cases launched : nodeClaim.launched with
    | none => exact .inl ⟨rfl, .inl rfl⟩
    | some launchedCondition =>
      cases isTrue : launchedCondition.isTrue with
      | true => exact .inr ⟨by simp [isTrue], unregistered, by simp [isTrue]⟩
      | false =>
        have remaining :
            launchTimeout - (answers.launch.now - launchedCondition.lastTransitionTime) > 0 := by
          simpa [launchExpired, unregistered, launched, isTrue] using inTime
        refine .inl ⟨?_, .inl (by simp [isTrue])⟩
        simp only [isTrue, false_eq_true, if_false, if_pos remaining]

theorem CountedOnce.reconcile (fresh : s.failures = [])
    (once : CountsOnce options (.reconcile nodeClaim answers)) :
    CountedOnce (reconcile options nodeClaim answers s).2 := by
  unfold CountsOnce at once
  cases expired : launchExpired nodeClaim answers with
  | true =>
    simp only [expired, if_true] at once
    obtain ⟨unregistered, handled⟩ := @reconcile_of_launchExpired options _ _ s expired
    rw [handled]
    exact .launch unregistered fresh once
  | false =>
    simp only [expired, false_eq_true, if_false] at once
    rcases @reconcile_of_not_launchExpired options _ _ s expired with
      ⟨same, -⟩ | ⟨launched, unregistered, handled⟩
    · exact .ofFresh (same.trans fresh)
    · rw [handled]
      rw [reconcileRegistrationTimeout_eq unregistered]
      split_ifs with late
      · exact .timeOut fresh (once launched late)
      · exact .ofFresh fresh

theorem CountedOnce.step {s' : Ledger} {event : LivenessEvent} (counted : CountedOnce s)
    (once : CountsOnce options event) (done : step options s event = .ok s') : CountedOnce s' := by
  cases event with
  | elsewhere health =>
    cases done
    exact ⟨counted.untouched, counted.atMostOne⟩
  | reconcile nodeClaim answers =>
    simp only [Lifecycle.step] at done
    split_ifs at done with deleted
    cases done
    exact .reconcile (counted.untouched (by simpa using deleted)) once

theorem timeOut_of_not_deletes {uid : String}
    (isAttributed : attributed nodeClaim attempt = some uid) (patched : attempt.patch = .ok ())
    (failed : ¬Deletes attempt) :
    ∃ result, timeOut nodeClaim attempt s = (some result, s.fail uid) := by
  rw [timeOut_of_attributed isAttributed patched]
  unfold timeOut.delete deleteNodeClaimForTimeout
  cases answer : attempt.delete with
  | ok _ => exact absurd (.inl answer) failed
  | error error =>
    cases error with
    | notFound => exact absurd (.inr answer) failed
    | conflict | other => exact ⟨_, rfl⟩

theorem twice_of_fail {uid : String} (kept : s.deleted = false)
    (fails : ∀ s, (reconcile options nodeClaim answers s).2 = s.fail uid) :
    ∃ s', Reaches (step options) (fun _ _ => True) s s' ∧
      s'.failures.length = s.failures.length + 2 := by
  have once : ∀ s : Ledger, s.deleted = false →
      step options s (.reconcile nodeClaim answers) = .ok (s.fail uid) := by
    intro s kept
    simp only [step, kept, false_eq_true, if_false, fails]
  exact ⟨_, .step (.step .start trivial (once s kept)) trivial (once (s.fail uid) kept), by
    simp [Ledger.fail]⟩

theorem twice_of_not_countsOnce (kept : s.deleted = false)
    (launchPatched : answers.launch.patch = .ok ())
    (registrationPatched : answers.registration.patch = .ok ())
    (twice : ¬CountsOnce options (.reconcile nodeClaim answers)) :
    ∃ s', Reaches (step options) (fun _ _ => True) s s' ∧
      s'.failures.length = s.failures.length + 2 := by
  unfold CountsOnce at twice
  cases expired : launchExpired nodeClaim answers with
  | true =>
    simp only [expired, if_true, Classical.not_imp, not_and_or] at twice
    obtain ⟨isAttributed, violated⟩ := twice
    obtain ⟨uid, isAttributed⟩ := isSome_iff_exists.mp isAttributed
    have handled := fun s => (@reconcile_of_launchExpired options _ _ s expired).2
    have unregistered := (@reconcile_of_launchExpired options _ _ s expired).1
    by_cases deletes : Deletes answers.launch
    · obtain ⟨done, late, other⟩ : answers.launch.delete = .ok () ∧
          registrationExpired options nodeClaim answers ∧
            ¬attributed nodeClaim answers.registration = none := by
        simpa [deletes] using violated
      obtain ⟨other, otherAttributed⟩ := ne_none_iff_exists'.mp other
      have first : timeOut nodeClaim answers.launch s =
          (none, { s.fail uid with deleted := true }) := by
        rw [timeOut_of_attributed isAttributed launchPatched]
        simp [timeOut.delete, deleteNodeClaimForTimeout, done]
      have both : step options s (.reconcile nodeClaim answers) =
          .ok (timeOut.delete answers.registration
            ({ s.fail uid with deleted := true }.fail other)).2 := by
        simp only [step, kept, false_eq_true, if_false, handled, first]
        rw [reconcileRegistrationTimeout_eq unregistered, if_pos late,
          timeOut_of_attributed otherAttributed registrationPatched]
      refine ⟨_, .step .start trivial both, ?_⟩
      unfold timeOut.delete deleteNodeClaimForTimeout
      cases answers.registration.delete with
      | ok _ => simp [Ledger.fail]
      | error error => cases error <;> simp [Ledger.fail]
    · refine @twice_of_fail options nodeClaim answers s uid kept fun s => ?_
      obtain ⟨result, failed⟩ := @timeOut_of_not_deletes _ _ s uid isAttributed launchPatched deletes
      rw [handled, failed]
  | false =>
    simp only [expired, false_eq_true, if_false, Classical.not_imp] at twice
    obtain ⟨launched, late, isAttributed, failed⟩ := twice
    obtain ⟨uid, isAttributed⟩ := isSome_iff_exists.mp isAttributed
    refine @twice_of_fail options nodeClaim answers s uid kept fun s => ?_
    rcases @reconcile_of_not_launchExpired options _ _ s expired with
      ⟨-, notLaunched | registered⟩ | ⟨-, unregistered, handled⟩
    · exact absurd launched (by simp [notLaunched])
    · cases condition : nodeClaim.registered <;>
        simp_all [registrationExpired]
    · obtain ⟨result, kept⟩ :=
        @timeOut_of_not_deletes _ _ s uid isAttributed registrationPatched failed
      rw [handled, reconcileRegistrationTimeout_eq unregistered, if_pos late, kept]

end Counting

/-- A NodeClaim whose reconciles count once records at most one failure; and where
one does not, with patches that go through, two are recorded. -/
theorem failures_le_one_of_countsOnce (options : Options) :
    (∀ s, Reaches (step options) (fun _ => CountsOnce options) {} s → s.failures.length ≤ 1) ∧
    ∀ (s : Ledger) (nodeClaim : NodeClaim) (answers : Answers), s.deleted = false →
      answers.launch.patch = .ok () → answers.registration.patch = .ok () →
      ¬CountsOnce options (.reconcile nodeClaim answers) →
      ∃ s', Reaches (step options) (fun _ _ => True) s s' ∧
        s'.failures.length = s.failures.length + 2 := by
  constructor
  · intro s reached
    exact (reached.invariant CountedOnce (.ofFresh rfl) fun _ _ _ counted once done =>
      counted.step once done).atMostOne
  · intro s nodeClaim answers kept launchPatched registrationPatched twice
    exact twice_of_not_countsOnce kept launchPatched registrationPatched twice

def stuckClaim : NodeClaim where
  nodePoolLabel := some "default"
  nodePoolOwners := ["pool"]
  launched := some ⟨false, 0⟩
  registered := some ⟨false, 0⟩

/-- Requests at a time that all go through but the deletion. -/
def attemptAt (now : Int) (delete : Except ApiError Unit) : Attempt where
  now := now
  get := .ok { uid := "pool" }
  delete := delete

def answersAt (now : Int) (delete : Except ApiError Unit) : Answers where
  launch := attemptAt now delete
  timeoutGet := .ok { uid := "pool" }
  registration := attemptAt now delete
  initialization := attemptAt now delete

def defaultOptions : Options where
  parseDuration _ := none

/-- Two reconciles whose deletion fails record two failures, and so does one
reconcile in which the launch and the registration have both expired. -/
theorem stuckClaim_counted_twice :
    (Reaches.follow (step defaultOptions) (fun _ _ => True) {}
      [.reconcile stuckClaim (answersAt (6 * minute) (.error .other)),
        .reconcile stuckClaim (answersAt (6 * minute) (.error .other))]).map (·.failures) =
      some ["pool", "pool"] ∧
    (Reaches.follow (step defaultOptions) (fun _ _ => True) {}
      [.reconcile stuckClaim (answersAt (16 * minute) (.ok ()))]).map (·.failures) =
      some ["pool", "pool"] := by
  decide +kernel

/-- A launch that expires alone and is deleted counts once. -/
theorem stuckClaim_counted_once :
    ∃ s, Reaches (step defaultOptions) (fun _ => CountsOnce defaultOptions) {} s ∧
      s.failures = ["pool"] ∧ s.failures.length ≤ 1 := by
  have expired : launchExpired stuckClaim (answersAt (6 * minute) (.ok ())) := by decide
  have inTime : registrationExpired defaultOptions stuckClaim (answersAt (6 * minute) (.ok ())) =
      false := by
    decide +kernel
  have once : CountsOnce defaultOptions
      (.reconcile stuckClaim (answersAt (6 * minute) (.ok ()))) := by
    exact fun _ => ⟨.inl rfl, fun _ absurdity => Bool.noConfusion absurdity⟩
  have reached : Reaches (step defaultOptions) (fun _ => CountsOnce defaultOptions) {} _ :=
    .step .start once rfl
  exact ⟨_, reached, by decide +kernel, (failures_le_one_of_countsOnce defaultOptions).1 _ reached⟩

end Kraftsman.Lifecycle
