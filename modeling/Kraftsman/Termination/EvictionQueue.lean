import Kraftsman.Apis.Core
import Kraftsman.Data.Runs

/-!
Contract: the queue that evicts the pods of draining nodes.

A pod's key stays in the queue's set until it is evicted. Requests carry the
pod's name only: they come from the event channel, are merged while they wait,
and are requeued after an error.

Owns: the interleavings of additions with reconciles under any answer of the API
server, and which keep a request for every key.
Does not own: which pods are evictable, and the rate limits of retries.
-/

namespace Kraftsman.Termination

open Apis Data Finset

/-- A pod under the name by which it is requested. -/
structure QueueKey extends NamespacedName where
  uid : String
  deriving DecidableEq, Repr

/-- How an eviction is answered. If a disruption budget is violated, the pod's
node is looked up for an event. -/
inductive EvictionOutcome where
  | created
  | notFound
  | conflict
  | tooManyRequests (nodeFound : Bool)
  | multiplePodDisruptionBudgets (nodeFound : Bool)
  | otherError
  deriving DecidableEq, Repr

inductive ReconcileResult where
  | done
  | requeue
  | error
  deriving DecidableEq, Repr

/-- How a reconcile ends once the eviction is answered. -/
def EvictionOutcome.result : EvictionOutcome → ReconcileResult
  | .created => .done
  -- the pod no longer exists, or is not the pod that was to be evicted
  | .notFound | .conflict => .done
  | .tooManyRequests nodeFound | .multiplePodDisruptionBudgets nodeFound =>
    if nodeFound then .requeue else .error
  | .otherError => .error

inductive EvictionStage where
  /-- about to read the pod under its name -/
  | reading
  /-- about to look the pod's key up -/
  | checking (uid : String)
  /-- waiting for the answer of the API server -/
  | evicting (uid : String)
  deriving DecidableEq, Repr

/-- The queue: `dirty` requests wait for a worker, `processing` ones have one,
`requeued` ones wait for a retry. These three stand for the work queue of
controller-runtime, with the behaviour it documents: a request added twice is
handled once, none is given to two workers at a time, and one that ends with an
error or asks for a retry is added again after a delay. -/
structure Queue where
  set : Finset QueueKey := ∅
  source : List NamespacedName := []
  dirty : Finset NamespacedName := ∅
  processing : GoMap NamespacedName EvictionStage := ∅
  requeued : Finset NamespacedName := ∅

inductive QueueEvent where
  /-- pods are added -/
  | add (pods : List QueueKey)
  /-- an event of the channel becomes a request, merged with one that waits -/
  | deliver
  /-- the delay of a retry is over, whatever its length -/
  | retry (name : NamespacedName)
  /-- a worker takes a request that no other worker has -/
  | start (name : NamespacedName)
  /-- the worker reads the pod under the name, if there is one -/
  | read (name : NamespacedName) (uid : Option String)
  /-- the pod cannot be read, which is an error unless it is gone -/
  | failRead (name : NamespacedName)
  /-- the reconcile looks the pod's key up -/
  | check (name : NamespacedName)
  /-- the eviction is answered -/
  | respond (name : NamespacedName) (outcome : EvictionOutcome)
  deriving DecidableEq

namespace Queue

def addOne (q : Queue) (pod : QueueKey) : Queue :=
  if pod ∈ q.set then q
  else { q with set := insert pod q.set, source := q.source ++ [pod.toNamespacedName] }

def add (q : Queue) (pods : List QueueKey) : Queue := pods.foldl addOne q

variable (q : Queue) (name : NamespacedName)

def finish (result : ReconcileResult) : Queue :=
  { q with
    processing := q.processing.erase name
    requeued := if result = .done then q.requeued else insert name q.requeued }

def setStage (stage : EvictionStage) : Queue :=
  { q with processing := q.processing.insert name stage }

/-- Only a successful eviction takes the key out. -/
def respond (uid : String) (outcome : EvictionOutcome) : Queue :=
  match outcome with
  | .created => { q with set := q.set.erase ⟨name, uid⟩ }.finish name outcome.result
  | _ => q.finish name outcome.result

def step (q : Queue) : QueueEvent → Except Unit Queue
  | .add pods => .ok (q.add pods)
  | .deliver =>
    match q.source with
    | [] => .error ()
    | name :: rest => .ok { q with source := rest, dirty := insert name q.dirty }
  | .retry name =>
    if name ∈ q.requeued then
      .ok { q with requeued := q.requeued.erase name, dirty := insert name q.dirty }
    else .error ()
  | .start name =>
    if name ∈ q.dirty ∧ name ∉ q.processing then
      .ok ({ q with dirty := q.dirty.erase name }.setStage name .reading)
    else .error ()
  | .read name uid =>
    match q.processing.lookup name, uid with
    -- a pod that is gone ends the reconcile before it begins
    | some .reading, none => .ok (q.finish name .done)
    | some .reading, some uid => .ok (q.setStage name (.checking uid))
    | _, _ => .error ()
  | .failRead name =>
    match q.processing.lookup name with
    | some .reading => .ok (q.finish name .error)
    | _ => .error ()
  | .check name =>
    match q.processing.lookup name with
    | some (.checking uid) =>
      -- another pod under the same name is left alone
      if ⟨name, uid⟩ ∈ q.set then .ok (q.setStage name (.evicting uid))
      else .ok (q.finish name .done)
    | _ => .error ()
  | .respond name outcome =>
    match q.processing.lookup name with
    | some (.evicting uid) => .ok (q.respond name uid outcome)
    | _ => .error ()

/-- A request for the name will reach a worker. -/
def Waiting : Prop :=
  name ∈ q.source ∨ name ∈ q.dirty ∨ name ∈ q.requeued

/-- A request for the name is pending, in flight or requeued. -/
def Outstanding : Prop := q.Waiting name ∨ name ∈ q.processing

def Live (q : Queue) : Prop := ∀ key ∈ q.set, q.Outstanding key.toNamespacedName

/-- Pods that were added are still there when read, one under each name, and
evictions are not answered with 404 or 409. -/
def Undisturbed (q : Queue) : QueueEvent → Prop
  | .read name uid => ∀ key ∈ q.set, key.toNamespacedName = name → uid = some key.uid
  | .respond _ outcome => outcome ≠ .notFound ∧ outcome ≠ .conflict
  | _ => True

/-- The key that the reconcile in flight for a name answers for. -/
def answersFor : EvictionStage → Option String
  | .reading => none
  | .checking uid | .evicting uid => some uid

/-- Beside the requests that wait, a reconcile that has read its pod answers for that pod only. -/
structure Invariant (q : Queue) : Prop where
  live : q.Live
  inFlight : ∀ name stage uid, q.processing.lookup name = some stage → answersFor stage = some uid →
    ∀ key ∈ q.set, key.toNamespacedName = name → key.uid = uid ∨ q.Waiting name

theorem invariant_empty : Invariant {} where
  live := by simp [Live]
  inFlight := by simp

variable {name} {q : Queue}

theorem eq_of_name_uid {key : QueueKey} {uid : String} (sameName : key.toNamespacedName = name)
    (sameUid : key.uid = uid) : key = ⟨name, uid⟩ := by
  subst sameName sameUid
  rfl

theorem Invariant.ofWaiting {q' : Queue} (invariant : Invariant q) (set : q'.set = q.set)
    (processing : q'.processing = q.processing) (waiting : ∀ name, q.Waiting name → q'.Waiting name) :
    Invariant q' where
  live := by
    intro key member
    rw [set] at member
    unfold Outstanding
    rw [processing]
    exact (invariant.live key member).imp_left (waiting _)
  inFlight := by
    intro name stage uid found answers key member sameName
    rw [processing] at found
    rw [set] at member
    exact (invariant.inFlight name stage uid found answers key member sameName).imp_right (waiting _)

theorem Invariant.addOne (invariant : Invariant q) (pod : QueueKey) : Invariant (q.addOne pod) := by
  unfold Queue.addOne
  split_ifs with present
  · exact invariant
  · have waiting : ∀ name, q.Waiting name →
        Waiting { q with set := insert pod q.set, source := q.source ++ [pod.toNamespacedName] }
          name := fun name => Or.imp_left (List.mem_append_left _)
    have added : Waiting { q with
        set := insert pod q.set, source := q.source ++ [pod.toNamespacedName] }
          pod.toNamespacedName := .inl (by simp)
    constructor
    · intro key member
      rcases mem_insert.mp member with rfl | member
      · exact .inl added
      · exact (invariant.live key member).imp_left (waiting _)
    · rintro name stage uid found answers key member rfl
      rcases mem_insert.mp member with rfl | member
      · exact .inr added
      · exact (invariant.inFlight _ stage uid found answers key member rfl).imp_right (waiting _)

theorem Invariant.add {q : Queue} (invariant : Invariant q) (pods : List QueueKey) :
    Invariant (q.add pods) := by
  induction pods generalizing q with
  | nil => exact invariant
  | cons pod rest ih => exact ih (invariant.addOne pod)

section

variable (invariant : Invariant q)
include invariant

theorem Invariant.start (name : NamespacedName) :
    Invariant ({ q with dirty := q.dirty.erase name }.setStage name .reading) := by
  have waiting : ∀ other, other ≠ name → q.Waiting other →
      Waiting ({ q with dirty := q.dirty.erase name }.setStage name .reading) other := by
    intro other different
    exact Or.imp_right (Or.imp_left fun member => mem_erase.mpr ⟨different, member⟩)
  constructor
  · intro key member
    by_cases same : key.toNamespacedName = name
    · exact .inr ((AList.mem_insert _).mpr (.inl same))
    · exact (invariant.live key member).imp (waiting _ same) fun inFlight =>
        (AList.mem_insert _).mpr (.inr inFlight)
  · rintro other stage uid found answers key member rfl
    dsimp only [setStage] at found
    rw [GoMap.lookup_insert_eq] at found
    split_ifs at found with same
    · cases found
      cases answers
    · exact (invariant.inFlight _ stage uid found answers key member rfl).imp_right (waiting _ same)

theorem Invariant.setStage {stage : EvictionStage}
    (answersOnly : ∀ uid, answersFor stage = some uid →
      ∀ key ∈ q.set, key.toNamespacedName = name → key.uid = uid ∨ q.Waiting name) :
    Invariant (q.setStage name stage) := by
  constructor
  · intro key member
    exact (invariant.live key member).imp_right fun inFlight => (AList.mem_insert _).mpr (.inr inFlight)
  · intro other stage' uid found answers key member sameName
    dsimp only [Queue.setStage] at found
    rw [GoMap.lookup_insert_eq] at found
    split_ifs at found with same
    · cases found
      subst same
      exact answersOnly uid answers key member sameName
    · exact invariant.inFlight other stage' uid found answers key member sameName

/-- A reconcile may end without a retry when no key of its name is left without a request. -/
theorem Invariant.finish {result : ReconcileResult} {set : Finset QueueKey} (subset : set ⊆ q.set)
    (covered : result = .done → ∀ key ∈ set, key.toNamespacedName = name → q.Waiting name) :
    Invariant ({ q with set := set }.finish name result) := by
  have waiting : ∀ other, q.Waiting other →
      Waiting ({ q with set := set }.finish name result) other := by
    intro other
    refine Or.imp_right (Or.imp_right fun member => ?_)
    dsimp only [Queue.finish]
    split_ifs
    · exact member
    · exact mem_insert_of_mem member
  constructor
  · intro key member
    by_cases same : key.toNamespacedName = name
    · by_cases done : result = .done
      · exact .inl (waiting _ (same ▸ covered done key member same))
      · refine .inl (.inr (.inr ?_))
        dsimp only [Queue.finish]
        rw [if_neg done, same]
        exact mem_insert_self _ _
    · exact (invariant.live key (subset member)).imp (waiting _) fun inFlight =>
        AList.mem_erase.mpr ⟨same, inFlight⟩
  · intro other stage uid found answers key member sameName
    dsimp only [Queue.finish] at found
    rw [GoMap.lookup_erase_eq] at found
    split_ifs at found with same
    exact (invariant.inFlight other stage uid found answers key (subset member) sameName).imp_right
      (waiting _)

theorem Invariant.step {q' : Queue} {event : QueueEvent} (undisturbed : q.Undisturbed event)
    (done : q.step event = .ok q') : Invariant q' := by
  cases event with
  | add pods =>
    cases done
    exact invariant.add pods
  | deliver =>
    simp only [Queue.step] at done
    cases source : q.source with
    | nil => simp [source] at done
    | cons name rest =>
      rw [source] at done
      cases done
      refine invariant.ofWaiting rfl rfl ?_
      rintro other (inSource | inDirty | inRequeued)
      · rw [source] at inSource
        rcases List.mem_cons.mp inSource with rfl | later
        · exact .inr (.inl (mem_insert_self _ _))
        · exact .inl later
      · exact .inr (.inl (mem_insert_of_mem inDirty))
      · exact .inr (.inr inRequeued)
  | retry name =>
    simp only [Queue.step] at done
    split_ifs at done
    cases done
    refine invariant.ofWaiting rfl rfl ?_
    rintro other (inSource | inDirty | inRequeued)
    · exact .inl inSource
    · exact .inr (.inl (mem_insert_of_mem inDirty))
    · by_cases same : other = name
      · exact .inr (.inl (same ▸ mem_insert_self _ _))
      · exact .inr (.inr (mem_erase.mpr ⟨same, inRequeued⟩))
  | start name =>
    simp only [Queue.step] at done
    split_ifs at done
    cases done
    exact invariant.start name
  | read name uid =>
    simp only [Queue.step] at done
    split at done
    · cases done
      refine invariant.finish subset_rfl fun _ key member sameName => ?_
      cases undisturbed key member sameName
    · cases done
      refine invariant.setStage fun other answers key member sameName => .inl ?_
      have isRead := undisturbed key member sameName
      exact (Option.some.inj isRead).symm.trans (Option.some.inj answers)
    · cases done
  | failRead name =>
    simp only [Queue.step] at done
    split at done
    · cases done
      exact invariant.finish subset_rfl fun isDone => by cases isDone
    · cases done
  | check name =>
    simp only [Queue.step] at done
    split at done
    · rename_i uid found
      have inFlight := invariant.inFlight name _ uid found rfl
      split_ifs at done with present
      · cases done
        refine invariant.setStage fun other answers => ?_
        cases answers
        exact inFlight
      · cases done
        refine invariant.finish subset_rfl fun _ key member sameName => ?_
        rcases inFlight key member sameName with sameUid | waiting
        · exact absurd (eq_of_name_uid sameName sameUid ▸ member) present
        · exact waiting
    · cases done
  | respond name outcome =>
    simp only [Queue.step] at done
    split at done
    · rename_i uid found
      have inFlight := invariant.inFlight name _ uid found rfl
      cases done
      cases outcome with
      | created =>
        refine invariant.finish (erase_subset _ _) fun _ key member sameName => ?_
        obtain ⟨different, member⟩ := mem_erase.mp member
        rcases inFlight key member sameName with sameUid | waiting
        · exact absurd (eq_of_name_uid sameName sameUid) different
        · exact waiting
      | notFound => exact absurd rfl undisturbed.1
      | conflict => exact absurd rfl undisturbed.2
      | tooManyRequests nodeFound | multiplePodDisruptionBudgets nodeFound =>
        refine invariant.finish subset_rfl fun done => ?_
        cases nodeFound <;> cases done
      | otherError =>
        refine invariant.finish subset_rfl fun done => ?_
        cases done
    · cases done

end

/-- A reconcile that ends without a retry leaves a key of its name without a
request, unless one is waiting. -/
theorem not_live_of_finish {key : QueueKey} (inSet : key ∈ q.set)
    (sameName : key.toNamespacedName = name) (notWaiting : ¬q.Waiting name) :
    ¬(q.finish name .done).Live := by
  intro live
  subst sameName
  rcases live key inSet with waiting | inFlight
  · exact notWaiting waiting
  · exact (AList.mem_erase.mp inFlight).1 rfl

/-- Where pods stay undisturbed every key has an outstanding request; and where a
reconcile finds its pod gone, or its eviction answered with 404 or 409, the key
of its name is left without one unless another request is waiting. -/
theorem live_of_undisturbed (q : Queue) :
    (Reaches step Undisturbed {} q → q.Live) ∧
    ∀ key ∈ q.set, ¬q.Waiting key.toNamespacedName →
      (q.processing.lookup key.toNamespacedName = some .reading →
        ∃ q', q.step (.read key.toNamespacedName none) = .ok q' ∧ ¬q'.Live) ∧
      (∀ uid outcome, q.processing.lookup key.toNamespacedName = some (.evicting uid) →
        outcome = .notFound ∨ outcome = .conflict →
        ∃ q', q.step (.respond key.toNamespacedName outcome) = .ok q' ∧ ¬q'.Live) := by
  constructor
  · intro reached
    exact (reached.invariant Invariant invariant_empty fun _ _ _ invariant undisturbed done =>
      invariant.step undisturbed done).live
  · intro key inSet notWaiting
    have left := not_live_of_finish inSet rfl notWaiting
    constructor
    · intro found
      exact ⟨_, by simp only [step, found], left⟩
    · rintro uid outcome found (rfl | rfl)
      · exact ⟨_, by simp only [step, found, respond, EvictionOutcome.result], left⟩
      · exact ⟨_, by simp only [step, found, respond, EvictionOutcome.result], left⟩

instance (q : Queue) : (event : QueueEvent) → Decidable (q.Undisturbed event)
  | .read name uid =>
    inferInstanceAs (Decidable (∀ key ∈ q.set, key.toNamespacedName = name → uid = some key.uid))
  | .respond _ outcome => inferInstanceAs (Decidable (outcome ≠ .notFound ∧ outcome ≠ .conflict))
  | .add _ | .deliver | .retry _ | .start _ | .failRead _ | .check _ =>
    inferInstanceAs (Decidable True)

def drainedPod : QueueKey := ⟨⟨"default", "pod"⟩, "uid"⟩

/-- A pod is added, and its eviction is answered. -/
def answeredEviction (outcome : EvictionOutcome) : List QueueEvent :=
  [.add [drainedPod], .deliver, .start drainedPod.toNamespacedName,
    .read drainedPod.toNamespacedName (some "uid"), .check drainedPod.toNamespacedName,
    .respond drainedPod.toNamespacedName outcome]

/-- The eviction violates a disruption budget, and the pod cannot be read at the retry. -/
def retriedEviction : List QueueEvent :=
  answeredEviction (.tooManyRequests true) ++ [.retry drainedPod.toNamespacedName,
    .start drainedPod.toNamespacedName, .failRead drainedPod.toNamespacedName]

theorem retriedEviction_live :
    ∃ q : Queue, Reaches step Undisturbed {} q ∧ drainedPod ∈ q.set ∧ q.Live := by
  obtain ⟨q, reached, inSet⟩ : ∃ q : Queue, Reaches step Undisturbed {} q ∧ drainedPod ∈ q.set :=
    Reaches.exists_of_follow retriedEviction (by decide +kernel)
  exact ⟨q, reached, inSet, (live_of_undisturbed q).1 reached⟩

def goneBeforeReconcile : List QueueEvent :=
  [.add [drainedPod], .deliver, .start drainedPod.toNamespacedName,
    .read drainedPod.toNamespacedName none]

/-- Whether the pod's key is in the set without a request outstanding. -/
def forgotten (q : Queue) : Bool :=
  drainedPod ∈ q.set && q.source.isEmpty && decide (q.dirty = ∅) && decide (q.requeued = ∅) &&
    decide (drainedPod.toNamespacedName ∉ q.processing)

theorem not_live_of_forgotten (isForgotten : q.forgotten) : ¬q.Live := by
  simp only [forgotten, Bool.and_eq_true, decide_eq_true_eq, List.isEmpty_iff] at isForgotten
  obtain ⟨⟨⟨⟨inSet, noSource⟩, noDirty⟩, noRequeued⟩, notInFlight⟩ := isForgotten
  intro live
  rcases live drainedPod inSet with (inSource | inDirty | inRequeued) | inFlight
  · simp [noSource] at inSource
  · simp [noDirty] at inDirty
  · simp [noRequeued] at inRequeued
  · exact notInFlight inFlight

theorem exists_forgotten {events : List QueueEvent}
    (followed : (Reaches.follow step (fun _ _ => True) {} events).map forgotten = some true) :
    ∃ q : Queue, Reaches step (fun _ _ => True) {} q ∧
      Reaches.follow step (fun _ _ => True) {} events = some q ∧ ¬q.Live := by
  obtain ⟨q, reached, isForgotten⟩ := Option.map_eq_some_iff.mp followed
  exact ⟨q, .of_follow .start reached, reached, not_live_of_forgotten isForgotten⟩

/-- A 404, a 409 and a pod that is gone all leave the key in the set for good. -/
theorem answered_evictions_forgotten :
    (∃ q : Queue, Reaches step (fun _ _ => True) {} q ∧
      Reaches.follow step (fun _ _ => True) {} (answeredEviction .notFound) = some q ∧ ¬q.Live) ∧
    (∃ q : Queue, Reaches step (fun _ _ => True) {} q ∧
      Reaches.follow step (fun _ _ => True) {} (answeredEviction .conflict) = some q ∧ ¬q.Live) ∧
    ∃ q : Queue, Reaches step (fun _ _ => True) {} q ∧
      Reaches.follow step (fun _ _ => True) {} goneBeforeReconcile = some q ∧ ¬q.Live :=
  ⟨exists_forgotten (by decide +kernel), exists_forgotten (by decide +kernel),
    exists_forgotten (by decide +kernel)⟩

end Queue

end Kraftsman.Termination
