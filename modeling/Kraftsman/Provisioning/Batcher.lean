import Kraftsman.Data.GoMap
import Kraftsman.Data.Runs
import Mathlib.Data.Fintype.EquivFin

/-!
Contract: the batcher that groups triggers into windows.

Any number of callers trigger and one loop waits. Every atomic step of a call is
an event: looking the element up, arming the channel, inserting the element, and
clearing the elements at the end of a wait.

Owns: the interleavings of triggers with the waiting loop, and which keep every
trigger.
Does not own: what is done with a batch, and the lengths of windows: a timer may
expire at any moment.
-/

namespace Kraftsman.Provisioning

open Data GoMap Option

inductive TriggerStage where
  /-- about to look its element up -/
  | checking
  /-- about to arm the channel -/
  | arming
  /-- about to insert its element -/
  | inserting
  | returned
  deriving DecidableEq, Repr

/-- A call to `Trigger`. `served`: a wait has returned true since it began. -/
structure TriggerCall (α : Type) where
  elem : α
  stage : TriggerStage := .checking
  served : Bool := false

inductive WaitPhase where
  /-- between two calls to `Wait` -/
  | outside
  /-- waiting for the first trigger -/
  | waiting
  /-- after the first trigger, waiting for more -/
  | window
  /-- the result is decided, the elements are not cleared yet -/
  | closing (result : Bool)
  deriving DecidableEq, Repr

/-- Whether a wait has received a trigger and has not returned. -/
def WaitPhase.inWindow : WaitPhase → Bool
  | .window | .closing true => true
  | _ => false

/-- A batcher with its callers. The channel has a capacity of one. -/
structure Batcher (α : Type) where
  trigger : Bool := false
  elems : Finset α := ∅
  wait : WaitPhase := .outside
  calls : GoMap Nat (TriggerCall α) := ∅

inductive BatcherEvent (α : Type) where
  /-- a call to `Trigger` begins -/
  | begin (call : Nat) (elem : α)
  /-- a call takes its next step -/
  | advance (call : Nat)
  /-- `Wait` is called -/
  | enter
  /-- the wait receives the token of the channel -/
  | receive
  /-- the timer that the wait waits for expires -/
  | expire
  /-- the deferred clearing of the elements, with which `Wait` returns -/
  | clear
  deriving DecidableEq

namespace Batcher

variable {α : Type}

section Steps

variable [DecidableEq α]

/-- The next step of a call: an element that is already there returns at once. -/
def advance (b : Batcher α) (id : Nat) (call : TriggerCall α) : Except Unit (Batcher α) :=
  match call.stage with
  | .checking =>
    let stage := if call.elem ∈ b.elems then .returned else .arming
    .ok { b with calls := b.calls.insert id { call with stage := stage } }
  | .arming =>
    -- the send never blocks: a full channel is left as it is
    .ok { b with trigger := true, calls := b.calls.insert id { call with stage := .inserting } }
  | .inserting =>
    let calls := b.calls.insert id { call with stage := .returned }
    .ok { b with elems := insert call.elem b.elems, calls := calls }
  | .returned => .error ()

/-- Every call that has begun is served once a wait returns true. -/
def serve (result : Bool) (calls : GoMap Nat (TriggerCall α)) : GoMap Nat (TriggerCall α) :=
  calls.mapValues fun call => { call with served := call.served || result }

def step (b : Batcher α) : BatcherEvent α → Except Unit (Batcher α)
  | .begin id elem =>
    if id ∈ b.calls then .error () else .ok { b with calls := b.calls.insert id { elem := elem } }
  | .advance id =>
    match b.calls.lookup id with
    | none => .error ()
    | some call => b.advance id call
  | .enter => if b.wait = .outside then .ok { b with wait := .waiting } else .error ()
  | .receive =>
    if b.trigger = true ∧ (b.wait = .waiting ∨ b.wait = .window) then
      .ok { b with trigger := false, wait := .window }
    else .error ()
  | .expire =>
    match b.wait with
    | .waiting => .ok { b with wait := .closing false }
    | .window => .ok { b with wait := .closing true }
    | _ => .error ()
  | .clear =>
    match b.wait with
    | .closing result => .ok { b with elems := ∅, wait := .outside, calls := serve result b.calls }
    | _ => .error ()

variable {id : Nat} {b : Batcher α} {call : TriggerCall α}

theorem step_begin (b : Batcher α) (absent : id ∉ b.calls) (elem : α) :
    b.step (.begin id elem) = .ok { b with calls := b.calls.insert id { elem := elem } } :=
  if_neg absent

theorem step_advance (found : b.calls.lookup id = some call) :
    b.step (.advance id) = b.advance id call := by
  simp only [step, found]

theorem advance_present (b : Batcher α) (id : Nat) (stage : call.stage = .checking)
    (present : call.elem ∈ b.elems) :
    b.advance id call =
      .ok { b with calls := b.calls.insert id { call with stage := .returned } } := by
  simp only [advance, stage, if_pos present]

theorem advance_inserting (b : Batcher α) (id : Nat) (stage : call.stage = .inserting) :
    b.advance id call =
      .ok { b with
        elems := insert call.elem b.elems
        calls := b.calls.insert id { call with stage := .returned } } := by
  simp only [advance, stage]

theorem step_clear {result : Bool} (closing : b.wait = .closing result) : b.step .clear =
      .ok { b with elems := ∅, wait := .outside, calls := serve result b.calls } := by
  simp only [step, closing]

end Steps

/-- A wait is inside its window, or the channel will start one. -/
def UnderWay (b : Batcher α) : Prop := b.wait.inWindow = true ∨ b.trigger = true

/-- A call that has returned was served or has a batch under way, and no element is left over. -/
structure NothingLost (b : Batcher α) : Prop where
  returned : ∀ id call, b.calls.lookup id = some call → call.stage = .returned →
    call.served = true ∨ b.UnderWay
  elems : ∀ elem ∈ b.elems, b.UnderWay

/-- Some call has armed the channel and not inserted its element yet. -/
def midway (b : Batcher α) : Bool := b.calls.values.any fun call => call.stage = .inserting

variable {b b' : Batcher α}

theorem midway_iff :
    b.midway ↔ ∃ id call, b.calls.lookup id = some call ∧ call.stage = .inserting := by
  simp only [midway, List.any_eq_true, mem_values_iff, decide_eq_true_eq]
  constructor
  · rintro ⟨call, ⟨id, found⟩, stage⟩
    exact ⟨id, call, found, stage⟩
  · rintro ⟨id, call, found, stage⟩
    exact ⟨call, ⟨id, found⟩, stage⟩

/-- A wait clears only while no call is about to insert its element, or the
channel holds a token. -/
def ClearsInTime (b : Batcher α) (event : BatcherEvent α) : Prop :=
  event = .clear → b.midway = true → b.trigger = true

/-- An element about to be inserted has a batch under way like one that is there. -/
structure Invariant (b : Batcher α) : Prop extends NothingLost b where
  inserting : ∀ id call, b.calls.lookup id = some call → call.stage = .inserting → b.UnderWay

theorem invariant_empty : Invariant ({} : Batcher α) where
  returned := by simp
  elems := by simp
  inserting := by simp

theorem Invariant.setCall (invariant : Invariant b) {id : Nat} {call : TriggerCall α}
    (calls : b'.calls = b.calls.insert id call) (stays : b.UnderWay → b'.UnderWay)
    (elems : ∀ elem ∈ b'.elems, b'.UnderWay) (returned : call.stage = .returned → b'.UnderWay)
    (inserting : call.stage = .inserting → b'.UnderWay) : Invariant b' where
  returned := by
    intro other found lookedUp stage
    rw [calls, lookup_insert_eq] at lookedUp
    split_ifs at lookedUp with same
    · cases lookedUp
      exact .inr (returned stage)
    · exact (invariant.returned other found lookedUp stage).imp_right stays
  elems := elems
  inserting := by
    intro other found lookedUp stage
    rw [calls, lookup_insert_eq] at lookedUp
    split_ifs at lookedUp with same
    · cases lookedUp
      exact inserting stage
    · exact stays (invariant.inserting other found lookedUp stage)

theorem Invariant.ofWait (invariant : Invariant b) (calls : b'.calls = b.calls)
    (elems : b'.elems = b.elems) (stays : b.UnderWay → b'.UnderWay) : Invariant b' where
  returned := fun id call found stage =>
    (invariant.returned id call (calls ▸ found) stage).imp_right stays
  elems := fun elem member => stays (invariant.elems elem (elems ▸ member))
  inserting := fun id call found stage =>
    stays (invariant.inserting id call (calls ▸ found) stage)

section Runs

variable [DecidableEq α]

variable {b b' : Batcher α}

theorem Invariant.advance (invariant : Invariant b) {id : Nat} {call : TriggerCall α}
    (found : b.calls.lookup id = some call) (done : b.advance id call = .ok b') : Invariant b' := by
  unfold Batcher.advance at done
  cases stage : call.stage with
  | checking =>
    rw [stage] at done
    cases done
    refine invariant.setCall rfl (fun underWay => underWay) invariant.elems ?_ ?_
    · intro returned
      split_ifs at returned with present
      exact invariant.elems call.elem present
    · intro inserting
      split_ifs at inserting
  | arming =>
    rw [stage] at done
    cases done
    exact invariant.setCall rfl (fun _ => .inr rfl) (fun _ _ => .inr rfl) (fun _ => .inr rfl)
      fun _ => .inr rfl
  | inserting =>
    rw [stage] at done
    cases done
    have underWay : b.UnderWay := invariant.inserting id call found stage
    exact invariant.setCall rfl (fun underWay => underWay) (fun _ _ => underWay)
      (fun _ => underWay) fun _ => underWay
  | returned =>
    rw [stage] at done
    cases done

/-- A wait that returns true serves every call, and one that returns false was not
inside a window. -/
theorem Invariant.clear (invariant : Invariant b) (inTime : b.midway → b.trigger)
    (done : b.step .clear = .ok b') :
    Invariant b' := by
  cases wait : b.wait with
  | closing result =>
    obtain rfl := Except.ok.inj ((step_clear wait).symm.trans done)
    refine ⟨⟨?_, by simp⟩, ?_⟩
    · intro id call found stage
      rw [serve, lookup_mapValues] at found
      obtain ⟨before, lookedUp, rfl⟩ := map_eq_some_iff.mp found
      cases result with
      | true => exact .inl (Bool.or_true _)
      | false =>
        rcases invariant.returned id before lookedUp stage with served | inWindow | trigger
        · exact .inl (by rw [served, Bool.true_or])
        · rw [wait] at inWindow
          cases inWindow
        · exact .inr (.inr trigger)
    · intro id call found stage
      rw [serve, lookup_mapValues] at found
      obtain ⟨before, lookedUp, rfl⟩ := map_eq_some_iff.mp found
      exact .inr (inTime (midway_iff.mpr ⟨id, before, lookedUp, stage⟩))
  | outside | waiting | window => simp [step, wait] at done

theorem Invariant.step {event : BatcherEvent α} (invariant : Invariant b)
    (inTime : b.ClearsInTime event) (done : b.step event = .ok b') : Invariant b' := by
  cases event with
  | begin id elem =>
    simp only [Batcher.step] at done
    split_ifs at done
    cases done
    exact invariant.setCall rfl (fun underWay => underWay) invariant.elems
      (fun absurdity => by cases absurdity) fun absurdity => by cases absurdity
  | advance id =>
    cases found : b.calls.lookup id with
    | none => simp [Batcher.step, found] at done
    | some call => exact invariant.advance found ((step_advance found).symm.trans done)
  | enter =>
    simp only [Batcher.step] at done
    split_ifs at done with outside
    cases done
    refine invariant.ofWait rfl rfl ?_
    rintro (inWindow | trigger)
    · rw [outside] at inWindow
      cases inWindow
    · exact .inr trigger
  | receive =>
    simp only [Batcher.step] at done
    split_ifs at done
    cases done
    exact invariant.ofWait rfl rfl fun _ => .inl rfl
  | expire =>
    simp only [Batcher.step] at done
    cases wait : b.wait with
    | waiting =>
      rw [wait] at done
      cases done
      refine invariant.ofWait rfl rfl ?_
      rintro (inWindow | trigger)
      · rw [wait] at inWindow
        cases inWindow
      · exact .inr trigger
    | window =>
      rw [wait] at done
      cases done
      exact invariant.ofWait rfl rfl fun _ => .inl rfl
    | outside | closing result =>
      rw [wait] at done
      cases done
  | clear => exact invariant.clear (inTime rfl) done

def Lost (b : Batcher α) (id : Nat) : Prop :=
  ∃ call, b.calls.lookup id = some call ∧ call.stage = .returned ∧ call.served = false ∧
    ¬b.UnderWay

theorem lost_of_leftover {elem : α} (leftover : elem ∈ b.elems) (notUnderWay : ¬b.UnderWay) :
    ∃ b' id, Reaches step (fun _ _ => True) b b' ∧ b'.Lost id := by
  obtain ⟨id, fresh⟩ := Infinite.exists_notMem_finset b.calls.keys.toFinset
  have absent : id ∉ b.calls := fun member => fresh (List.mem_toFinset.mpr member)
  have begins := step_begin b absent elem
  have found : (b.calls.insert id { elem := elem }).lookup id = some { elem := elem } := by
    rw [lookup_insert_eq, if_pos rfl]
  have returns := (step_advance (b := { b with calls := b.calls.insert id { elem := elem } })
    found).trans (advance_present _ id rfl leftover)
  refine ⟨_, id, .step (.step .start trivial begins) trivial returns,
    { elem := elem, stage := .returned }, ?_, rfl, rfl, notUnderWay⟩
  rw [lookup_insert_eq, if_pos rfl]

theorem leftover_of_early_clear (closing : b.wait = .closing true) (noToken : b.trigger = false)
    (isMidway : b.midway) :
    ∃ b' elem, Reaches step (fun _ _ => True) b b' ∧ elem ∈ b'.elems ∧ ¬b'.UnderWay := by
  obtain ⟨id, call, found, stage⟩ := midway_iff.mp isMidway
  have clears := step_clear closing
  have foundServed : (serve true b.calls).lookup id =
      some { call with served := call.served || true } := by
    rw [serve, lookup_mapValues, found]
    rfl
  have inserts := (step_advance (b := { b with
    elems := ∅, wait := .outside, calls := serve true b.calls }) foundServed).trans
      (advance_inserting _ id stage)
  refine ⟨_, call.elem, .step (.step .start trivial clears) trivial inserts,
    Finset.mem_insert_self _ _, ?_⟩
  rintro (inWindow | trigger)
  · cases inWindow
  · exact absurd trigger (by simp [noToken])

/-- Runs whose waits clear in time lose no trigger; and wherever a wait that will
return true clears too early, a trigger can be lost. -/
theorem nothing_lost_of_clears_in_time :
    (∀ b : Batcher α, Reaches step ClearsInTime {} b → NothingLost b) ∧
    ∀ b : Batcher α, b.wait = .closing true → ¬b.ClearsInTime .clear →
      ∃ b' id, Reaches step (fun _ _ => True) b b' ∧ b'.Lost id := by
  constructor
  · intro b reached
    exact (reached.invariant Invariant invariant_empty fun _ _ _ invariant inTime done =>
      invariant.step inTime done).toNothingLost
  · intro b closing late
    have early : b.midway ∧ b.trigger = false := by
      simpa [ClearsInTime] using late
    obtain ⟨middle, elem, reached, leftover, notUnderWay⟩ :=
      leftover_of_early_clear closing early.2 early.1
    obtain ⟨final, id, continued, lost⟩ := lost_of_leftover leftover notUnderWay
    exact ⟨final, id, reached.trans continued, lost⟩

end Runs

instance [DecidableEq α] (b : Batcher α) (event : BatcherEvent α) :
    Decidable (b.ClearsInTime event) :=
  inferInstanceAs (Decidable (event = .clear → b.midway = true → b.trigger = true))

/-- A call returns before the window that took its token ends. -/
def timelyRun : List (BatcherEvent Nat) :=
  [.enter, .begin 0 7, .advance 0, .advance 0, .receive, .advance 0, .expire, .clear]

theorem timelyRun_loses_nothing :
    ∃ b : Batcher Nat, Reaches step ClearsInTime {} b ∧ b.wait = .outside ∧ NothingLost b := by
  obtain ⟨b, reached, outside⟩ : ∃ b : Batcher Nat, Reaches step ClearsInTime {} b ∧
      b.wait = .outside := Reaches.exists_of_follow timelyRun (by decide +kernel)
  exact ⟨b, reached, outside, nothing_lost_of_clears_in_time.1 b reached⟩

/-- The wait takes the token and its window ends before the call inserts its element. -/
def swallowingRun : List (BatcherEvent Nat) :=
  [.enter, .begin 0 7, .advance 0, .advance 0, .receive, .expire, .clear, .advance 0, .enter,
    .begin 1 7, .advance 1]

/-- The window that took a call's token ends before the call inserts its element;
the next call for the element is swallowed by it while the loop waits for a first trigger. -/
theorem trigger_swallowed_by_leftover :
    ∃ b : Batcher Nat, Reaches step (fun _ _ => True) {} b ∧ b.wait = .waiting ∧ b.Lost 1 := by
  obtain ⟨b, call, reached, found, returned, unserved, waiting, noToken⟩ : ∃ b call,
      Reaches step (fun _ _ => True) ({} : Batcher Nat) b ∧ b.calls.lookup 1 = some call ∧ call.stage = .returned ∧
      call.served = false ∧ b.wait = .waiting ∧ b.trigger = false :=
    Reaches.exists_of_follow_some swallowingRun (by decide +kernel)
  refine ⟨b, reached, waiting, call, found, returned, unserved, ?_⟩
  rintro (inWindow | trigger)
  · rw [waiting] at inWindow
    cases inWindow
  · rw [noToken] at trigger
    cases trigger

end Batcher

end Kraftsman.Provisioning
