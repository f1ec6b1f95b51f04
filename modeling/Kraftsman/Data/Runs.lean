import Mathlib.Logic.Basic
import Mathlib.Tactic.SplitIfs

/-!
Contract: runs of a machine that handles one event after another and can panic.

Owns: reachability under a restriction on the events, and its invariant rule.
Does not own: any particular machine.
-/

namespace Kraftsman.Data

universe u v w

/-- The states reached without a panic by events that are allowed where they occur. -/
inductive Reaches {S : Type u} {E : Type v} {P : Type w} (apply : S → E → Except P S)
    (Allowed : S → E → Prop) (start : S) : S → Prop where
  | start : Reaches apply Allowed start start
  | step {state state' : S} {event : E} : Reaches apply Allowed start state →
      Allowed state event → apply state event = .ok state' → Reaches apply Allowed start state'

namespace Reaches

variable {S : Type u} {E : Type v} {P : Type w} {apply : S → E → Except P S}
variable {Allowed : S → E → Prop} {start state : S}

theorem invariant (Invariant : S → Prop) (initial : Invariant start)
    (kept : ∀ state event state', Invariant state → Allowed state event →
      apply state event = .ok state' → Invariant state')
    (reached : Reaches apply Allowed start state) : Invariant state := by
  induction reached with
  | start => exact initial
  | step _ allowed done ih => exact kept _ _ _ ih allowed done

/-- To show that events keep an invariant, one may use that its state is reached. -/
theorem invariant_along (Invariant : S → Prop) (initial : Invariant start)
    (kept : ∀ state event state', Reaches apply Allowed start state → Invariant state →
      Allowed state event → apply state event = .ok state' → Invariant state')
    (reached : Reaches apply Allowed start state) : Invariant state := by
  induction reached with
  | start => exact initial
  | step earlier allowed done ih =>
    exact kept _ _ _ earlier ih allowed done

theorem mono {Weaker : S → E → Prop} (weaker : ∀ state event, Allowed state event → Weaker state event)
    (reached : Reaches apply Allowed start state) : Reaches apply Weaker start state := by
  induction reached with
  | start => exact .start
  | step _ allowed done ih => exact .step ih (weaker _ _ allowed) done

theorem trans {middle : S} (first : Reaches apply Allowed start middle)
    (second : Reaches apply Allowed middle state) : Reaches apply Allowed start state := by
  induction second with
  | start => exact first
  | step _ allowed done ih => exact .step ih allowed done

/-- The state after events that are all allowed and do not panic. -/
def follow (apply : S → E → Except P S) (Allowed : S → E → Prop)
    [∀ state event, Decidable (Allowed state event)] (start : S) : List E → Option S
  | [] => some start
  | event :: rest =>
    if Allowed start event then (apply start event).toOption.bind fun state =>
      follow apply Allowed state rest
    else none

theorem of_follow [∀ state event, Decidable (Allowed state event)] {events : List E} {middle : S}
    (reached : Reaches apply Allowed start middle)
    (followed : follow apply Allowed middle events = some state) :
    Reaches apply Allowed start state := by
  induction events generalizing middle with
  | nil => exact Option.some.inj followed ▸ reached
  | cons event rest ih =>
    unfold follow at followed
    split_ifs at followed with allowed
    obtain ⟨next, stepped, continued⟩ := Option.bind_eq_some_iff.mp followed
    cases done : apply middle event with
    | error panic =>
      rw [done] at stepped
      cases stepped
    | ok after =>
      rw [done] at stepped
      exact ih (.step reached allowed (Option.some.inj stepped ▸ done)) continued

theorem exists_of_follow [∀ state event, Decidable (Allowed state event)] {Q : S → Prop}
    [DecidablePred Q] (events : List E)
    (seen : (follow apply Allowed start events).any fun state => Q state) :
    ∃ state, Reaches apply Allowed start state ∧ Q state := by
  obtain ⟨state, followed, holds⟩ := (Option.any_eq_true ..).mp seen
  exact ⟨state, of_follow .start followed, of_decide_eq_true holds⟩

theorem exists_of_follow_some {A : Type*} [∀ state event, Decidable (Allowed state event)]
    {view : S → Option A} {Q : S → A → Prop} [∀ state item, Decidable (Q state item)] (events : List E)
    (seen : (follow apply Allowed start events).any fun state => ∃ item ∈ view state, Q state item) :
    ∃ state item, Reaches apply Allowed start state ∧ view state = some item ∧ Q state item := by
  obtain ⟨state, reached, item, holds⟩ := exists_of_follow events seen
  exact ⟨state, item, reached, holds⟩

end Reaches

end Kraftsman.Data
