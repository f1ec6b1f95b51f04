import Kraftsman.Data.GoMap
import Mathlib.Data.List.Rotate

/-!
Contract: how NodePools' nodes have fared at registering.

Owns: the ring buffer of outcomes per NodePool, what it has after a history of
calls, its status, and when a dry run tells the status after one more outcome.
Does not own: when an outcome is recorded.
-/

namespace Kraftsman.State

open Data

/-- A buffer that overwrites its oldest entry once it is full. -/
structure RingBuffer (α : Type) where
  values : List α := []
  head : Nat := 0
  deriving DecidableEq

namespace RingBuffer

variable {α : Type}

/-- Append to a buffer with room, else replace the oldest entry. -/
def insert (capacity : Nat) (b : RingBuffer α) (value : α) : RingBuffer α :=
  if b.values.length < capacity then { b with values := b.values ++ [value] }
  else { values := b.values.set b.head value, head := (b.head + 1) % capacity }

/-- A buffer that has, from its oldest entry on, the last of what was recorded. -/
structure Holds (capacity : Nat) (b : RingBuffer α) (recorded : List α) : Prop where
  rotated : b.values.rotate b.head = recorded.drop (recorded.length - capacity)
  bounded : b.head < capacity
  unwrapped : recorded.length ≤ capacity → b.head = 0

/-- To overwrite the oldest entry moves the start of the buffer behind it. -/
theorem rotate_set (values : List α) {head : Nat} (within : head < values.length) (value : α) :
    (values.set head value).rotate ((head + 1) % values.length) =
      (values.rotate head).tail ++ [value] := by
  have newest : (values.set head value).rotate (head + 1) =
      values.drop (head + 1) ++ (values.take head ++ [value]) := by
    rw [List.rotate_eq_drop_append_take (by simp; omega), List.drop_set_of_lt (Nat.lt_succ_self _),
      List.set_eq_take_append_cons_drop, if_pos within, List.take_append]
    simp [Nat.min_eq_left within.le]
  have nonempty : values.drop head ≠ [] := by simpa using within
  rw [← List.rotate_mod, List.length_set] at newest
  rw [newest, List.rotate_eq_drop_append_take within.le, List.tail_append_of_ne_nil nonempty,
    List.tail_drop, List.append_assoc]

variable {capacity : Nat} {b : RingBuffer α} {recorded : List α}

theorem Holds.length_eq (holds : b.Holds capacity recorded) :
    b.values.length = min recorded.length capacity := by
  have same := congrArg List.length holds.rotated
  rw [List.length_rotate, List.length_drop] at same
  omega

theorem Holds.insert (holds : b.Holds capacity recorded) (value : α) :
    (b.insert capacity value).Holds capacity (recorded ++ [value]) := by
  have size := holds.length_eq
  have bounded := holds.bounded
  unfold RingBuffer.insert
  split_ifs with room
  · have short : recorded.length < capacity := by omega
    have start := holds.unwrapped short.le
    have rotated := holds.rotated
    rw [start, List.rotate_zero, Nat.sub_eq_zero_of_le short.le, List.drop_zero] at rotated
    refine ⟨?_, bounded, fun _ => start⟩
    have fits : (recorded ++ [value]).length - capacity = 0 := by
      simp
      omega
    rw [start, rotated, List.rotate_zero, fits]
    rfl
  · have full : b.values.length = capacity := by omega
    refine ⟨?_, Nat.mod_lt _ (by omega), fun fits => ?_⟩
    · rw [← full, rotate_set b.values (by omega), holds.rotated, List.tail_drop, full,
        List.length_append, ← List.drop_append_of_le_length (by omega)]
      congr 1
      simp
      omega
    · simp at fits
      omega

theorem holds_empty (positive : 0 < capacity) : ({} : RingBuffer α).Holds capacity [] :=
  ⟨by simp, positive, fun _ => rfl⟩

theorem Holds.foldl_insert (holds : b.Holds capacity recorded) (values : List α) :
    (values.foldl (RingBuffer.insert capacity) b).Holds capacity (recorded ++ values) := by
  induction values generalizing b recorded with
  | nil => simpa using holds
  | cons value rest ih => simpa using ih (holds.insert value)

/-- A copy starts with the entry that is stored first, which need not be the oldest. -/
theorem Holds.copy (holds : b.Holds capacity recorded) :
    b.values.foldl (RingBuffer.insert capacity) {} = { values := b.values } := by
  have fits : b.values.length ≤ capacity := holds.length_eq ▸ Nat.min_le_right _ _
  have copied := (holds_empty (Nat.zero_lt_of_lt holds.bounded)).foldl_insert b.values
  have start := copied.unwrapped fits
  have same := copied.rotated
  rw [start, List.rotate_zero, List.nil_append, Nat.sub_eq_zero_of_le fits] at same
  generalize b.values.foldl (RingBuffer.insert capacity) {} = copy at start same
  cases copy
  simp_all

end RingBuffer

def bufferSize : Nat := 4

inductive HealthStatus where
  | unknown
  | healthy
  | unhealthy
  deriving DecidableEq, Repr

/-- The last outcomes of a NodePool's registrations. -/
abbrev Tracker := RingBuffer Bool

namespace Tracker

def update (t : Tracker) (success : Bool) : Tracker := RingBuffer.insert bufferSize t success

def failures (t : Tracker) : Nat := (t.values.filter fun success => !success).length

/-- Unhealthy once failures fill half of the buffer, however many entries it has. -/
def status (t : Tracker) : HealthStatus :=
  if t.values.length = 0 then .unknown
  else if 2 * t.failures ≥ bufferSize then .unhealthy
  else .healthy

/-- The outcomes that stand for a status, as many failures as make it unhealthy. -/
def outcomesOf : HealthStatus → List Bool
  | .unknown => []
  | .healthy => [true]
  | .unhealthy => List.replicate (bufferSize / 2) false

inductive Call where
  | update (success : Bool)
  | reset
  | setStatus (status : HealthStatus)

/-- What a call makes of a tracker with some capacity. -/
def apply (capacity : Nat) (t : Tracker) : Call → Tracker
  | .update success => t.insert capacity success
  | .reset => {}
  | .setStatus status => (outcomesOf status).foldl (RingBuffer.insert capacity) {}

/-- The outcomes since the last reset, which setting a status is too. -/
def record (recorded : List Bool) : Call → List Bool
  | .update success => recorded ++ [success]
  | .reset => []
  | .setStatus status => outcomesOf status

def after (capacity : Nat) (calls : List Call) : Tracker := calls.foldl (apply capacity) {}

/-- What a history leaves on record, without a limit. -/
def recordedAfter (calls : List Call) : List Bool := calls.foldl record []

end Tracker

abbrev NodePoolHealth := GoMap String Tracker

namespace NodePoolHealth

/-- The tracker of a NodePool, empty until the first outcome. -/
def nodePoolNodeRegistration (s : NodePoolHealth) (nodePoolUID : String) : Tracker :=
  (s.lookup nodePoolUID).getD {}

def update (s : NodePoolHealth) (nodePoolUID : String) (launchStatus : Bool) : NodePoolHealth :=
  s.insert nodePoolUID ((s.nodePoolNodeRegistration nodePoolUID).update launchStatus)

/-- The tracker after one more outcome, on a copy of the entries. -/
def dryRun (s : NodePoolHealth) (nodePoolUID : String) (launchStatus : Bool) : Tracker :=
  Tracker.update ((s.nodePoolNodeRegistration nodePoolUID).values.foldl Tracker.update {}) launchStatus

def apply (s : NodePoolHealth) (call : String × Tracker.Call) : NodePoolHealth :=
  s.insert call.1 ((s.nodePoolNodeRegistration call.1).apply bufferSize call.2)

def after (calls : List (String × Tracker.Call)) : NodePoolHealth := calls.foldl apply ∅

end NodePoolHealth

/-! ### Histories -/

open Tracker NodePoolHealth

variable {capacity : Nat} {t : Tracker}

theorem Tracker.holds_after (positive : 0 < capacity) (calls : List Call) :
    (Tracker.after capacity calls).Holds capacity (recordedAfter calls) := by
  induction calls using List.reverseRecOn with
  | nil => exact RingBuffer.holds_empty positive
  | append_singleton earlier call ih =>
    unfold Tracker.after recordedAfter at ih ⊢
    rw [List.foldl_concat, List.foldl_concat]
    cases call with
    | update success => exact ih.insert success
    | reset => exact RingBuffer.holds_empty positive
    | setStatus status => exact (RingBuffer.holds_empty positive).foldl_insert _

/-- Calls for other NodePools do not matter. -/
theorem NodePoolHealth.registration_after (calls : List (String × Call)) (uid : String) :
    (NodePoolHealth.after calls).nodePoolNodeRegistration uid =
      Tracker.after bufferSize ((calls.filter (·.1 = uid)).map (·.2)) := by
  induction calls using List.reverseRecOn with
  | nil => rfl
  | append_singleton earlier call ih =>
    unfold NodePoolHealth.after Tracker.after at ih ⊢
    rw [List.foldl_concat, List.filter_append, List.map_append, List.foldl_append, ← ih]
    unfold nodePoolNodeRegistration NodePoolHealth.apply
    rw [GoMap.lookup_insert_eq]
    by_cases own : call.1 = uid
    · subst own
      simp [nodePoolNodeRegistration]
    · simp [own, Ne.symm own]

theorem status_set {head i : Nat} (listed : i < t.values.length) (success : Bool) :
    Tracker.status { values := t.values.set i success, head := head } =
      if 2 ≤ t.failures - (if t.values[i] then 0 else 1) + (if success then 0 else 1) then
        .unhealthy
      else .healthy := by
  have counted : Tracker.failures { values := t.values.set i success, head := head } =
      t.failures - (if t.values[i] then 0 else 1) + if success then 0 else 1 := by
    unfold failures
    rw [← List.countP_eq_length_filter, ← List.countP_eq_length_filter, List.countP_set listed]
    cases t.values[i] <;> cases success <;> rfl
  unfold status
  rw [counted]
  dsimp only [bufferSize]
  rw [List.length_set, if_neg (by omega)]
  exact if_congr (by omega) rfl rfl

/-- One entry stands for another in the status, whatever replaces it, unless they
differ and there are one or two failures. -/
theorem same_status_iff {i j head head' : Nat} (first : i < t.values.length)
    (second : j < t.values.length) :
    (∀ success, Tracker.status { values := t.values.set i success, head := head } =
      Tracker.status { values := t.values.set j success, head := head' }) ↔
    t.values[i]? = t.values[j]? ∨ 3 ≤ t.failures := by
  have counted : ∀ i (listed : i < t.values.length), t.values[i] = false → 0 < t.failures := by
    intro i listed failed
    exact List.length_pos_of_mem (List.mem_filter.mpr ⟨List.getElem_mem listed, by simp [failed]⟩)
  simp only [status_set first, status_set second, Bool.forall_bool, List.getElem?_eq_getElem first,
    List.getElem?_eq_getElem second]
  have one := counted i first
  have other := counted j second
  generalize t.values[i] = entry at one ⊢
  generalize t.values[j] = entry' at other ⊢
  cases entry <;> cases entry' <;> simp at one other ⊢
  · split_ifs <;> simp <;> omega
  · split_ifs <;> simp <;> omega

/-- The buffer has room, the entry stored first is like the oldest, or at most one
outcome is a success. -/
def Tracker.Foretells (t : Tracker) : Prop :=
  t.values.length = bufferSize → t.values[0]? = t.values[t.head]? ∨ 3 ≤ t.failures

theorem foretells_iff {recorded : List Bool} (holds : t.Holds bufferSize recorded) :
    (∀ success, (Tracker.update (t.values.foldl Tracker.update {}) success).status =
      (t.update success).status) ↔ t.Foretells := by
  have size := holds.length_eq
  have bounded := holds.bounded
  have copied : t.values.foldl Tracker.update {} = { values := t.values } := holds.copy
  rw [copied]
  unfold Tracker.update RingBuffer.insert Foretells
  by_cases room : t.values.length < bufferSize
  · simp only [if_pos room]
    exact iff_of_true (fun _ => rfl) fun full => absurd full room.ne
  · simp only [if_neg room]
    rw [same_status_iff (by omega) (by omega), imp_iff_right (by omega)]

theorem registration_update (s : NodePoolHealth) (uid : String) (success : Bool) :
    (s.update uid success).nodePoolNodeRegistration uid =
      (s.nodePoolNodeRegistration uid).update success := by
  unfold NodePoolHealth.update
  rw [nodePoolNodeRegistration, GoMap.lookup_insert_eq, if_pos rfl]
  rfl

/-- After every history a tracker has the last outcomes since the last reset. A dry
run tells the status after every outcome if and only if the tracker foretells it. -/
theorem dry_run_tells_iff (positive : 0 < capacity) (calls : List Call)
    (allCalls : List (String × Call)) (uid : String) :
    ((Tracker.after capacity calls).values.rotate (Tracker.after capacity calls).head =
      (recordedAfter calls).drop ((recordedAfter calls).length - capacity)) ∧
    ((∀ success, ((NodePoolHealth.after allCalls).dryRun uid success).status =
      (((NodePoolHealth.after allCalls).update uid success).nodePoolNodeRegistration uid).status) ↔
      ((NodePoolHealth.after allCalls).nodePoolNodeRegistration uid).Foretells) := by
  refine ⟨(holds_after positive calls).rotated, ?_⟩
  simp only [registration_update, dryRun, registration_after]
  exact foretells_iff (holds_after (by decide) _)

theorem dry_run_tells_after_success :
    ((NodePoolHealth.after [("pool", .update true)]).dryRun "pool" false).status =
      (((NodePoolHealth.after [("pool", .update true)]).update "pool"
        false).nodePoolNodeRegistration "pool").status :=
  (@dry_run_tells_iff 1 (by decide) [] _ "pool").2.mpr (fun full => absurd full (by decide)) false

/-- Five outcomes, of which the second failed. -/
def wrapped : NodePoolHealth :=
  .after ([true, false, true, true, true].map fun success => ("pool", .update success))

/-- The oldest outcome is the failure, but the dry run overwrites a success. -/
theorem dry_run_of_wrapped_differs :
    (wrapped.dryRun "pool" false).status = .unhealthy ∧
      ((wrapped.update "pool" false).nodePoolNodeRegistration "pool").status = .healthy := by
  decide

end Kraftsman.State
