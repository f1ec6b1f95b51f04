import Kraftsman.Data.FallibleLoop

/-!
Contract: workers that share a list of pieces of work.

Pieces are taken in order. A worker whose result stops it takes no further piece,
while others may still race for those left.

Owns: the results of the pieces that are evaluated, in the order of the pieces.
Does not own: what a piece is and which results stop a worker.
-/

namespace Kraftsman.Data

universe u v w

variable {P : Type u} {A : Type v} {R : Type w}

/-- The results of the pieces that are evaluated. Once a result has stopped its
worker, later pieces are only evaluated by workers that race for them. -/
def parallelizeUntil (races : Nat → Bool) (stops : R → Bool) (work : A → Except P R) :
    Bool → Nat → List A → Except P (List R)
  | _, _, [] => .ok []
  | stopped, index, piece :: rest =>
    if stopped && !races index then
      parallelizeUntil races stops work stopped (index + 1) rest
    else
      match work piece with
      | .error panic => .error panic
      | .ok result =>
        match parallelizeUntil races stops work (stopped || stops result) (index + 1) rest with
        | .error panic => .error panic
        | .ok results => .ok (result :: results)

namespace parallelizeUntil

variable {races : Nat → Bool} {stops : R → Bool} {work : A → Except P R}

open FallibleLoop in
theorem ensures {Fails : P → Prop} {Post : R → Prop} {pieces : List A}
    (each : ∀ piece ∈ pieces, Ensures Fails Post (work piece)) (stopped : Bool) (index : Nat) :
    Ensures Fails (fun results => ∀ result ∈ results, Post result)
      (parallelizeUntil races stops work stopped index pieces) := by
  induction pieces generalizing stopped index with
  | nil => exact List.forall_mem_nil _
  | cons piece rest ih =>
    obtain ⟨first, later⟩ := List.forall_mem_cons.mp each
    unfold parallelizeUntil
    split_ifs
    · exact ih later stopped (index + 1)
    · cases worked : work piece with
      | error panic => exact first.of_error worked
      | ok result =>
        have others := ih later (stopped || stops result) (index + 1)
        dsimp only
        cases done : parallelizeUntil races stops work (stopped || stops result) (index + 1) rest with
        | error panic => exact others.of_error done
        | ok results => exact List.forall_mem_cons.mpr ⟨first.of_ok worked, others.of_ok done⟩

/-- Without a result that stops a worker, all pieces are evaluated. -/
theorem eq_mapM (index : Nat) (pieces : List A) :
    parallelizeUntil races (fun _ => false) work false index pieces = pieces.mapM work := by
  induction pieces generalizing index with
  | nil => rfl
  | cons piece rest ih =>
    rw [List.mapM_cons, parallelizeUntil, if_neg (by simp)]
    cases work piece with
    | error panic => rfl
    | ok result =>
      rw [Bool.or_false, ih]
      cases rest.mapM work <;> rfl

end parallelizeUntil

end Kraftsman.Data
