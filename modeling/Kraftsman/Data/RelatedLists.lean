import Mathlib.Data.List.Forall2

/-!
Contract: lists that are related item by item.

Owns: how the items of related lists correspond.
-/

namespace Kraftsman.Data

variable {A B : Type*} {Related Other : A → B → Prop} {left : List A} {right : List B}

section

variable (related : List.Forall₂ Related left right)
include related

theorem forall₂_imp_mem (implies : ∀ item ∈ left, ∀ other, Related item other → Other item other) :
    List.Forall₂ Other left right := by
  obtain ⟨sameLength, pairs⟩ := List.forall₂_iff_zip.mp related
  exact List.forall₂_iff_zip.mpr ⟨sameLength, fun member =>
    implies _ (List.of_mem_zip member).1 _ (pairs member)⟩

theorem exists_related_of_mem_right {other : B} (member : other ∈ right) :
    ∃ item ∈ left, Related item other := by
  induction related with
  | nil => cases member
  | @cons item first _ _ own _ ih =>
    rcases List.mem_cons.mp member with rfl | inRest
    · exact ⟨item, by simp, own⟩
    · obtain ⟨found, inLeft, isRelated⟩ := ih inRest
      exact ⟨found, by simp [inLeft], isRelated⟩

theorem exists_related_of_getElem? {index : Nat} {item : A} (isItem : left[index]? = some item) :
    ∃ other, right[index]? = some other ∧ Related item other := by
  induction related generalizing index with
  | nil => cases isItem
  | @cons _ first _ _ own _ ih =>
    cases index with
    | zero => exact ⟨first, rfl, Option.some.inj isItem ▸ own⟩
    | succ index => exact ih isItem

theorem forall₂_through {C : Type*} {Next : B → C → Prop} {last : List C}
    (next : List.Forall₂ Next right last) :
    List.Forall₂ (fun item other => ∃ middle, Related item middle ∧ Next middle other) left last := by
  induction related generalizing last with
  | nil =>
    cases next
    exact .nil
  | cons own _ ih =>
    cases next with
    | cons following rest => exact .cons ⟨_, own, following⟩ (ih rest)

theorem forall₂_zipIdx {C : Type*} {Next : B × Nat → C → Prop} {last : List C} {start : Nat}
    (next : List.Forall₂ Next (right.zipIdx start) last) :
    List.Forall₂ (fun item other => ∃ entry ∈ right.zipIdx start, Related item entry.1 ∧
      Next entry other) left last := by
  rw [← List.zipIdx_map_fst start right, List.forall₂_map_right_iff] at related
  have listed := forall₂_imp_mem next fun entry member other own => And.intro member own
  refine (forall₂_through related listed).imp ?_
  rintro item other ⟨entry, own, member, following⟩
  exact ⟨entry, member, own, following⟩

end

end Kraftsman.Data
