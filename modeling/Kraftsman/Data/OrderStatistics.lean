import Mathlib.Data.List.MinMax
import Mathlib.Data.List.Sort
import Mathlib.Order.MinMax

/-!
Contract: the least values of a list.

Owns: when the loop for the lowest value ends below a bound, and the first value
with a property once the list is sorted.
Does not own: what the values are.
-/

namespace Kraftsman.Data

theorem foldl_min_lt_iff {α β : Type*} [LinearOrder β] (price : α → β) (bound start : β)
    (values : List α) :
    values.foldl (fun cheapest value => min cheapest (price value)) start < bound ↔
      start < bound ∨ ∃ value ∈ values, price value < bound := by
  induction values generalizing start with
  | nil => simp
  | cons value rest ih =>
    rw [List.foldl_cons, ih, min_lt_iff, or_assoc]
    simp only [List.mem_cons, exists_eq_or_imp]

theorem find?_orderedInsert {α β : Type*} [LinearOrder β] (price : α → β) (p : α → Bool) (item : α)
    {items : List α} (sorted : items.Pairwise fun left right => price left ≤ price right) :
    (items.orderedInsert (fun left right => price left ≤ price right) item).find? p =
      if p item then
        (items.find? p).elim (some item) fun first =>
          if price first < price item then some first else some item
      else items.find? p := by
  induction sorted with
  | nil => cases h : p item <;> simp [h]
  | @cons other rest least _ ih =>
    by_cases before : price item ≤ price other
    · rw [List.orderedInsert_cons, if_pos before, List.find?_cons]
      cases wanted : p item with
      | false => rfl
      | true =>
        cases found : (other :: rest).find? p with
        | none => rfl
        | some first =>
          have above : price other ≤ price first := by
            rcases List.mem_cons.mp (List.mem_of_find?_eq_some found) with rfl | later
            · exact le_rfl
            · exact least first later
          exact (if_neg (before.trans above).not_gt).symm
    · rw [List.orderedInsert_cons, if_neg before, List.find?_cons, List.find?_cons]
      cases p other with
      | false => exact ih
      | true => simp [not_le.mp before]

/-- A stable sort puts the first of the lowest items to the front. -/
theorem find?_insertionSort {α β : Type*} [LinearOrder β] (price : α → β) (p : α → Bool)
    (items : List α) :
    (items.insertionSort fun left right => price left ≤ price right).find? p =
      (items.filter p).argmin price := by
  induction items with
  | nil => rfl
  | cons item rest ih =>
    have sorted := rest.pairwise_insertionSort fun left right => price left ≤ price right
    rw [List.insertionSort_cons, find?_orderedInsert price p item sorted, ih, List.filter_cons]
    split_ifs
    · rw [List.argmin_cons]
      cases (rest.filter p).argmin price <;> rfl
    · rfl

end Kraftsman.Data
