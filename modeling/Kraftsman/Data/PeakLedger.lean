import Kraftsman.Data.GoMap
import Mathlib.Algebra.Order.Group.Defs

/-!
Contract: ledgers that charge every owner for the worst of its alternatives.

An owner holds a charge per alternative and will end up with one of them, so a
shared budget has to cover the peak of each owner's charges.

Owns: the peak of an owner's charges, the total of a ledger, and how both move
with a charge.
Does not own: what the owners, the alternatives and the resources are.
-/

namespace Kraftsman.Data

open GoMap List

universe u v w x y

namespace PeakLedger

variable {Owner : Type u} {Alternative : Type v} {Charge : Type w} {Resource : Type x}
variable {Amount : Type y} [AddCommGroup Amount]

section Charges

variable {read : Charge → Resource → Amount} [DecidableEq Alternative]

def charge (read : Charge → Resource → Amount) (charges : GoMap Alternative Charge)
    (alternative : Alternative) (resource : Resource) : Amount :=
  match charges.lookup alternative with
  | none => 0
  | some charge => read charge resource

variable (charges new stored : GoMap Alternative Charge) (dropped : List Alternative)
variable (alternative : Alternative) (resource : Resource)

theorem charge_eraseAll : charge read (charges.eraseAll dropped) alternative resource =
      if alternative ∈ dropped then 0 else charge read charges alternative resource := by
  unfold charge
  rw [lookup_eraseAll]
  split_ifs <;> rfl

theorem charge_merge {combine : Charge → Charge → Charge} (adds : ∀ stored charge resource,
      read (combine stored charge) resource = read stored resource + read charge resource) :
    charge read (merge combine new stored) alternative resource =
      charge read stored alternative resource + charge read new alternative resource := by
  unfold charge
  rw [lookup_merge]
  cases new.lookup alternative <;> cases stored.lookup alternative <;> simp [adds]

end Charges

variable [LinearOrder Amount] (read : Charge → Resource → Amount)

/-- The largest charge of any alternative, at least zero. -/
def peak (charges : GoMap Alternative Charge) (resource : Resource) : Amount :=
  (charges.values.map fun charge => read charge resource).foldr max 0

def total (ledger : GoMap Owner (GoMap Alternative Charge)) (resource : Resource) : Amount :=
  (ledger.values.map fun charges => peak read charges resource).sum

variable {read}

private theorem zero_le_foldr_max (amounts : List Amount) : 0 ≤ amounts.foldr max 0 := by
  cases amounts with
  | nil => exact le_refl 0
  | cons head tail =>
    induction tail generalizing head with
    | nil => simp
    | cons next rest ih =>
      exact le_trans (ih next) (le_max_right _ _)

variable {amounts : List Amount} {owner : Owner} {skip : Prop}
variable {before after : GoMap Alternative Charge}

private theorem le_foldr_max {amount : Amount} (member : amount ∈ amounts) :
    amount ≤ amounts.foldr max 0 := by
  induction amounts with
  | nil => cases member
  | cons head tail ih =>
    rcases mem_cons.mp member with rfl | inTail
    · exact le_max_left _ _
    · exact le_trans (ih inTail) (le_max_right _ _)

variable {bound : Amount} {ledger : GoMap Owner (GoMap Alternative Charge)}
variable {charges : GoMap Alternative Charge} {resource : Resource}

private theorem foldr_max_le (nonnegative : 0 ≤ bound) (below : ∀ amount ∈ amounts, amount ≤ bound) :
    amounts.foldr max 0 ≤ bound := by
  induction amounts with
  | nil => exact nonnegative
  | cons head tail ih =>
    exact max_le (below head (by simp)) (ih fun amount member => below amount (by simp [member]))

theorem peak_nonneg (charges : GoMap Alternative Charge) (resource : Resource) :
    0 ≤ peak read charges resource :=
  zero_le_foldr_max _

@[simp] theorem peak_empty (resource : Resource) :
    peak read (∅ : GoMap Alternative Charge) resource = 0 := rfl

@[simp] theorem total_empty (resource : Resource) :
    total read (∅ : GoMap Owner (GoMap Alternative Charge)) resource = 0 := rfl

variable [DecidableEq Owner]

def owned (ledger : GoMap Owner (GoMap Alternative Charge)) (owner : Owner) :
    GoMap Alternative Charge :=
  (ledger.lookup owner).getD ∅

def settle (ledger : GoMap Owner (GoMap Alternative Charge)) (owner : Owner)
    (charges : GoMap Alternative Charge) : GoMap Owner (GoMap Alternative Charge) :=
  if charges.entries = [] then ledger.erase owner else ledger.insert owner charges

@[simp] theorem owned_empty (owner : Owner) :
    owned (∅ : GoMap Owner (GoMap Alternative Charge)) owner = ∅ := rfl

theorem owned_of_lookup (found : ledger.lookup owner = some charges) :
    owned ledger owner = charges := by
  simp [owned, found]

theorem owned_of_lookup_none (absent : ledger.lookup owner = none) : owned ledger owner = ∅ := by
  simp [owned, absent]

section Explicit

variable (owner ledger charges resource)

theorem owned_insert (other : Owner) : owned (ledger.insert owner charges) other =
      if other = owner then charges else owned ledger other := by
  unfold owned
  rw [lookup_insert_eq]
  split_ifs <;> rfl

theorem owned_settle (other : Owner) : owned (settle ledger owner charges) other =
      if other = owner then charges else owned ledger other := by
  unfold settle
  split_ifs with empty same same
  · have isEmpty : charges = ∅ := AList.ext empty
    simp [owned, lookup_erase_eq, same, isEmpty]
  · simp [owned, same]
  · simp [owned_insert, same]
  · simp [owned_insert, same]

omit [DecidableEq Owner] in
theorem total_eq_sumOver : total read ledger resource =
      sumOver (fun _ charges => peak read charges resource) ledger := by
  unfold total values sumOver
  rw [map_map]
  rfl

theorem weightAt_eq_peak : weightAt (fun _ charges => peak read charges resource) ledger owner =
      peak read (owned ledger owner) resource := by
  unfold weightAt owned
  cases ledger.lookup owner <;> rfl

theorem total_erase : total read (ledger.erase owner) resource =
      total read ledger resource - peak read (owned ledger owner) resource := by
  rw [total_eq_sumOver, sumOver_erase, weightAt_eq_peak, ← total_eq_sumOver]

theorem total_insert : total read (ledger.insert owner charges) resource =
      total read ledger resource +
        (peak read charges resource - peak read (owned ledger owner) resource) := by
  rw [total_eq_sumOver, sumOver_insert, weightAt_eq_peak, ← total_eq_sumOver]
  abel

theorem total_settle : total read (settle ledger owner charges) resource =
      total read ledger resource -
        (peak read (owned ledger owner) resource - peak read charges resource) := by
  unfold settle
  split_ifs with empty
  · have isEmpty : charges = ∅ := AList.ext empty
    rw [total_erase, isEmpty, peak_empty, sub_zero]
  · rw [total_insert]
    abel

theorem peak_owned_le_total [IsOrderedAddMonoid Amount] :
    peak read (owned ledger owner) resource ≤ total read ledger resource := by
  rw [total_eq_sumOver, ← weightAt_eq_peak]
  exact weightAt_le_sumOver (fun _ charges => peak_nonneg charges resource) owner

theorem owned_insert_unless [Decidable skip] (unchanged : skip → charges = owned ledger owner)
    (other : Owner) :
    owned (if skip then ledger else ledger.insert owner charges) other =
      if other = owner then charges else owned ledger other := by
  split_ifs with skipped same same
  · rw [unchanged skipped, same]
  · rfl
  · rw [owned_insert, if_pos same]
  · rw [owned_insert, if_neg same]

theorem total_insert_unless [Decidable skip] (unchanged : skip → charges = owned ledger owner) :
    total read (if skip then ledger else ledger.insert owner charges) resource =
      total read ledger resource +
        (peak read charges resource - peak read (owned ledger owner) resource) := by
  split_ifs with skipped
  · rw [unchanged skipped, sub_self, add_zero]
  · exact total_insert owner ledger charges resource

end Explicit

omit [AddCommGroup Amount] [LinearOrder Amount] in
theorem forall_of_update (Good : GoMap Alternative Charge → Prop)
    {before after : Owner → GoMap Alternative Charge}
    (update : ∀ other, after other = if other = owner then charges else before other)
    (good : Good charges) (all : ∀ other, Good (before other)) (other : Owner) :
    Good (after other) := by
  rw [update]
  split_ifs
  · exact good
  · exact all other

theorem total_eq_zero (none : ∀ owner alternative, alternative ∉ owned ledger owner)
    (resource : Resource) : total read ledger resource = 0 := by
  apply sum_eq_zero
  intro amount member
  obtain ⟨charges, inValues, rfl⟩ := mem_map.mp member
  obtain ⟨owner, found⟩ := mem_values_iff.mp inValues
  have noCharges : charges = ∅ := by
    apply AList.ext
    apply eq_nil_iff_forall_not_mem.mpr
    intro entry inEntries
    have absent := none owner entry.1
    rw [owned_of_lookup found] at absent
    exact absent (AList.mem_keys.mpr (mem_keys_of_mem inEntries))
  rw [noCharges, peak_empty]

variable [DecidableEq Alternative]

def forget (ledger : GoMap Owner (GoMap Alternative Charge)) (owner : Owner)
    (dropped : List Alternative) : GoMap Owner (GoMap Alternative Charge) :=
  match ledger.lookup owner with
  | none => ledger
  | some charges => settle ledger owner (charges.eraseAll dropped)

section Explicit

variable (owner ledger charges resource) (dropped : List Alternative)

theorem owned_forget (other : Owner) : owned (forget ledger owner dropped) other =
      if other = owner then (owned ledger owner).eraseAll dropped else owned ledger other := by
  unfold forget
  cases found : ledger.lookup owner with
  | none =>
    split_ifs with same
    · rw [same, owned_of_lookup_none found, eraseAll_empty]
    · rfl
  | some charges => rw [owned_settle, owned_of_lookup found]

theorem total_forget : total read (forget ledger owner dropped) resource =
      total read ledger resource - (peak read (owned ledger owner) resource -
          peak read ((owned ledger owner).eraseAll dropped) resource) := by
  unfold forget
  cases found : ledger.lookup owner with
  | none => rw [owned_of_lookup_none found, eraseAll_empty, sub_self, sub_zero]
  | some charges => rw [total_settle, owned_of_lookup found]

end Explicit

theorem le_peak {alternative : Alternative} {charge : Charge}
    (found : charges.lookup alternative = some charge) (resource : Resource) :
    read charge resource ≤ peak read charges resource :=
  le_foldr_max (mem_map.mpr ⟨charge, mem_values_iff.mpr ⟨alternative, found⟩, rfl⟩)

theorem peak_le (nonnegative : 0 ≤ bound)
    (below : ∀ alternative charge, charges.lookup alternative = some charge →
      read charge resource ≤ bound) :
    peak read charges resource ≤ bound := by
  apply foldr_max_le nonnegative
  intro amount member
  obtain ⟨charge, inValues, rfl⟩ := mem_map.mp member
  obtain ⟨alternative, found⟩ := mem_values_iff.mp inValues
  exact below alternative charge found

variable (charges resource)

theorem peak_eraseAll_le (dropped : List Alternative) :
    peak read (charges.eraseAll dropped) resource ≤ peak read charges resource :=
  peak_le (peak_nonneg _ _) fun _ _ found => le_peak (lookup_of_eraseAll found) resource

theorem charge_le_peak (alternative : Alternative) :
    charge read charges alternative resource ≤ peak read charges resource := by
  unfold charge
  cases found : charges.lookup alternative with
  | none => exact peak_nonneg _ _
  | some charge => exact le_peak found resource

section Merging

variable [IsOrderedAddMonoid Amount] {combine : Charge → Charge → Charge}
variable {new stored : GoMap Alternative Charge} {resource}
variable (adds : ∀ stored charge resource,
  read (combine stored charge) resource = read stored resource + read charge resource)

include adds

theorem peak_merge_le (nonnegative : 0 ≤ bound)
    (takes : ∀ alternative, charge read new alternative resource ≤ bound) :
    peak read (merge combine new stored) resource ≤ peak read stored resource + bound := by
  apply peak_le (add_nonneg (peak_nonneg _ _) nonnegative)
  intro alternative merged isMerged
  have total := charge_merge new stored alternative resource adds
  rw [charge, isMerged] at total
  exact total.trans_le (add_le_add (charge_le_peak _ _ _) (takes alternative))

theorem peak_le_peak_merge
    (nonnegative : ∀ alternative charge, new.lookup alternative = some charge →
      0 ≤ read charge resource) :
    peak read stored resource ≤ peak read (merge combine new stored) resource := by
  apply peak_le (peak_nonneg _ _)
  intro alternative held isHeld
  have taken : 0 ≤ charge read new alternative resource := by
    unfold charge
    cases found : new.lookup alternative with
    | none => exact le_refl 0
    | some charge => exact nonnegative alternative charge found
  have total := charge_merge new stored alternative resource adds
  have before : charge read stored alternative resource = read held resource := by
    rw [charge, isHeld]
  rw [before] at total
  exact (le_add_of_nonneg_right taken).trans (total.symm.trans_le (charge_le_peak _ _ _))

end Merging

variable [IsOrderedAddMonoid Amount]

/-- What the owners take once each has settled on one alternative. -/
def collapsed (read : Charge → Resource → Amount) (ledger : GoMap Owner (GoMap Alternative Charge))
    (choice : Owner → Alternative) (resource : Resource) : Amount :=
  (ledger.entries.map fun entry => charge read entry.2 (choice entry.1) resource).sum

omit [DecidableEq Owner] in
/-- Whatever the owners settle on, their peaks suffice. -/
theorem collapsed_le_total (choice : Owner → Alternative) :
    collapsed read ledger choice resource ≤ total read ledger resource := by
  unfold collapsed total values
  rw [map_map]
  apply sum_le_sum
  intro entry _
  exact charge_le_peak _ _ _

end PeakLedger

end Kraftsman.Data
