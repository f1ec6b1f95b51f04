import Mathlib.Data.List.AList
import Mathlib.Algebra.BigOperators.Group.Finset.Basic
import Mathlib.Algebra.Order.BigOperators.Group.List
import Mathlib.Tactic.Abel
import Mathlib.Algebra.Order.Group.Unbundled.Basic
import Mathlib.Data.Rat.Defs

/-!
Contract: finite maps with the operations of an imperative map type.

A map is an association list without duplicate keys. A range loop over it is a
fold over its entries, characterised by lookups alone.

Owns: point updates, the range loop that updates one map from another, sums over
entries, and the orders in which range loops visit keys. Every loop has a site,
and nothing but the set of keys is known of its order.
Does not own: any particular key or value type.
-/

namespace Kraftsman.Data

universe u v w

abbrev GoMap (K : Type u) (V : Type v) := AList (fun _ : K => V)

namespace GoMap

variable {K : Type u} {V : Type v} {W : Type w} [DecidableEq K]

/-- Maps are compared entry by entry, which the kernel can evaluate. -/
instance [DecidableEq V] : DecidableEq (GoMap K V) := fun left right =>
  decidable_of_iff (left.entries = right.entries) AList.ext_iff.symm

/-- Build a map from pairs, the first pair of a key winning. -/
def ofList (pairs : List (K × V)) : GoMap K V :=
  List.toAList (pairs.map fun pair => ⟨pair.1, pair.2⟩)

/-- The values in the order a range loop visits them. -/
def values (m : GoMap K V) : List V :=
  m.entries.map fun entry => entry.2

theorem lookup_insert_eq (m : GoMap K V) (key other : K) (value : V) :
    (m.insert key value).lookup other = if other = key then some value else m.lookup other := by
  by_cases same : other = key
  · subst same
    simp
  · simp [same, AList.lookup_insert_ne same]

theorem lookup_erase_eq (m : GoMap K V) (key other : K) :
    (m.erase key).lookup other = if other = key then none else m.lookup other := by
  by_cases same : other = key
  · subst same
    simp
  · simp [same, AList.lookup_erase_ne same]

variable {m : GoMap K V} {key : K} {value : V}

theorem mem_entries_iff :
    (⟨key, value⟩ : Sigma fun _ : K => V) ∈ m.entries ↔ m.lookup key = some value := by
  rw [← AList.mem_lookup_iff, Option.mem_def]

theorem mem_values_iff : value ∈ m.values ↔ ∃ key, m.lookup key = some value := by
  constructor
  · intro member
    obtain ⟨⟨key, _⟩, inEntries, rfl⟩ := List.mem_map.mp member
    exact ⟨key, mem_entries_iff.mp inEntries⟩
  · rintro ⟨key, found⟩
    exact List.mem_map.mpr ⟨⟨key, value⟩, mem_entries_iff.mpr found, rfl⟩

theorem lookup_ofList {pairs : List (K × V)} (distinct : (pairs.map Prod.fst).Nodup)
    (member : (key, value) ∈ pairs) : (ofList pairs).lookup key = some value := by
  have nodup : (pairs.map fun pair => (⟨pair.1, pair.2⟩ : Sigma fun _ : K => V)).NodupKeys := by
    unfold List.NodupKeys List.keys
    rw [List.map_map]
    exact distinct
  rw [ofList, AList.lookup_to_alist]
  exact Option.mem_def.mp ((List.mem_dlookup_iff nodup).mpr
    (List.mem_map.mpr ⟨(key, value), member, rfl⟩))

theorem lookup_eq_none_of_entries_nil (empty : m.entries = []) (key : K) : m.lookup key = none := by
  have isEmpty : m = ∅ := AList.ext empty
  rw [isEmpty]
  exact AList.lookup_empty key

/-- Change the value of a key; `none` deletes it. -/
def alter (key : K) (change : Option V → Option V) (m : GoMap K V) : GoMap K V :=
  match change (m.lookup key) with
  | some value => m.insert key value
  | none => m.erase key

theorem lookup_alter (m : GoMap K V) (key other : K) (change : Option V → Option V) :
    (m.alter key change).lookup other =
      if other = key then change (m.lookup key) else m.lookup other := by
  unfold alter
  cases result : change (m.lookup key) with
  | none => rw [lookup_erase_eq]
  | some value => rw [lookup_insert_eq]

variable (keys : List K)

def eraseAll (m : GoMap K V) : GoMap K V :=
  keys.foldl (fun current key => current.erase key) m

theorem lookup_eraseAll (m : GoMap K V) (other : K) :
    (m.eraseAll keys).lookup other = if other ∈ keys then none else m.lookup other := by
  induction keys generalizing m with
  | nil => simp [eraseAll]
  | cons key rest ih =>
    have unfolded : eraseAll (key :: rest) m = eraseAll rest (m.erase key) := rfl
    rw [unfolded, ih, lookup_erase_eq]
    by_cases inRest : other ∈ rest
    · simp [inRest]
    · by_cases same : other = key <;> simp [inRest, same]

theorem lookup_of_eraseAll {keys : List K} (found : (m.eraseAll keys).lookup key = some value) :
    m.lookup key = some value := by
  rw [lookup_eraseAll] at found
  split_ifs at found
  exact found

theorem mem_eraseAll {keys : List K} : key ∈ m.eraseAll keys ↔ key ∈ m ∧ key ∉ keys := by
  rw [← AList.lookup_isSome, ← AList.lookup_isSome, lookup_eraseAll]
  split_ifs with erased <;> simp [erased]

@[simp] theorem eraseAll_empty : (∅ : GoMap K V).eraseAll keys = ∅ := by
  induction keys with
  | nil => rfl
  | cons key rest ih =>
    have erased : (∅ : GoMap K V).erase key = ∅ := rfl
    have unfolded : eraseAll (key :: rest) (∅ : GoMap K V) = eraseAll rest ((∅ : GoMap K V).erase key) := rfl
    rw [unfolded, erased, ih]

def insertAll (value : V) (m : GoMap K V) : GoMap K V :=
  keys.foldl (fun current key => current.insert key value) m

theorem lookup_insertAll (value : V) (m : GoMap K V) (other : K) :
    (m.insertAll keys value).lookup other = if other ∈ keys then some value else m.lookup other := by
  induction keys generalizing m with
  | nil => simp [insertAll]
  | cons key rest ih =>
    have unfolded : insertAll (key :: rest) value m = insertAll rest value (m.insert key value) := rfl
    rw [unfolded, ih, lookup_insert_eq]
    by_cases inRest : other ∈ rest
    · simp [inRest]
    · by_cases same : other = key <;> simp [inRest, same]

theorem lookup_foldl_insert {A : Type*} (key : A → K) (value : A → V) {items : List A}
    (nodup : (items.map key).Nodup) (m : GoMap K V) {item : A} (member : item ∈ items) :
    (items.foldl (fun current a => current.insert (key a) (value a)) m).lookup (key item) =
      some (value item) := by
  induction items using List.reverseRecOn with
  | nil => cases member
  | append_singleton items last ih =>
    rw [List.map_append, List.nodup_append] at nodup
    obtain ⟨earlier, -, apart⟩ := nodup
    rw [List.foldl_append, List.foldl_cons, List.foldl_nil, lookup_insert_eq]
    rcases List.mem_append.mp member with before | isLast
    · rw [if_neg (apart _ (List.mem_map_of_mem before) _ (by simp)), ih earlier before]
    · obtain rfl := List.mem_singleton.mp isLast
      rw [if_pos rfl]

theorem exists_of_lookup_foldl_insert {A : Type*} (key : A → K) (value : A → V) {items : List A}
    {target : K} {stored : V}
    (found : (items.foldl (fun current a => current.insert (key a) (value a)) m).lookup target =
      some stored) :
    m.lookup target = some stored ∨ ∃ item ∈ items, key item = target ∧ value item = stored := by
  induction items generalizing m with
  | nil => exact .inl found
  | cons item rest ih =>
    rcases ih found with before | ⟨other, member, isKey, isValue⟩
    · rw [lookup_insert_eq] at before
      split_ifs at before with same
      · exact .inr ⟨item, by simp, same.symm, Option.some.inj before⟩
      · exact .inl before
    · exact .inr ⟨other, by simp [member], isKey, isValue⟩

variable (change : K → V → Option W → Option W)

/-- The loop `for key, value := range source { target[key] = … }`. -/
def rangeAlter (source : GoMap K V) (target : GoMap K W) : GoMap K W :=
  source.entries.foldl (fun current entry => current.alter entry.1 (change entry.1 entry.2)) target

/-- A loop over a map that only changes what is read when it visits one key. -/
theorem read_range {S A : Type*} (read : S → A) (visit : S → (Sigma fun _ : K => V) → S) (key : K)
    (update : V → A → A)
    (here : ∀ state value, read (visit state ⟨key, value⟩) = update value (read state))
    (elsewhere : ∀ state entry, entry.1 ≠ key → read (visit state entry) = read state)
    (m : GoMap K V) (start : S) :
    read (m.entries.foldl visit start) =
      match m.lookup key with
      | none => read start
      | some value => update value (read start) := by
  have entries : ∀ entries : List (Sigma fun _ : K => V), entries.NodupKeys → ∀ start,
      read (entries.foldl visit start) =
        (entries.dlookup key).elim (read start) (update · (read start)) := by
    intro entries
    induction entries with
    | nil => exact fun _ _ => rfl
    | cons entry rest ih =>
      intro nodup start
      obtain ⟨fresh, restNodup⟩ := List.nodupKeys_cons.mp nodup
      rw [List.foldl_cons, ih restNodup]
      obtain ⟨head, value⟩ := entry
      by_cases same : head = key
      · subst same
        rw [List.dlookup_eq_none.mpr fresh, List.dlookup_cons_eq]
        exact here start value
      · rw [List.dlookup_cons_ne _ _ (Ne.symm same), elsewhere _ _ same]
  refine (entries m.entries m.nodupKeys start).trans ?_
  unfold AList.lookup
  cases m.entries.dlookup key <;> rfl

theorem lookup_rangeAlter (source : GoMap K V) (target : GoMap K W) (key : K) :
    (rangeAlter change source target).lookup key =
      match source.lookup key with
      | none => target.lookup key
      | some value => change key value (target.lookup key) := by
  unfold rangeAlter
  refine read_range (AList.lookup key) _ key (change key) (fun m value => ?_)
    (fun m entry different => ?_) source target
  · rw [lookup_alter, if_pos rfl]
  · rw [lookup_alter, if_neg (Ne.symm different)]

def mapValues (change : V → W) (m : GoMap K V) : GoMap K W :=
  rangeAlter (fun _ value _ => some (change value)) m ∅

theorem lookup_mapValues (change : V → W) (m : GoMap K V) (key : K) :
    (m.mapValues change).lookup key = (m.lookup key).map change := by
  rw [mapValues, lookup_rangeAlter]
  cases m.lookup key <;> simp

/-- Merge a source into a target: new keys are copied, common ones combined. -/
def merge (combine : V → V → V) (source target : GoMap K V) : GoMap K V :=
  rangeAlter (fun _ value stored => some (match stored with
    | none => value
    | some stored => combine stored value)) source target

theorem lookup_merge (combine : V → V → V) (source target : GoMap K V) (key : K) :
    (merge combine source target).lookup key =
      match source.lookup key, target.lookup key with
      | none, stored => stored
      | some value, none => some value
      | some value, some stored => some (combine stored value) := by
  rw [merge, lookup_rangeAlter]
  cases source.lookup key <;> cases target.lookup key <;> rfl

theorem merge_of_entries_nil {combine : V → V → V} {source target : GoMap K V}
    (empty : source.entries = []) : merge combine source target = target := by
  have isEmpty : source = ∅ := AList.ext empty
  rw [isEmpty]
  rfl

theorem forall_lookup_merge {Holds : V → Prop} {combine : V → V → V} {source target : GoMap K V}
    (combines : ∀ stored value, Holds stored → Holds value → Holds (combine stored value))
    (inSource : ∀ key value, source.lookup key = some value → Holds value)
    (inTarget : ∀ key value, target.lookup key = some value → Holds value) :
    ∀ key value, (merge combine source target).lookup key = some value → Holds value := by
  intro key value found
  rw [lookup_merge] at found
  cases new : source.lookup key with
  | none =>
    rw [new] at found
    exact inTarget key value found
  | some added =>
    cases stored : target.lookup key with
    | none =>
      rw [new, stored] at found
      exact inSource key value (new.trans found)
    | some held =>
      rw [new, stored] at found
      exact Option.some.inj found ▸
        combines held added (inTarget key held stored) (inSource key added new)

theorem mem_merge {combine : V → V → V} {source target : GoMap K V} :
    key ∈ merge combine source target ↔ key ∈ source ∨ key ∈ target := by
  rw [← AList.lookup_isSome, ← AList.lookup_isSome, ← AList.lookup_isSome, lookup_merge]
  cases source.lookup key <;> cases target.lookup key <;> simp

section Sums

variable {A : Type*} [AddCommGroup A]

def sumOver (weigh : K → V → A) (m : GoMap K V) : A :=
  (m.entries.map fun entry => weigh entry.1 entry.2).sum

omit [DecidableEq K] in
@[simp] theorem sumOver_empty (weigh : K → V → A) : sumOver weigh (∅ : GoMap K V) = 0 := rfl

def weightAt (weigh : K → V → A) (m : GoMap K V) (key : K) : A :=
  (m.lookup key).elim 0 (weigh key)

theorem weightAt_of_lookup {weigh : K → V → A} {m : GoMap K V} {key : K} {value : V}
    (found : m.lookup key = some value) : weightAt weigh m key = weigh key value := by
  simp [weightAt, found]

variable (weigh : K → V → A)

theorem sumOver_eq_sum (m : GoMap K V) (keys : Finset K) (all : ∀ key ∈ m, key ∈ keys) :
    sumOver weigh m = ∑ key ∈ keys, weightAt weigh m key := by
  have byKeys : sumOver weigh m = (m.keys.map (weightAt weigh m)).sum := by
    unfold sumOver AList.keys List.keys
    rw [List.map_map]
    congr 1
    apply List.map_congr_left
    intro entry member
    exact (weightAt_of_lookup (mem_entries_iff.mp member)).symm
  rw [byKeys, ← List.sum_toFinset _ m.keys_nodup]
  apply Finset.sum_subset
  · intro key member
    exact all key (AList.mem_keys.mpr (List.mem_toFinset.mp member))
  · intro key _ absent
    have missing : m.lookup key = none := AList.lookup_eq_none.mpr fun present =>
        absent (List.mem_toFinset.mpr (AList.mem_keys.mp present))
    simp [weightAt, missing]

theorem sumOver_eq_of_weightAt {weigh : K → V → A} {weigh' : K → W → A} {m : GoMap K V}
    {m' : GoMap K W} (same : ∀ key, weightAt weigh m key = weightAt weigh' m' key) :
    sumOver weigh m = sumOver weigh' m' := by
  have left := sumOver_eq_sum weigh m (m.keys.toFinset ∪ m'.keys.toFinset)
    fun key present => by simp [AList.mem_keys.mp present]
  have right := sumOver_eq_sum weigh' m' (m.keys.toFinset ∪ m'.keys.toFinset)
    fun key present => by simp [AList.mem_keys.mp present]
  rw [left, right]
  exact Finset.sum_congr rfl fun key _ => same key

theorem sumOver_erase (m : GoMap K V) (key : K) :
    sumOver weigh (m.erase key) = sumOver weigh m - weightAt weigh m key := by
  cases found : m.lookup key with
  | none =>
    have absent : key ∉ m.entries.keys := AList.lookup_eq_none.mp found
    have same : (m.erase key).entries = m.entries := List.kerase_of_notMem_keys absent
    simp [sumOver, weightAt, same, found]
  | some value =>
    have present : key ∈ m.entries.keys := AList.lookup_isSome.mp (by simp [found])
    obtain ⟨held, front, back, fresh, split, erased⟩ := List.exists_of_kerase present
    have heldEq : held = value := by
      have inEntries : (⟨key, held⟩ : Sigma fun _ : K => V) ∈ m.entries := by
        rw [split]
        simp
      have lookedUp := mem_entries_iff.mp inEntries
      rw [found] at lookedUp
      exact (Option.some.inj lookedUp).symm
    have entriesErase : (m.erase key).entries = front ++ back := erased
    rw [weightAt_of_lookup found]
    simp only [sumOver, entriesErase, split, List.map_append, List.map_cons, List.sum_append,
      List.sum_cons, heldEq]
    abel

theorem sumOver_insert (m : GoMap K V) (key : K) (value : V) : sumOver weigh (m.insert key value) =
      sumOver weigh m - weightAt weigh m key + weigh key value := by
  have entriesInsert : (m.insert key value).entries = ⟨key, value⟩ :: (m.erase key).entries :=
    AList.entries_insert
  have erased := sumOver_erase weigh m key
  simp only [sumOver, entriesInsert, List.map_cons, List.sum_cons] at erased ⊢
  rw [erased]
  abel

theorem sumOver_alter (m : GoMap K V) (key : K) (change : Option V → Option V) :
    sumOver weigh (m.alter key change) =
      sumOver weigh m - weightAt weigh m key + (change (m.lookup key)).elim 0 (weigh key) := by
  unfold alter
  cases change (m.lookup key) with
  | none => simp [sumOver_erase]
  | some value => simp [sumOver_insert]

theorem weightAt_le_sumOver [PartialOrder A] [IsOrderedAddMonoid A] {weigh : K → V → A}
    {m : GoMap K V} (nonneg : ∀ key value, 0 ≤ weigh key value) (key : K) :
    weightAt weigh m key ≤ sumOver weigh m := by
  have rest : 0 ≤ sumOver weigh (m.erase key) := by
    apply List.sum_nonneg
    intro weight member
    obtain ⟨entry, _, rfl⟩ := List.mem_map.mp member
    exact nonneg entry.1 entry.2
  rw [sumOver_erase] at rest
  exact sub_nonneg.mp rest

end Sums

end GoMap

/-- An order of visit for every range loop of a computation. -/
structure RangeOrder (K : Type*) where
  visit : Nat → List K → List K
  perm : ∀ site keys, (visit site keys).Perm keys

namespace RangeOrder

variable {K : Type*}

def listed : RangeOrder K where
  visit _ keys := keys
  perm _ _ := .refl _

theorem mem_visit {order : RangeOrder K} {site : Nat} {keys : List K} {key : K} :
    key ∈ order.visit site keys ↔ key ∈ keys :=
  (order.perm site keys).mem_iff

end RangeOrder

variable {S K V : Type*}

theorem read_foldl [DecidableEq K] {read : S → K → V} {visit : S → K → S} (change : K → V → V)
    (Invariant : S → Prop) (kept : ∀ state key, Invariant state → Invariant (visit state key))
    (here : ∀ state key, Invariant state → read (visit state key) key = change key (read state key))
    (elsewhere : ∀ state key other, other ≠ key → read (visit state key) other = read state other)
    {keys : List K} (nodup : keys.Nodup) {state : S} (start : Invariant state) (key : K) :
    read (keys.foldl visit state) key =
      if key ∈ keys then change key (read state key) else read state key := by
  induction keys generalizing state with
  | nil => simp
  | cons first rest ih =>
    obtain ⟨notLater, nodupRest⟩ := List.nodup_cons.mp nodup
    rw [List.foldl_cons, ih nodupRest (kept state first start)]
    by_cases same : key = first
    · subst same
      rw [if_neg notLater, if_pos List.mem_cons_self, here state key start]
    · rw [elsewhere state first key same]
      simp [same]

end Kraftsman.Data
