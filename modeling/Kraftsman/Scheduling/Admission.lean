import Kraftsman.Scheduling.LabelSemantics
import Kraftsman.Scheduling.Narrowing

/-!
Contract: the labels that sets of requirements admit, and how merging compatible
sets keeps them.

Owns: admission of labels, sets of requirements as constructors leave them, and
what merged requirements admit.
Does not own: which requirements are merged.
-/

namespace Kraftsman.Scheduling

open Apis Data Requirement MergesAll Option

def Requirements.Admits (requirements : Requirements) (labels : String → Option String) : Prop :=
  ∀ key r, requirements.lookup key = some r → accepts r (labels key) = true

def Requirements.parts (requirements : Requirements) : Set Requirement :=
  {r | ∃ key, requirements.lookup key = some r}

/-- Each requirement stands under its own normalized key and stands for a merge. -/
def Requirements.Regular (tables : LabelTables) (requirements : Requirements) : Prop :=
  MergesAll tables requirements requirements.parts

def partsOf (sources : Set Requirements) : Set Requirement :=
  {r | ∃ source ∈ sources, r ∈ source.parts}

/-- No key that one source only requires to exist has values excluded by another:
merged, they read as an exclusion, which an absent label satisfies. -/
def Unambiguous (sources : Set Requirements) : Prop :=
  ∀ r ∈ partsOf sources, ∀ other ∈ partsOf sources, r.key = other.key →
    r.complement = true → r.values = ∅ → other.complement = true → other.values = ∅

section Regular

variable {tables : LabelTables} {requirements other : Requirements} {parts : Set Requirement}

section

variable (all : MergesAll tables requirements parts)
include all

theorem MergesAll.congr (same : ∀ key, other.lookup key = requirements.lookup key) :
    MergesAll tables other parts where
  normalized := all.normalized
  absent key isAbsent := all.absent key (same key ▸ isAbsent)
  merged key r found := all.merged key r (same key ▸ found)

theorem MergesAll.keyed : requirements.Keyed tables := by
  intro key r found
  obtain ⟨sameKey, merges⟩ := all.merged key r found
  obtain ⟨part, inParts, partKey⟩ := merges.nonempty
  exact ⟨sameKey, partKey ▸ all.normalized part inParts⟩

theorem MergesAll.regular : requirements.Regular tables where
  normalized := by
    rintro r ⟨key, found⟩
    obtain ⟨rfl, normalized⟩ := all.keyed key r found
    exact normalized
  absent := by
    rintro key isAbsent r ⟨other, found⟩ rfl
    rw [(all.merged other r found).1] at isAbsent
    exact absurd (isAbsent.symm.trans found) (by simp)
  merged := by
    intro key r found
    obtain ⟨sameKey, merges⟩ := all.merged key r found
    have alone : {part ∈ requirements.parts | part.key = key} = {r} := by
      ext part
      constructor
      · rintro ⟨⟨other, isPart⟩, rfl⟩
        rw [← (all.merged other part isPart).1] at isPart
        exact some.inj (isPart.symm.trans found)
      · rintro rfl
        exact ⟨⟨key, found⟩, sameKey⟩
    exact ⟨sameKey, alone ▸ merges.itself⟩

end

theorem regular_newNodeSelectorRequirements (tables : LabelTables)
    (expressions : List NodeSelectorRequirement) :
    (Requirements.newNodeSelectorRequirements tables expressions).Regular tables := by
  refine (newRequirements tables _ ?_ ?_).regular
  · intro r member
    obtain ⟨expression, -, rfl⟩ := List.mem_map.mp member
    exact .newRequirement tables _ _ _
  · intro r member
    obtain ⟨expression, -, rfl⟩ := List.mem_map.mp member
    rw [newRequirement_key, LabelTables.normalizeKey_idem]

theorem Requirements.Regular.lookup_of_mem (regular : requirements.Regular tables) {r : Requirement}
    (member : r ∈ requirements.parts) : requirements.lookup r.key = some r := by
  obtain ⟨key, found⟩ := member
  rw [(merged regular key r found).1]
  exact found

theorem MergesAll.foldl_add_values {A : Type*} {sets : List A} {setOf : A → Requirements}
    {partsAt : A → Set Requirement} (all : MergesAll tables requirements parts)
    (merged : ∀ item ∈ sets, MergesAll tables (setOf item) (partsAt item)) :
    MergesAll tables (sets.foldl (fun sum item => sum.add tables (setOf item).values) requirements)
      (parts ∪ {r | ∃ item ∈ sets, r ∈ partsAt item}) :=
  foldl_union all fun item member _ _ all => all.add_values (merged item member)

end Regular

theorem Merges.values_eq_empty {r : Requirement} {parts : Set Requirement} (merges : Merges r parts)
    (complement : r.complement)
    (plain : ∀ part ∈ parts, part.complement → part.values = ∅) : r.values = ∅ := by
  apply Finset.eq_empty_of_forall_notMem
  intro excluded inValues
  obtain ⟨⟨part, inParts, inPart⟩, -⟩ := (merges.excluded complement excluded).mp inValues
  rw [plain part inParts (merges.complement_parts complement part inParts)] at inPart
  simp at inPart

/-- Merged compatible sources: where one rejects an absent label, some value is left. -/
structure Gathered (tables : LabelTables) (requirements : Requirements)
    (sources : Set Requirements) : Prop where
  regular : ∀ source ∈ sources, source.Regular tables
  merges : MergesAll tables requirements (partsOf sources)
  demands : ∀ r ∈ partsOf sources, r.negative = false →
    ∃ merged value, requirements.lookup r.key = some merged ∧ merged.has value = true

section Gathering

variable {tables : LabelTables} {requirements : Requirements} {sources : Set Requirements}

theorem partsOf_insert (source : Requirements) (sources : Set Requirements) :
    partsOf (insert source sources) = partsOf sources ∪ source.parts := by
  ext r
  simp [partsOf, or_comm]

theorem partsOf_mono {fewer more : Set Requirements} (subset : fewer ⊆ more) :
    partsOf fewer ⊆ partsOf more := by
  rintro r ⟨source, member, isPart⟩
  exact ⟨source, subset member, isPart⟩

theorem Unambiguous.mono {fewer more : Set Requirements} (unambiguous : Unambiguous more)
    (subset : fewer ⊆ more) : Unambiguous fewer :=
  fun r member other otherMember =>
    unambiguous r (partsOf_mono subset member) other (partsOf_mono subset otherMember)

theorem positive_of_merges {merged r : Requirement} (all : MergesAll tables requirements (partsOf sources))
    (unambiguous : Unambiguous sources) (isPart : r ∈ partsOf sources)
    (positive : r.negative = false) (found : requirements.lookup r.key = some merged)
    {value : String} (leaves : merged.has value) : merged.negative = false := by
  obtain ⟨-, merges⟩ := all.merged r.key merged found
  rw [Bool.eq_false_iff, ne_eq, negative_iff]
  cases complement : merged.complement with
  | false =>
    have inValues : value ∈ merged.values := (has_iff.mp leaves).1.mpr complement
    simp [Finset.ne_empty_of_mem inValues]
  | true =>
    -- all sources are complements, so the demanding one excludes nothing and neither do the others
    have isComplement := merges.complement_parts complement r ⟨isPart, rfl⟩
    have empty : merged.values = ∅ := merges.values_eq_empty complement fun part inParts =>
      unambiguous r isPart part inParts.1 inParts.2.symm isComplement
        (values_eq_empty_of_positive positive isComplement)
    simp [empty]

theorem Gathered.admits {merged : Requirements} {some : Set Requirements}
    (gathered : Gathered tables requirements sources) (unambiguous : Unambiguous sources)
    (subset : some ⊆ sources) (all : MergesAll tables merged (partsOf some))
    {labels : String → Option String} (admits : merged.Admits labels) :
    ∀ source ∈ some, source.Admits labels := by
  intro source member key r found
  have sameKey : r.key = key := ((gathered.regular source (subset member)).merged key r found).1
  subst sameKey
  have isPart : r ∈ partsOf some := ⟨source, member, r.key, found⟩
  obtain ⟨narrowed, isNarrowed⟩ : ∃ narrowed, merged.lookup r.key = .some narrowed := by
    cases isLookup : merged.lookup r.key with
    | none => exact absurd rfl (all.absent r.key isLookup r isPart)
    | some narrowed => exact ⟨narrowed, rfl⟩
  have merges := (all.merged r.key narrowed isNarrowed).2
  have accepted := admits r.key narrowed isNarrowed
  cases label : labels r.key with
  | some value =>
    rw [label] at accepted
    exact (merges.has value).mp accepted r ⟨isPart, rfl⟩
  | none =>
    rw [label] at accepted
    by_contra rejected
    have positive : r.negative = false := by simpa [accepts] using rejected
    obtain ⟨whole, value, isWhole, leaves⟩ :=
      gathered.demands r (partsOf_mono subset isPart) positive
    -- the value that all sources leave is left by some of them
    have left : narrowed.has value := by
      rw [merges.has]
      rintro part ⟨inParts, partKey⟩
      exact (((gathered.merges.merged r.key whole isWhole).2.has value).mp leaves) part
        ⟨partsOf_mono subset inParts, partKey⟩
    rw [accepts, positive_of_merges all (unambiguous.mono subset) isPart positive isNarrowed left]
      at accepted
    cases accepted

theorem Gathered.of_merges {other : Requirements} (gathered : Gathered tables requirements sources)
    (all : MergesAll tables other (partsOf sources)) : Gathered tables other sources where
  regular := gathered.regular
  merges := all
  demands := by
    intro r isPart positive
    obtain ⟨merged, value, isMerged, leaves⟩ := gathered.demands r isPart positive
    cases found : other.lookup r.key with
    | none => exact absurd rfl (all.absent r.key found r isPart)
    | some again =>
      refine ⟨again, value, rfl, ?_⟩
      rw [(all.merged r.key again found).2.has,
        ← (gathered.merges.merged r.key merged isMerged).2.has]
      exact leaves

theorem gathered_singleton (regular : requirements.Regular tables) :
    Gathered tables requirements {requirements} := by
  have parts : partsOf {requirements} = requirements.parts := by simp [partsOf]
  refine ⟨by simpa using regular, parts ▸ regular, ?_⟩
  rw [parts]
  rintro r ⟨key, found⟩ positive
  obtain ⟨rfl, merges⟩ := merged regular key r found
  obtain ⟨value, leaves⟩ := merges.exists_has positive
  exact ⟨r, value, found, leaves⟩

theorem exists_has_of_overlap {r incoming : Requirement} {parts others : Set Requirement}
    (merges : Merges r parts) (incomingMerges : Merges incoming others)
    (sameKey : incoming.key = r.key) (normalized : tables.normalizeKey r.key = r.key)
    (overlap : r.hasIntersection incoming)
    (plain : r.complement → incoming.complement → r.values = ∅ ∧ incoming.values = ∅) :
    ∃ value, r.has value ∧ incoming.has value := by
  unfold hasIntersection at overlap
  dsimp only at overlap
  split_ifs at overlap with conflict both right left
  · -- within bounds that do not conflict there is an integer
    obtain ⟨isComplement, incomingComplement⟩ := Bool.and_eq_true_iff.mp both
    obtain ⟨empty, incomingEmpty⟩ := plain isComplement incomingComplement
    have positive : (r.intersection tables incoming).negative = false := by
      rw [Bool.eq_false_iff, ne_eq, negative_iff]
      simp [intersection, conflict, isComplement, incomingComplement, empty, incomingEmpty]
    obtain ⟨value, leaves⟩ :=
      (merges.intersection tables incomingMerges sameKey normalized).exists_has positive
    exact ⟨value, (has_intersection tables r incoming value).mp leaves⟩
  all_goals
    obtain ⟨value, inValues, outside, within⟩ := of_decide_eq_true overlap
    obtain ⟨inBounds, inIncoming⟩ := withinBounds_merge.mp within
    refine ⟨value, has_iff.mpr ⟨?_, inBounds⟩, has_iff.mpr ⟨?_, inIncoming⟩⟩ <;> simp_all

section Adding

variable {source : Requirements} {allowUndefined : Finset String} {r existing incoming : Requirement}

section

variable (gathered : Gathered tables requirements sources)
include gathered

theorem Gathered.hasIntersection
    (compatible : requirements.isCompatible tables source allowUndefined)
    (unambiguous : Unambiguous sources) (positive : r.negative = false)
    (isPart : r ∈ partsOf sources ∨ source.lookup r.key = some r)
    (isExisting : requirements.lookup r.key = some existing)
    (isIncoming : source.lookup r.key = some incoming) :
    existing.hasIntersection incoming := by
  have overlapping := (Requirements.isCompatible_iff tables).mp compatible r.key incoming isIncoming
  rw [isExisting] at overlapping
  rcases Bool.or_eq_true_iff.mp overlapping with overlap | bothNegative
  · exact overlap
  obtain ⟨incomingNegative, existingNegative⟩ := Bool.and_eq_true_iff.mp bothNegative
  rcases isPart with earlier | isOwn
  · obtain ⟨merged, value, isMerged, leaves⟩ := gathered.demands r earlier positive
    obtain rfl := some.inj (isMerged.symm.trans isExisting)
    rw [positive_of_merges gathered.merges unambiguous earlier positive isExisting leaves]
      at existingNegative
    cases existingNegative
  · obtain rfl := some.inj (isOwn.symm.trans isIncoming)
    rw [positive] at incomingNegative
    cases incomingNegative

theorem Gathered.plain (unambiguous : Unambiguous (insert source sources))
    (positive : r.negative = false) (isPart : r ∈ partsOf sources ∨ source.lookup r.key = some r)
    (isExisting : requirements.lookup r.key = some existing)
    (isIncoming : source.lookup r.key = some incoming) (incomingKey : incoming.key = r.key)
    (isComplement : existing.complement) (incomingComplement : incoming.complement) :
    existing.values = ∅ ∧ incoming.values = ∅ := by
  have existingMerges := (gathered.merges.merged r.key existing isExisting).2
  have inParts : r ∈ partsOf (insert source sources) := by
    rw [partsOf_insert]
    exact isPart.imp id fun isOwn => ⟨r.key, isOwn⟩
  have demanding : r.complement := by
    rcases isPart with earlier | isOwn
    · exact existingMerges.complement_parts isComplement r ⟨earlier, rfl⟩
    · obtain rfl := some.inj (isOwn.symm.trans isIncoming)
      exact incomingComplement
  have others : ∀ part ∈ partsOf (insert source sources), part.key = r.key →
      part.complement → part.values = ∅ := fun part member partKey =>
    unambiguous r inParts part member partKey.symm demanding
      (values_eq_empty_of_positive positive demanding)
  constructor
  · exact existingMerges.values_eq_empty isComplement fun part member =>
      others part (partsOf_mono (Set.subset_insert _ _) member.1) member.2
  · exact others incoming ⟨source, by simp, r.key, isIncoming⟩ incomingKey incomingComplement

/-- Where a source or a compatible new one rejects an absent label, they leave a value. -/
theorem Gathered.exists_has (regular : source.Regular tables)
    (compatible : requirements.isCompatible tables source allowUndefined)
    (unambiguous : Unambiguous (insert source sources)) (positive : r.negative = false)
    (isPart : r ∈ partsOf sources ∨ source.lookup r.key = some r) :
    ∃ value, (∀ part ∈ partsOf sources, part.key = r.key → part.has value) ∧
      ∀ incoming, source.lookup r.key = some incoming → incoming.has value := by
  cases isIncoming : source.lookup r.key with
  | none =>
    have earlier : r ∈ partsOf sources := by
      rcases isPart with earlier | isOwn
      · exact earlier
      · rw [isIncoming] at isOwn
        cases isOwn
    obtain ⟨merged, value, isMerged, leaves⟩ := gathered.demands r earlier positive
    refine ⟨value, fun part inParts partKey => ?_, by simp⟩
    exact ((gathered.merges.merged r.key merged isMerged).2.has value).mp leaves part
      ⟨inParts, partKey⟩
  | some incoming =>
    obtain ⟨incomingKey, incomingMerges⟩ := merged regular r.key incoming isIncoming
    cases isExisting : requirements.lookup r.key with
    | none =>
      have isOwn : r = incoming := by
        rcases isPart with earlier | isOwn
        · exact absurd rfl (gathered.merges.absent r.key isExisting r earlier)
        · exact some.inj (isOwn.symm.trans isIncoming)
      obtain ⟨value, leaves⟩ := incomingMerges.exists_has (isOwn ▸ positive)
      refine ⟨value, fun part inParts partKey => ?_, by simpa using leaves⟩
      exact absurd partKey (gathered.merges.absent r.key isExisting part inParts)
    | some existing =>
      obtain ⟨existingKey, existingMerges⟩ := gathered.merges.merged r.key existing isExisting
      have normalized : tables.normalizeKey existing.key = existing.key := by
        rw [existingKey]
        exact (gathered.merges.keyed r.key existing isExisting).2
      obtain ⟨value, leaves, incomingLeaves⟩ := exists_has_of_overlap existingMerges
        incomingMerges (incomingKey.trans existingKey.symm) normalized
        (gathered.hasIntersection compatible (unambiguous.mono (Set.subset_insert _ _)) positive
          isPart isExisting isIncoming)
        (gathered.plain unambiguous positive isPart isExisting isIncoming incomingKey)
      refine ⟨value, fun part inParts partKey => ?_, by simpa using incomingLeaves⟩
      exact (existingMerges.has value).mp leaves part ⟨inParts, partKey⟩

end

theorem Gathered.add (gathered : Gathered tables requirements sources)
    (regular : source.Regular tables)
    (compatible : requirements.isCompatible tables source allowUndefined)
    (unambiguous : Unambiguous (insert source sources)) :
    Gathered tables (requirements.add tables source.values) (insert source sources) := by
  have all : MergesAll tables (requirements.add tables source.values)
      (partsOf (insert source sources)) := by
    rw [partsOf_insert]
    exact gathered.merges.add_values regular
  refine ⟨?_, all, fun r inParts positive => ?_⟩
  · rintro other (rfl | member)
    · exact regular
    · exact gathered.regular other member
  have isPart : r ∈ partsOf sources ∨ source.lookup r.key = some r := by
    rw [partsOf_insert] at inParts
    exact inParts.imp id regular.lookup_of_mem
  obtain ⟨value, earlier, own⟩ := gathered.exists_has regular compatible unambiguous positive isPart
  cases found : (requirements.add tables source.values).lookup r.key with
  | none => exact absurd rfl (all.absent r.key found r inParts)
  | some narrowed =>
    refine ⟨narrowed, value, rfl, ((all.merged r.key narrowed found).2.has value).mpr ?_⟩
    rintro part ⟨member, partKey⟩
    rw [partsOf_insert] at member
    rcases member with inSources | inSource
    · exact earlier part inSources partKey
    · exact own part (partKey ▸ regular.lookup_of_mem inSource)

end Adding

end Gathering

end Kraftsman.Scheduling
