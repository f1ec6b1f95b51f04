import Kraftsman.Provisioning.Topology

/-!
Contract: the text that identifies an inverse topology group stands for its key,
namespaces and selector.

Owns: the canonical text of a selector and of a group, and that the texts of
validated terms agree exactly if the terms do.
Does not own: the groups themselves, which are kept by what the text stands for.
-/

namespace Kraftsman.Provisioning

open Apis Data Scheduling

def joinedBy (separator : Char) (parts : List String) : String :=
  (String.singleton separator).intercalate parts

def operatorText : LabelSelectorOperator → String
  | .opIn => "In"
  | .opNotIn => "NotIn"
  | .opExists => "Exists"
  | .opDoesNotExist => "DoesNotExist"

def labelText (label : String × String) : String := label.1 ++ "=" ++ label.2

/-- An expression, with its values in no order. -/
abbrev Expression := String × LabelSelectorOperator × Multiset String

def expressionText (expression : Expression) : String :=
  joinedBy '\x02' (expression.1 :: operatorText expression.2.1 :: sortedTexts expression.2.2)

def labelPairs (selector : LabelSelector) : List (String × String) :=
  selector.matchLabels.entries.map fun label => (label.1, label.2)

def expressions (selector : LabelSelector) : List Expression :=
  selector.matchExpressions.map fun expression =>
    (expression.key, expression.operator, ↑expression.values)

def labelsText (selector : LabelSelector) : String :=
  joinedBy '\x01' (sortedTexts ((labelPairs selector).map labelText))

def expressionsText (selector : LabelSelector) : String :=
  joinedBy '\x01' (sortedStrings ((expressions selector).map expressionText).toFinset)

def canonicalLabelSelector : Option LabelSelector → String
  | none => "<nil>"
  | some selector => labelsText selector ++ "\x00" ++ expressionsText selector

def inverseTopologyGroupText (key : String) (namespaces : Finset String)
    (selector : Option LabelSelector) : String :=
  joinedBy '\x00' [key, joinedBy '\x01' (sortedStrings namespaces), canonicalLabelSelector selector]

/-- A text without control characters. -/
def Plain (text : String) : Prop := text.toList.all (' ' ≤ ·)

def PlainExpression (expression : Expression) : Prop :=
  Plain expression.1 ∧ ∀ value ∈ expression.2.2, Plain value

/-- What the API server validates of a term. Namespaces have names. -/
structure ValidatedTerm (key : String) (namespaces : Finset String)
    (selector : Option LabelSelector) : Prop where
  key : Plain key
  namespaces : ∀ nameSpace ∈ namespaces, nameSpace ≠ "" ∧ Plain nameSpace
  labels : ∀ given ∈ selector, ∀ label ∈ labelPairs given,
    Plain label.1 ∧ '=' ∉ label.1.toList ∧ Plain label.2
  written : ∀ given ∈ selector, ∀ expression ∈ expressions given, PlainExpression expression

/-- A part that a separator can be put after. -/
def Fresh (separator : Char) (part : String) : Prop := part ≠ "" ∧ separator ∉ part.toList

theorem joinedBy_injOn (separator : Char) : Set.InjOn (joinedBy separator)
    {parts | parts ≠ [""] ∧ ∀ part ∈ parts, separator ∉ part.toList} := by
  rintro left ⟨leftSome, leftFresh⟩ right ⟨rightSome, rightFresh⟩ same
  have parts := String.toList_split_intercalate leftFresh
  rw [← joinedBy, same, joinedBy, String.toList_split_intercalate rightFresh] at parts
  split_ifs at parts with rightEmpty leftEmpty leftEmpty
  · rw [leftEmpty, rightEmpty]
  · exact absurd parts.symm leftSome
  · exact absurd parts rightSome
  · exact parts.symm

variable {c separator : Char}

theorem Plain.notMem {text : String} (plain : Plain text) (control : c < ' ') : c ∉ text.toList :=
  fun mem => absurd (of_decide_eq_true (List.all_eq_true.mp plain c mem)) (not_le.mpr control)

theorem notMem_joinedBy (different : c ≠ separator) {parts : List String}
    (fresh : ∀ part ∈ parts, c ∉ part.toList) : c ∉ (joinedBy separator parts).toList := by
  unfold joinedBy
  induction parts with
  | nil => simp
  | cons part rest ih =>
    obtain ⟨own, others⟩ := List.forall_mem_cons.mp fresh
    cases rest with
    | nil => rwa [String.intercalate_singleton]
    | cons next rest =>
      rw [String.intercalate_cons_cons]
      simp only [String.toList_append, List.mem_append, String.toList_singleton, List.mem_singleton,
        own, different, ih others, or_self, not_false_eq_true]

theorem labelText_injOn : Set.InjOn labelText {label | '=' ∉ label.1.toList} := by
  intro left leftFresh right rightFresh same
  have read : ∀ label : String × String, '=' ∉ label.1.toList →
      (labelText label).toList.span (· ≠ '=') = (label.1.toList, '=' :: label.2.toList) := by
    intro label fresh
    have before : ∀ c ∈ label.1.toList, decide (c ≠ '=') := by
      intro c mem
      exact decide_eq_true fun isEqual => fresh (isEqual ▸ mem)
    rw [labelText, String.toList_append, String.toList_append, List.append_assoc,
      List.span_eq_takeWhile_dropWhile, List.takeWhile_append_of_pos before,
      List.dropWhile_append_of_pos before]
    simp
  have parts := read left leftFresh
  rw [same, read right rightFresh] at parts
  simp only [Prod.mk.injEq, List.cons.injEq, String.toList_inj, true_and] at parts
  exact Prod.ext parts.1.symm parts.2.symm

theorem PlainExpression.notMem {expression : Expression} (plain : PlainExpression expression)
    (control : c < ' ') :
    ∀ part ∈ expression.1 :: operatorText expression.2.1 :: sortedTexts expression.2.2,
      c ∉ part.toList := by
  have operator : Plain (operatorText expression.2.1) := by
    cases expression.2.1 <;> rfl
  simp only [List.forall_mem_cons, Multiset.mem_sort]
  exact ⟨plain.1.notMem control, operator.notMem control, fun value mem =>
    (plain.2 value mem).notMem control⟩

theorem sortedTexts_injective : Function.Injective sortedTexts := by
  intro left right sorted
  rw [← left.sort_eq (· ≤ ·), ← right.sort_eq (· ≤ ·)]
  exact congrArg _ sorted

theorem expressionText_injOn : Set.InjOn expressionText {item | PlainExpression item} := by
  intro left leftPlain right rightPlain same
  have parts := joinedBy_injOn '\x02' ⟨by simp, leftPlain.notMem (by decide)⟩
    ⟨by simp, rightPlain.notMem (by decide)⟩ same
  simp only [List.cons.injEq] at parts
  obtain ⟨sameKey, sameOperator, sameValues⟩ := parts
  refine Prod.ext sameKey (Prod.ext ?_ ?_)
  · cases leftOp : left.2.1 <;> cases rightOp : right.2.1 <;> simp_all [operatorText]
  · exact sortedTexts_injective sameValues

theorem toFinset_map_eq_iff {A B : Type*} [DecidableEq A] [DecidableEq B] {f : A → B} {s : Set A}
    (inj : Set.InjOn f s) {left right : List A} (leftIn : ∀ item ∈ left, item ∈ s)
    (rightIn : ∀ item ∈ right, item ∈ s) :
    (left.map f).toFinset = (right.map f).toFinset ↔ left.toFinset = right.toFinset := by
  have image : f '' {item | item ∈ left} = f '' {item | item ∈ right} ↔ _ :=
    inj.image_eq_image_iff leftIn rightIn
  simp only [Finset.ext_iff, List.mem_toFinset, Set.ext_iff] at image ⊢
  simpa using image

theorem joinedBy_sort_eq_iff {left right : Multiset String}
    (leftFresh : ∀ text ∈ left, Fresh '\x01' text) (rightFresh : ∀ text ∈ right, Fresh '\x01' text) :
    joinedBy '\x01' (sortedTexts left) = joinedBy '\x01' (sortedTexts right) ↔ left = right := by
  have valid : ∀ texts : Multiset String, (∀ text ∈ texts, Fresh '\x01' text) → sortedTexts texts ∈
      {parts | parts ≠ [""] ∧ ∀ part ∈ parts, '\x01' ∉ part.toList} := by
    intro texts fresh
    refine ⟨fun single => ?_, fun part mem => (fresh part ((Multiset.mem_sort _).mp mem)).2⟩
    have member : "" ∈ sortedTexts texts := single ▸ List.mem_singleton_self _
    exact (fresh "" ((Multiset.mem_sort _).mp member)).1 rfl
  rw [(joinedBy_injOn '\x01').eq_iff (valid left leftFresh) (valid right rightFresh)]
  exact sortedTexts_injective.eq_iff

variable {key key' : String} {namespaces namespaces' : Finset String}
  {selector selector' : Option LabelSelector} {left right : LabelSelector}

namespace ValidatedTerm

section

variable (valid : ValidatedTerm key namespaces (some left)) (control : c < '\x02')
include valid control

theorem labelTexts : ∀ text ∈ (labelPairs left).map labelText, Fresh c text := by
  rw [List.forall_mem_map]
  intro label mem
  obtain ⟨key, -, value⟩ := valid.labels left rfl label mem
  have plain : c < ' ' := control.trans (by decide)
  have different : c ≠ '=' := (plain.trans (by decide)).ne
  simp [Fresh, labelText, key.notMem plain, value.notMem plain, different]

theorem expressionTexts :
    ∀ text ∈ ((expressions left).map expressionText).toFinset, Fresh c text := by
  simp only [List.mem_toFinset, List.forall_mem_map]
  intro expression mem
  constructor
  · unfold expressionText joinedBy
    rw [String.intercalate_cons_cons]
    simp
  · exact notMem_joinedBy control.ne
      ((valid.written left rfl expression mem).notMem (control.trans (by decide)))

end

section

variable (leftValid : ValidatedTerm key namespaces (some left))
  (rightValid : ValidatedTerm key' namespaces' (some right))
include leftValid rightValid

theorem labelsText_eq_iff : labelsText left = labelsText right ↔
    (labelPairs left).toFinset = (labelPairs right).toFinset := by
  have nodup : ∀ selector, (labelPairs selector).Nodup := by
    intro selector
    apply List.Nodup.of_map Prod.fst
    rw [labelPairs, List.map_map]
    exact selector.matchLabels.nodupKeys
  unfold labelsText
  rw [joinedBy_sort_eq_iff (leftValid.labelTexts (by decide)) (rightValid.labelTexts (by decide)),
    Multiset.coe_eq_coe]
  constructor
  · intro same
    refine (toFinset_map_eq_iff labelText_injOn
      (fun label mem => (leftValid.labels left rfl label mem).2.1)
      fun label mem => (rightValid.labels right rfl label mem).2.1).mp ?_
    exact List.toFinset_eq_of_perm _ _ same
  · intro same
    exact (List.perm_of_nodup_nodup_toFinset_eq (nodup left) (nodup right) same).map _

theorem expressionsText_eq_iff : expressionsText left = expressionsText right ↔
    (expressions left).toFinset = (expressions right).toFinset := by
  unfold expressionsText sortedStrings Finset.sort
  rw [joinedBy_sort_eq_iff (leftValid.expressionTexts (by decide))
      (rightValid.expressionTexts (by decide)), Finset.val_inj,
    toFinset_map_eq_iff expressionText_injOn (leftValid.written _ rfl) (rightValid.written _ rfl)]

end

end ValidatedTerm

def selectorParts : Option LabelSelector → List String
  | none => ["<nil>"]
  | some selector => [labelsText selector, expressionsText selector]

theorem inverseTopologyGroupText_eq : inverseTopologyGroupText key namespaces selector =
    joinedBy '\x00' (key :: joinedBy '\x01' (sortedStrings namespaces) :: selectorParts selector) := by
  cases selector with
  | none => rfl
  | some selector =>
    unfold inverseTopologyGroupText joinedBy selectorParts canonicalLabelSelector
    simp only [String.intercalate_cons_cons, String.intercalate_singleton]
    rfl

theorem ValidatedTerm.fresh (valid : ValidatedTerm key namespaces selector) :
    ∀ part ∈ key :: joinedBy '\x01' (sortedStrings namespaces) :: selectorParts selector,
      '\x00' ∉ part.toList := by
  simp only [List.forall_mem_cons]
  refine ⟨valid.key.notMem (by decide), notMem_joinedBy (by decide) fun part mem => ?_, ?_⟩
  · exact (valid.namespaces part ((Finset.mem_sort _).mp mem)).2.notMem (by decide)
  · cases selector with
    | none => simp [selectorParts]
    | some selector =>
      simp only [selectorParts, List.forall_mem_cons]
      refine ⟨notMem_joinedBy (by decide) fun part mem => ?_,
        notMem_joinedBy (by decide) fun part mem => ?_, by simp⟩
      · exact (valid.labelTexts (by decide) part ((Multiset.mem_sort _).mp mem)).2
      · exact (valid.expressionTexts (by decide) part ((Finset.mem_sort _).mp mem)).2

theorem inverseTopologyGroupText_eq_iff_key (valid : ValidatedTerm key namespaces selector)
    (valid' : ValidatedTerm key' namespaces' selector') :
    inverseTopologyGroupText key namespaces selector =
        inverseTopologyGroupText key' namespaces' selector' ↔
      inverseTopologyGroupKey key namespaces selector =
        inverseTopologyGroupKey key' namespaces' selector' := by
  have named : ∀ {key namespaces selector}, ValidatedTerm key namespaces selector →
      ∀ nameSpace ∈ namespaces.val, Fresh '\x01' nameSpace :=
    fun valid nameSpace mem => (valid.namespaces nameSpace mem).imp_right (·.notMem (by decide))
  rw [inverseTopologyGroupText_eq, inverseTopologyGroupText_eq,
    (joinedBy_injOn '\x00').eq_iff ⟨by simp, valid.fresh⟩ ⟨by simp, valid'.fresh⟩]
  unfold inverseTopologyGroupKey
  rw [InverseID.mk.injEq, List.cons.injEq, List.cons.injEq, ← Finset.val_inj]
  refine and_congr Iff.rfl (and_congr (joinedBy_sort_eq_iff (named valid) (named valid')) ?_)
  cases selector <;> cases selector'
  case some.some left right =>
    simp only [selectorParts, List.cons.injEq, and_true, Option.map_some, Option.some.injEq,
      Prod.mk.injEq]
    exact and_congr (valid.labelsText_eq_iff valid') (valid.expressionsText_eq_iff valid')
  all_goals simp [selectorParts]

theorem all_eq_of_toFinset_map_eq {A B : Type*} [DecidableEq B] {f : A → B} {p : A → Bool}
    (agree : ∀ item other, f item = f other → p item = p other) {left right : List A}
    (same : (left.map f).toFinset = (right.map f).toFinset) : left.all p = right.all p := by
  have one : ∀ left right : List A, (left.map f).toFinset ⊆ (right.map f).toFinset →
      right.all p → left.all p := by
    intro left right included
    simp only [List.all_eq_true]
    intro all item mem
    obtain ⟨other, listed, equal⟩ := List.mem_map.mp
      (List.mem_toFinset.mp (included (List.mem_toFinset.mpr (List.mem_map_of_mem mem))))
    rw [← agree other item equal]
    exact all other listed
  exact Bool.eq_iff_iff.mpr ⟨one right left same.ge, one left right same.le⟩

theorem asSelector_eq_of_key_eq (same : inverseTopologyGroupKey key namespaces selector =
    inverseTopologyGroupKey key' namespaces' selector') :
    LabelSelector.asSelector selector = LabelSelector.asSelector selector' := by
  have selected := congrArg InverseID.selector same
  cases selector <;> cases selector'
  case some.some left right =>
    obtain ⟨labels, written⟩ := Prod.mk.inj (Option.some.inj selected)
    have parses : left.parses = right.parses := by
      refine all_eq_of_toFinset_map_eq (fun item other equal => ?_) written
      simp only [Prod.mk.injEq, Multiset.coe_eq_coe] at equal
      simp only [LabelSelectorRequirement.parses, equal.2.1, equal.2.2.isEmpty_eq]
    have holds : left.holds = right.holds := by
      funext given
      refine congrArg₂ and (all_eq_of_toFinset_map_eq (fun item other equal => ?_) labels)
        (all_eq_of_toFinset_map_eq (fun item other equal => ?_) written)
      · obtain ⟨sameKey, sameValue⟩ := Prod.mk.inj equal
        rw [show item = other from Sigma.ext sameKey (heq_of_eq sameValue)]
      · simp only [Prod.mk.injEq, Multiset.coe_eq_coe] at equal
        unfold LabelSelectorRequirement.holds
        rw [equal.1, equal.2.1]
        simp only [equal.2.2.contains_eq]
    simp only [LabelSelector.asSelector, parses, holds]
  all_goals first | rfl | cases selected

/-- Validated terms share an inverse group exactly if they agree in key, namespaces and content of
the selector, and then they select the same pods. -/
theorem inverseTopologyGroupText_eq_iff (valid : ValidatedTerm key namespaces selector)
    (valid' : ValidatedTerm key' namespaces' selector') :
    (inverseTopologyGroupText key namespaces selector =
        inverseTopologyGroupText key' namespaces' selector' ↔
      key = key' ∧ namespaces = namespaces' ∧
        selector.map (fun given => ((labelPairs given).toFinset, (expressions given).toFinset)) =
          selector'.map fun given => ((labelPairs given).toFinset, (expressions given).toFinset)) ∧
    (inverseTopologyGroupText key namespaces selector =
        inverseTopologyGroupText key' namespaces' selector' →
      namespaces = namespaces' ∧
        LabelSelector.asSelector selector = LabelSelector.asSelector selector') := by
  have iff := inverseTopologyGroupText_eq_iff_key valid valid'
  refine ⟨iff.trans (iff_of_eq (InverseID.mk.injEq ..)), fun same => ?_⟩
  exact ⟨congrArg InverseID.namespaces (iff.mp same), asSelector_eq_of_key_eq (iff.mp same)⟩

/-- A label and two expressions, in either order. -/
def webSelector (reversed : Bool) : LabelSelector where
  matchLabels := AList.singleton "app" "web"
  matchExpressions :=
    if reversed then [⟨"track", .opExists, []⟩, ⟨"tier", .opIn, ["back", "front"]⟩]
    else [⟨"tier", .opIn, ["front", "back"]⟩, ⟨"track", .opExists, []⟩]

/-- The order of expressions and of their values does not matter, but a selector does. -/
theorem inverseTopologyGroupText_webSelector :
    inverseTopologyGroupText "zone" {"default"} (some (webSelector false)) =
      inverseTopologyGroupText "zone" {"default"} (some (webSelector true)) ∧
    inverseTopologyGroupText "zone" {"default"} none ≠
      inverseTopologyGroupText "zone" {"default"} (some (webSelector true)) := by
  have named : ∀ nameSpace ∈ ({"default"} : Finset String), nameSpace ≠ "" ∧ Plain nameSpace := by
    unfold Plain
    decide
  have valid : ∀ reversed, ValidatedTerm "zone" {"default"} (some (webSelector reversed)) := by
    intro reversed
    constructor
    · rfl
    · exact named
    · unfold Plain
      revert reversed
      decide +kernel
    · unfold PlainExpression Plain
      revert reversed
      decide +kernel
  refine ⟨(inverseTopologyGroupText_eq_iff (valid false) (valid true)).1.mpr
    ⟨rfl, rfl, by decide +kernel⟩, fun same => ?_⟩
  have parts := (inverseTopologyGroupText_eq_iff ⟨by rfl, named, by simp, by simp⟩ (valid true)).1.mp same
  cases parts.2.2

end Kraftsman.Provisioning
