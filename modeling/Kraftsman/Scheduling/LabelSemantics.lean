import Kraftsman.Scheduling.Merging

/-!
Contract: the Kubernetes meaning of node selector expressions, and when the
merged requirements of a pod agree with it.

Owns: satisfaction of expressions by labels, and the exact class of pods whose
compatibility test is that satisfaction.
Does not own: preferences and the relaxation of terms.
-/

namespace Kraftsman.Scheduling

open Apis Data Data.Strconv Requirements Requirement GoMap AList Option List

section Semantics

variable (tables : LabelTables)

variable (expression : NodeSelectorRequirement)

def normalizedValues : List String :=
  expression.values.map (tables.normalizeValue (tables.normalizeKey expression.key))

/-- Compare a label value with an operand as 64-bit integers. -/
def comparesTo (test : Int → Int → Bool) (value operand : String) : Bool :=
  match parseInt64 value, parseInt64 operand with
  | some number, some bound => test number bound
  | _, _ => false

def absentSatisfies : Bool :=
  expression.operator = .opNotIn || expression.operator = .opDoesNotExist

def valueSatisfies (value : String) : Bool :=
  let values := normalizedValues tables expression
  let operand := values.headD ""
  match expression.operator with
  | .opIn => decide (value ∈ values)
  | .opNotIn => decide (value ∉ values)
  | .opExists => true
  | .opDoesNotExist => false
  | .opGt => comparesTo (fun number bound => number > bound) value operand
  | .opLt => comparesTo (fun number bound => number < bound) value operand
  | .opGte => comparesTo (fun number bound => number ≥ bound) value operand
  | .opLte => comparesTo (fun number bound => number ≤ bound) value operand

def satisfies : Option String → Bool
  | none => absentSatisfies expression
  | some value => valueSatisfies tables expression value

variable (labels : GoMap String String)

def labelAt (key : String) : Option String :=
  (labels.entries.find? fun label => tables.normalizeKey label.1 = key).map fun label =>
    tables.normalizeValue key label.2

def Consistent : Prop :=
  ∀ left ∈ labels.entries, ∀ right ∈ labels.entries,
    tables.normalizeKey left.1 = tables.normalizeKey right.1 →
      tables.normalizeValue (tables.normalizeKey left.1) left.2 =
        tables.normalizeValue (tables.normalizeKey right.1) right.2

instance (labels : GoMap String String) : Decidable (Consistent tables labels) :=
  inferInstanceAs (Decidable (∀ left ∈ labels.entries, ∀ right ∈ labels.entries, _))

def labelExpression (label : Sigma fun _ : String => String) : NodeSelectorRequirement :=
  { key := label.1, operator := .opIn, values := [label.2], accepted := rfl }

/-- The node selector entries and the expressions of the first required node affinity term. -/
def podExpressions (pod : Pod) : List NodeSelectorRequirement :=
  let selector := pod.nodeSelector.entries.map labelExpression
  match pod.nodeAffinity.bind fun affinity => affinity.required with
  | some (term :: _) => selector ++ term.matchExpressions
  | _ => selector

/-- Labels that satisfy every entry and expression of a pod. -/
def Satisfies (pod : Pod) : Prop :=
  ∀ expression ∈ podExpressions pod,
    satisfies tables expression (labelAt tables labels (tables.normalizeKey expression.key)) = true

instance (labels : GoMap String String) (pod : Pod) : Decidable (Satisfies tables labels pod) :=
  inferInstanceAs (Decidable (∀ expression ∈ podExpressions pod, _))

/-- Whether the expression compares integers. -/
def isBound : Bool :=
  match expression.operator with
  | .opGt | .opLt | .opGte | .opLte => true
  | _ => false

/-- Expressions on one key collapse into a single requirement: an absent label
satisfies all, or some value does and the requirement still rejects an absent
label. It does once a concrete set is among them, or once no excluded value is
left within the bounds. -/
def Collapsible (expressions : List NodeSelectorRequirement) : Prop :=
  (∀ expression ∈ expressions, absentSatisfies expression = true) ∨
    ((∃ value, ∀ expression ∈ expressions, valueSatisfies tables expression value = true) ∧
      ((∃ expression ∈ expressions, expression.operator = .opIn) ∨
        ∀ expression ∈ expressions, expression.operator = .opNotIn →
          ∀ value ∈ normalizedValues tables expression,
            ∃ bound ∈ expressions, isBound bound = true ∧
              valueSatisfies tables bound value = false))

def expressionRequirement : Requirement :=
  .newRequirement tables expression.key expression.operator expression.values

end Semantics

section Expression

variable {tables : LabelTables} {expression : NodeSelectorRequirement} {value : String}

variable {test : Int → Int → Bool} {operand : String} {bound : Int}

theorem comparesTo_iff : comparesTo test value operand ↔
      ∃ number bound, parseInt64 value = some number ∧ parseInt64 operand = some bound ∧
        test number bound := by
  unfold comparesTo
  cases parseInt64 value <;> cases parseInt64 operand <;> simp

theorem comparesTo_of_parse (parsed : parseInt64 operand = some bound) :
    comparesTo test value operand ↔
      ∃ number, parseInt64 value = some number ∧ test number bound := by
  rw [comparesTo_iff, parsed]
  simp

private theorem operand_of_parse {values : List String}
    (parsed : parseInt64 (values.headD "") = some bound) : Requirement.operand values = bound := by
  rw [Requirement.operand, parseInt64_eq_some.mp parsed]

@[simp] theorem expressionRequirement_key :
    (expressionRequirement tables expression).key = tables.normalizeKey expression.key := by
  unfold expressionRequirement newRequirement newRequirementWithFlexibility
  cases expression.operator <;> dsimp only
  split_ifs <;> simp [doesNotExist]

theorem has_of_not_bound (notBound : isBound expression = false) :
    (expressionRequirement tables expression).has value ↔
      valueSatisfies tables expression value := by
  unfold expressionRequirement newRequirement newRequirementWithFlexibility valueSatisfies
  cases operator : expression.operator <;> simp [isBound, operator] at notBound <;>
    simp [has, normalizedValues]

theorem bounds_of_not_bound (notBound : isBound expression = false) :
    (expressionRequirement tables expression).gte = none ∧
      (expressionRequirement tables expression).lte = none := by
  unfold expressionRequirement newRequirement newRequirementWithFlexibility
  cases operator : expression.operator <;> simp [isBound, operator] at notBound <;> simp

theorem spec_of_bound (bound : isBound expression)
    (satisfiable : ∃ witness, valueSatisfies tables expression witness) :
    (expressionRequirement tables expression).complement ∧
      (expressionRequirement tables expression).values = ∅ ∧
      ∀ value, withinBounds value (expressionRequirement tables expression).gte
          (expressionRequirement tables expression).lte ↔
        valueSatisfies tables expression value := by
  obtain ⟨witness, satisfied⟩ := satisfiable
  unfold expressionRequirement newRequirement newRequirementWithFlexibility
  unfold valueSatisfies at satisfied ⊢
  cases operator : expression.operator <;> simp only [isBound, operator] at bound satisfied ⊢ <;>
    try cases bound
  all_goals
    obtain ⟨number, operand, parsed, operandParsed, compares⟩ := comparesTo_iff.mp satisfied
    have numberRange := parseInt64_mem parsed
    have operandRange := parseInt64_mem operandParsed
    have operandEq : Requirement.operand (expression.values.map
        (tables.normalizeValue (tables.normalizeKey expression.key))) = operand :=
      operand_of_parse operandParsed
    simp only [gt_iff_lt, ge_iff_le, decide_eq_true_eq] at compares
  case opGt =>
    have notLargest : ¬operand = maxInt64 := by omega
    simp only [operandEq, notLargest, if_false, true_and]
    intro value
    rw [comparesTo_of_parse operandParsed]
    simp only [withinBounds_iff, reduceCtorEq, and_true, some.injEq, forall_eq', Int.add_one_le_iff,
      IsEmpty.forall_iff, implies_true, false_or, gt_iff_lt, decide_eq_true_eq]
  case opLt =>
    have noWrap : wrapInt64 (operand - 1) = operand - 1 := wrapInt64_of_mem (by omega) (by omega)
    simp only [operandEq, noWrap, true_and]
    intro value
    rw [comparesTo_of_parse operandParsed]
    simp only [withinBounds_iff, reduceCtorEq, and_false, IsEmpty.forall_iff, implies_true,
      some.injEq, forall_eq', Int.le_sub_one_iff, true_and, false_or, decide_eq_true_eq]
  case opGte | opLte =>
    simp only [operandEq, true_and]
    intro value
    rw [comparesTo_of_parse operandParsed]
    simp [withinBounds_iff]

theorem has_of_satisfiable (satisfiable : ∃ witness, valueSatisfies tables expression witness) :
    (expressionRequirement tables expression).has value ↔
      valueSatisfies tables expression value := by
  cases bound : isBound expression with
  | false => exact has_of_not_bound bound
  | true =>
    obtain ⟨complement, noValues, within⟩ := spec_of_bound bound satisfiable
    rw [has_iff, complement, noValues, within]
    simp

theorem mem_values_iff : value ∈ (expressionRequirement tables expression).values ↔
      (expression.operator = .opIn ∨ expression.operator = .opNotIn) ∧
        value ∈ normalizedValues tables expression := by
  unfold expressionRequirement newRequirement newRequirementWithFlexibility normalizedValues
  cases expression.operator <;> simp
  split_ifs <;> simp [doesNotExist]

theorem complement_of_satisfiable
    (satisfiable : ∃ witness, valueSatisfies tables expression witness)
    (notIn : expression.operator ≠ .opIn) :
    (expressionRequirement tables expression).complement := by
  cases bound : isBound expression with
  | true => exact (spec_of_bound bound satisfiable).1
  | false =>
    obtain ⟨witness, satisfied⟩ := satisfiable
    unfold expressionRequirement newRequirement newRequirementWithFlexibility
    unfold valueSatisfies at satisfied
    cases operator : expression.operator <;> simp [isBound, operator] at bound notIn satisfied ⊢

theorem complement_of_opNotIn (isNotIn : expression.operator = .opNotIn) :
    (expressionRequirement tables expression).complement := by
  simp [expressionRequirement, newRequirement, newRequirementWithFlexibility, isNotIn]

theorem complement_of_opIn (isIn : expression.operator = .opIn) :
    (expressionRequirement tables expression).complement = false := by
  simp [expressionRequirement, newRequirement, newRequirementWithFlexibility, isIn]

end Expression

/-- The label states accepted when no undefined key is allowed. -/
def accepts (r : Requirement) : Option String → Bool
  | none => r.negative
  | some value => r.has value

def requirementsOf (tables : LabelTables) (expressions : List NodeSelectorRequirement) :
    Set Requirement :=
  {part | ∃ expression ∈ expressions, expressionRequirement tables expression = part}

section OneKey

variable {tables : LabelTables} {r : Requirement} {expressions : List NodeSelectorRequirement}

section

variable (merges : Merges r (requirementsOf tables expressions))
include merges

theorem has_merged (value : String) : r.has value ↔
      ∀ expression ∈ expressions, (expressionRequirement tables expression).has value := by
  rw [merges.has]
  constructor
  · intro all expression member
    exact all _ ⟨expression, member, rfl⟩
  · rintro all part ⟨expression, member, rfl⟩
    exact all expression member

theorem negative_of_absent (absent : ∀ expression ∈ expressions, absentSatisfies expression) :
    r.negative := by
  rw [negative_iff]
  by_cases missing : ∃ expression ∈ expressions, expression.operator = .opDoesNotExist
  · obtain ⟨expression, member, operator⟩ := missing
    have noValue : ∀ value, (expressionRequirement tables expression).has value ≠ true := by
      intro value
      simp [expressionRequirement, newRequirement, newRequirementWithFlexibility, operator, has]
    have concrete : r.complement = false := merges.concrete_of_part ⟨expression, member, rfl⟩ (by
      simp [expressionRequirement, newRequirement, newRequirementWithFlexibility, operator])
    have empty : r.values = ∅ := by
      apply Finset.eq_empty_of_forall_notMem
      intro value inValues
      have allowed := (merges.has_iff_mem concrete).mpr inValues
      exact noValue value ((has_merged merges value).mp allowed expression member)
    simp [concrete, empty]
  · have excludes : ∀ expression ∈ expressions, expression.operator = .opNotIn := by
      intro expression member
      have operator := absent expression member
      simp only [absentSatisfies, Bool.or_eq_true, decide_eq_true_eq] at operator
      rcases operator with notIn | doesNotExist
      · exact notIn
      · exact absurd ⟨expression, member, doesNotExist⟩ missing
    have unbounded : ∀ part ∈ requirementsOf tables expressions,
        part.complement ∧ part.gte = none ∧ part.lte = none := by
      rintro part ⟨expression, member, rfl⟩
      refine ⟨complement_of_opNotIn (excludes expression member), ?_⟩
      apply bounds_of_not_bound
      simp [isBound, excludes expression member]
    obtain ⟨complement, noLow, noHigh⟩ := merges.complement_of_unbounded unbounded
    obtain ⟨part, expression, member, rfl⟩ := merges.nonempty
    -- a validated `NotIn` lists a value, and without bounds the merge keeps it
    have listed : ∃ value, value ∈ normalizedValues tables expression := by
      have accepted := expression.accepted
      rw [excludes expression member] at accepted
      obtain ⟨head, tail, values⟩ : ∃ head tail, expression.values = head :: tail := by
        cases values : expression.values with
        | nil => simp [NodeSelectorOperator.accepts, values] at accepted
        | cons head tail => exact ⟨head, tail, rfl⟩
      exact ⟨_, by rw [normalizedValues, values]; exact mem_cons_self⟩
    obtain ⟨value, inValues⟩ := listed
    have inMerged : value ∈ r.values := by
      rw [merges.excluded complement, noLow, noHigh]
      exact ⟨⟨_, ⟨expression, member, rfl⟩,
        mem_values_iff.mpr ⟨.inr (excludes expression member), inValues⟩⟩, rfl⟩
    simp only [complement, true_iff]
    exact Finset.ne_empty_of_mem inMerged

theorem accepts_of_collapsible (collapsible : Collapsible tables expressions)
    (state : Option String) :
    accepts r state ↔ ∀ expression ∈ expressions, satisfies tables expression state := by
  by_cases absent : ∀ expression ∈ expressions, absentSatisfies expression
  · cases state with
    | none => exact ⟨fun _ => absent, fun _ => negative_of_absent merges absent⟩
    | some value =>
      have notBound : ∀ expression ∈ expressions, isBound expression = false := by
        intro expression member
        have operator := absent expression member
        simp only [absentSatisfies, Bool.or_eq_true, decide_eq_true_eq] at operator
        rcases operator with operator | operator <;> simp [isBound, operator]
      change r.has value ↔ ∀ expression ∈ expressions, valueSatisfies tables expression value
      rw [has_merged merges]
      exact forall₂_congr fun expression member => has_of_not_bound (notBound expression member)
  · obtain ⟨⟨witness, satisfied⟩, rejectsAbsent⟩ := collapsible.resolve_left absent
    have hasIff : ∀ value, r.has value ↔
        ∀ expression ∈ expressions, valueSatisfies tables expression value := by
      intro value
      rw [has_merged merges]
      exact forall₂_congr fun expression member =>
        has_of_satisfiable ⟨witness, satisfied expression member⟩
    cases state with
    | some value => exact hasIff value
    | none =>
      have allowed := (hasIff witness).mpr satisfied
      have positive : r.negative ≠ true := by
        rw [ne_eq, negative_iff]
        by_cases isIn : ∃ expression ∈ expressions, expression.operator = .opIn
        · obtain ⟨expression, member, operator⟩ := isIn
          have concrete : r.complement = false :=
            merges.concrete_of_part ⟨expression, member, rfl⟩ (complement_of_opIn operator)
          simp [concrete, Finset.ne_empty_of_mem ((merges.has_iff_mem concrete).mp allowed)]
        · have excludedOutside := rejectsAbsent.resolve_left isIn
          have complement : r.complement := by
            apply merges.complement_of_has _ ⟨witness, allowed⟩
            rintro part ⟨expression, member, rfl⟩
            exact complement_of_satisfiable ⟨witness, satisfied expression member⟩
              fun operator => isIn ⟨expression, member, operator⟩
          have empty : r.values = ∅ := by
            apply Finset.eq_empty_of_forall_notMem
            intro value inValues
            obtain ⟨⟨part, ⟨expression, member, rfl⟩, listed⟩, within⟩ :=
              (merges.excluded complement value).mp inValues
            obtain ⟨operator, normalized⟩ := mem_values_iff.mp listed
            have isNotIn : expression.operator = .opNotIn :=
              operator.resolve_left fun operator => isIn ⟨expression, member, operator⟩
            obtain ⟨bound, boundMember, boundIs, violated⟩ :=
              excludedOutside expression member isNotIn value normalized
            have boundWithin :=
              (merges.bounds complement value).mp within _ ⟨bound, boundMember, rfl⟩
            rw [(spec_of_bound boundIs ⟨witness, satisfied bound boundMember⟩).2.2, violated]
              at boundWithin
            cases boundWithin
          simp [complement, empty]
      constructor
      · exact fun negative => absurd negative positive
      · exact fun all => absurd all absent

end

private theorem exists_unmapped (tables : LabelTables) (key : String) {number : Int}
    (low : minInt64 ≤ number) (high : number ≤ maxInt64) :
    ∃ text, tables.normalizeValue key text = text ∧ parseInt64 text = some number := by
  cases table : tables.normalizedLabelValues.lookup key with
  | none =>
    obtain ⟨text, -, parsed⟩ := exists_text_notMem ∅ low high
    exact ⟨text, by simp [LabelTables.normalizeValue, table], parsed⟩
  | some valueMap =>
    obtain ⟨text, fresh, parsed⟩ := exists_text_notMem valueMap.keys.toFinset low high
    have unmapped : valueMap.lookup text = none := by
      apply lookup_eq_none.mpr
      simpa [AList.mem_keys] using fresh
    exact ⟨text, by simp [LabelTables.normalizeValue, table, unmapped], parsed⟩

variable {key : String}

section

variable (merges : Merges r (requirementsOf tables expressions))
  (keys : ∀ expression ∈ expressions, tables.normalizeKey expression.key = key)
include merges keys

private theorem exists_allowed (positive : r.negative = false) :
    ∃ raw, r.has (tables.normalizeValue key raw) := by
  rcases merges.allowed_cases positive with ⟨complement, value, allowed⟩ | ⟨number, low, high, allowed⟩
  · -- not every part is a complement, and the concrete one lists the value
    have concretePart : ∃ expression ∈ expressions,
        (expressionRequirement tables expression).complement = false := by
      by_contra none
      have all : ∀ part ∈ requirementsOf tables expressions, part.complement := by
        rintro part ⟨expression, member, rfl⟩
        by_contra concrete
        exact none ⟨expression, member, by simpa using concrete⟩
      rw [merges.complement_of_has all ⟨value, allowed⟩] at complement
      cases complement
    obtain ⟨expression, member, concrete⟩ := concretePart
    have partAllows := (has_merged merges value).mp allowed expression member
    have listed : value ∈ (expressionRequirement tables expression).values := by
      rw [has_iff, concrete] at partAllows
      exact partAllows.1.mpr rfl
    obtain ⟨raw, -, rawEq⟩ := mem_map.mp (mem_values_iff.mp listed).2
    rw [keys expression member] at rawEq
    exact ⟨raw, by rw [rawEq]; exact allowed⟩
  · obtain ⟨text, unmapped, parsed⟩ := exists_unmapped tables key low high
    exact ⟨text, by rw [unmapped]; exact allowed text parsed⟩

private theorem exists_accepted :
    ∃ raw : Option String, accepts r (raw.map (tables.normalizeValue key)) := by
  cases negative : r.negative with
  | true => exact ⟨none, negative⟩
  | false =>
    obtain ⟨raw, allowed⟩ := exists_allowed merges keys negative
    exact ⟨some raw, allowed⟩

private theorem collapsible_of_accepts
    (agree : ∀ raw : Option String, accepts r (raw.map (tables.normalizeValue key)) ↔
      ∀ expression ∈ expressions,
        satisfies tables expression (raw.map (tables.normalizeValue key))) :
    Collapsible tables expressions := by
  by_cases absent : ∀ expression ∈ expressions, absentSatisfies expression
  · exact .inl absent
  · have positive : r.negative = false :=
      Bool.eq_false_iff.mpr fun negative => absent ((agree none).mp negative)
    obtain ⟨raw, allowed⟩ := exists_allowed merges keys positive
    have satisfied : ∀ expression ∈ expressions,
        valueSatisfies tables expression (tables.normalizeValue key raw) :=
      (agree (some raw)).mp allowed
    refine .inr ⟨⟨_, satisfied⟩, ?_⟩
    by_cases isIn : ∃ expression ∈ expressions, expression.operator = .opIn
    · exact .inl isIn
    · have complement : r.complement := by
        apply merges.complement_of_has _ ⟨_, allowed⟩
        rintro part ⟨expression, member, rfl⟩
        exact complement_of_satisfiable ⟨_, satisfied expression member⟩
          fun operator => isIn ⟨expression, member, operator⟩
      have empty := values_eq_empty_of_positive positive complement
      refine .inr fun expression member isNotIn value normalized => ?_
      have outside : ¬withinBounds value r.gte r.lte := by
        intro within
        have inMerged : value ∈ r.values := (merges.excluded complement value).mpr
          ⟨⟨_, ⟨expression, member, rfl⟩, mem_values_iff.mpr ⟨.inr isNotIn, normalized⟩⟩, within⟩
        simp [empty] at inMerged
      rw [merges.bounds complement] at outside
      push Not at outside
      obtain ⟨_, ⟨bound, boundMember, rfl⟩, violated⟩ := outside
      have boundIs : isBound bound := by
        cases isIt : isBound bound with
        | true => rfl
        | false =>
          have noBounds := @bounds_of_not_bound tables bound isIt
          simp [noBounds] at violated
      refine ⟨bound, boundMember, boundIs, ?_⟩
      have spec := (spec_of_bound boundIs ⟨_, satisfied bound boundMember⟩).2.2 value
      rw [ne_eq, spec] at violated
      simpa using violated

end

end OneKey

section Pods

variable (tables : LabelTables)

def expressionsOn (pod : Pod) (key : String) : List NodeSelectorRequirement :=
  (podExpressions pod).filter fun expression => tables.normalizeKey expression.key = key

private theorem mergesAll_expressions (expressions : List NodeSelectorRequirement) :
    MergesAll tables (.newNodeSelectorRequirements tables expressions)
      (requirementsOf tables expressions) := by
  have merged := MergesAll.newRequirements tables (expressions.map (expressionRequirement tables))
    (by
      intro r member
      obtain ⟨expression, -, rfl⟩ := mem_map.mp member
      exact Merges.newRequirement tables _ _ _)
    (by
      intro r member
      obtain ⟨expression, -, rfl⟩ := mem_map.mp member
      simp)
  have sameParts : {r | r ∈ expressions.map (expressionRequirement tables)} =
      requirementsOf tables expressions := by
    ext r
    exact mem_map
  rw [sameParts] at merged
  exact merged

private theorem labelRequirement_key (label : Sigma fun _ : String => String) :
    (expressionRequirement tables (labelExpression label)).key = tables.normalizeKey label.1 := by
  rfl

private theorem mergesAll_labels (labels : GoMap String String) :
    MergesAll tables (.newLabelRequirements tables labels)
      (requirementsOf tables (labels.entries.map labelExpression)) := by
  have same : newLabelRequirements tables labels =
      .newNodeSelectorRequirements tables (labels.entries.map labelExpression) := by
    unfold newLabelRequirements newNodeSelectorRequirements
    rw [List.map_map]
    rfl
  rw [same]
  exact mergesAll_expressions tables _

theorem mergesAll_pod (pod : Pod) : MergesAll tables (.newStrictPodRequirements tables pod)
      (requirementsOf tables (podExpressions pod)) := by
  have selector := mergesAll_labels tables pod.nodeSelector
  unfold newStrictPodRequirements newPodRequirements podExpressions
  cases pod.nodeAffinity with
  | none => exact selector
  | some affinity =>
    dsimp only [bind_some]
    rcases affinity.required with _ | _ | ⟨term, rest⟩
    · exact selector
    · exact selector
    · have merged := selector.add_values (mergesAll_expressions tables term.matchExpressions)
      have sameParts : requirementsOf tables (pod.nodeSelector.entries.map labelExpression) ∪
            requirementsOf tables term.matchExpressions =
          requirementsOf tables
            (pod.nodeSelector.entries.map labelExpression ++ term.matchExpressions) := by
        ext r
        simp only [requirementsOf, Set.mem_union, Set.mem_ofPred_eq, mem_append, or_and_right,
          exists_or]
      rw [sameParts] at merged
      exact merged

variable {tables}

/-- A requirement that allows exactly one value. -/
private structure Pins (r : Requirement) (value : String) : Prop where
  complement : r.complement = false
  values : r.values = {value}
  gte : r.gte = none
  lte : r.lte = none

variable {r : Requirement} {labels : GoMap String String} {key : String} {pod : Pod}

private theorem Pins.overlaps {incoming : Requirement} {value : String} (pins : Pins r value) :
    Requirements.overlaps r incoming ↔ incoming.has value := by
  have positive : r.negative = false := by
    rw [← Bool.not_eq_true, negative_iff, pins.complement, pins.values]
    simp
  have maxEq : maxIntPtr r.gte incoming.gte = incoming.gte := by
    rw [pins.gte]
    rfl
  have minEq : minIntPtr r.lte incoming.lte = incoming.lte := by
    rw [pins.lte]
    rfl
  unfold Requirements.overlaps hasIntersection
  rw [positive, maxEq, minEq, pins.complement, pins.values]
  cases conflict : boundsConflict incoming.gte incoming.lte with
  | true =>
    have outside : withinBounds value incoming.gte incoming.lte = false :=
      withinBounds_of_conflict conflict
    simp [has_iff, outside]
  | false =>
    rw [has_iff]
    cases incoming.complement <;> simp [conflict]

private theorem pins_of_label (consistent : Consistent tables labels)
    (found : (newLabelRequirements tables labels).lookup key = some r) :
    ∃ value, labelAt tables labels key = some value ∧ Pins r value := by
  obtain ⟨keyEq, merges⟩ := (mergesAll_labels tables labels).merged key r found
  obtain ⟨part, ⟨expression, member, rfl⟩, partKey⟩ := merges.nonempty
  obtain ⟨label, inLabels, rfl⟩ := mem_map.mp member
  have labelKey : tables.normalizeKey label.1 = key := by
    rw [← partKey, labelRequirement_key]
  -- every part on the key is the same singleton
  have partHas : ∀ other ∈ labels.entries, tables.normalizeKey other.1 = key → ∀ value,
      (expressionRequirement tables (labelExpression other)).has value ↔
        value = tables.normalizeValue key label.2 := by
    intro other otherMember otherKey value
    have same := consistent other otherMember label inLabels (otherKey.trans labelKey.symm)
    rw [otherKey, labelKey] at same
    rw [has_of_not_bound rfl, ← same, ← otherKey]
    simp [valueSatisfies, labelExpression, normalizedValues]
  have hasIff : ∀ value, r.has value ↔ value = tables.normalizeValue key label.2 := by
    intro value
    rw [merges.has]
    constructor
    · intro all
      exact (partHas label inLabels labelKey value).mp
        (all _ ⟨⟨labelExpression label, member, rfl⟩, partKey⟩)
    · rintro equal _ ⟨⟨_, otherMember, rfl⟩, otherKey⟩
      obtain ⟨other, inOther, rfl⟩ := mem_map.mp otherMember
      exact (partHas other inOther otherKey value).mpr equal
  have complement : r.complement = false := merges.concrete_of_part
    ⟨⟨labelExpression label, member, rfl⟩, partKey⟩ (complement_of_opIn rfl)
  obtain ⟨noLow, noHigh⟩ := merges.concrete complement
  refine ⟨tables.normalizeValue key label.2, ?_, complement, ?_, noLow, noHigh⟩
  · unfold labelAt
    cases first : labels.entries.find? fun label => tables.normalizeKey label.1 = key with
    | none =>
      have absent := find?_eq_none.mp first label inLabels
      simp [labelKey] at absent
    | some other =>
      have otherMember := mem_of_find?_eq_some first
      have otherKey : tables.normalizeKey other.1 = key := by
        simpa using find?_some first
      have same := consistent other otherMember label inLabels (otherKey.trans labelKey.symm)
      rw [otherKey, labelKey] at same
      simp [same]
  · ext value
    rw [← merges.has_iff_mem complement, hasIff, Finset.mem_singleton]

private theorem labelAt_of_absent
    (absent : (newLabelRequirements tables labels).lookup key = none) :
    labelAt tables labels key = none := by
  unfold labelAt
  rw [map_eq_none_iff, find?_eq_none]
  intro label member
  have different := (mergesAll_labels tables labels).absent key absent
    (expressionRequirement tables (labelExpression label))
    ⟨labelExpression label, mem_map.mpr ⟨label, member, rfl⟩, rfl⟩
  rw [labelRequirement_key] at different
  simpa using different

theorem isCompatible_iff_accepts (consistent : Consistent tables labels)
    (requirements : Requirements) :
    (newLabelRequirements tables labels).isCompatible tables requirements ∅ ↔
      ∀ key r, requirements.lookup key = some r → accepts r (labelAt tables labels key) := by
  rw [isCompatible_iff]
  refine forall₃_congr fun key r found => ?_
  cases known : (newLabelRequirements tables labels).lookup key with
  | none =>
    rw [labelAt_of_absent known]
    simp [accepts]
  | some existing =>
    obtain ⟨value, labelEq, pins⟩ := pins_of_label consistent known
    rw [labelEq]
    exact pins.overlaps

theorem merges_of_lookup (found : (newStrictPodRequirements tables pod).lookup key = some r) :
    Merges r (requirementsOf tables (expressionsOn tables pod key)) := by
  have merges := ((mergesAll_pod tables pod).merged key r found).2
  have sameParts : {part ∈ requirementsOf tables (podExpressions pod) | part.key = key} =
      requirementsOf tables (expressionsOn tables pod key) := by
    ext part
    constructor
    · rintro ⟨⟨expression, member, rfl⟩, partKey⟩
      exact ⟨expression, mem_filter.mpr ⟨member, by simpa using partKey⟩, rfl⟩
    · rintro ⟨expression, member, rfl⟩
      obtain ⟨inPod, keyEq⟩ := mem_filter.mp member
      exact ⟨⟨expression, inPod, rfl⟩, by rw [expressionRequirement_key]; simpa using keyEq⟩
  rwa [sameParts] at merges

private theorem expressionsOn_of_absent
    (absent : (newStrictPodRequirements tables pod).lookup key = none) :
    expressionsOn tables pod key = [] := by
  unfold expressionsOn
  rw [filter_eq_nil_iff]
  intro expression member
  have different := (mergesAll_pod tables pod).absent key absent _ ⟨expression, member, rfl⟩
  simpa using different

private theorem satisfies_iff_keys : Satisfies tables labels pod ↔
      ∀ key r, (newStrictPodRequirements tables pod).lookup key = some r →
        ∀ expression ∈ expressionsOn tables pod key,
          satisfies tables expression (labelAt tables labels key) := by
  constructor
  · intro all key r _ expression member
    obtain ⟨inPod, keyEq⟩ := mem_filter.mp member
    have keyEq : tables.normalizeKey expression.key = key := by simpa using keyEq
    rw [← keyEq]
    exact all expression inPod
  · intro all expression member
    have onKey : expression ∈ expressionsOn tables pod (tables.normalizeKey expression.key) :=
      mem_filter.mpr ⟨member, by simp⟩
    cases found : (newStrictPodRequirements tables pod).lookup
        (tables.normalizeKey expression.key) with
    | none =>
      rw [expressionsOn_of_absent found] at onKey
      cases onKey
    | some r => exact all _ r found expression onKey

private def labelsFrom (keys : List String) (state : String → Option String) :
    GoMap String String :=
  ofList (keys.filterMap fun key => (state key).map fun value => (key, value))

private theorem lookup_labelsFrom (keys : List String) (state : String → Option String) :
    (labelsFrom keys state).lookup key = if key ∈ keys then state key else none := by
  unfold labelsFrom ofList
  rw [lookup_to_alist]
  induction keys with
  | nil => rfl
  | cons head rest ih =>
    cases value : state head with
    | none =>
      simp only [filterMap_cons, value, map_none]
      rw [ih]
      by_cases same : key = head
      · subst same
        simp [value]
      · simp [same]
    | some value' =>
      simp only [filterMap_cons, value, map_some, map_cons]
      by_cases same : key = head
      · subst same
        simp [value]
      · rw [dlookup_cons_ne _ _ same, ih]
        simp [same]

private theorem labels_of_normalized
    (normalized : ∀ label ∈ labels.entries, tables.normalizeKey label.1 = label.1) :
    Consistent tables labels ∧ ∀ key, labelAt tables labels key =
      (labels.lookup key).map (tables.normalizeValue key) := by
  constructor
  · intro left inLeft right inRight sameKey
    rw [normalized left inLeft, normalized right inRight] at sameKey
    have leftFound : labels.lookup left.1 = some left.2 := mem_entries_iff.mp inLeft
    have rightFound : labels.lookup right.1 = some right.2 := mem_entries_iff.mp inRight
    rw [← sameKey, leftFound] at rightFound
    rw [sameKey, some.inj rightFound]
  · intro key
    unfold labelAt
    cases first : labels.entries.find? fun label => tables.normalizeKey label.1 = key with
    | none =>
      cases found : labels.lookup key with
      | none => rfl
      | some value =>
        have member : (⟨key, value⟩ : Sigma fun _ : String => String) ∈ labels.entries :=
          mem_entries_iff.mpr found
        have different := find?_eq_none.mp first _ member
        rw [normalized _ member] at different
        simp at different
    | some label =>
      have member := mem_of_find?_eq_some first
      have keyEq : tables.normalizeKey label.1 = key := by simpa using find?_some first
      rw [normalized label member] at keyEq
      have found : labels.lookup label.1 = some label.2 := mem_entries_iff.mp member
      rw [← keyEq, found]
      rfl

private theorem key_normalized (found : (newStrictPodRequirements tables pod).lookup key = some r) :
    tables.normalizeKey key = key := by
  obtain ⟨part, expression, member, rfl⟩ := (merges_of_lookup found).nonempty
  have keyEq : tables.normalizeKey expression.key = key := by
    simpa using (mem_filter.mp member).2
  rw [← keyEq, LabelTables.normalizeKey_idem]

private theorem exists_labels (pod : Pod) (state : String → Option String) :
    ∃ labels, Consistent tables labels ∧
      ∀ key r, (newStrictPodRequirements tables pod).lookup key = some r →
        labelAt tables labels key = (state key).map (tables.normalizeValue key) := by
  let keys := (newStrictPodRequirements tables pod).keys
  have normalized : ∀ label ∈ (labelsFrom keys state).entries,
      tables.normalizeKey label.1 = label.1 := by
    intro label member
    have found := mem_entries_iff.mp member
    rw [lookup_labelsFrom] at found
    split_ifs at found with inKeys
    obtain ⟨r, lookedUp⟩ := isSome_iff_exists.mp (lookup_isSome.mpr (mem_keys.mpr inKeys))
    exact key_normalized lookedUp
  obtain ⟨consistent, labelAtEq⟩ := labels_of_normalized normalized
  refine ⟨labelsFrom keys state, consistent, fun key r found => ?_⟩
  have inKeys : key ∈ keys := mem_keys.mp (lookup_isSome.mp (by simp [found]))
  rw [labelAtEq, lookup_labelsFrom, if_pos inKeys]

/-- The compatibility test of a pod is Kubernetes satisfaction on all labels
exactly when its expressions are collapsible on every key. -/
theorem isCompatible_iff_satisfies_iff_collapsible (tables : LabelTables) (pod : Pod) :
    (∀ labels : GoMap String String, Consistent tables labels →
      ((Requirements.newLabelRequirements tables labels).isCompatible tables
          (Requirements.newStrictPodRequirements tables pod) ∅ = true ↔
        Satisfies tables labels pod)) ↔
      ∀ key, Collapsible tables (expressionsOn tables pod key) := by
  constructor
  · intro agree key
    cases found : (newStrictPodRequirements tables pod).lookup key with
    | none =>
      rw [expressionsOn_of_absent found]
      exact .inl fun expression member => nomatch member
    | some r =>
      have keysOf : ∀ key, ∀ expression ∈ expressionsOn tables pod key,
          tables.normalizeKey expression.key = key :=
        fun key expression member => by simpa using (mem_filter.mp member).2
      -- an accepted state for every key; the labels in these states are accepted, so they
      -- satisfy the pod and only the state of the key under study matters afterwards
      have choices : ∀ key, ∃ raw : Option String, ∀ r,
          (newStrictPodRequirements tables pod).lookup key = some r →
            accepts r (raw.map (tables.normalizeValue key)) := by
        intro key
        cases found : (newStrictPodRequirements tables pod).lookup key with
        | none => exact ⟨none, by simp⟩
        | some r =>
          obtain ⟨raw, accepted⟩ := exists_accepted (merges_of_lookup found) (keysOf key)
          exact ⟨raw, by rintro _ ⟨⟩; exact accepted⟩
      choose chosen accepted using choices
      apply collapsible_of_accepts (merges_of_lookup found) (keysOf key)
      intro raw
      obtain ⟨base, baseConsistent, baseAt⟩ := @exists_labels tables pod chosen
      have baseSatisfies : Satisfies tables base pod := by
        rw [← agree base baseConsistent, isCompatible_iff_accepts baseConsistent]
        intro other q otherFound
        rw [baseAt other q otherFound]
        exact accepted other q otherFound
      obtain ⟨labels, consistent, labelsAt⟩ :=
        @exists_labels tables pod (Function.update chosen key raw)
      have atKey : labelAt tables labels key = raw.map (tables.normalizeValue key) := by
        rw [labelsAt key r found, Function.update_self]
      have elsewhere : ∀ other q, (newStrictPodRequirements tables pod).lookup other = some q →
            other ≠ key → labelAt tables labels other = labelAt tables base other := by
        intro other q otherFound different
        rw [labelsAt other q otherFound, baseAt other q otherFound, Function.update_of_ne different]
      have both := agree labels consistent
      rw [isCompatible_iff_accepts consistent, satisfies_iff_keys] at both
      rw [satisfies_iff_keys] at baseSatisfies
      rw [← atKey]
      constructor
      · intro acceptedHere
        refine both.mp ?_ key r found
        intro other q otherFound
        by_cases same : other = key
        · subst same
          rw [found] at otherFound
          cases otherFound
          exact acceptedHere
        · rw [elsewhere other q otherFound same, baseAt other q otherFound]
          exact accepted other q otherFound
      · intro satisfiedHere
        refine both.mpr ?_ key r found
        intro other q otherFound
        by_cases same : other = key
        · subst same
          exact satisfiedHere
        · rw [elsewhere other q otherFound same]
          exact baseSatisfies other q otherFound
  · intro collapsible labels consistent
    rw [isCompatible_iff_accepts consistent, satisfies_iff_keys]
    exact forall₃_congr fun key r found =>
      accepts_of_collapsible (merges_of_lookup found) (collapsible key) _

def existsButNotPod : Pod where
  nodeAffinity := some {
    required := some [⟨[
      ⟨"team", .opExists, [], NodeSelectorOperator.opExists_accepts⟩,
      { key := "team", operator := .opNotIn, values := ["a"], accepted := rfl }]⟩] }

/-- Merging `Exists` with `NotIn` loses that the label has to exist: a node
without the label passes the compatibility test and does not satisfy the pod. -/
theorem unlabelled_compatible_with_existsButNotPod :
    Consistent .base ∅ ∧
      (Requirements.newLabelRequirements .base ∅).isCompatible .base
        (Requirements.newStrictPodRequirements .base existsButNotPod) ∅ = true ∧
      ¬Satisfies .base ∅ existsButNotPod := by
  decide

end Pods

end Kraftsman.Scheduling
