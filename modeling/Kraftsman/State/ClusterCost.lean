import Kraftsman.CloudProvider.InstanceTypes

/-!
Contract: what the nodes of each NodePool cost.

Owns: the counts of offerings per NodePool, their prices and the running cost.
Prices are exact.
Does not own: who reads the cost.
-/

namespace Kraftsman.State

open Apis CloudProvider Data GoMap

/-- An offering: a zone, a capacity type and the name of an instance type. -/
structure OfferingKey where
  zone : String
  capacityType : String
  instanceName : String
  deriving DecidableEq

/-- How many NodeClaims an offering has, and the price of each. -/
structure OfferingCount where
  count : Int
  price : ℚ
  deriving DecidableEq

structure NodePoolCost where
  cost : ℚ := 0
  offeringCounts : GoMap OfferingKey OfferingCount := ∅

/-- What a tracked NodeClaim was counted as. -/
structure NodeClaimMetaData where
  nodePoolName : String
  nodeClaimKey : OfferingKey
  deriving DecidableEq

structure ClusterCost where
  npCostMap : GoMap String NodePoolCost := ∅
  nodeClaimMap : GoMap NamespacedName NodeClaimMetaData := ∅

inductive CostError where
  | getNodePool
  | getInstanceTypes (nodePoolName instanceName : String)
  | nonexistentNodePool (nodePoolName : String) (key : OfferingKey)
  | nonexistentOffering (nodePoolName : String) (key : OfferingKey)
  deriving DecidableEq

/-- Whether the NodePool is there, and its instance types. A nil one is skipped. -/
structure CostAnswers where
  getNodePool : Except Unit Unit
  getInstanceTypes : Except Unit (List (Option InstanceType))

def necessaryLabels : List String :=
  [labelInstanceTypeStable, capacityTypeLabelKey, labelTopologyZone, nodePoolLabelKey]

def nodeClaimMissingLabels (labels : GoMap String String) : Bool :=
  necessaryLabels.any fun key => decide (key ∉ labels)

def metaDataOf (labels : GoMap String String) : NodeClaimMetaData where
  nodePoolName := labelValue labels nodePoolLabelKey
  nodeClaimKey :=
    { zone := labelValue labels labelTopologyZone
      capacityType := labelValue labels capacityTypeLabelKey
      instanceName := labelValue labels labelInstanceTypeStable }

variable (tables : LabelTables)

def findOfferingPrice (instanceTypes : List (Option InstanceType)) (key : OfferingKey) : Option ℚ :=
  (instanceTypes.reduceOption.find? fun it => it.name = key.instanceName).bind fun it =>
    it.offeringPrice tables key.zone key.capacityType

def priceIndex (instanceTypes : List (Option InstanceType)) : GoMap OfferingKey ℚ :=
  (instanceTypes.reduceOption.flatMap fun it => it.offerings.map fun o =>
      ((⟨o.zone tables, o.capacityType tables, it.name⟩ : OfferingKey), o.price)).foldl
    (fun prices entry => prices.insert entry.1 entry.2) ∅

namespace NodePoolCost

def total (offeringCounts : GoMap OfferingKey OfferingCount) : ℚ :=
  offeringCounts.sumOver fun _ oc => oc.count * oc.price

def add (npc : NodePoolCost) (key : OfferingKey) (oc : OfferingCount) : NodePoolCost where
  cost := npc.cost + oc.price
  offeringCounts := npc.offeringCounts.insert key { oc with count := oc.count + 1 }

def remove (npc : NodePoolCost) (key : OfferingKey) (oc : OfferingCount) : NodePoolCost where
  cost := npc.cost - oc.price
  offeringCounts :=
    if oc.count - 1 = 0 then npc.offeringCounts.erase key
    else npc.offeringCounts.insert key { oc with count := oc.count - 1 }

def reprice (npc : NodePoolCost) (prices : GoMap OfferingKey ℚ) : NodePoolCost :=
  let offeringCounts := GoMap.rangeAlter
    (fun key oc _ => some { oc with price := (prices.lookup key).getD oc.price })
    npc.offeringCounts ∅
  { cost := total offeringCounts, offeringCounts := offeringCounts }

end NodePoolCost

variable (cc : ClusterCost) (npName : String)

variable (key : OfferingKey)

namespace ClusterCost

def internalUpdateOfferings (instanceTypes : List (Option InstanceType)) : ClusterCost :=
  match cc.npCostMap.lookup npName with
  | none => { cc with npCostMap := cc.npCostMap.insert npName {} }
  | some npCost =>
    let repriced := npCost.reprice (priceIndex tables instanceTypes)
    { cc with npCostMap := cc.npCostMap.insert npName repriced }

/-- Count one more NodeClaim. The price is looked up if the offering was not counted yet. -/
def internalAddOffering (answers : CostAnswers) : Except CostError Unit × ClusterCost :=
  match answers.getNodePool with
  | .error _ => (.error .getNodePool, cc)
  | .ok _ =>
    let npc := (cc.npCostMap.lookup npName).getD {}
    match npc.offeringCounts.lookup key with
    | some oc => (.ok (), { cc with npCostMap := cc.npCostMap.insert npName (npc.add key oc) })
    | none =>
      match answers.getInstanceTypes with
      -- the NodePool's entry stays, without a count
      | .error _ =>
        (.error (.getInstanceTypes npName key.instanceName),
          { cc with npCostMap := cc.npCostMap.insert npName npc })
      | .ok instanceTypes =>
        let price := (findOfferingPrice tables instanceTypes key).getD 0
        (.ok (), { cc with npCostMap := cc.npCostMap.insert npName (npc.add key ⟨0, price⟩) })

/-- Count one NodeClaim less. Entries without a count are dropped. -/
def internalRemoveOffering : Except CostError ClusterCost :=
  match cc.npCostMap.lookup npName with
  | none => .error (.nonexistentNodePool npName key)
  | some npc =>
    match npc.offeringCounts.lookup key with
    | none => .error (.nonexistentOffering npName key)
    | some oc =>
      let npc := npc.remove key oc
      let npCostMap :=
        if npc.offeringCounts.entries.isEmpty then cc.npCostMap.erase npName
        else cc.npCostMap.insert npName npc
      .ok { cc with npCostMap := npCostMap }

/-- Track a NodeClaim. One that is tracked or lacks labels is left alone. -/
def updateNodeClaim (cc : ClusterCost) (name : NamespacedName) (labels : GoMap String String)
    (answers : CostAnswers) : Except CostError Unit × ClusterCost :=
  if name ∈ cc.nodeClaimMap then (.ok (), cc)
  else if nodeClaimMissingLabels labels then (.ok (), cc)
  else
    let metadata := metaDataOf labels
    match cc.internalAddOffering tables metadata.nodePoolName metadata.nodeClaimKey answers with
    | (.error error, cc) => (.error error, cc)
    | (.ok _, cc) => (.ok (), { cc with nodeClaimMap := cc.nodeClaimMap.insert name metadata })

def deleteNodeClaim (cc : ClusterCost) (name : NamespacedName) :
    Except CostError Unit × ClusterCost :=
  match cc.nodeClaimMap.lookup name with
  | none => (.ok (), cc)
  | some metadata =>
    match cc.internalRemoveOffering metadata.nodePoolName metadata.nodeClaimKey with
    | .error error => (.error error, cc)
    | .ok cc => (.ok (), { cc with nodeClaimMap := cc.nodeClaimMap.erase name })

def deleteNodePool : ClusterCost where
  nodeClaimMap := cc.nodeClaimMap.eraseAll ((cc.nodeClaimMap.entries.filter fun entry =>
    entry.2.nodePoolName = npName).map fun entry => entry.1)
  npCostMap := cc.npCostMap.erase npName

end ClusterCost

inductive CostEvent where
  | updateNodeClaim (name : NamespacedName) (labels : GoMap String String) (answers : CostAnswers)
  | deleteNodeClaim (name : NamespacedName)
  | updateOfferings (npName : String) (instanceTypes : List (Option InstanceType))
  | deleteNodePool (npName : String)

namespace ClusterCost

def apply (cc : ClusterCost) : CostEvent → ClusterCost
  | .updateNodeClaim name labels answers => (cc.updateNodeClaim tables name labels answers).2
  | .deleteNodeClaim name => (cc.deleteNodeClaim name).2
  | .updateOfferings npName instanceTypes => cc.internalUpdateOfferings tables npName instanceTypes
  | .deleteNodePool npName => cc.deleteNodePool npName

/-- The state after a history, newest event first. -/
def after : List CostEvent → ClusterCost
  | [] => {}
  | event :: earlier => (after earlier).apply tables event

/-! ### Counts and prices -/

def entry : Option OfferingCount :=
  (cc.npCostMap.lookup npName).bind fun npc => npc.offeringCounts.lookup key

def tracked : Int :=
  cc.nodeClaimMap.sumOver fun _ metadata => if metadata = ⟨npName, key⟩ then 1 else 0

/-- The price of the latest update since the count became positive, else the one looked up then. -/
def latestPrice : List CostEvent → String → OfferingKey → Option ℚ
  | [], _, _ => none
  | .updateOfferings pool instanceTypes :: earlier, npName, key =>
    if pool = npName then
      ((priceIndex tables instanceTypes).lookup key).or (latestPrice earlier npName key)
    else latestPrice earlier npName key
  | .updateNodeClaim name labels answers :: earlier, npName, key =>
    let before := after tables earlier
    let now := before.apply tables (.updateNodeClaim name labels answers)
    if before.tracked npName key = 0 ∧ 0 < now.tracked npName key then
      some ((answers.getInstanceTypes.toOption.bind fun instanceTypes =>
        findOfferingPrice tables instanceTypes key).getD 0)
    else latestPrice earlier npName key
  | .deleteNodeClaim _ :: earlier, npName, key => latestPrice earlier npName key
  | .deleteNodePool _ :: earlier, npName, key => latestPrice earlier npName key

end ClusterCost

/-! ### The cost of one NodePool -/

namespace NodePoolCost

variable {npc : NodePoolCost} {key : OfferingKey} {oc : OfferingCount}

def Balanced (npc : NodePoolCost) : Prop := npc.cost = total npc.offeringCounts

theorem balanced_empty : Balanced {} := rfl

theorem Balanced.add (balanced : npc.Balanced) (stored : npc.offeringCounts.lookup key = some oc ∨
      npc.offeringCounts.lookup key = none ∧ oc.count = 0) : (npc.add key oc).Balanced := by
  have weight : npc.offeringCounts.weightAt (fun _ oc => (oc.count : ℚ) * oc.price) key =
      oc.count * oc.price := by
    rcases stored with found | ⟨missing, fresh⟩
    · exact weightAt_of_lookup found
    · simp [weightAt, missing, fresh]
  unfold Balanced NodePoolCost.add total
  rw [sumOver_insert, weight, balanced]
  unfold total
  push_cast
  ring

theorem Balanced.remove (balanced : npc.Balanced)
    (found : npc.offeringCounts.lookup key = some oc) : (npc.remove key oc).Balanced := by
  have weight : npc.offeringCounts.weightAt (fun _ oc => (oc.count : ℚ) * oc.price) key =
      oc.count * oc.price := weightAt_of_lookup found
  unfold Balanced NodePoolCost.remove total
  rw [balanced]
  split_ifs with last
  · have one : oc.count = 1 := by omega
    rw [sumOver_erase, weight, one]
    unfold total
    ring
  · rw [sumOver_insert, weight]
    unfold total
    push_cast
    ring

theorem lookup_add (other : OfferingKey) : (npc.add key oc).offeringCounts.lookup other =
      if other = key then some { oc with count := oc.count + 1 }
      else npc.offeringCounts.lookup other := lookup_insert_eq _ _ other _

theorem lookup_remove (other : OfferingKey) : (npc.remove key oc).offeringCounts.lookup other =
      if other = key then
        (if oc.count - 1 = 0 then none else some { oc with count := oc.count - 1 })
      else npc.offeringCounts.lookup other := by
  dsimp only [remove]
  split_ifs with last same same
  · rw [lookup_erase_eq, if_pos same]
  · rw [lookup_erase_eq, if_neg same]
  · rw [lookup_insert_eq, if_pos same]
  · rw [lookup_insert_eq, if_neg same]

theorem lookup_reprice (prices : GoMap OfferingKey ℚ) (key : OfferingKey) :
    (npc.reprice prices).offeringCounts.lookup key = (npc.offeringCounts.lookup key).map fun oc =>
        { oc with price := (prices.lookup key).getD oc.price } := by
  unfold reprice
  rw [lookup_rangeAlter]
  cases npc.offeringCounts.lookup key <;> simp

end NodePoolCost

namespace ClusterCost

/-! ### How changes show in the counts -/

section Entries

variable (pool : String) (npc : NodePoolCost) (key : OfferingKey)

theorem entry_insert (claims : GoMap NamespacedName NodeClaimMetaData) :
    entry ⟨cc.npCostMap.insert npName npc, claims⟩ pool key =
      if pool = npName then npc.offeringCounts.lookup key else cc.entry pool key := by
  unfold entry
  rw [lookup_insert_eq]
  split_ifs <;> rfl

theorem entry_erase (claims : GoMap NamespacedName NodeClaimMetaData) :
    entry ⟨cc.npCostMap.erase npName, claims⟩ pool key =
      if pool = npName then none else cc.entry pool key := by
  unfold entry
  rw [lookup_erase_eq]
  split_ifs <;> rfl

variable {cc npName npc key}

theorem entry_of_lookup (found : cc.npCostMap.lookup npName = some npc) :
    cc.entry npName key = npc.offeringCounts.lookup key := by
  simp [entry, found]

theorem internalRemoveOffering_of_lookup {oc : OfferingCount}
    (stored : cc.npCostMap.lookup npName = some npc)
    (found : npc.offeringCounts.lookup key = some oc) :
    cc.internalRemoveOffering npName key =
      .ok { cc with npCostMap :=
        if (npc.remove key oc).offeringCounts.entries.isEmpty then cc.npCostMap.erase npName
        else cc.npCostMap.insert npName (npc.remove key oc) } := by
  simp only [internalRemoveOffering, stored, found]

theorem lookup_getD_offeringCounts :
    ((cc.npCostMap.lookup npName).getD {}).offeringCounts.lookup key = cc.entry npName key := by
  unfold entry
  cases cc.npCostMap.lookup npName <;> simp

end Entries

section Tracked

variable {cc} {name : NamespacedName} {metadata : NodeClaimMetaData}

theorem tracked_insert (absent : cc.nodeClaimMap.lookup name = none)
    (costs : GoMap String NodePoolCost) (npName : String) (key : OfferingKey) :
    tracked ⟨costs, cc.nodeClaimMap.insert name metadata⟩ npName key =
      cc.tracked npName key + if metadata = ⟨npName, key⟩ then 1 else 0 := by
  unfold tracked
  rw [sumOver_insert]
  simp [weightAt, absent]

theorem tracked_erase (found : cc.nodeClaimMap.lookup name = some metadata)
    (costs : GoMap String NodePoolCost) (npName : String) (key : OfferingKey) :
    tracked ⟨costs, cc.nodeClaimMap.erase name⟩ npName key =
      cc.tracked npName key - if metadata = ⟨npName, key⟩ then 1 else 0 := by
  unfold tracked
  rw [sumOver_erase, weightAt_of_lookup found]

theorem tracked_pos (found : cc.nodeClaimMap.lookup name = some metadata) :
    0 < cc.tracked metadata.nodePoolName metadata.nodeClaimKey := by
  have weight := @GoMap.weightAt_le_sumOver _ _ _ Int _ _ _
    (fun (_ : NamespacedName) (other : NodeClaimMetaData) =>
      if other = ⟨metadata.nodePoolName, metadata.nodeClaimKey⟩ then (1 : Int) else 0)
    cc.nodeClaimMap (fun _ _ => by split_ifs <;> omega) name
  rw [weightAt_of_lookup found, if_pos rfl] at weight
  exact weight

theorem lookup_deleteNodePool (npName : String) (name : NamespacedName) :
    (cc.deleteNodePool npName).nodeClaimMap.lookup name =
      (cc.nodeClaimMap.lookup name).filter fun metadata => metadata.nodePoolName ≠ npName := by
  have forgotten : name ∈ ((cc.nodeClaimMap.entries.filter fun entry =>
      entry.2.nodePoolName = npName).map fun entry => entry.1) ↔
      ∃ metadata, cc.nodeClaimMap.lookup name = some metadata ∧ metadata.nodePoolName = npName := by
    simp only [List.mem_map, List.mem_filter, decide_eq_true_eq]
    constructor
    · rintro ⟨entry, ⟨member, same⟩, rfl⟩
      exact ⟨entry.2, mem_entries_iff.mp member, same⟩
    · rintro ⟨metadata, found, same⟩
      exact ⟨⟨name, metadata⟩, ⟨mem_entries_iff.mpr found, same⟩, rfl⟩
  unfold deleteNodePool
  rw [lookup_eraseAll]
  cases found : cc.nodeClaimMap.lookup name with
  | none => simp
  | some metadata =>
    by_cases same : metadata.nodePoolName = npName
    · rw [if_pos (forgotten.mpr ⟨metadata, found, same⟩)]
      simp [Option.filter, same]
    · rw [if_neg]
      · simp [Option.filter, same]
      · rintro member
        obtain ⟨other, otherFound, otherSame⟩ := forgotten.mp member
        rw [found] at otherFound
        exact same (Option.some.inj otherFound ▸ otherSame)

theorem tracked_deleteNodePool (npName pool : String) (key : OfferingKey) :
    (cc.deleteNodePool npName).tracked pool key =
      if pool = npName then 0 else cc.tracked pool key := by
  have counted : (cc.deleteNodePool npName).tracked pool key =
      cc.nodeClaimMap.sumOver fun _ metadata =>
        if pool = npName then (0 : Int) else if metadata = ⟨pool, key⟩ then 1 else 0 := by
    refine sumOver_eq_of_weightAt fun name => ?_
    unfold weightAt
    rw [lookup_deleteNodePool]
    cases cc.nodeClaimMap.lookup name with
    | none => rfl
    | some metadata => grind [Option.filter]
  rw [counted]
  split_ifs
  · simp [sumOver]
  · rfl

end Tracked

/-! ### Consistency -/

/-- Counts, costs and prices are as they should be, given the `price` of each offering. -/
structure Consistent (cc : ClusterCost) (price : String → OfferingKey → Option ℚ) : Prop where
  count : ∀ npName key, (cc.entry npName key).elim 0 (·.count) = cc.tracked npName key
  positive : ∀ npName key oc, cc.entry npName key = some oc → 0 < oc.count
  balanced : ∀ npName npc, cc.npCostMap.lookup npName = some npc → npc.Balanced
  price : ∀ npName key oc, cc.entry npName key = some oc → price npName key = some oc.price

/-- An entry that fits the tracked NodeClaims and the price. -/
def Fits (tracked : Int) (price : Option ℚ) : Option OfferingCount → Prop
  | none => tracked = 0
  | some oc => oc.count = tracked ∧ 0 < oc.count ∧ price = some oc.price

section Consistent

variable {cc} {price price' : String → OfferingKey → Option ℚ}

variable {npName : String} {key : OfferingKey} {claims : GoMap NamespacedName NodeClaimMetaData}

theorem consistent_of_fits
    (balanced : ∀ npName npc, cc.npCostMap.lookup npName = some npc → npc.Balanced)
    (fits : ∀ npName key, Fits (cc.tracked npName key) (price npName key) (cc.entry npName key)) :
    Consistent cc price where
  count npName key := by
    have fits := fits npName key
    cases stored : cc.entry npName key <;> rw [stored] at fits
    · exact fits.symm
    · exact fits.1
  positive npName key oc found := by
    have fits := fits npName key
    rw [found] at fits
    exact fits.2.1
  balanced := balanced
  price npName key oc found := by
    have fits := fits npName key
    rw [found] at fits
    exact fits.2.2

theorem consistent_empty : Consistent {} fun _ _ => none :=
  consistent_of_fits (by simp) fun _ _ => rfl

section

variable (consistent : Consistent cc price)
include consistent

theorem Consistent.fits (npName : String) (key : OfferingKey) :
    Fits (cc.tracked npName key) (price npName key) (cc.entry npName key) := by
  have counted := consistent.count npName key
  cases stored : cc.entry npName key with
  | none =>
    rw [stored] at counted
    exact counted.symm
  | some oc =>
    rw [stored] at counted
    exact ⟨counted, consistent.positive npName key oc stored, consistent.price npName key oc stored⟩

theorem Consistent.exists_entry (positive : 0 < cc.tracked npName key) :
    ∃ oc, cc.entry npName key = some oc ∧ oc.count = cc.tracked npName key := by
  have fits := consistent.fits npName key
  cases stored : cc.entry npName key <;> rw [stored] at fits
  · exact absurd fits positive.ne'
  · exact ⟨_, rfl, fits.1⟩

theorem Consistent.balanced_getD (npName : String) :
    ((cc.npCostMap.lookup npName).getD {}).Balanced := by
  cases found : cc.npCostMap.lookup npName with
  | none => exact NodePoolCost.balanced_empty
  | some npc => exact consistent.balanced npName npc found

theorem Consistent.setPool {npc : NodePoolCost} (balanced : npc.Balanced)
    (own : ∀ key, Fits (tracked ⟨cc.npCostMap.insert npName npc, claims⟩ npName key)
      (price' npName key) (npc.offeringCounts.lookup key))
    (others : ∀ pool key, pool ≠ npName →
      tracked ⟨cc.npCostMap.insert npName npc, claims⟩ pool key = cc.tracked pool key ∧
        price' pool key = price pool key) :
    Consistent ⟨cc.npCostMap.insert npName npc, claims⟩ price' := by
  refine consistent_of_fits (fun pool stored found => ?_) fun pool key => ?_
  · rw [lookup_insert_eq] at found
    split_ifs at found
    · cases found
      exact balanced
    · exact consistent.balanced pool stored found
  · rw [entry_insert]
    split_ifs with same
    · subst same
      exact own key
    · obtain ⟨sameTracked, samePrice⟩ := others pool key same
      rw [sameTracked, samePrice]
      exact consistent.fits pool key

theorem Consistent.dropPool
    (own : ∀ key, tracked ⟨cc.npCostMap.erase npName, claims⟩ npName key = 0)
    (others : ∀ pool key, pool ≠ npName →
      tracked ⟨cc.npCostMap.erase npName, claims⟩ pool key = cc.tracked pool key) :
    Consistent ⟨cc.npCostMap.erase npName, claims⟩ price := by
  refine consistent_of_fits (fun pool stored found => ?_) fun pool key => ?_
  · rw [lookup_erase_eq] at found
    split_ifs at found
    exact consistent.balanced pool stored found
  · rw [entry_erase]
    split_ifs with same
    · subst same
      exact own key
    · rw [others pool key same]
      exact consistent.fits pool key

end

/-! ### Events -/

theorem Consistent.updateOfferings (consistent : Consistent cc price) (npName : String)
    (instanceTypes : List (Option InstanceType)) :
    Consistent (cc.internalUpdateOfferings tables npName instanceTypes) fun pool key =>
      if npName = pool then ((priceIndex tables instanceTypes).lookup key).or (price pool key)
      else price pool key := by
  unfold internalUpdateOfferings
  cases found : cc.npCostMap.lookup npName with
  | none =>
    refine consistent.setPool NodePoolCost.balanced_empty (fun key => ?_)
      fun pool key different => ⟨rfl, if_neg (Ne.symm different)⟩
    have fits := consistent.fits npName key
    rwa [entry, found] at fits
  | some npCost =>
    refine consistent.setPool rfl (fun key => ?_)
      fun pool key different => ⟨rfl, if_neg (Ne.symm different)⟩
    have fits := consistent.fits npName key
    rw [entry_of_lookup found] at fits
    rw [NodePoolCost.lookup_reprice]
    cases stored : npCost.offeringCounts.lookup key with
    | none => rwa [stored] at fits
    | some oc =>
      rw [stored] at fits
      refine ⟨fits.1, fits.2.1, ?_⟩
      rw [if_pos rfl, fits.2.2]
      cases (priceIndex tables instanceTypes).lookup key <;> rfl

inductive Updated (cc : ClusterCost) (name : NamespacedName) (labels : GoMap String String)
    (answers : CostAnswers) : ClusterCost → Prop where
  | unchanged : Updated cc name labels answers cc
  /-- the instance types could not be read -/
  | failed (npName : String) :
      Updated cc name labels answers
        ⟨cc.npCostMap.insert npName ((cc.npCostMap.lookup npName).getD {}), cc.nodeClaimMap⟩
  /-- the NodeClaim is counted; an uncounted offering starts at a looked-up price -/
  | counted {metadata : NodeClaimMetaData} {oc : OfferingCount}
      (absent : cc.nodeClaimMap.lookup name = none)
      (stored : cc.entry metadata.nodePoolName metadata.nodeClaimKey = some oc ∨
        cc.entry metadata.nodePoolName metadata.nodeClaimKey = none ∧ oc.count = 0 ∧
          oc.price = (answers.getInstanceTypes.toOption.bind fun instanceTypes =>
            findOfferingPrice tables instanceTypes metadata.nodeClaimKey).getD 0) :
      Updated cc name labels answers
        ⟨cc.npCostMap.insert metadata.nodePoolName
            (((cc.npCostMap.lookup metadata.nodePoolName).getD {}).add metadata.nodeClaimKey oc),
          cc.nodeClaimMap.insert name metadata⟩

theorem updateNodeClaim_spec (cc : ClusterCost) (name : NamespacedName)
    (labels : GoMap String String) (answers : CostAnswers) :
    Updated tables cc name labels answers (cc.updateNodeClaim tables name labels answers).2 := by
  unfold updateNodeClaim
  split_ifs with present missing
  · exact .unchanged
  · exact .unchanged
  · have absent : cc.nodeClaimMap.lookup name = none := AList.lookup_eq_none.mpr present
    unfold internalAddOffering
    cases answers.getNodePool with
    | error _ => exact .unchanged
    | ok _ =>
      dsimp only
      cases stored : ((cc.npCostMap.lookup (metaDataOf labels).nodePoolName).getD
          {}).offeringCounts.lookup (metaDataOf labels).nodeClaimKey with
      | some oc =>
        rw [lookup_getD_offeringCounts] at stored
        exact .counted absent (.inl stored)
      | none =>
        rw [lookup_getD_offeringCounts] at stored
        cases answer : answers.getInstanceTypes with
        | error _ => exact .failed _
        | ok instanceTypes =>
          refine .counted absent (.inr ⟨stored, rfl, ?_⟩)
          rw [answer]
          rfl

theorem Consistent.updated (consistent : Consistent cc price) {name : NamespacedName}
    {labels : GoMap String String} {answers : CostAnswers} {cc' : ClusterCost}
    (updated : Updated tables cc name labels answers cc') :
    Consistent cc' fun npName key =>
      if cc.tracked npName key = 0 ∧ 0 < cc'.tracked npName key then
        some ((answers.getInstanceTypes.toOption.bind fun instanceTypes =>
          findOfferingPrice tables instanceTypes key).getD 0)
      else price npName key := by
  have kept : ∀ {cc' : ClusterCost} {npName : String} {key : OfferingKey},
      cc'.tracked npName key = cc.tracked npName key →
      ¬(cc.tracked npName key = 0 ∧ 0 < cc'.tracked npName key) := by
    rintro cc' npName key same ⟨zero, positive⟩
    rw [same, zero] at positive
    exact lt_irrefl 0 positive
  cases updated with
  | unchanged =>
    refine consistent_of_fits consistent.balanced fun npName key => ?_
    rw [if_neg (kept rfl)]
    exact consistent.fits npName key
  | failed npName =>
    refine consistent.setPool (consistent.balanced_getD npName) (fun key => ?_)
      fun pool key _ => ⟨rfl, if_neg (kept rfl)⟩
    rw [lookup_getD_offeringCounts, if_neg]
    · exact consistent.fits npName key
    · exact kept rfl
  | @counted metadata oc absent stored =>
    have fits := consistent.fits metadata.nodePoolName metadata.nodeClaimKey
    have before : oc.count = cc.tracked metadata.nodePoolName metadata.nodeClaimKey := by
      rcases stored with found | ⟨missing, zero, -⟩
      · rw [found] at fits
        exact fits.1
      · rw [missing] at fits
        exact zero.trans fits.symm
    have others : ∀ {costs pool key}, ¬(pool = metadata.nodePoolName ∧ key = metadata.nodeClaimKey) →
        tracked ⟨costs, cc.nodeClaimMap.insert name metadata⟩ pool key = cc.tracked pool key := by
      intro costs pool key different
      have unequal : metadata ≠ ⟨pool, key⟩ := by
        rintro rfl
        exact different ⟨rfl, rfl⟩
      rw [tracked_insert absent, if_neg unequal, add_zero]
    have own : ∀ costs, tracked ⟨costs, cc.nodeClaimMap.insert name metadata⟩
        metadata.nodePoolName metadata.nodeClaimKey = oc.count + 1 := by
      intro costs
      rw [tracked_insert absent, if_pos rfl, before]
    refine consistent.setPool ((consistent.balanced_getD metadata.nodePoolName).add ?_)
      (fun key => ?_) fun pool key different => ?_
    · rw [lookup_getD_offeringCounts]
      exact stored.imp_right fun ⟨missing, zero, _⟩ => ⟨missing, zero⟩
    · rw [NodePoolCost.lookup_add]
      by_cases same : key = metadata.nodeClaimKey
      · subst same
        rw [if_pos rfl, own, ← before]
        rcases stored with wasStored | ⟨missing, zero, looked⟩
        · rw [wasStored] at fits
          obtain ⟨-, positive, priced⟩ := fits
          exact ⟨rfl, by dsimp only; omega, (if_neg (by omega)).trans priced⟩
        · exact ⟨rfl, by simp [zero], by rw [if_pos (by omega), looked]⟩
      · rw [if_neg same, lookup_getD_offeringCounts, if_neg (kept (others fun both => same both.2)),
          others fun both => same both.2]
        exact consistent.fits _ key
    · exact ⟨others fun both => different both.1, if_neg (kept (others fun both => different both.1))⟩

theorem Consistent.deleteNodeClaim (consistent : Consistent cc price) (name : NamespacedName) :
    (cc.deleteNodeClaim name).1 = .ok () ∧ Consistent (cc.deleteNodeClaim name).2 price := by
  unfold ClusterCost.deleteNodeClaim
  cases tracking : cc.nodeClaimMap.lookup name with
  | none => exact ⟨rfl, consistent⟩
  | some metadata =>
    obtain ⟨oc, counted, count⟩ := consistent.exists_entry (tracked_pos tracking)
    obtain ⟨npc, stored, found⟩ := Option.bind_eq_some_iff.mp counted
    have removed : ∀ costs, tracked ⟨costs, cc.nodeClaimMap.erase name⟩
        metadata.nodePoolName metadata.nodeClaimKey = oc.count - 1 := by
      intro costs
      rw [tracked_erase tracking, if_pos rfl, count]
    have others : ∀ {costs pool key}, ¬(pool = metadata.nodePoolName ∧ key = metadata.nodeClaimKey) →
        tracked ⟨costs, cc.nodeClaimMap.erase name⟩ pool key = cc.tracked pool key := by
      intro costs pool key different
      have unequal : metadata ≠ ⟨pool, key⟩ := by
        rintro rfl
        exact different ⟨rfl, rfl⟩
      rw [tracked_erase tracking, if_neg unequal, sub_zero]
    have positive := consistent.positive _ _ oc counted
    have own : ∀ costs key, Fits (tracked ⟨costs, cc.nodeClaimMap.erase name⟩ metadata.nodePoolName key)
        (price metadata.nodePoolName key)
        ((npc.remove metadata.nodeClaimKey oc).offeringCounts.lookup key) := by
      intro costs key
      rw [NodePoolCost.lookup_remove, ← entry_of_lookup stored]
      split_ifs with same last
      · rw [same, removed]
        exact last
      · rw [same, removed]
        exact ⟨rfl, by dsimp only; omega, consistent.price _ _ oc counted⟩
      · rw [others fun both => same both.2]
        exact consistent.fits _ key
    dsimp only
    rw [internalRemoveOffering_of_lookup stored found]
    refine ⟨rfl, ?_⟩
    by_cases empty : (npc.remove metadata.nodeClaimKey oc).offeringCounts.entries.isEmpty
    · rw [if_pos empty]
      refine consistent.dropPool (fun key => ?_)
        fun pool key different => others fun both => different both.1
      have fits := own (cc.npCostMap.erase metadata.nodePoolName) key
      rwa [lookup_eq_none_of_entries_nil (List.isEmpty_iff.mp empty)] at fits
    · rw [if_neg empty]
      exact consistent.setPool ((consistent.balanced _ npc stored).remove found) (own _)
        fun pool key different => ⟨others fun both => different both.1, rfl⟩

theorem Consistent.deleteNodePool (consistent : Consistent cc price) (npName : String) :
    Consistent (cc.deleteNodePool npName) price := by
  refine consistent.dropPool ?_ ?_
  · intro key
    exact (tracked_deleteNodePool npName npName key).trans (if_pos rfl)
  · intro pool key different
    exact (tracked_deleteNodePool npName pool key).trans (if_neg different)

end Consistent

theorem consistent_after (history : List CostEvent) :
    Consistent (after tables history) (latestPrice tables history) := by
  induction history with
  | nil => exact consistent_empty
  | cons event earlier consistent =>
    cases event with
    | updateNodeClaim name labels answers =>
      exact consistent.updated tables (updateNodeClaim_spec tables _ name labels answers)
    | deleteNodeClaim name => exact (consistent.deleteNodeClaim name).2
    | updateOfferings npName instanceTypes => exact consistent.updateOfferings tables npName _
    | deleteNodePool npName => exact consistent.deleteNodePool npName

/-- After any history an offering's count is the number of its tracked NodeClaims
and has no entry when there are none; a NodePool costs the sum of its counts times
their prices; each price is the latest one listed since the count became positive,
else the one looked up then; and no deletion finds its offering uncounted. -/
theorem cost_of_history (history : List CostEvent) :
    (∀ npName key, (((after tables history).entry npName key).map (·.count) =
      if (after tables history).tracked npName key = 0 then none
      else some ((after tables history).tracked npName key))) ∧
    (∀ npName npc, (after tables history).npCostMap.lookup npName = some npc →
      npc.cost = npc.offeringCounts.sumOver fun _ oc => (oc.count : ℚ) * oc.price) ∧
    (∀ npName key oc, (after tables history).entry npName key = some oc →
      latestPrice tables history npName key = some oc.price) ∧
    ∀ name, ((after tables history).deleteNodeClaim name).1 = .ok () := by
  have consistent := consistent_after tables history
  refine ⟨?_, consistent.balanced, consistent.price, fun name => (consistent.deleteNodeClaim name).1⟩
  intro npName key
  have fits := consistent.fits npName key
  cases found : (after tables history).entry npName key with
  | none =>
    rw [found] at fits
    exact (if_pos fits).symm
  | some oc =>
    rw [found] at fits
    obtain ⟨same, positive, -⟩ := fits
    rw [if_neg (by omega), ← same]
    rfl

end ClusterCost

end Kraftsman.State
