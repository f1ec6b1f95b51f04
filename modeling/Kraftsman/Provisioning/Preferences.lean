import Kraftsman.Apis.Objects

/-!
Contract: what a pod that cannot be placed gives up, one constraint at a time.

Owns: the order in which constraints are given up and what is left of the pod.
Does not own: when a pod is relaxed.
-/

namespace Kraftsman.Provisioning

open Apis Data

variable (pod : Pod)

/-- Give up the first required node affinity term. They are alternatives, so the
last one stays. -/
def removeRequiredNodeAffinityTerm : Option Pod :=
  match pod.nodeAffinity with
  | some affinity =>
    match affinity.required with
    | some (_ :: next :: rest) =>
      some { pod with nodeAffinity := some { affinity with required := some (next :: rest) } }
    | _ => none
  | none => none

def withoutHeaviest (affinity : PodAffinity) : Option PodAffinity :=
  match affinity.preferred with
  | [] => none
  | preferred =>
    let sorted := preferred.insertionSort fun left right => left.weight ≥ right.weight
    some { affinity with preferred := sorted.tail }

def removePreferredPodAffinityTerm : Option Pod :=
  (pod.podAffinity.bind withoutHeaviest).map fun affinity =>
    { pod with podAffinity := some affinity }

def removePreferredPodAntiAffinityTerm : Option Pod :=
  (pod.podAntiAffinity.bind withoutHeaviest).map fun affinity =>
    { pod with podAntiAffinity := some affinity }

def removePreferredNodeAffinityTerm : Option Pod :=
  match pod.nodeAffinity with
  | some affinity =>
    match affinity.preferred with
    | [] => none
    | preferred =>
      let sorted := preferred.insertionSort fun left right => left.weight ≥ right.weight
      some { pod with nodeAffinity := some { affinity with preferred := sorted.tail } }
  | none => none

def swapRemove {A : Type*} (list : List A) (index : Nat) : List A :=
  match list.getLast? with
  | none => list
  | some last => (list.set index last).dropLast

/-- Give up the first spread constraint that is only a preference. -/
def removeTopologySpreadScheduleAnyway : Option Pod :=
  (pod.topologySpreadConstraints.findIdx? (·.whenUnsatisfiable = .scheduleAnyway)).map fun index =>
    { pod with topologySpreadConstraints := swapRemove pod.topologySpreadConstraints index }

/-- The toleration of every taint that only prefers other pods. -/
def preferNoScheduleToleration : Toleration :=
  { operator := .opExists, effect := some .preferNoSchedule }

/-- Whether two tolerations agree in all that matters. -/
def matchToleration (left right : Toleration) : Bool :=
  left.key = right.key && left.effect = right.effect && left.operator = right.operator &&
    left.value = right.value

def toleratePreferNoScheduleTaints : Option Pod :=
  if pod.tolerations.any (matchToleration · preferNoScheduleToleration) then none
  else some { pod with tolerations := pod.tolerations ++ [preferNoScheduleToleration] }

/-- Give up one constraint of a pod; none if there is nothing to give up. -/
def relax (toleratePreferNoSchedule : Bool) (pod : Pod) : Option Pod :=
  removeRequiredNodeAffinityTerm pod <|> removePreferredPodAffinityTerm pod <|>
    removePreferredPodAntiAffinityTerm pod <|> removePreferredNodeAffinityTerm pod <|>
    removeTopologySpreadScheduleAnyway pod <|>
    if toleratePreferNoSchedule then toleratePreferNoScheduleTaints pod else none

end Kraftsman.Provisioning
