import Mathlib.Data.Set.Card
import Kraftsman.Apis.Objects

/-!
Contract: what a node admits besides labels and resources.

Volumes are counted from a union that adding a pod extends and deleting a pod
rebuilds. A pod that is added again leaves its last volumes behind until then.

Owns: the toleration of taints, host ports and attachable volumes, and what the
union tracks after a history of additions and deletions.
Does not own: where taints, ports and volumes come from.
-/

namespace Kraftsman.Scheduling

open Apis Data GoMap

def knownEphemeralTaints : List Taint :=
  [{ key := "node.kubernetes.io/not-ready", effect := .noSchedule },
    { key := "node.kubernetes.io/not-ready", effect := .noExecute },
    { key := "node.kubernetes.io/unreachable", effect := .noSchedule },
    { key := "node.cloudprovider.kubernetes.io/uninitialized", value := "true",
      effect := .noSchedule },
    { key := "karpenter.sh/unregistered", effect := .noExecute }]

def isKnownEphemeralTaint (taint : Taint) : Bool :=
  knownEphemeralTaints.any (·.matchTaint taint) || taint.key.startsWith "readiness.k8s.io/"

def untolerated (taints : List Taint) (tolerations : List Toleration) : List Taint :=
  taints.filter fun taint => !tolerations.any (·.toleratesTaint taint)

def toleratesPod (taints : List Taint) (pod : Pod) : List Taint :=
  untolerated taints pod.tolerations

/-- A port taken on a host. Addresses are in canonical text form. -/
structure HostPort where
  ip : String
  port : Nat
  protocol : String
  deriving DecidableEq

/-- Whether an address stands for every address of the host. -/
def isUnspecified (ip : String) : Bool := ip = "0.0.0.0" || ip = "::"

def HostPort.clashes (left right : HostPort) : Bool :=
  left.protocol = right.protocol && left.port = right.port &&
    (left.ip = right.ip || isUnspecified left.ip || isUnspecified right.ip)

def getHostPorts (pod : Pod) : List HostPort :=
  (pod.ports.filter fun port => port.hostPort ≠ 0).map fun port =>
    { ip := if port.hostIP.isEmpty then "0.0.0.0" else port.hostIP
      port := port.hostPort
      protocol := port.protocol }

abbrev HostPortUsage := GoMap (String × String) (List HostPort)

namespace HostPortUsage

def add (usage : HostPortUsage) (usedBy : Pod) (ports : List HostPort) : HostPortUsage :=
  usage.insert (usedBy.nameSpace, usedBy.name) ports

/-- Whether some port clashes with one another pod has taken. -/
def conflicts (usage : HostPortUsage) (usedBy : Pod) (ports : List HostPort) : Bool :=
  ports.any fun port => usage.entries.any fun entry =>
    decide (entry.1 ≠ (usedBy.nameSpace, usedBy.name)) && entry.2.any (port.clashes ·)

end HostPortUsage

/-- The claims mounted, by storage driver. -/
abbrev Volumes := GoMap String (Finset String)

def Volumes.union (left right : Volumes) : Volumes :=
  merge (· ∪ ·) right left

/-- The volumes mounted on a node and by each pod, and how many a driver allows. -/
structure VolumeUsage where
  volumes : Volumes := ∅
  podVolumes : GoMap (String × String) Volumes := ∅
  limits : GoMap String Nat := ∅

namespace VolumeUsage

/-- Whether mounting the volumes would exceed a driver's limit. -/
def exceedsLimits (usage : VolumeUsage) (volumes : Volumes) : Bool :=
  (usage.volumes.union volumes).entries.any fun entry =>
    (usage.limits.lookup entry.1).any fun limit => limit < entry.2.card

def addFor (usage : VolumeUsage) (key : String × String) (volumes : Volumes) : VolumeUsage :=
  { usage with
    volumes := usage.volumes.union volumes
    podVolumes := usage.podVolumes.insert key volumes }

def deletePod (usage : VolumeUsage) (key : String × String) : VolumeUsage :=
  let podVolumes := usage.podVolumes.erase key
  { usage with
    podVolumes := podVolumes
    volumes := (values podVolumes).foldl Volumes.union ∅ }

end VolumeUsage

def Volumes.mountedBy (volumes : Volumes) (driver : String) : Finset String :=
  (volumes.lookup driver).getD ∅

theorem Volumes.mountedBy_union (left right : Volumes) (driver : String) :
    (left.union right).mountedBy driver = left.mountedBy driver ∪ right.mountedBy driver := by
  unfold mountedBy union
  rw [lookup_merge]
  cases right.lookup driver <;> cases left.lookup driver <;> simp

theorem Volumes.mem_foldl_union {volumes : List Volumes} {start : Volumes} {driver claim : String} :
    claim ∈ (volumes.foldl union start).mountedBy driver ↔
      claim ∈ start.mountedBy driver ∨ ∃ each ∈ volumes, claim ∈ each.mountedBy driver := by
  induction volumes generalizing start with
  | nil => simp
  | cons first rest ih => simp [ih, mountedBy_union, or_assoc]

inductive VolumeEvent where
  | add (pod : String × String) (volumes : Volumes)
  | delete (pod : String × String)

namespace VolumeUsage

def apply (usage : VolumeUsage) : VolumeEvent → VolumeUsage
  | .add pod volumes => usage.addFor pod volumes
  | .delete pod => usage.deletePod pod

/-- The volumes after a history, which has the latest event first. -/
def after (limits : GoMap String Nat) : List VolumeEvent → VolumeUsage
  | [] => { limits := limits }
  | event :: earlier => (after limits earlier).apply event

/-- The volumes of a pod's latest addition if it was not deleted since. -/
def latest : List VolumeEvent → String × String → Option Volumes
  | [], _ => none
  | .add added volumes :: earlier, pod => if pod = added then some volumes else latest earlier pod
  | .delete deleted :: earlier, pod => if pod = deleted then none else latest earlier pod

/-- The volumes that additions replaced since a pod was deleted. -/
def replaced : List VolumeEvent → List Volumes
  | [] => []
  | .add pod _ :: earlier => (latest earlier pod).toList ++ replaced earlier
  | .delete _ :: _ => []

/-- Whether a tracked pod mounts a claim by its latest addition. -/
def Mounted (events : List VolumeEvent) (driver claim : String) : Prop :=
  ∃ pod volumes, latest events pod = some volumes ∧ claim ∈ volumes.mountedBy driver

variable (limits : GoMap String Nat) (events : List VolumeEvent) (driver claim : String)

theorem lookup_podVolumes (pod : String × String) :
    (after limits events).podVolumes.lookup pod = latest events pod := by
  induction events with
  | nil => rfl
  | cons event earlier ih =>
    cases event with
    | add added volumes =>
      rw [latest, ← ih]
      exact lookup_insert_eq _ _ _ _
    | delete deleted =>
      rw [latest, ← ih]
      exact lookup_erase_eq _ _ _

theorem limits_after : (after limits events).limits = limits := by
  induction events with
  | nil => rfl
  | cons event earlier ih => cases event <;> exact ih

theorem exceedsLimits_iff (usage : VolumeUsage) (volumes : Volumes) :
    usage.exceedsLimits volumes ↔ ∃ driver limit, usage.limits.lookup driver = some limit ∧
      limit < ((usage.volumes.union volumes).mountedBy driver).card := by
  unfold exceedsLimits Volumes.mountedBy
  rw [List.any_eq_true]
  constructor
  · rintro ⟨⟨driver, claims⟩, member, exceeds⟩
    obtain ⟨limit, isLimit, above⟩ := (Option.any_eq_true _ _).mp exceeds
    refine ⟨driver, limit, isLimit, ?_⟩
    rw [mem_entries_iff.mp member]
    simpa using above
  · rintro ⟨driver, limit, isLimit, above⟩
    cases found : (usage.volumes.union volumes).lookup driver with
    | none => simp [found] at above
    | some claims =>
      refine ⟨⟨driver, claims⟩, mem_entries_iff.mpr found, ?_⟩
      rw [found] at above
      simpa [isLimit] using above

theorem mem_volumes_iff : claim ∈ (after limits events).volumes.mountedBy driver ↔
      Mounted events driver claim ∨ ∃ volumes ∈ replaced events, claim ∈ volumes.mountedBy driver := by
  induction events with
  | nil => simp [after, Mounted, latest, replaced, Volumes.mountedBy]
  | cons event earlier ih =>
    cases event with
    | add added volumes =>
      have extended : (after limits (.add added volumes :: earlier)).volumes =
        (after limits earlier).volumes.union volumes := rfl
      rw [extended, Volumes.mountedBy_union, Finset.mem_union, ih]
      constructor
      · rintro ((⟨pod, old, isLatest, mounts⟩ | ⟨old, wasReplaced, mounts⟩) | mounts)
        · by_cases same : pod = added
          · subst same
            exact .inr ⟨old, by simp [replaced, isLatest], mounts⟩
          · exact .inl ⟨pod, old, by simp [latest, same, isLatest], mounts⟩
        · exact .inr ⟨old, by simp [replaced, wasReplaced], mounts⟩
        · exact .inl ⟨added, volumes, by simp [latest], mounts⟩
      · rintro (⟨pod, each, isLatest, mounts⟩ | ⟨old, wasReplaced, mounts⟩)
        · rw [latest] at isLatest
          split_ifs at isLatest
          · exact .inr (Option.some.inj isLatest ▸ mounts)
          · exact .inl (.inl ⟨pod, each, isLatest, mounts⟩)
        · rcases List.mem_append.mp wasReplaced with here | before
          · exact .inl (.inl ⟨added, old, Option.mem_toList.mp here, mounts⟩)
          · exact .inl (.inr ⟨old, before, mounts⟩)
    | delete deleted =>
      have rebuilt : (after limits (.delete deleted :: earlier)).volumes =
        (values (after limits (.delete deleted :: earlier)).podVolumes).foldl Volumes.union ∅ := rfl
      rw [rebuilt, Volumes.mem_foldl_union]
      simp only [GoMap.mem_values_iff, lookup_podVolumes, replaced, Mounted]
      constructor
      · rintro (none | ⟨each, ⟨pod, isLatest⟩, mounts⟩)
        · cases none
        · exact .inl ⟨pod, each, isLatest, mounts⟩
      · rintro (⟨pod, each, isLatest, mounts⟩ | ⟨each, none, -⟩)
        · exact .inr ⟨each, ⟨pod, isLatest⟩, mounts⟩
        · cases none

/-- What is tracked is what the pods' latest additions mount, and the limits are
checked against that, if and only if additions only replaced volumes that are
still mounted since a pod was deleted. -/
theorem volumes_tracked_iff (limits : GoMap String Nat) (events : List VolumeEvent) :
    ((∀ driver claim, claim ∈ (after limits events).volumes.mountedBy driver ↔
        Mounted events driver claim) ∧
      ∀ volumes, (after limits events).exceedsLimits volumes = true ↔
        ∃ driver limit, limits.lookup driver = some limit ∧
          limit < ({claim | Mounted events driver claim} ∪ volumes.mountedBy driver).ncard) ↔
    ∀ volumes ∈ replaced events, ∀ driver, ∀ claim ∈ volumes.mountedBy driver,
      Mounted events driver claim := by
  constructor
  · rintro ⟨tracked, -⟩ volumes wasReplaced driver claim mounts
    exact (tracked driver claim).mp
      ((mem_volumes_iff limits events driver claim).mpr (.inr ⟨volumes, wasReplaced, mounts⟩))
  · intro stillMounted
    have tracked : ∀ driver claim, claim ∈ (after limits events).volumes.mountedBy driver ↔
        Mounted events driver claim := by
      intro driver claim
      rw [mem_volumes_iff, or_iff_left_iff_imp]
      rintro ⟨volumes, wasReplaced, mounts⟩
      exact stillMounted volumes wasReplaced driver claim mounts
    refine ⟨tracked, fun volumes => ?_⟩
    have counted : ∀ driver, ({claim | Mounted events driver claim} ∪
        (volumes.mountedBy driver : Set String)).ncard =
          (((after limits events).volumes.union volumes).mountedBy driver).card := by
      intro driver
      rw [Volumes.mountedBy_union, ← Set.ncard_coe_finset, Finset.coe_union]
      congr 2
      ext claim
      exact (tracked driver claim).symm
    rw [exceedsLimits_iff, limits_after]
    simp only [counted]

def driverVolumes (claims : List String) : Volumes := ofList [("driver", claims.toFinset)]

def readded : List VolumeEvent :=
  [.add ("ns", "pod") (driverVolumes []), .add ("ns", "pod") (driverVolumes ["old"])]

/-- A pod that is added again without its volume still counts for it. -/
theorem readded_pod_counts_dropped_volume :
    "old" ∈ (after (ofList [("driver", 1)]) readded).volumes.mountedBy "driver" ∧
      ¬ Mounted readded "driver" "old" ∧
      (after (ofList [("driver", 1)]) readded).exceedsLimits (driverVolumes ["new"]) = true := by
  refine ⟨by decide +kernel, ?_, by decide +kernel⟩
  rintro ⟨pod, volumes, isLatest, mounts⟩
  simp only [readded, latest] at isLatest
  split_ifs at isLatest
  rw [← Option.some.inj isLatest] at mounts
  revert mounts
  decide +kernel

end VolumeUsage

end Kraftsman.Scheduling
