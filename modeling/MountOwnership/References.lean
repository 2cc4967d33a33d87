import Std.Data.HashSet
import MountOwnership.Object.ReplicaSet

/-!
# The ConfigMaps that a ReplicaSet mounts

Names are collected in the order in which they are first met: primary containers
before init containers, mounts in order of declaration, and for each mount the
volumes of its name. A volume that no container mounts does not count.
-/

namespace MountOwnership

/-- Names in the order in which they were first inserted, each kept once. -/
structure NameSet where
  /-- The names in order. -/
  order : Array String
  /-- The names, for fast look-up. -/
  seen : Std.HashSet String

namespace NameSet

/-- No name. -/
def empty : NameSet := ⟨#[], ∅⟩

/-- Append a name unless it is there, and say whether it was appended. -/
def add (s : NameSet) (name : String) : NameSet × Bool :=
  if s.seen.contains name then (s, false)
  else (⟨s.order.push name, s.seen.insert name⟩, true)

/-- Append a name unless it is there. -/
def insert (s : NameSet) (name : String) : NameSet := (s.add name).1

/-- Whether a name is there. -/
def contains (s : NameSet) (name : String) : Bool := s.seen.contains name

/-- The names in order. -/
def toList (s : NameSet) : List String := s.order.toList

/-- Insert names one after the other. -/
def insertAll (s : NameSet) (names : List String) : NameSet := names.foldl insert s

/-- Insert names one after the other, and say of each whether it was appended. -/
def addAll (s : NameSet) : List String → NameSet × List Bool
  | [] => (s, [])
  | name :: names =>
    let (s, added) := s.add name
    let (s, rest) := s.addAll names
    (s, added :: rest)

end NameSet

/-- The ConfigMaps that the volumes of a name show; unnamed ones do not count. -/
def PodSpec.mounted (pod : PodSpec) (mount : String) : List String :=
  ((pod.volumes.filter fun v => v.name == mount).filterMap Volume.configMap).filter
    fun name => !name.isEmpty

/-- Every ConfigMap name that a container of a pod meets, repetitions included. -/
def PodSpec.mentions (pod : PodSpec) : List String :=
  (pod.containers ++ pod.initContainers).flatMap fun container =>
    container.mounts.flatMap pod.mounted

/-- The ConfigMaps that a pod mounts, each once. -/
def PodSpec.configMaps (pod : PodSpec) : List String :=
  (NameSet.empty.insertAll pod.mentions).toList

/-- The pod specification of a ReplicaSet's template. -/
def ReplicaSet.podSpec? (rs : ReplicaSet) : Option PodSpec := do
  let spec ← rs.spec
  let template ← spec.template
  template.spec

/-- The ConfigMaps that a ReplicaSet's pods mount, each once. -/
def ReplicaSet.configMaps (rs : ReplicaSet) : List String :=
  (rs.podSpec?.map PodSpec.configMaps).getD []

end MountOwnership
