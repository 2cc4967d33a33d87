import MountOwnership.Cluster.Call
import MountOwnership.Table

/-!
# The store of a cluster

A cluster kept in memory that answers the calls of the controller: a lookup of
an absent object finds nothing, every write gives the object a new version, and
a write on the ground of an old version is refused as a conflict.

Faults can be injected: lookups that fail, replaces that conflict, and calls
that never complete.
-/

namespace MountOwnership

/-- The faults that a store shows. -/
structure Faults where
  /-- The names of the ConfigMaps whose lookup fails. -/
  unreadable : List String := []
  /-- Whether lookups of ReplicaSets fail. -/
  replicaSetsUnreadable : Bool := false
  /-- The number of replaces that will conflict. -/
  conflicts : Nat := 0
  /-- Whether lookups of ConfigMaps never complete. -/
  stallReads : Bool := false
  /-- Whether replaces never complete. -/
  stallReplaces : Bool := false
deriving DecidableEq, Repr

/-- A cluster kept in memory. -/
structure Store where
  /-- The ReplicaSets. -/
  replicaSets : Table ObjectKey ReplicaSet := {}
  /-- The ConfigMaps. -/
  configMaps : Table ObjectKey ConfigMap := {}
  /-- The last version that was given. -/
  version : Nat := 0
  /-- The names of the ConfigMaps that were to be replaced, in order of the calls. -/
  replaceCalls : List String := []
  /-- The number of calls that never completed. -/
  stalledCalls : Nat := 0
  /-- The faults that the store shows. -/
  faults : Faults := {}
deriving DecidableEq

namespace Store

/-- A version as text. -/
def versionText (n : Nat) : String := toString n

/-- How a store shows itself in diagnostics; its state is hidden. -/
def diagnostic : String := "MockClusterClient \x7b .. \x7d"

/-! ### Changes from outside -/

/-- Put a ReplicaSet into the store. -/
def addReplicaSet (s : Store) (rs : ReplicaSet) : Store :=
  { s with replicaSets := s.replicaSets.insert rs.metadata.storeKey rs }

/-- Put a ConfigMap into the store under a new version. -/
def addConfigMap (s : Store) (c : ConfigMap) : Store :=
  { s with
    version := s.version + 1
    configMaps := s.configMaps.insert c.metadata.storeKey
      (c.withVersion (some (versionText (s.version + 1)))) }

/-- Give a ConfigMap a new version, as a write by someone else does. -/
def touch (s : Store) (k : ObjectKey) : Store :=
  let s := { s with version := s.version + 1 }
  match s.configMaps.get? k with
  | none => s
  | some c =>
    { s with configMaps := s.configMaps.insert k (c.withVersion (some (versionText s.version))) }

/-- The stored ConfigMap of a key. -/
def configMap? (s : Store) (k : ObjectKey) : Option ConfigMap := s.configMaps.get? k

/-! ### Calls -/

/-- Look up a ReplicaSet. -/
def readReplicaSet (s : Store) (k : ObjectKey) : Except ClusterError (Option ReplicaSet) :=
  if s.faults.replicaSetsUnreadable then
    .error (.api ("injected failure reading replicaset " ++ k.ns ++ "/" ++ k.name))
  else .ok (s.replicaSets.get? k)

/-- Note a call that never completes. -/
def stall (s : Store) : Store := { s with stalledCalls := s.stalledCalls + 1 }

/-- Look up a ConfigMap. -/
def readConfigMap (s : Store) (k : ObjectKey) : Store × Answer (Option ConfigMap) :=
  if s.faults.unreadable.contains k.name then
    (s, .failed (.api ("injected failure reading configmap " ++ k.ns ++ "/" ++ k.name)))
  else if s.faults.stallReads then (s.stall, .stalled)
  else (s, .ok (s.configMaps.get? k))

/-- The conflict on a ConfigMap, for a reason. -/
def conflict (name reason : String) : ClusterError :=
  .conflict ("Operation cannot be fulfilled on configmaps \"" ++ name ++ "\": " ++ reason)

/-- Whether a write on the ground of a version is out of date. No version is never out of date. -/
def isStale (written stored : Option String) : Bool :=
  written.isSome && written != stored

/-- Write a ConfigMap whose call was recorded, under a new version. The version is used up by a
refused write too. -/
def commit (s : Store) (k : ObjectKey) (c : ConfigMap) : Store × Answer ConfigMap :=
  let s := { s with version := s.version + 1 }
  match s.configMaps.get? k with
  | none => (s, .failed (.api ("configmaps \"" ++ k.name ++ "\" not found")))
  | some stored =>
    if isStale c.metadata.resourceVersion stored.metadata.resourceVersion then
      (s, .failed (conflict k.name "the object has been modified"))
    else
      let updated := c.withVersion (some (versionText s.version))
      ({ s with configMaps := s.configMaps.insert k updated }, .ok updated)

/-- Replace a ConfigMap. -/
def replaceConfigMap (s : Store) (c : ConfigMap) : Store × Answer ConfigMap :=
  match c.metadata.key with
  | .error e => (s, .failed e)
  | .ok k =>
    let s := { s with replaceCalls := s.replaceCalls ++ [k.name] }
    if s.faults.stallReplaces then (s.stall, .stalled)
    else if 0 < s.faults.conflicts then
      ({ s with faults := { s.faults with conflicts := s.faults.conflicts - 1 } },
        .failed (conflict k.name "injected conflict"))
    else s.commit k c

/-- Answer a call. -/
def perform (s : Store) : (c : Call) → Store × Answer c.Result
  | .readReplicaSet k =>
    match s.readReplicaSet k with
    | .ok found => (s, .ok found)
    | .error e => (s, .failed e)
  | .readConfigMap k => s.readConfigMap k
  | .replaceConfigMap c => s.replaceConfigMap c

end Store

end MountOwnership
