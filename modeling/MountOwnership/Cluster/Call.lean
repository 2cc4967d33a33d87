import MountOwnership.Cluster.Error
import MountOwnership.Object.ConfigMap
import MountOwnership.Object.ReplicaSet

/-!
# Calls to the cluster

What the controller asks of a cluster, what it gets, and how a call may end.
-/

namespace MountOwnership

/-- How a call ends. -/
inductive Answer (α : Type) where
  /-- With a result. -/
  | ok (a : α)
  /-- With an error. -/
  | failed (e : ClusterError)
  /-- Never. -/
  | stalled
deriving DecidableEq

/-- A call of the controller. -/
inductive Call where
  /-- Look up a ReplicaSet. -/
  | readReplicaSet (key : ObjectKey)
  /-- Look up a ConfigMap. -/
  | readConfigMap (key : ObjectKey)
  /-- Replace a ConfigMap. -/
  | replaceConfigMap (configMap : ConfigMap)
deriving DecidableEq

/-- The result of a call. -/
abbrev Call.Result : Call → Type
  | .readReplicaSet _ => Option ReplicaSet
  | .readConfigMap _ => Option ConfigMap
  | .replaceConfigMap _ => ConfigMap

end MountOwnership
