import MountOwnership.Cluster.Error

/-!
# Errors of the controller
-/

namespace MountOwnership

/-- What is wrong with the settings. -/
inductive SettingsFault where
  /-- The concurrency in the environment is not a count. -/
  | concurrencyNoCount (raw : String)
  /-- The concurrency is zero. -/
  | concurrencyZero
  /-- Another reason, in words. -/
  | other (reason : String)
deriving DecidableEq, Repr

/-- The wording of a fault in the settings. -/
def SettingsFault.message : SettingsFault → String
  | .concurrencyNoCount raw =>
    "MAX_CONCURRENT_RECONCILES must be a positive integer, got " ++ Text.quoted raw
  | .concurrencyZero => "max concurrent reconciles must be at least 1"
  | .other reason => reason

/-- Why a ReplicaSet cannot be named as an owner. -/
inductive OwnerFault where
  /-- The ReplicaSet has no uid. -/
  | noUid (name : Option String)
  /-- The ReplicaSet has no name. -/
  | noName
  /-- Another reason, in words. -/
  | other (reason : String)
deriving DecidableEq, Repr

/-- The wording of a fault of an owner. -/
def OwnerFault.message : OwnerFault → String
  | .noUid name => "ReplicaSet " ++ Text.quotedOption name ++ " has no uid"
  | .noName => "ReplicaSet has no name or uid"
  | .other reason => reason

/-- Why the controller's work failed. -/
inductive ControllerError where
  /-- A call to the cluster failed. -/
  | cluster (error : ClusterError)
  /-- The settings cannot be used. -/
  | invalidConfig (fault : SettingsFault)
  /-- The ReplicaSet cannot be named as an owner. -/
  | ownerReference (fault : OwnerFault)
  /-- The work was given up, at a shutdown or at its deadline. -/
  | cancelled
deriving DecidableEq, Repr

namespace ControllerError

/-- Whether the work is worth another try. -/
def isRetryable : ControllerError → Bool
  | .cluster _ => true
  | .cancelled => true
  | .invalidConfig _ => false
  | .ownerReference _ => false

/-- The wording of an error. -/
def message : ControllerError → String
  | .cluster error => "Cluster error: " ++ error.message
  | .invalidConfig fault => "Invalid configuration: " ++ fault.message
  | .ownerReference fault => "Cannot build owner reference: " ++ fault.message
  | .cancelled => "Reconciliation cancelled"

end ControllerError

end MountOwnership
