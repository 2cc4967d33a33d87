import MountOwnership.Error
import MountOwnership.Object.ConfigMap
import MountOwnership.Object.ReplicaSet

/-!
# Ownership of ConfigMaps

A ConfigMap whose owner references name a ReplicaSet is collected together with
it. The record written here neither manages the ConfigMap nor holds up the
ReplicaSet's deletion, so it stands beside whatever owners there are.

A record is found by API group, kind and name, and is written in place of the
first such record; the uid in it changes when a ReplicaSet is made anew under
its old name. Whether a ConfigMap is owned already is decided by kind, name and
uid.
-/

namespace MountOwnership

/-- The kind of ReplicaSets in owner references. -/
def workloadKind : String := "ReplicaSet"

/-- The API version of ReplicaSets in owner references. -/
def workloadVersion : String := "apps/v1"

/-- The group part of an API version: what stands before the first slash. -/
def apiGroup (apiVersion : String) : String :=
  if apiVersion.toList.contains '/' then
    String.ofList (apiVersion.toList.takeWhile (· ≠ '/'))
  else ""

/-- The part of an owner reference by which records are told apart: API group, kind and name. -/
def OwnerReference.key (o : OwnerReference) : String × String × String :=
  (apiGroup o.apiVersion, o.kind, o.name)

/-- Whether a record names this ReplicaSet as an owner, by kind, name and uid. -/
def OwnerReference.names (o : OwnerReference) (name uid : String) : Bool :=
  o.kind == workloadKind && o.name == name && o.uid == uid

/-- Whether a ConfigMap already lists a ReplicaSet among its owners. -/
def ConfigMap.isOwnedBy (c : ConfigMap) (rs : ReplicaSet) : Bool :=
  match rs.metadata.name, rs.metadata.uid with
  | some name, some uid => c.owners.any fun o => o.names name uid
  | _, _ => false

/-- The record that lets a ConfigMap be collected together with a ReplicaSet. -/
def ReplicaSet.ownerRecord (rs : ReplicaSet) : Except OwnerFault OwnerReference :=
  match rs.metadata.uid, rs.metadata.name with
  | none, name => .error (.noUid name)
  | some _, none => .error .noName
  | some uid, some name => .ok
    { apiVersion := workloadVersion
      kind := workloadKind
      name := name
      uid := uid
      controller := some false
      blockOwnerDeletion := some false }

/-- Put a record into a list: in place of the first record of its key, else at the end. -/
def upsertOwner (owner : OwnerReference) : List OwnerReference → List OwnerReference
  | [] => [owner]
  | o :: rest => if o.key = owner.key then owner :: rest else o :: upsertOwner owner rest

/-- List a ReplicaSet among the owners of a ConfigMap. -/
def ConfigMap.setOwner (c : ConfigMap) (rs : ReplicaSet) : Except OwnerFault ConfigMap :=
  rs.ownerRecord.map fun owner => c.withOwners (some (upsertOwner owner c.owners))

/-- List a ReplicaSet among the owners of the ConfigMap at hand. The record comes first, so a
ReplicaSet without one leaves an absent list absent; with one, an absent list is created empty. -/
def ReplicaSet.enlist (rs : ReplicaSet) : EStateM ControllerError ConfigMap Unit := do
  let owner ← MonadExcept.ofExcept (rs.ownerRecord.mapError .ownerReference)
  modify fun c => c.withOwners (some c.owners)
  modify fun c => c.withOwners (some (upsertOwner owner c.owners))

end MountOwnership
