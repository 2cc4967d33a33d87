import Mathlib.Tactic.Common
import MountOwnership.Ownership

/-!
# Writing a ReplicaSet into the owners of a ConfigMap

The record of a ReplicaSet exists exactly when the ReplicaSet has a uid and a
name.  Putting it among the owners of a ConfigMap makes the ConfigMap owned by
that ReplicaSet, and changes neither the key nor the version under which the
ConfigMap is kept.
-/

namespace MountOwnership

/-! ### The record -/

/-- A ReplicaSet has a record exactly when it has a name and a uid. -/
lemma ReplicaSet.ownerRecord_eq_ok_iff {rs : ReplicaSet} {owner : OwnerReference} :
    rs.ownerRecord = .ok owner ↔ ∃ name uid, rs.metadata.name = some name ∧
      rs.metadata.uid = some uid ∧
      owner = ⟨workloadVersion, workloadKind, name, uid, some false, some false⟩ := by
  unfold ReplicaSet.ownerRecord
  cases huid : rs.metadata.uid with
  | none => simp
  | some uid =>
    cases hname : rs.metadata.name with
    | none => simp
    | some name => simp [eq_comm]

/-- A record takes the place of one of its key that stands in front. -/
lemma upsertOwner_of_key_eq {owner o : OwnerReference} (h : o.key = owner.key)
    (rest : List OwnerReference) : upsertOwner owner (o :: rest) = owner :: rest :=
  if_pos h

/-- A record passes over one of another key that stands in front. -/
lemma upsertOwner_of_key_ne {owner o : OwnerReference} (h : o.key ≠ owner.key)
    (rest : List OwnerReference) : upsertOwner owner (o :: rest) = o :: upsertOwner owner rest :=
  if_neg h

/-- The record of a ReplicaSet stands in the list that it was put into. -/
lemma mem_upsertOwner_self (owner : OwnerReference) (owners : List OwnerReference) :
    owner ∈ upsertOwner owner owners := by
  induction owners with
  | nil => exact List.mem_singleton_self owner
  | cons o rest ih =>
    unfold upsertOwner
    split
    · exact List.mem_cons_self
    · exact List.mem_cons_of_mem o ih

namespace ConfigMap

/-- The ConfigMap with a record put among its owners. -/
def withOwner (c : ConfigMap) (owner : OwnerReference) : ConfigMap :=
  c.withOwners (some (upsertOwner owner c.owners))

/-- One more owner leaves a ConfigMap its place in the store. -/
@[simp] lemma withOwner_storeKey (c : ConfigMap) (owner : OwnerReference) :
    (c.withOwner owner).metadata.storeKey = c.metadata.storeKey := rfl

/-- One more owner leaves a ConfigMap its version. -/
@[simp] lemma withOwner_resourceVersion (c : ConfigMap) (owner : OwnerReference) :
    (c.withOwner owner).metadata.resourceVersion = c.metadata.resourceVersion := rfl

/-- Listing a ReplicaSet among the owners succeeds exactly when the ReplicaSet has a record. -/
lemma setOwner_of_ok {rs : ReplicaSet} {owner : OwnerReference} (h : rs.ownerRecord = .ok owner)
    (c : ConfigMap) : c.setOwner rs = .ok (c.withOwner owner) := by
  unfold setOwner
  rw [h]
  rfl

/-- Without a record, listing a ReplicaSet among the owners fails in the same way. -/
lemma setOwner_of_error {rs : ReplicaSet} {fault : OwnerFault}
    (h : rs.ownerRecord = .error fault) (c : ConfigMap) : c.setOwner rs = .error fault := by
  unfold setOwner
  rw [h]
  rfl

/-- A ConfigMap is owned by the ReplicaSet whose record was put among its owners. -/
lemma withOwner_isOwnedBy {rs : ReplicaSet} {owner : OwnerReference}
    (h : rs.ownerRecord = .ok owner) (c : ConfigMap) : (c.withOwner owner).isOwnedBy rs = true := by
  obtain ⟨name, uid, hname, huid, rfl⟩ := ReplicaSet.ownerRecord_eq_ok_iff.mp h
  unfold isOwnedBy
  rw [hname, huid]
  refine List.any_eq_true.mpr ⟨_, mem_upsertOwner_self _ _, ?_⟩
  simp [OwnerReference.names]

end ConfigMap

end MountOwnership
