import MountOwnership.Proofs.Ownership.Records

/-!
# Enlisting a ReplicaSet

Enlisting a ReplicaSet among the owners of a ConfigMap does all of its work or none.  Its
record is made before the ConfigMap is touched, so a ReplicaSet without one leaves even an
absent list of owners absent (`ReplicaSet.run_enlist_of_error`).

With a record, one place of the list changes or one is added (`upsertOwner_cases`).  That
place is the first of its key from then on, whatever other records of the key or of the uid
the list holds, so the same record finds it again and changes nothing
(`upsertOwner_upsertOwner_self`).
-/

namespace MountOwnership

/-! ### One record -/

/-- A record takes the place of one of its key, or follows the list if there is none. -/
lemma upsertOwner_cases (owner : OwnerReference) (owners : List OwnerReference) :
    (∃ i o, owners[i]? = some o ∧ o.key = owner.key ∧
      upsertOwner owner owners = owners.set i owner) ∨
    owner.key ∉ owners.map OwnerReference.key ∧
      upsertOwner owner owners = owners ++ [owner] := by
  induction owners with
  | nil => exact Or.inr ⟨List.not_mem_nil, rfl⟩
  | cons first rest ih =>
    by_cases h : first.key = owner.key
    · rw [upsertOwner_of_key_eq h]
      exact Or.inl ⟨0, first, rfl, h, rfl⟩
    · rw [upsertOwner_of_key_ne h]
      rcases ih with ⟨i, o, hi, hkey, hset⟩ | ⟨hnew, happend⟩
      · exact Or.inl ⟨i + 1, o, hi, hkey, congrArg (first :: ·) hset⟩
      · refine Or.inr ⟨?_, congrArg (first :: ·) happend⟩
        rw [List.map_cons, List.mem_cons, not_or]
        exact ⟨Ne.symm h, hnew⟩

/-- A record that was put into a list finds its place again. -/
lemma upsertOwner_upsertOwner_self (owner : OwnerReference) (owners : List OwnerReference) :
    upsertOwner owner (upsertOwner owner owners) = upsertOwner owner owners := by
  induction owners with
  | nil => exact if_pos rfl
  | cons first rest ih =>
    by_cases h : first.key = owner.key
    · rw [upsertOwner_of_key_eq h]
      exact upsertOwner_of_key_eq rfl rest
    · rw [upsertOwner_of_key_ne h, upsertOwner_of_key_ne h, ih]

namespace ReplicaSet

variable {rs : ReplicaSet} {owner : OwnerReference} {fault : OwnerFault}

/-! ### Enlisting -/

/-- A ReplicaSet without a uid is refused for that, and one without a name only then. -/
lemma ownerRecord_eq_error_iff : rs.ownerRecord = .error fault ↔
    (rs.metadata.uid = none ∨ rs.metadata.name = none) ∧
      fault = if rs.metadata.uid = none then .noUid rs.metadata.name else .noName := by
  unfold ownerRecord
  cases rs.metadata.uid with
  | none => simp [eq_comm]
  | some uid =>
    cases rs.metadata.name with
    | none => simp [eq_comm]
    | some name => simp

/-- A ReplicaSet with a record is enlisted as it is listed. -/
lemma run_enlist_of_ok (h : rs.ownerRecord = .ok owner) (c : ConfigMap) :
    rs.enlist.run c = .ok () (c.withOwner owner) := by
  unfold enlist
  rw [h]
  rfl

/-- A ReplicaSet without a record leaves the ConfigMap as it is. -/
lemma run_enlist_of_error (h : rs.ownerRecord = .error fault) (c : ConfigMap) :
    rs.enlist.run c = .error (.ownerReference fault) c := by
  unfold enlist
  rw [h]
  rfl

/-- What becomes of a ConfigMap that a ReplicaSet was enlisted into. -/
structure Enlisted (rs : ReplicaSet) (c c' : ConfigMap) : Prop where
  /-- A pass over the ReplicaSet writes the same. -/
  listed : c.setOwner rs = .ok c'
  /-- It is owned by the ReplicaSet. -/
  owned : c'.isOwnedBy rs = true
  /-- The record of the ReplicaSet took the place of one of its key, or follows the owners. -/
  one_record : ∃ owner, rs.ownerRecord = .ok owner ∧
    ((∃ i o, c.owners[i]? = some o ∧ o.key = owner.key ∧ c'.owners = c.owners.set i owner) ∨
      owner.key ∉ c.owners.map OwnerReference.key ∧ c'.owners = c.owners ++ [owner])
  /-- Nothing but the owners differs. -/
  rest_eq : c'.withOwners none = c.withOwners none
  /-- Enlisting the ReplicaSet again changes nothing. -/
  again : rs.enlist.run c' = .ok () c'
  /-- ReplicaSets of other names own it if they owned it before. -/
  others : ∀ other : ReplicaSet, other.metadata.name ≠ rs.metadata.name →
    c'.isOwnedBy other = c.isOwnedBy other

/-- A ConfigMap with the record of a ReplicaSet is one that the ReplicaSet was enlisted into. -/
lemma enlisted_withOwner (h : rs.ownerRecord = .ok owner) (c : ConfigMap) :
    rs.Enlisted c (c.withOwner owner) where
  listed := ConfigMap.setOwner_of_ok h c
  owned := ConfigMap.withOwner_isOwnedBy h c
  one_record := ⟨owner, h, upsertOwner_cases owner c.owners⟩
  rest_eq := rfl
  again := by
    have hsame : (c.withOwner owner).withOwner owner = c.withOwner owner :=
      congrArg (fun owners => c.withOwners (some owners))
        (upsertOwner_upsertOwner_self owner c.owners)
    rw [run_enlist_of_ok h, hsame]
  others other hne := ConfigMap.withOwner_isOwnedBy_of_ne hne.symm h c

/-- **All or nothing.**  Enlisting a ReplicaSet succeeds exactly if the ReplicaSet has a uid and a
name.  Where it fails, it says which of the two is missing and leaves the ConfigMap as it was.
Where it succeeds, the ConfigMap is owned by the ReplicaSet, at most one of its owners gave way or
one was added, and nothing else about it changed; enlisting the ReplicaSet again changes nothing,
and no ReplicaSet of another name has become or ceased to be an owner. -/
theorem enlist_all_or_nothing (rs : ReplicaSet) (c : ConfigMap) :
    ((∃ c', rs.enlist.run c = .ok () c') ↔
      rs.metadata.uid.isSome = true ∧ rs.metadata.name.isSome = true) ∧
    (∀ e c', rs.enlist.run c = .error e c' → c' = c ∧ e = .ownerReference
      (if rs.metadata.uid = none then .noUid rs.metadata.name else .noName)) ∧
    ∀ c', rs.enlist.run c = .ok () c' → rs.Enlisted c c' := by
  cases hrecord : rs.ownerRecord with
  | error fault =>
    obtain ⟨hmissing, hfault⟩ := ownerRecord_eq_error_iff.mp hrecord
    have hrun := run_enlist_of_error hrecord c
    refine ⟨?_, ?_, ?_⟩
    · constructor
      · rintro ⟨c', hc'⟩
        exact nomatch hrun.symm.trans hc'
      · rintro ⟨huid, hname⟩
        rcases hmissing with hnone | hnone
        · rw [hnone] at huid
          exact nomatch huid
        · rw [hnone] at hname
          exact nomatch hname
    · intro e c' he
      obtain ⟨rfl, rfl⟩ := EStateM.Result.error.inj (hrun.symm.trans he)
      exact ⟨rfl, congrArg ControllerError.ownerReference hfault⟩
    · intro c' hc'
      exact nomatch hrun.symm.trans hc'
  | ok owner =>
    obtain ⟨name, uid, hname, huid, _⟩ := ownerRecord_eq_ok_iff.mp hrecord
    have hrun := run_enlist_of_ok hrecord c
    refine ⟨?_, ?_, ?_⟩
    · rw [hname, huid]
      exact iff_of_true ⟨_, hrun⟩ ⟨rfl, rfl⟩
    · intro e c' he
      exact nomatch hrun.symm.trans he
    · intro c' hc'
      obtain ⟨_, rfl⟩ := EStateM.Result.ok.inj (hrun.symm.trans hc')
      exact enlisted_withOwner hrecord c

/-- Of three records that name `app-rs` the second gives way, and a ReplicaSet without a uid is not
enlisted. -/
theorem enlist_all_or_nothing_app_rs :
    let c := Sample.namingConfigMap
      [("extensions/v1beta1", "u1"), ("apps/v1beta2", "u0"), ("apps/v1", "u1")]
    let c' := c.withOwners (some (c.owners.set 1
      ⟨"apps/v1", "ReplicaSet", "app-rs", "u1", some false, some false⟩))
    let unidentified : ReplicaSet := { metadata := { name := some "app-rs" } }
    Sample.bareReplicaSet.Enlisted c c' ∧ ¬ ∃ c'', unidentified.enlist.run c = .ok () c'' := by
  intro c c' unidentified
  obtain ⟨_, _, henlisted⟩ := enlist_all_or_nothing Sample.bareReplicaSet c
  obtain ⟨hsuccess, _, _⟩ := enlist_all_or_nothing unidentified c
  have hrun : Sample.bareReplicaSet.enlist.run c = .ok () c' := rfl
  have huid : unidentified.metadata.uid.isSome = false := rfl
  refine ⟨henlisted c' hrun, fun h => ?_⟩
  exact nomatch huid.symm.trans (hsuccess.mp h).1

end ReplicaSet

end MountOwnership
