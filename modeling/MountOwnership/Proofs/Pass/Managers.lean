import MountOwnership.Proofs.Ownership.Records
import MountOwnership.Proofs.Pass.Effect

/-!
# Owners that manage a ConfigMap

The record that a pass writes does not manage the ConfigMap.  It takes the place of the first
record of its key, though, and if that one managed the ConfigMap, nobody does so any more.  As
a pass writes only where its ReplicaSet is not listed yet, that record is one of an earlier
ReplicaSet of the same name, with another uid (`Pass.manager_kept_iff`).  All other managing
records are kept.
-/

namespace MountOwnership

/-! ### Records that are kept -/

section Upsert

variable {o owner : OwnerReference} {owners : List OwnerReference}

/-- A record takes the place of the first one of its key.  The list holds all others as often as
before. -/
lemma count_upsertOwner (h : owner ≠ o) :
    (upsertOwner owner owners).count o +
      (if firstOwner? owner.key owners = some o then 1 else 0) = owners.count o := by
  unfold firstOwner?
  induction owners with
  | nil => simp [upsertOwner, h]
  | cons first rest ih =>
    by_cases hkey : first.key = owner.key
    · rw [upsertOwner_of_key_eq hkey, List.find?_cons_of_pos (by simpa using hkey),
        List.count_cons_of_ne h]
      by_cases hfirst : first = o
      · rw [hfirst, if_pos rfl, List.count_cons_self]
      · have hne : some first ≠ some o := fun heq => hfirst (Option.some.inj heq)
        rw [if_neg hne, List.count_cons_of_ne hfirst, Nat.add_zero]
    · rw [upsertOwner_of_key_ne hkey, List.find?_cons_of_neg (by simpa using hkey)]
      by_cases hfirst : first = o
      · rw [hfirst, List.count_cons_self, List.count_cons_self, ← ih]
        omega
      · rw [List.count_cons_of_ne hfirst, List.count_cons_of_ne hfirst, ih]

/-- A record of the list is kept unless it is the first of the key and stands there only once. -/
lemma mem_upsertOwner_iff (h : owner ≠ o) (ho : o ∈ owners) :
    o ∈ upsertOwner owner owners ↔ firstOwner? owner.key owners ≠ some o ∨ 1 < owners.count o := by
  have hcount : (upsertOwner owner owners).count o +
      (if firstOwner? owner.key owners = some o then 1 else 0) = owners.count o :=
    count_upsertOwner h
  have hpos : 0 < owners.count o := List.count_pos_iff.mpr ho
  rw [← List.count_pos_iff]
  by_cases hfirst : firstOwner? owner.key owners = some o
  · rw [if_pos hfirst] at hcount
    constructor
    · intro hleft
      exact Or.inr (by omega)
    · rintro (hnot | hmore)
      · exact absurd hfirst hnot
      · omega
  · rw [if_neg hfirst] at hcount
    exact ⟨fun _ => Or.inl hfirst, fun _ => by omega⟩

end Upsert

/-- The record of a ReplicaSet does not manage. -/
lemma ReplicaSet.ownerRecord_controller {rs : ReplicaSet} {owner : OwnerReference}
    (h : rs.ownerRecord = .ok owner) : owner.controller = some false := by
  obtain ⟨_, _, _, _, rfl⟩ := ReplicaSet.ownerRecord_eq_ok_iff.mp h
  rfl

/-- A record of a ReplicaSet's key that is not that ReplicaSet's carries another uid. -/
lemma ConfigMap.uid_ne_of_not_owned {c : ConfigMap} {rs : ReplicaSet} {o : OwnerReference}
    {name uid : String} (hname : rs.metadata.name = some name) (huid : rs.metadata.uid = some uid)
    (hno : c.isOwnedBy rs = false) (ho : o ∈ c.owners) (hkey : o.key = workloadOwnerKey name) :
    o.uid ≠ uid := by
  intro hsame
  have howned : c.isOwnedBy rs = true :=
    (isOwnedBy_iff hname huid).mpr ⟨o, ho, OwnerReference.names_of_key hkey hsame⟩
  exact nomatch hno.symm.trans howned

/-! ### Passes -/

namespace Pass

variable {s : Store} {k : ObjectKey} {c : ConfigMap} {o : OwnerReference}

/-- A record names an earlier ReplicaSet of the name that a pass is over: one with another uid. -/
def NamesEarlier (o : OwnerReference) (s : Store) (ns name : String) : Prop :=
  o.key = workloadOwnerKey name ∧ ∃ rs uid, s.replicaSets.get? ⟨ns, name⟩ = some rs ∧
    rs.metadata.uid = some uid ∧ o.uid ≠ uid

/-- **Managing owners.**  Take an owner of a stored ConfigMap that manages it, and any pass, however
it ends.  The owner is kept exactly if the pass leaves the ConfigMap alone, or another record comes
first of the key that the pass writes, or the owner is listed twice.  If it is not kept, it names an
earlier ReplicaSet of the name that the pass is over. -/
theorem manager_kept_iff (hs : s.Reachable) (ctx : Context) (ns name : String)
    (callsLeft : Option Nat) (hget : s.configMap? k = some c) (ho : o ∈ c.owners)
    (hmanages : o.controller = some true) :
    let t := ((reconcile ctx ns name).run callsLeft s).1
    ∃ c', t.configMap? k = some c' ∧
      (o ∈ c'.owners ↔ c' = c ∨ firstOwner? (workloadOwnerKey name) c.owners ≠ some o ∨
        1 < c.owners.count o) ∧
      (o ∉ c'.owners → NamesEarlier o s ns name) := by
  intro t
  rcases (course_reconcile hs.consistent ctx ns name callsLeft).configMap?_cases k with
    hsame | ⟨rs, configMap, stored, owner, version, hrs, hk, hun, ht⟩
  · exact ⟨c, hsame.trans hget, ⟨fun _ => Or.inl rfl, fun _ => ho⟩, fun hlost => absurd ho hlost⟩
  · subst hk
    obtain rfl := Option.some.inj (hun.stored.symm.trans hget)
    obtain ⟨rsName, uid, hname, huid, _⟩ := ReplicaSet.ownerRecord_eq_ok_iff.mp hun.record
    have hsameName : rsName = name := hs.consistent.replicaSet_name hrs hname
    subst hsameName
    have hownerKey : owner.key = workloadOwnerKey rsName :=
      ReplicaSet.key_ownerRecord hun.record hname
    have hne : owner ≠ o := by
      rintro rfl
      exact nomatch (ReplicaSet.ownerRecord_controller hun.record).symm.trans hmanages
    -- the ConfigMap lists the ReplicaSet now, and did not before
    have hwritten : (stored.withOwner owner).withVersion version ≠ stored := by
      intro heq
      have howned : ((stored.withOwner owner).withVersion version).isOwnedBy rs = true :=
        ConfigMap.withOwner_isOwnedBy hun.record stored
      rw [heq, hun.not_owned] at howned
      exact nomatch howned
    have hmem : o ∈ ((stored.withOwner owner).withVersion version).owners ↔
        firstOwner? (workloadOwnerKey rsName) stored.owners ≠ some o ∨
          1 < stored.owners.count o := by
      rw [← hownerKey]
      exact mem_upsertOwner_iff hne ho
    refine ⟨_, ht, ?_, fun hlost => ?_⟩
    · constructor
      · intro hleft
        exact Or.inr (hmem.mp hleft)
      · rintro (heq | hother)
        · exact absurd heq hwritten
        · exact hmem.mpr hother
    · obtain ⟨hfirst, _⟩ := not_or.mp (hmem.not.mp hlost)
      have hkey : o.key = workloadOwnerKey rsName :=
        (ConfigMap.mem_of_firstOwner? (not_not.mp hfirst)).2
      exact ⟨hkey, rs, uid, hrs, huid,
        ConfigMap.uid_ne_of_not_owned hname huid hun.not_owned ho hkey⟩

end Pass

/-! ### A ConfigMap that is managed -/

namespace Sample

/-- The record of a Deployment that manages the ConfigMap. -/
def deploymentRecord : OwnerReference :=
  ⟨"apps/v1", "Deployment", "app", "d1", some true, some true⟩

/-- The record of an earlier ReplicaSet `app-rs` that managed the ConfigMap. -/
def earlierRecord : OwnerReference :=
  ⟨"apps/v1", "ReplicaSet", "app-rs", "u0", some true, some true⟩

/-- The ReplicaSet `app-rs`, made anew, and a ConfigMap with owners that it mounts. -/
def managedStore (owners : List OwnerReference) : Store :=
  ({} : Store)
    |>.addReplicaSet (replicaSet "app-rs" "u1" ["app-config"])
    |>.addConfigMap (configMap "app-config" (some owners))

/-- The store of the example is reachable. -/
lemma reachable_managedStore (owners : List OwnerReference) : (managedStore owners).Reachable :=
  (Store.Reachable.empty.addReplicaSet _).addConfigMap _

/-- It holds the ConfigMap with its first version. -/
lemma configMap?_managedStore (owners : List OwnerReference) :
    (managedStore owners).configMap? ⟨"default", "app-config"⟩ =
      some ((configMap "app-config" (some owners)).withVersion (some (Store.versionText 1))) := by
  unfold managedStore
  rw [Store.addConfigMap_eq_put, Store.put_configMap?]
  exact if_pos rfl

end Sample

namespace Pass

/-- The Deployment still manages the ConfigMap when `app-rs` is linked to it. -/
theorem manager_kept_iff_deployment :
    let s := Sample.managedStore [Sample.deploymentRecord, Sample.earlierRecord]
    let t := ((reconcile (Sample.context false) "default" "app-rs").run none s).1
    ∃ c, t.configMap? ⟨"default", "app-config"⟩ = some c ∧ Sample.deploymentRecord ∈ c.owners := by
  intro s t
  have hget : s.configMap? ⟨"default", "app-config"⟩ = some _ := Sample.configMap?_managedStore _
  generalize hc : (Sample.configMap "app-config"
    (some [Sample.deploymentRecord, Sample.earlierRecord])).withVersion
      (some (Store.versionText 1)) = c at hget
  have howners : c.owners = [Sample.deploymentRecord, Sample.earlierRecord] := by
    rw [← hc]
    rfl
  have ho : Sample.deploymentRecord ∈ c.owners := by
    rw [howners]
    exact List.mem_cons_self
  have hfirst : firstOwner? (workloadOwnerKey "app-rs") c.owners ≠
      some Sample.deploymentRecord := by
    rw [howners]
    decide
  have hs : s.Reachable := Sample.reachable_managedStore _
  have hmanages : Sample.deploymentRecord.controller = some true := rfl
  obtain ⟨c', hget', hkept, _⟩ :=
    manager_kept_iff hs (Sample.context false) "default" "app-rs" none hget ho hmanages
  exact ⟨c', hget', hkept.mpr (Or.inr (Or.inl hfirst))⟩

/-- The earlier ReplicaSet managed the ConfigMap, and nobody does so when `app-rs` is linked to
it. -/
theorem manager_lost :
    let s := Sample.managedStore [Sample.earlierRecord]
    let t := ((reconcile (Sample.context false) "default" "app-rs").run none s).1
    s.Reachable ∧ Sample.earlierRecord.controller = some true ∧
      (s.configMap? ⟨"default", "app-config"⟩).map ConfigMap.owners =
        some [Sample.earlierRecord] ∧
      (t.configMap? ⟨"default", "app-config"⟩).map ConfigMap.owners =
        some [Sample.record "app-rs" "u1"] := by
  have howners : (((reconcile (Sample.context false) "default" "app-rs").run none
      (Sample.managedStore [Sample.earlierRecord])).1.configMap?
        ⟨"default", "app-config"⟩).map ConfigMap.owners = some [Sample.record "app-rs" "u1"] := by
    rw [reconcile_eq_compared]
    decide +kernel
  refine ⟨Sample.reachable_managedStore _, rfl, ?_, howners⟩
  rw [Sample.configMap?_managedStore]
  rfl

end Pass

end MountOwnership
