import MountOwnership.Proofs.Ownership

/-!
# Records of a ReplicaSet in a list of owners

A record takes the place of the first record of its key, that is of its API group, kind
and name.  So the list keeps its identities exactly if that record carries the same uid
(`map_identity_upsertOwner_iff`), nothing changes about which other names the list holds
(`any_names_upsertOwner`), and two records of different keys may be put into a list in
either order (`upsertOwner_upsertOwner_perm`).

Whether a ConfigMap is owned is decided by less: by any record of the kind, name and uid,
whatever its API group and its place.  The check and the writer therefore agree except for
records that the writer passes over (`ConfigMap.isOwnedBy_iff_identities_kept`).
-/

namespace MountOwnership

/-! ### Records by key -/

/-- The API group of ReplicaSets in owner references. -/
def workloadGroup : String := "apps"

/-- Records of ReplicaSets carry their API group. -/
@[simp] lemma apiGroup_workloadVersion : apiGroup workloadVersion = workloadGroup := rfl

/-- The key of the records of a ReplicaSet. -/
def workloadOwnerKey (name : String) : String × String × String :=
  (workloadGroup, workloadKind, name)

/-- The record of a ReplicaSet has the key of its name. -/
lemma ReplicaSet.key_ownerRecord {rs : ReplicaSet} {owner : OwnerReference} {name : String}
    (h : rs.ownerRecord = .ok owner) (hname : rs.metadata.name = some name) :
    owner.key = workloadOwnerKey name := by
  obtain ⟨name', uid, hname', _, rfl⟩ := ReplicaSet.ownerRecord_eq_ok_iff.mp h
  obtain rfl := Option.some.inj (hname.symm.trans hname')
  simp [OwnerReference.key, workloadOwnerKey]

/-- The first record of a key, which the next record of that key takes the place of. -/
def firstOwner? (key : String × String × String) (owners : List OwnerReference) :
    Option OwnerReference :=
  owners.find? fun o => o.key = key

namespace OwnerReference

variable {o owner : OwnerReference} {name uid : String}

/-- What tells apart the records of owners that were made anew under one name: API group, kind,
name and uid. -/
def identity (o : OwnerReference) : String × String × String × String :=
  (apiGroup o.apiVersion, o.kind, o.name, o.uid)

/-- Two records have one identity if they have one key and one uid. -/
lemma identity_eq_iff : o.identity = owner.identity ↔ o.key = owner.key ∧ o.uid = owner.uid := by
  simp [identity, key, and_assoc]

/-- A record names a ReplicaSet if it has the kind of ReplicaSets, its name and its uid. -/
lemma names_iff : o.names name uid = true ↔
    o.kind = workloadKind ∧ o.name = name ∧ o.uid = uid := by
  simp [names, and_assoc]

/-- A record of the ReplicaSets' API group that names a ReplicaSet has its key. -/
lemma key_of_names (h : o.names name uid = true) (hgroup : apiGroup o.apiVersion = workloadGroup) :
    o.key = workloadOwnerKey name := by
  obtain ⟨hkind, hname, _⟩ := names_iff.mp h
  rw [key, hgroup, hkind, hname, workloadOwnerKey]

/-- A record with the key and the uid of a ReplicaSet names it. -/
lemma names_of_key (hkey : o.key = workloadOwnerKey name) (huid : o.uid = uid) :
    o.names name uid = true := by
  simp only [key, workloadOwnerKey, Prod.mk.injEq] at hkey
  exact names_iff.mpr ⟨hkey.2.1, hkey.2.2, huid⟩

end OwnerReference

/-! ### Putting a record into a list -/

section Upsert

variable {a b owner : OwnerReference} {owners : List OwnerReference} {name uid : String}

/-- A record keeps the identities of a list exactly if the record whose place it takes carries the
same uid. -/
lemma map_identity_upsertOwner_iff :
    (upsertOwner owner owners).map OwnerReference.identity =
        owners.map OwnerReference.identity ↔
      ∃ o, firstOwner? owner.key owners = some o ∧ o.uid = owner.uid := by
  unfold firstOwner?
  induction owners with
  | nil => simp [upsertOwner]
  | cons o rest ih =>
    by_cases h : o.key = owner.key
    · rw [upsertOwner_of_key_eq h, List.find?_cons_of_pos (by simpa using h)]
      simp [OwnerReference.identity_eq_iff, h, eq_comm]
    · rw [upsertOwner_of_key_ne h, List.find?_cons_of_neg (by simpa using h), List.map_cons,
        List.map_cons, List.cons.injEq, and_iff_right rfl]
      exact ih

/-- A record adds its key at the end, unless the list holds the key already. -/
lemma map_key_upsertOwner :
    (upsertOwner owner owners).map OwnerReference.key =
      if owner.key ∈ owners.map OwnerReference.key then owners.map OwnerReference.key
      else owners.map OwnerReference.key ++ [owner.key] := by
  induction owners with
  | nil => rfl
  | cons o rest ih =>
    by_cases h : o.key = owner.key
    · rw [upsertOwner_of_key_eq h, List.map_cons, List.map_cons, h, if_pos List.mem_cons_self]
    · have hmem : owner.key ∈ (o :: rest).map OwnerReference.key ↔
          owner.key ∈ rest.map OwnerReference.key := by
        rw [List.map_cons, List.mem_cons, or_iff_right (Ne.symm h)]
      rw [upsertOwner_of_key_ne h, List.map_cons, ih, if_congr hmem rfl rfl]
      split <;> rfl

/-- A list with a record put into it holds that record and records that it held before. -/
lemma mem_of_mem_upsertOwner {o : OwnerReference} (h : o ∈ upsertOwner owner owners) :
    o = owner ∨ o ∈ owners := by
  induction owners with
  | nil => exact Or.inl (List.mem_singleton.mp h)
  | cons first rest ih =>
    unfold upsertOwner at h
    split at h
    · exact (List.mem_cons.mp h).imp_right (List.mem_cons_of_mem first)
    · rcases List.mem_cons.mp h with rfl | h
      · exact Or.inr List.mem_cons_self
      · exact (ih h).imp_right (List.mem_cons_of_mem first)

/-- A record that differs from all others in some respect keeps them different. -/
lemma nodup_map_upsertOwner {α : Type} {f : OwnerReference → α} (h : (owners.map f).Nodup)
    (hnew : f owner ∉ owners.map f) : ((upsertOwner owner owners).map f).Nodup := by
  induction owners with
  | nil => exact List.nodup_cons.mpr ⟨List.not_mem_nil, List.nodup_nil⟩
  | cons o rest ih =>
    obtain ⟨hfirst, hrest⟩ := List.nodup_cons.mp h
    obtain ⟨hne, hnew⟩ := not_or.mp (List.mem_cons.not.mp hnew)
    unfold upsertOwner
    split
    · exact List.nodup_cons.mpr ⟨hnew, hrest⟩
    · refine List.nodup_cons.mpr ⟨fun hmem => ?_, ih hrest hnew⟩
      obtain ⟨o', ho', heq⟩ := List.mem_map.mp hmem
      rcases mem_of_mem_upsertOwner ho' with rfl | ho'
      · exact hne heq
      · exact hfirst (List.mem_map.mpr ⟨o', ho', heq⟩)

/-- A record changes nothing about whether a list names a ReplicaSet of another name. -/
lemma any_names_upsertOwner (h : owner.name ≠ name) :
    ((upsertOwner owner owners).any fun o => o.names name uid) =
      owners.any fun o => o.names name uid := by
  have hno : ∀ o : OwnerReference, o.name = owner.name → o.names name uid = false := by
    intro o ho
    refine Bool.eq_false_iff.mpr fun hnames => h ?_
    rw [← ho]
    exact (OwnerReference.names_iff.mp hnames).2.1
  induction owners with
  | nil => simp [upsertOwner, hno owner rfl]
  | cons o rest ih =>
    by_cases hkey : o.key = owner.key
    · -- the record takes the place of one of the same name
      have hname : o.name = owner.name := congrArg (·.2.2) hkey
      rw [upsertOwner_of_key_eq hkey, List.any_cons, List.any_cons, hno o hname, hno owner rfl]
    · rw [upsertOwner_of_key_ne hkey, List.any_cons, List.any_cons, ih]

/-- Records of different keys may be put into a list in either order. -/
lemma upsertOwner_upsertOwner_perm (h : a.key ≠ b.key) :
    (upsertOwner b (upsertOwner a owners)).Perm (upsertOwner a (upsertOwner b owners)) := by
  induction owners with
  | nil =>
    simp only [upsertOwner, if_neg h, if_neg h.symm]
    exact List.Perm.swap b a []
  | cons o rest ih =>
    by_cases ha : o.key = a.key
    · -- a record of the first key stands in front and is replaced there in both orders
      have hb : o.key ≠ b.key := fun hb => h (ha.symm.trans hb)
      simp only [upsertOwner, if_pos ha, if_neg h, if_neg hb]
      exact List.Perm.refl _
    · by_cases hb : o.key = b.key
      · simp only [upsertOwner, if_neg ha, if_pos hb, if_neg h.symm]
        exact List.Perm.refl _
      · simp only [upsertOwner, if_neg ha, if_neg hb]
        exact ih.cons o

end Upsert

/-! ### The check and the writer -/

namespace ConfigMap

variable {c : ConfigMap} {rs : ReplicaSet} {name uid : String}

/-- The identities of the owners, in order. -/
def identities (c : ConfigMap) : List (String × String × String × String) :=
  c.owners.map OwnerReference.identity

/-- A record names a ReplicaSet, but the writer passes it over: it belongs to another API group, or
comes after a record of the same key with another uid. -/
def PassesOver (c : ConfigMap) (name uid : String) : Prop :=
  ∃ o ∈ c.owners, o.names name uid = true ∧
    (apiGroup o.apiVersion ≠ workloadGroup ∨
      ∃ first, firstOwner? (workloadOwnerKey name) c.owners = some first ∧ first.uid ≠ uid)

/-- A ReplicaSet with a name and a uid owns a ConfigMap if one of its records names both. -/
lemma isOwnedBy_iff (hname : rs.metadata.name = some name) (huid : rs.metadata.uid = some uid) :
    c.isOwnedBy rs = true ↔ ∃ o ∈ c.owners, o.names name uid = true := by
  unfold isOwnedBy
  rw [hname, huid]
  exact List.any_eq_true

/-- The first record of a ReplicaSet's key is one of the owners and has that key. -/
lemma mem_of_firstOwner? {first : OwnerReference}
    (h : firstOwner? (workloadOwnerKey name) c.owners = some first) :
    first ∈ c.owners ∧ first.key = workloadOwnerKey name :=
  ⟨List.mem_of_find?_eq_some h, by simpa using List.find?_some h⟩

/-- If a record of a key is among the owners, there is a first one. -/
lemma exists_firstOwner? {o : OwnerReference} (ho : o ∈ c.owners)
    (hkey : o.key = workloadOwnerKey name) :
    ∃ first, firstOwner? (workloadOwnerKey name) c.owners = some first := by
  refine Option.isSome_iff_exists.mp (List.find?_isSome.mpr ⟨o, ho, ?_⟩)
  simpa using hkey

/-- The record of a ReplicaSet of another name changes nothing about whether a ConfigMap is
owned. -/
lemma withOwner_isOwnedBy_of_ne {a b : ReplicaSet} {owner : OwnerReference}
    (hne : a.metadata.name ≠ b.metadata.name) (h : a.ownerRecord = .ok owner) (c : ConfigMap) :
    (c.withOwner owner).isOwnedBy b = c.isOwnedBy b := by
  obtain ⟨name, _, hname, _, rfl⟩ := ReplicaSet.ownerRecord_eq_ok_iff.mp h
  unfold isOwnedBy
  cases hb : b.metadata.name with
  | none => rfl
  | some name' =>
    cases b.metadata.uid with
    | none => rfl
    | some uid =>
      refine any_names_upsertOwner fun hsame => hne ?_
      rw [hname, hb]
      exact congrArg some hsame

/-- **The check and the writer.**  A ReplicaSet with a name and a uid is always written.  Writing it
keeps the identities of the owners exactly if the first record of its API group, kind and name
carries its uid.  The ConfigMap counts as owned exactly if writing would keep the identities, or
the writer passes over a record that names the ReplicaSet. -/
theorem isOwnedBy_iff_identities_kept (hname : rs.metadata.name = some name)
    (huid : rs.metadata.uid = some uid) (c : ConfigMap) :
    ∃ written, c.setOwner rs = .ok written ∧
      (written.identities = c.identities ↔
        ∃ first, firstOwner? (workloadOwnerKey name) c.owners = some first ∧ first.uid = uid) ∧
      (c.isOwnedBy rs = true ↔ written.identities = c.identities ∨ c.PassesOver name uid) := by
  obtain ⟨owner, hrecord⟩ : ∃ owner, rs.ownerRecord = .ok owner :=
    ⟨_, ReplicaSet.ownerRecord_eq_ok_iff.mpr ⟨name, uid, hname, huid, rfl⟩⟩
  have hkey := ReplicaSet.key_ownerRecord hrecord hname
  have howner : owner.uid = uid := by
    obtain ⟨_, uid', _, huid', rfl⟩ := ReplicaSet.ownerRecord_eq_ok_iff.mp hrecord
    exact Option.some.inj (huid'.symm.trans huid)
  have hkept : (c.withOwner owner).identities = c.identities ↔
      ∃ first, firstOwner? (workloadOwnerKey name) c.owners = some first ∧ first.uid = uid := by
    rw [← hkey, ← howner]
    exact map_identity_upsertOwner_iff
  refine ⟨c.withOwner owner, setOwner_of_ok hrecord c, hkept, ?_⟩
  rw [hkept, isOwnedBy_iff hname huid]
  constructor
  · rintro ⟨o, ho, hnames⟩
    by_cases hgroup : apiGroup o.apiVersion = workloadGroup
    · obtain ⟨first, hfirst⟩ := exists_firstOwner? ho (OwnerReference.key_of_names hnames hgroup)
      by_cases hu : first.uid = uid
      · exact Or.inl ⟨first, hfirst, hu⟩
      · exact Or.inr ⟨o, ho, hnames, Or.inr ⟨first, hfirst, hu⟩⟩
    · exact Or.inr ⟨o, ho, hnames, Or.inl hgroup⟩
  · rintro (⟨first, hfirst, hu⟩ | ⟨o, ho, hnames, _⟩)
    · obtain ⟨hmem, hfirstKey⟩ := mem_of_firstOwner? hfirst
      exact ⟨first, hmem, OwnerReference.names_of_key hfirstKey hu⟩
    · exact ⟨o, ho, hnames⟩

end ConfigMap

/-! ### Records that are passed over -/

namespace Sample

/-- A ReplicaSet that is known by its name and uid alone. -/
def bareReplicaSet : ReplicaSet where
  metadata := { ns := some "default", name := some "app-rs", uid := some "u1" }

/-- A ConfigMap with owners of the ReplicaSet's kind and name, told by API version and uid. -/
def namingConfigMap (records : List (String × String)) : ConfigMap where
  metadata :=
    { ns := some "default"
      name := some "app-config"
      ownerReferences :=
        some (records.map fun r => ⟨r.1, "ReplicaSet", "app-rs", r.2, none, none⟩) }

end Sample

namespace ConfigMap

/-- Writing `app-rs` keeps the identities where its record is the first of its key, and the check
agrees. -/
theorem isOwnedBy_iff_identities_kept_app_rs :
    let c := Sample.namingConfigMap [("extensions/v1beta1", "u0"), ("apps/v1", "u1")]
    ∃ written, c.setOwner Sample.bareReplicaSet = .ok written ∧
      written.identities = c.identities ∧ c.isOwnedBy Sample.bareReplicaSet = true := by
  intro c
  have hname : Sample.bareReplicaSet.metadata.name = some "app-rs" := rfl
  have huid : Sample.bareReplicaSet.metadata.uid = some "u1" := rfl
  obtain ⟨written, hwritten, hkept, howned⟩ := isOwnedBy_iff_identities_kept hname huid c
  have hfirst : firstOwner? (workloadOwnerKey "app-rs") c.owners =
      some ⟨"apps/v1", "ReplicaSet", "app-rs", "u1", none, none⟩ := rfl
  have hids : written.identities = c.identities := hkept.mpr ⟨_, hfirst, rfl⟩
  exact ⟨written, hwritten, hids, howned.mpr (Or.inl hids)⟩

/-- A ConfigMap can count as owned although writing would change the identities of its owners: where
the record that names the ReplicaSet belongs to another API group, and where it comes after a record
of the same key with another uid. -/
theorem owned_and_identities_changed :
    let foreign := Sample.namingConfigMap [("extensions/v1beta1", "u1")]
    let renewed := Sample.namingConfigMap [("apps/v1", "u0"), ("apps/v1", "u1")]
    (foreign.isOwnedBy Sample.bareReplicaSet = true ∧
      ¬ ∃ written, foreign.setOwner Sample.bareReplicaSet = .ok written ∧
        written.identities = foreign.identities) ∧
    renewed.isOwnedBy Sample.bareReplicaSet = true ∧
      ¬ ∃ written, renewed.setOwner Sample.bareReplicaSet = .ok written ∧
        written.identities = renewed.identities := by
  intro foreign renewed
  have hforeign : (foreign.setOwner Sample.bareReplicaSet).map identities =
      .ok [("extensions", "ReplicaSet", "app-rs", "u1"), ("apps", "ReplicaSet", "app-rs", "u1")] :=
    rfl
  have hforeign' : foreign.identities = [("extensions", "ReplicaSet", "app-rs", "u1")] := rfl
  have hrenewed : (renewed.setOwner Sample.bareReplicaSet).map identities =
      .ok [("apps", "ReplicaSet", "app-rs", "u1"), ("apps", "ReplicaSet", "app-rs", "u1")] :=
    rfl
  have hrenewed' : renewed.identities =
      [("apps", "ReplicaSet", "app-rs", "u0"), ("apps", "ReplicaSet", "app-rs", "u1")] := rfl
  refine ⟨⟨by decide, ?_⟩, by decide, ?_⟩
  · rintro ⟨written, hwritten, hids⟩
    rw [hwritten] at hforeign
    have hsame := (Except.ok.inj hforeign).symm.trans (hids.trans hforeign')
    exact absurd hsame (by decide)
  · rintro ⟨written, hwritten, hids⟩
    rw [hwritten] at hrenewed
    have hsame := (Except.ok.inj hrenewed).symm.trans (hids.trans hrenewed')
    exact absurd hsame (by decide)

end ConfigMap

end MountOwnership
