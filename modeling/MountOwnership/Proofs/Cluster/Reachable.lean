import MountOwnership.Proofs.Cluster.Store

/-!
# The stores that can be reached

A store is reached from the empty one by adding objects, by touches, by calls with
any arguments, and by setting its faults in any way.  Every reachable store is
consistent (`Store.Reachable.consistent`): objects are stored under their own keys,
and every ConfigMap carries a version of its own that was given out.

`Store.Later` relates a store to the ones that calls and touches make of it.  It
tells of each key that its ConfigMap is the old one or carries a version that is
newer than every version given out before.
-/

namespace MountOwnership

/-- An object whose key can be built is stored under that key. -/
lemma Metadata.storeKey_of_key {m : Metadata} {k : ObjectKey} (h : m.key = .ok k) :
    m.storeKey = k := by
  unfold Metadata.key at h
  unfold Metadata.storeKey
  cases hns : m.ns with
  | none => simp [hns] at h
  | some ns =>
    cases hname : m.name with
    | none => simp [hns, hname] at h
    | some name =>
      rw [hns, hname] at h
      exact Except.ok.inj h

/-- The key of an object with a namespace and a name can be built. -/
lemma Metadata.key_of_isSome {m : Metadata} (hns : m.ns.isSome) (hname : m.name.isSome) :
    m.key = .ok m.storeKey := by
  obtain ⟨ns, hns'⟩ := Option.isSome_iff_exists.mp hns
  obtain ⟨name, hname'⟩ := Option.isSome_iff_exists.mp hname
  unfold Metadata.key Metadata.storeKey
  rw [hns', hname']
  rfl

/-- The key of an object that is stored under a namespace and a name that are not empty can be
built. -/
lemma Metadata.key_of_storeKey {m : Metadata} {k : ObjectKey} (h : m.storeKey = k)
    (hns : k.ns ≠ "") (hname : k.name ≠ "") : m.key = .ok k := by
  subst h
  unfold Metadata.storeKey at hns hname ⊢
  unfold Metadata.key
  cases hm : m.ns with
  | none => simp [hm] at hns
  | some ns =>
    cases hm' : m.name with
    | none => simp [hm'] at hname
    | some name => rfl

namespace Store

variable {s t u : Store}

/-! ### Consistent stores -/

/-- Objects are stored under their own keys, and ConfigMaps carry versions of their own that
were given out. -/
structure Consistent (s : Store) : Prop where
  replicaSet_key : ∀ {k rs}, s.replicaSets.get? k = some rs → rs.metadata.storeKey = k
  configMap_key : ∀ {k c}, s.configMap? k = some c → c.metadata.storeKey = k
  configMap_version : ∀ {k c}, s.configMap? k = some c →
    ∃ n, 1 ≤ n ∧ n ≤ s.version ∧ c.metadata.resourceVersion = some (versionText n)
  version_unique : ∀ {k k' c c'}, s.configMap? k = some c → s.configMap? k' = some c' →
    c.metadata.resourceVersion = c'.metadata.resourceVersion → k = k'

/-- A ReplicaSet with a name is stored under that name. -/
lemma Consistent.replicaSet_name (hs : s.Consistent) {k : ObjectKey} {rs : ReplicaSet}
    {name : String} (hget : s.replicaSets.get? k = some rs)
    (hname : rs.metadata.name = some name) : name = k.name := by
  have hkey := congrArg ObjectKey.name (hs.replicaSet_key hget)
  unfold Metadata.storeKey at hkey
  rwa [hname] at hkey

/-- The empty store is consistent. -/
lemma consistent_empty : ({} : Store).Consistent where
  replicaSet_key h := nomatch h
  configMap_key h := nomatch h
  configMap_version h := nomatch h
  version_unique h := nomatch h

/-- A step that leaves the objects alone keeps a store consistent. -/
lemma Consistent.of_quiet (hs : s.Consistent) (h : s.Quiet t) : t.Consistent where
  replicaSet_key hget := hs.replicaSet_key (h.replicaSets_eq ▸ hget)
  configMap_key hget := hs.configMap_key (h.configMap?_eq _ ▸ hget)
  configMap_version hget := by
    obtain ⟨n, hpos, hle, hv⟩ := hs.configMap_version (h.configMap?_eq _ ▸ hget)
    exact ⟨n, hpos, Nat.le_trans hle h.version_le, hv⟩
  version_unique hget hget' :=
    hs.version_unique (h.configMap?_eq _ ▸ hget) (h.configMap?_eq _ ▸ hget')

/-- In a consistent store no ConfigMap carries the next version. -/
lemma Consistent.ne_next_version (hs : s.Consistent) {k : ObjectKey} {c : ConfigMap}
    (hget : s.configMap? k = some c) :
    c.metadata.resourceVersion ≠ some (versionText (s.version + 1)) := by
  obtain ⟨n, _, hle, hv⟩ := hs.configMap_version hget
  intro h
  have : n = s.version + 1 := versionText_injective (Option.some.inj (hv ▸ h))
  omega

/-- Storing a ConfigMap under its own key keeps a store consistent. -/
lemma Consistent.put (hs : s.Consistent) {k : ObjectKey} {c : ConfigMap}
    (hk : c.metadata.storeKey = k) : (s.put k c).Consistent where
  replicaSet_key hget := hs.replicaSet_key hget
  configMap_key {k' c'} hget := by
    rw [put_configMap?] at hget
    split at hget
    · obtain rfl := Option.some.inj hget
      subst k'
      exact hk
    · exact hs.configMap_key hget
  configMap_version {k' c'} hget := by
    rw [put_configMap?] at hget
    split at hget
    · obtain rfl := Option.some.inj hget
      exact ⟨s.version + 1, Nat.succ_pos _, Nat.le_refl _, rfl⟩
    · obtain ⟨n, hpos, hle, hv⟩ := hs.configMap_version hget
      exact ⟨n, hpos, Nat.le_trans hle (Nat.le_succ _), hv⟩
  version_unique {k₁ k₂ c₁ c₂} h₁ h₂ hv := by
    rw [put_configMap?] at h₁ h₂
    split at h₁ <;> split at h₂
    · exact ‹k = k₁› ▸ ‹k = k₂›
    · obtain rfl := Option.some.inj h₁
      exact absurd hv.symm (hs.ne_next_version h₂)
    · obtain rfl := Option.some.inj h₂
      exact absurd hv (hs.ne_next_version h₁)
    · exact hs.version_unique h₁ h₂ hv

/-- Recording a replace leaves the objects alone. -/
lemma quiet_noted (s : Store) (name : String) : s.Quiet (s.noted name) :=
  ⟨rfl, rfl, Nat.le_refl _⟩

/-- Replacing a ConfigMap under its own key keeps a store consistent. -/
lemma Consistent.overwrite (hs : s.Consistent) {k : ObjectKey} {c : ConfigMap}
    (hk : c.metadata.storeKey = k) : (s.overwrite k c).Consistent :=
  (hs.of_quiet (s.quiet_noted k.name)).put hk

/-- Calls keep a store consistent. -/
lemma Consistent.perform (hs : s.Consistent) (c : Call) : (s.perform c).1.Consistent := by
  rcases s.perform_cases c with hquiet | ⟨k, copy, hk, hwrite⟩
  · exact hs.of_quiet hquiet
  · rw [hwrite]
    exact hs.overwrite (Metadata.storeKey_of_key hk)

/-- Touches keep a store consistent. -/
lemma Consistent.touch (hs : s.Consistent) (k : ObjectKey) : (s.touch k).Consistent := by
  rcases s.touch_cases k with ⟨c, hget, htouch⟩ | ⟨_, hquiet⟩
  · rw [htouch]
    exact hs.put (hs.configMap_key hget)
  · exact hs.of_quiet hquiet

/-- Adding a ReplicaSet keeps a store consistent. -/
lemma Consistent.addReplicaSet (hs : s.Consistent) (rs : ReplicaSet) :
    (s.addReplicaSet rs).Consistent where
  replicaSet_key {k rs'} hget := by
    unfold Store.addReplicaSet at hget
    rw [Table.get?_insert] at hget
    split at hget
    · obtain rfl := Option.some.inj hget
      assumption
    · exact hs.replicaSet_key hget
  configMap_key hget := hs.configMap_key hget
  configMap_version hget := hs.configMap_version hget
  version_unique hget hget' := hs.version_unique hget hget'

/-! ### Reachable stores -/

/-- The stores that arise from the empty one. -/
inductive Reachable : Store → Prop
  | empty : Reachable {}
  | addReplicaSet {s : Store} (hs : Reachable s) (rs : ReplicaSet) : Reachable (s.addReplicaSet rs)
  | addConfigMap {s : Store} (hs : Reachable s) (c : ConfigMap) : Reachable (s.addConfigMap c)
  | touch {s : Store} (hs : Reachable s) (k : ObjectKey) : Reachable (s.touch k)
  | perform {s : Store} (hs : Reachable s) (c : Call) : Reachable (s.perform c).1
  | setFaults {s : Store} (hs : Reachable s) (f : Faults) : Reachable { s with faults := f }

/-- Every reachable store is consistent. -/
lemma Reachable.consistent (hs : s.Reachable) : s.Consistent := by
  induction hs with
  | empty => exact consistent_empty
  | addReplicaSet _ rs ih => exact ih.addReplicaSet rs
  | addConfigMap _ c ih => exact (addConfigMap_eq_put _ c) ▸ ih.put rfl
  | touch _ k ih => exact ih.touch k
  | perform _ c ih => exact ih.perform c
  | setFaults _ f ih => exact ih.of_quiet ⟨rfl, rfl, Nat.le_refl _⟩

/-! ### Later stores -/

/-- What calls and touches make of a store, key by key. -/
structure Later (s t : Store) : Prop where
  replicaSets_eq : t.replicaSets = s.replicaSets
  version_le : s.version ≤ t.version
  configMap?_cases : ∀ k, t.configMap? k = s.configMap? k ∨
    ∃ c n, t.configMap? k = some c ∧ c.metadata.resourceVersion = some (versionText n) ∧
      s.version < n ∧ n ≤ t.version

/-- A store that is only noted in is a later one. -/
lemma Later.of_quiet (h : s.Quiet t) : s.Later t where
  replicaSets_eq := h.replicaSets_eq
  version_le := h.version_le
  configMap?_cases k := Or.inl (h.configMap?_eq k)

/-- A store with one more ConfigMap is a later one. -/
lemma Later.put (s : Store) (k : ObjectKey) (c : ConfigMap) : s.Later (s.put k c) where
  replicaSets_eq := rfl
  version_le := Nat.le_succ _
  configMap?_cases k' := by
    rw [put_configMap?]
    split
    · exact Or.inr ⟨_, s.version + 1, rfl, rfl, Nat.lt_succ_self _, Nat.le_refl _⟩
    · exact Or.inl rfl

/-- A store later than a later one is a later one. -/
lemma Later.trans (hst : s.Later t) (htu : t.Later u) : s.Later u where
  replicaSets_eq := htu.replicaSets_eq.trans hst.replicaSets_eq
  version_le := Nat.le_trans hst.version_le htu.version_le
  configMap?_cases k := by
    rcases htu.configMap?_cases k with hu | ⟨c, n, hc, hv, hlt, hle⟩
    · rcases hst.configMap?_cases k with ht | ⟨c, n, hc, hv, hlt, hle⟩
      · exact Or.inl (hu.trans ht)
      · exact Or.inr ⟨c, n, hu.trans hc, hv, hlt, Nat.le_trans hle htu.version_le⟩
    · exact Or.inr ⟨c, n, hc, hv, Nat.lt_of_le_of_lt hst.version_le hlt, hle⟩

/-- A store in which a ConfigMap is replaced is a later one. -/
lemma Later.overwrite (s : Store) (k : ObjectKey) (c : ConfigMap) : s.Later (s.overwrite k c) :=
  (Later.of_quiet (s.quiet_noted k.name)).trans (.put _ k c)

/-- A store in which a ConfigMap is touched is a later one. -/
lemma Later.touch (s : Store) (k : ObjectKey) : s.Later (s.touch k) := by
  rcases s.touch_cases k with ⟨c, _, htouch⟩ | ⟨_, hquiet⟩
  · rw [htouch]
    exact .put s k c
  · exact .of_quiet hquiet

end Store

end MountOwnership
