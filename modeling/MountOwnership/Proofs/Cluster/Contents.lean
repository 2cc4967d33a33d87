import Mathlib.Data.List.Nodup
import Mathlib.Tactic.Common
import MountOwnership.Proofs.Cluster.Operations
import MountOwnership.Proofs.Table

/-!
# What a store holds

An operation writes at most one key of a store, so a store that begins empty has one object
under each key (`Store.Keyed`), and its entries are what look-ups find.  Since it is
consistent (`Store.Reachable.consistent`) whatever was done to it, every object it holds
stands under its own namespace and name, and every ConfigMap carries a version that was
given out and that no other ConfigMap carries (`Store.contents_afterAll`).
-/

namespace MountOwnership

namespace Store

variable {s : Store}

/-- A store has one object of each kind under each key. -/
structure Keyed (s : Store) : Prop where
  replicaSets_distinct : s.replicaSets.Distinct
  configMaps_distinct : s.configMaps.Distinct

/-- The tables of the empty store hold no key twice. -/
lemma keyed_empty : ({} : Store).Keyed where
  replicaSets_distinct := Table.distinct_empty
  configMaps_distinct := Table.distinct_empty

/-- An operation keeps the ReplicaSets of a store, unless it adds one. -/
lemma replicaSets_operate (s : Store) (op : Operation) :
    (s.operate op).replicaSets = s.replicaSets ∨
      ∃ rs, (s.operate op).replicaSets = s.replicaSets.insert rs.metadata.storeKey rs := by
  cases op with
  | addReplicaSet rs => exact Or.inr ⟨rs, rfl⟩
  | addConfigMap c => exact Or.inl rfl
  | setFaults f => exact Or.inl rfl
  | touch k =>
    refine Or.inl ?_
    change (s.touch k).replicaSets = s.replicaSets
    rcases s.touch_cases k with ⟨c, _, htouch⟩ | ⟨_, hquiet⟩
    · rw [htouch]
      rfl
    · exact hquiet.replicaSets_eq
  | call c =>
    refine Or.inl ?_
    change (s.perform c).1.replicaSets = s.replicaSets
    rcases s.perform_cases c with hquiet | ⟨k, copy, _, hwrite⟩
    · exact hquiet.replicaSets_eq
    · rw [hwrite]
      rfl

/-- An operation keeps the ConfigMaps of a store, unless it writes one of them. -/
lemma configMaps_operate (s : Store) (op : Operation) :
    (s.operate op).configMaps = s.configMaps ∨
      ∃ k c, (s.operate op).configMaps = s.configMaps.insert k c := by
  cases s.operated op with
  | kept hmaps _ _ => exact Or.inl hmaps
  | put hmaps _ _ => exact Or.inr ⟨_, _, hmaps⟩

/-- Every operation leaves one object under each key. -/
lemma Keyed.operate (h : s.Keyed) (op : Operation) : (s.operate op).Keyed where
  replicaSets_distinct := by
    rcases s.replicaSets_operate op with hkept | ⟨rs, hadded⟩
    · rw [hkept]
      exact h.replicaSets_distinct
    · rw [hadded]
      exact h.replicaSets_distinct.insert _ rs
  configMaps_distinct := by
    rcases s.configMaps_operate op with hkept | ⟨k, c, hwritten⟩
    · rw [hkept]
      exact h.configMaps_distinct
    · rw [hwritten]
      exact h.configMaps_distinct.insert k c

/-- So do operations in order. -/
lemma Keyed.afterAll (h : s.Keyed) (ops : List Operation) : (s.afterAll ops).Keyed := by
  induction ops generalizing s with
  | nil => exact h
  | cons op ops ih => exact ih (h.operate op)

/-- In a consistent store no version is carried twice. -/
lemma Consistent.nodup_versions (hs : s.Consistent) (hk : s.Keyed) :
    (s.configMaps.entries.map fun e => e.2.metadata.resourceVersion).Nodup := by
  refine List.Nodup.map_on ?_ hk.configMaps_distinct.nodup_entries
  rintro ⟨k, c⟩ hc ⟨k', c'⟩ hc' hv
  have hget : s.configMap? k = some c := hk.configMaps_distinct.mem_entries_iff.mp hc
  have hget' : s.configMap? k' = some c' := hk.configMaps_distinct.mem_entries_iff.mp hc'
  obtain rfl : k = k' := hs.version_unique hget hget' hv
  obtain rfl : c = c' := Option.some.inj (hget.symm.trans hget')
  rfl

/-- **Contents of a store.**  Whatever is done to a store that begins empty, every object it holds
stands under its own namespace and name, where an unset one is empty.  Every ConfigMap carries a
version, which is a number in decimal that was given out, and no two carry the same. -/
theorem contents_afterAll (ops : List Operation) :
    let s := ({} : Store).afterAll ops
    (∀ k rs, (k, rs) ∈ s.replicaSets.entries →
      k = ⟨rs.metadata.ns.getD "", rs.metadata.name.getD ""⟩) ∧
    (∀ k c, (k, c) ∈ s.configMaps.entries →
      k = ⟨c.metadata.ns.getD "", c.metadata.name.getD ""⟩ ∧
      ∃ n, 1 ≤ n ∧ n ≤ s.version ∧ c.metadata.resourceVersion = some (toString n)) ∧
    (s.configMaps.entries.map fun e => e.2.metadata.resourceVersion).Nodup := by
  intro s
  have hs : s.Consistent := (Reachable.empty.afterAll ops).consistent
  have hk : s.Keyed := keyed_empty.afterAll ops
  refine ⟨fun k rs hrs => ?_, fun k c hc => ?_, hs.nodup_versions hk⟩
  · have hget := hk.replicaSets_distinct.mem_entries_iff.mp hrs
    exact (hs.replicaSet_key hget).symm
  · have hget : s.configMap? k = some c := hk.configMaps_distinct.mem_entries_iff.mp hc
    exact ⟨(hs.configMap_key hget).symm, hs.configMap_version hget⟩

end Store

/-- A ConfigMap is added and touched, a replace on the ground of an old version is refused, and a
ConfigMap without a name is added. -/
def Sample.uses : List Operation :=
  [.addConfigMap (Sample.textConfigMap "slow" none), .touch Sample.textKey,
    .call (.replaceConfigMap (Sample.textConfigMap "idle" (some "1"))), .addConfigMap {}]

namespace Store

/-- The refused replace has used up a version, and the ConfigMap without a name stands under an
empty one. -/
theorem contents_afterAll_uses :
    let s := ({} : Store).afterAll Sample.uses
    s.configMaps.entries = [(Sample.textKey, Sample.textConfigMap "slow" (some "2")),
      (⟨"", ""⟩, ({} : ConfigMap).withVersion (some "4"))] ∧
    (∃ n, 1 ≤ n ∧ n ≤ s.version ∧ some "4" = some (toString n)) ∧
    (s.configMaps.entries.map fun e => e.2.metadata.resourceVersion).Nodup := by
  intro s
  have hentries : s.configMaps.entries =
      [(Sample.textKey, Sample.textConfigMap "slow" (some "2")),
        (⟨"", ""⟩, ({} : ConfigMap).withVersion (some "4"))] := by cbv
  have hlast : (⟨"", ""⟩, ({} : ConfigMap).withVersion (some "4")) ∈ s.configMaps.entries := by
    rw [hentries]
    exact List.mem_cons_of_mem _ List.mem_cons_self
  obtain ⟨_, hcontents, hversions⟩ := contents_afterAll Sample.uses
  exact ⟨hentries, (hcontents _ _ hlast).2, hversions⟩

end Store

end MountOwnership
