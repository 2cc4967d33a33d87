import Mathlib.Data.Set.Defs
import MountOwnership.Proofs.Cluster.Reachable

/-!
# Stores that agree

Two stores may agree on the ConfigMaps of some keys, on the faults and on the last version
(`Store.AgreesOn`), and hold different objects otherwise.  A look-up or a replace under
those keys then has the same answer in both, and the stores that it leads to agree again,
with the same replaces recorded (`Store.InStep`).
-/

namespace MountOwnership

/-- The same faults are shown; of the ConfigMaps that cannot be looked up, only the names matter. -/
structure Faults.Same (f g : Faults) : Prop where
  mem_unreadable_iff : ∀ name, name ∈ g.unreadable ↔ name ∈ f.unreadable
  replicaSetsUnreadable_eq : g.replicaSetsUnreadable = f.replicaSetsUnreadable
  conflicts_eq : g.conflicts = f.conflicts
  stallReads_eq : g.stallReads = f.stallReads
  stallReplaces_eq : g.stallReplaces = f.stallReplaces

/-- Faults are the same as themselves. -/
lemma Faults.Same.refl (f : Faults) : f.Same f := ⟨fun _ => Iff.rfl, rfl, rfl, rfl, rfl⟩

namespace Store

variable {keys : Set ObjectKey} {s s' t t' u u' : Store} {k : ObjectKey} {c : ConfigMap}
  {a : Answer ConfigMap}

/-- Two stores hold the same ConfigMaps under some keys, show the same faults and have given the
same last version. -/
structure AgreesOn (keys : Set ObjectKey) (s s' : Store) : Prop where
  configMap?_eq : ∀ k ∈ keys, s'.configMap? k = s.configMap? k
  faults : s.faults.Same s'.faults
  version_eq : s'.version = s.version

/-- Two stores lead to stores that agree, by replaces of the same names. -/
structure InStep (keys : Set ObjectKey) (s s' t t' : Store) : Prop where
  agree : t.AgreesOn keys t'
  replaceCalls_eq : ∃ calls, t.replaceCalls = s.replaceCalls ++ calls ∧
    t'.replaceCalls = s'.replaceCalls ++ calls

/-- Stores that agree are in step with themselves. -/
lemma AgreesOn.inStep (h : s.AgreesOn keys s') : InStep keys s s' s s' :=
  ⟨h, [], (List.append_nil _).symm, (List.append_nil _).symm⟩

/-- Two stores that take two steps alike take them alike as one. -/
lemma InStep.trans (hst : InStep keys s s' t t') (htu : InStep keys t t' u u') :
    InStep keys s s' u u' := by
  obtain ⟨calls, ht, ht'⟩ := hst.replaceCalls_eq
  obtain ⟨calls', hu, hu'⟩ := htu.replaceCalls_eq
  refine ⟨htu.agree, calls ++ calls', ?_, ?_⟩
  · rw [hu, ht, List.append_assoc]
  · rw [hu', ht', List.append_assoc]

/-- Stores agree on keys under which neither of them is given a ConfigMap. -/
lemma agreesOn_addConfigMap {c' : ConfigMap} (hc : c.metadata.storeKey ∉ keys)
    (hc' : c'.metadata.storeKey ∉ keys) : (s.addConfigMap c).AgreesOn keys (s.addConfigMap c') where
  configMap?_eq k hk := by
    have hne : c.metadata.storeKey ≠ k := fun h => hc (h ▸ hk)
    have hne' : c'.metadata.storeKey ≠ k := fun h => hc' (h ▸ hk)
    rw [addConfigMap_eq_put, addConfigMap_eq_put, put_configMap?, put_configMap?, if_neg hne,
      if_neg hne']
  faults := .refl s.faults
  version_eq := rfl

/-- Stores that agree go on to agree when the same ConfigMap is put into both. -/
lemma AgreesOn.put (h : s.AgreesOn keys s') (k : ObjectKey) (c : ConfigMap) :
    (s.put k c).AgreesOn keys (s'.put k c) where
  configMap?_eq k' hk := by
    rw [put_configMap?, put_configMap?, h.version_eq, h.configMap?_eq k' hk]
  faults := h.faults
  version_eq := congrArg (· + 1) h.version_eq

/-- Stores that agree answer the replace of a ConfigMap under their keys in the same way. -/
lemma AgreesOn.replaced (h : s.AgreesOn keys s') (hkey : ∀ k, c.metadata.key = .ok k → k ∈ keys)
    (hr : s.Replaced c t a) : ∃ t', s'.Replaced c t' a ∧ InStep keys s s' t t' := by
  have hget : ∀ {k found}, c.metadata.key = .ok k → s.configMap? k = found →
      s'.configMap? k = found :=
    fun hk hfound => (h.configMap?_eq _ (hkey _ hk)).trans hfound
  have hstall := h.faults.stallReplaces_eq
  have hconflicts := h.faults.conflicts_eq
  cases hr with
  | invalid hk => exact ⟨s', .invalid hk, h.inStep⟩
  | @stalled k hk hf =>
    exact ⟨_, .stalled hk (hstall.trans hf),
      ⟨h.configMap?_eq, h.faults, h.version_eq⟩, [k.name], rfl, rfl⟩
  | @injected k hk hf hc =>
    refine ⟨_, .injected hk (hstall.trans hf) (hconflicts ▸ hc),
      ⟨h.configMap?_eq, ?_, h.version_eq⟩, [k.name], rfl, rfl⟩
    exact { h.faults with conflicts_eq := congrArg (· - 1) hconflicts }
  | @absent k hk hf hc hno =>
    exact ⟨_, .absent hk (hstall.trans hf) (hconflicts.trans hc) (hget hk hno),
      ⟨h.configMap?_eq, h.faults, congrArg (· + 1) h.version_eq⟩, [k.name], rfl, rfl⟩
  | @stale k stored hk hf hc hstored hv =>
    exact ⟨_, .stale hk (hstall.trans hf) (hconflicts.trans hc) (hget hk hstored) hv,
      ⟨h.configMap?_eq, h.faults, congrArg (· + 1) h.version_eq⟩, [k.name], rfl, rfl⟩
  | @accepted k stored hk hf hc hstored hv =>
    have hnoted : (s.noted k.name).AgreesOn keys (s'.noted k.name) :=
      ⟨h.configMap?_eq, h.faults, h.version_eq⟩
    refine ⟨_, ?_, hnoted.put k c, [k.name], rfl, rfl⟩
    rw [← h.version_eq]
    exact .accepted hk (hstall.trans hf) (hconflicts.trans hc) (hget hk hstored) hv

/-- Stores that agree answer the call for such a replace in the same way. -/
lemma AgreesOn.replaceConfigMap (h : s.AgreesOn keys s')
    (hkey : ∀ k, c.metadata.key = .ok k → k ∈ keys) :
    ∃ t t' answer, s.perform (.replaceConfigMap c) = (t, answer) ∧
      s'.perform (.replaceConfigMap c) = (t', answer) ∧ InStep keys s s' t t' := by
  obtain ⟨t', hr, hstep⟩ := h.replaced hkey (s.replaced c)
  exact ⟨_, t', _, rfl, hr.eq, hstep⟩

/-- Stores that agree answer the look-up of a ConfigMap under their keys in the same way. -/
lemma AgreesOn.readConfigMap (h : s.AgreesOn keys s') (hk : k ∈ keys) :
    ∃ t t' answer, s.perform (.readConfigMap k) = (t, answer) ∧
      s'.perform (.readConfigMap k) = (t', answer) ∧ InStep keys s s' t t' := by
  have hunreadable :
      s'.faults.unreadable.contains k.name = s.faults.unreadable.contains k.name := by
    rw [Bool.eq_iff_iff, List.contains_iff_mem, List.contains_iff_mem]
    exact h.faults.mem_unreadable_iff k.name
  have hfound : s'.configMaps.get? k = s.configMaps.get? k := h.configMap?_eq k hk
  unfold perform
  dsimp only
  unfold Store.readConfigMap
  rw [hunreadable, h.faults.stallReads_eq, hfound]
  split
  · exact ⟨_, _, _, rfl, rfl, h.inStep⟩
  · split
    · exact ⟨_, _, _, rfl, rfl, ⟨h.configMap?_eq, h.faults, h.version_eq⟩, h.inStep.2⟩
    · exact ⟨_, _, _, rfl, rfl, h.inStep⟩

/-- Stores that show the same faults and hold the same ReplicaSet under a key answer its look-up in
the same way. -/
lemma AgreesOn.readReplicaSet (h : s.AgreesOn keys s')
    (hrs : s'.replicaSets.get? k = s.replicaSets.get? k) :
    ∃ answer, s.perform (.readReplicaSet k) = (s, answer) ∧
      s'.perform (.readReplicaSet k) = (s', answer) := by
  unfold perform
  dsimp only
  unfold Store.readReplicaSet
  rw [h.faults.replicaSetsUnreadable_eq, hrs]
  split
  · exact ⟨_, rfl, rfl⟩
  · exact ⟨_, rfl, rfl⟩

end Store

end MountOwnership
