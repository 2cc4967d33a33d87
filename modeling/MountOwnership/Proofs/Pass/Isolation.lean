import MountOwnership.Proofs.Cluster.Agreement
import MountOwnership.Proofs.Pass.Success

/-!
# Passes in stores that agree

A pass over a ReplicaSet asks about the ReplicaSet and the ConfigMaps that it mounts, and
about nothing else.  So in two stores that agree on these, on the faults and on the last
version, it makes the same calls and gets the same answers, wherever it is cancelled
(`Pass.lockstep_reconcile`).  What else the stores hold has no part in the pass and stays as
it is (`Pass.reconcile_isolated`).

That all replaces are of mounted ConfigMaps rests on consistency: what was looked up under a
key is written under the same key.
-/

namespace MountOwnership

/-- The keys of the ConfigMaps that the ReplicaSet stored under a namespace and name mounts. -/
def Store.mounted (s : Store) (ns name : String) : Set ObjectKey :=
  {k | ∃ rs, s.replicaSets.get? ⟨ns, name⟩ = some rs ∧ ∃ configMap ∈ rs.configMaps,
    k = ⟨ns, configMap⟩}

namespace Pass

variable {ctx : Context} {ns name : String} {rs : ReplicaSet} {names : List String}
  {keys : Set ObjectKey} {s s' t t' : Store} {sum : Summary}

/-! ### Runs in step -/

/-- Two runs end in the same way and lead two stores to stores that agree. -/
structure Lockstep (keys : Set ObjectKey) (s s' : Store) (r r' : Store × Ending) : Prop where
  ending_eq : r'.2 = r.2
  inStep : Store.InStep keys s s' r.1 r'.1

/-- A call that two stores answer in the same way keeps runs in step, if they stay so after it. -/
lemma lockstep_call {c : Call} {next : c.Result → Pass} {a : Answer c.Result}
    (h : s.AgreesOn keys s') (hp : s.perform c = (t, a)) (hp' : s'.perform c = (t', a))
    (hstep : Store.InStep keys s s' t t')
    (hnext : ∀ result m, a = .ok result →
      Lockstep keys t t' ((next result).run m t) ((next result).run m t'))
    (callsLeft : Option Nat) :
    Lockstep keys s s' ((Pass.call c next).run callsLeft s)
      ((Pass.call c next).run callsLeft s') := by
  rw [run, run]
  by_cases hc : callsLeft = some 0
  · rw [if_pos hc, if_pos hc]
    exact ⟨rfl, h.inStep⟩
  · rw [if_neg hc, if_neg hc, hp, hp']
    cases a with
    | ok result =>
      obtain ⟨hending, hrest⟩ := hnext result (callsLeft.map (· - 1)) rfl
      exact ⟨hending, hstep.trans hrest⟩
    | failed e => exact ⟨rfl, hstep⟩
    | stalled => exact ⟨rfl, hstep⟩

/-- Work on ConfigMaps that two stores agree on runs in step in both. -/
lemma lockstep_link (hs : s.Consistent) (h : s.AgreesOn keys s')
    (hkeys : ∀ name ∈ names, (⟨ns, name⟩ : ObjectKey) ∈ keys) (callsLeft : Option Nat)
    (sum : Summary) :
    Lockstep keys s s' ((link ctx ns rs sum names).run callsLeft s)
      ((link ctx ns rs sum names).run callsLeft s') := by
  induction names generalizing s s' sum callsLeft with
  | nil => exact ⟨rfl, h.inStep⟩
  | cons name names ih =>
    have hrest : ∀ other ∈ names, (⟨ns, other⟩ : ObjectKey) ∈ keys :=
      fun other hn => hkeys other (List.mem_cons_of_mem _ hn)
    have hk := hkeys name List.mem_cons_self
    obtain ⟨t, t', answer, hp, hp', hstep⟩ := h.readConfigMap hk
    rw [link_cons]
    refine lockstep_call h hp hp' hstep (fun found m hok => ?_) callsLeft
    subst hok
    obtain ⟨_, rfl, hfound⟩ := Store.perform_readConfigMap_eq_ok_iff.mp hp
    obtain ⟨_, rfl, _⟩ := Store.perform_readConfigMap_eq_ok_iff.mp hp'
    have hhandled := handled ctx ns rs sum name names found
    generalize handle ctx ns rs sum name names found = rest at hhandled ⊢
    cases hhandled with
    | missing => exact ih hs h hrest m _
    | alreadyOwned => exact ih hs h hrest m _
    | dryRun => exact ih hs h hrest m _
    | noRecord => exact ⟨rfl, h.inStep⟩
    | @write c owner _ _ _ =>
      -- the copy is written under the key that it was looked up under
      have hkey : ∀ k, (c.withOwner owner).metadata.key = .ok k → k ∈ keys := by
        intro k hkey
        have hstored : c.metadata.storeKey = ⟨ns, name⟩ := hs.configMap_key hfound.symm
        rw [← Metadata.storeKey_of_key hkey, ConfigMap.withOwner_storeKey, hstored]
        exact hk
      obtain ⟨u, u', written, hw, hw', hwritten⟩ := h.replaceConfigMap hkey
      have hu : u.Consistent := by
        have hperform := hs.perform (.replaceConfigMap (c.withOwner owner))
        rwa [hw] at hperform
      exact lockstep_call h hw hw' hwritten (fun _ m _ => ih hu hwritten.agree hrest m _) m

/-- A pass runs in step in stores that agree on the ReplicaSet and the ConfigMaps that it mounts. -/
lemma lockstep_reconcile (hs : s.Consistent) (h : s.AgreesOn keys s')
    (hrs : s'.replicaSets.get? ⟨ns, name⟩ = s.replicaSets.get? ⟨ns, name⟩)
    (hkeys : s.mounted ns name ⊆ keys) (ctx : Context) (callsLeft : Option Nat) :
    Lockstep keys s s' ((reconcile ctx ns name).run callsLeft s)
      ((reconcile ctx ns name).run callsLeft s') := by
  rw [reconcile_eq]
  by_cases hf : ctx.filter.selects ns = true
  · rw [if_pos hf]
    obtain ⟨answer, hp, hp'⟩ := h.readReplicaSet hrs
    refine lockstep_call h hp hp' h.inStep (fun found m hok => ?_) callsLeft
    subst hok
    obtain ⟨_, _, rfl⟩ := Store.perform_readReplicaSet_eq_ok_iff.mp hp
    cases hjudge : judge ctx (s.replicaSets.get? ⟨ns, name⟩) with
    | error reason => exact ⟨rfl, h.inStep⟩
    | ok rs =>
      have hget := (judge_eq_ok_iff.mp hjudge).1
      exact lockstep_link hs h
        (fun configMap hm => hkeys ⟨rs, hget, configMap, hm, rfl⟩) m {}
  · rw [if_neg hf]
    exact ⟨rfl, h.inStep⟩

/-! ### What a pass leaves alone -/

/-- A pass leaves all ConfigMaps alone that its ReplicaSet does not mount. -/
lemma configMap?_eq_of_not_mounted (hs : s.Consistent) (ctx : Context) (callsLeft : Option Nat)
    {k : ObjectKey} (hk : k ∉ s.mounted ns name) :
    ((reconcile ctx ns name).run callsLeft s).1.configMap? k = s.configMap? k := by
  rcases (course_reconcile hs ctx ns name callsLeft).effect k with hkept | ⟨_, rs, hget, _, heffect⟩
  · exact hkept
  · exact heffect.configMap?_eq_of_ne fun configMap hn hkey => hk ⟨rs, hget, configMap, hn, hkey⟩

/-- **Isolation.**  Take two stores that hold the same ReplicaSet under a namespace and name and
the same ConfigMaps that it mounts, show the same faults and have given the same last version.
Whatever else they hold and wherever the pass is cancelled, it ends in the same way in both, asks to
replace the same names in the same order, and leaves the same ConfigMaps under the mounted keys.
Every other object of either store stays as it was. -/
theorem reconcile_isolated (hs : s.Reachable) (hs' : s'.Reachable)
    (hrs : s'.replicaSets.get? ⟨ns, name⟩ = s.replicaSets.get? ⟨ns, name⟩)
    (h : s.AgreesOn (s.mounted ns name) s') (ctx : Context) (callsLeft : Option Nat) :
    let r := (reconcile ctx ns name).run callsLeft s
    let r' := (reconcile ctx ns name).run callsLeft s'
    r'.2 = r.2 ∧
    (∃ calls, r.1.replaceCalls = s.replaceCalls ++ calls ∧
      r'.1.replaceCalls = s'.replaceCalls ++ calls) ∧
    (∀ k ∈ s.mounted ns name, r'.1.configMap? k = r.1.configMap? k) ∧
    (r.1.replicaSets = s.replicaSets ∧ r'.1.replicaSets = s'.replicaSets) ∧
    ∀ k ∉ s.mounted ns name,
      r.1.configMap? k = s.configMap? k ∧ r'.1.configMap? k = s'.configMap? k := by
  intro r r'
  obtain ⟨hending, hstep⟩ :=
    lockstep_reconcile hs.consistent h hrs (fun _ hk => hk) ctx callsLeft
  have hmounted : s'.mounted ns name = s.mounted ns name := by
    unfold Store.mounted
    rw [hrs]
  refine ⟨hending, hstep.replaceCalls_eq, hstep.agree.configMap?_eq, ⟨?_, ?_⟩, fun k hk => ⟨?_, ?_⟩⟩
  · exact (course_reconcile hs.consistent ctx ns name callsLeft).replicaSets_eq
  · exact (course_reconcile hs'.consistent ctx ns name callsLeft).replicaSets_eq
  · exact configMap?_eq_of_not_mounted hs.consistent ctx callsLeft hk
  · exact configMap?_eq_of_not_mounted hs'.consistent ctx callsLeft (hmounted ▸ hk)

/-- A pass over `app-rs` takes no notice of which other namespace holds an `app-config`, nor of the
owners of that one. -/
theorem reconcile_isolated_app_rs :
    let s := Sample.store.addConfigMap
      { metadata := { ns := some "other", name := some "app-config" } }
    let s' := Sample.store.addConfigMap
      { metadata :=
          { ns := some "elsewhere"
            name := some "app-config"
            ownerReferences := some [Sample.record "app-rs" "u1"] } }
    let pass := reconcile (Sample.context false) "default" "app-rs"
    (pass.run none s').2 = (pass.run none s).2 ∧
      (pass.run none s').1.configMap? ⟨"default", "app-config"⟩ =
        (pass.run none s).1.configMap? ⟨"default", "app-config"⟩ ∧
      (pass.run none s').1.configMap? ⟨"elsewhere", "app-config"⟩ =
        s'.configMap? ⟨"elsewhere", "app-config"⟩ := by
  intro s s' pass
  have hother : ∀ other, other ≠ "default" → ∀ name : String,
      (⟨other, name⟩ : ObjectKey) ∉ s.mounted "default" "app-rs" := by
    rintro other hne name ⟨_, _, _, _, hkey⟩
    exact hne (congrArg ObjectKey.ns hkey)
  have h : s.AgreesOn (s.mounted "default" "app-rs") s' :=
    Store.agreesOn_addConfigMap (hother "other" (by decide) _) (hother "elsewhere" (by decide) _)
  have hmounted : (⟨"default", "app-config"⟩ : ObjectKey) ∈ s.mounted "default" "app-rs" :=
    ⟨_, Sample.get?_app_rs, "app-config", Sample.app_config_mem_app_rs, rfl⟩
  have hs : s.Reachable := Sample.reachable_store.addConfigMap _
  have hs' : s'.Reachable := Sample.reachable_store.addConfigMap _
  obtain ⟨hending, _, hkept, _, hrest⟩ :=
    reconcile_isolated hs hs' rfl h (Sample.context false) none
  exact ⟨hending, hkept _ hmounted, (hrest _ (hother "elsewhere" (by decide) _)).2⟩

end Pass

end MountOwnership
