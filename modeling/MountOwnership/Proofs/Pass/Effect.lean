import Mathlib.Tactic.Common
import MountOwnership.Proofs.Pass.Course
import MountOwnership.Proofs.References

/-!
# What a pass does to the ConfigMap of a key

Seen from a single key, work on ConfigMaps does one of two things (`Pass.Effect`):
it leaves the stored ConfigMap as it is, or it gives a ConfigMap that lacked the
ReplicaSet the record of that ReplicaSet, once.  Effects compose, since a ConfigMap
with the record is owned and is never written for the same ReplicaSet again.

So a pass writes to no ConfigMap but those that its ReplicaSet mounts, and changes
nothing in them but the owners and the version (`Pass.reconcile_write_safe`).
-/

namespace MountOwnership

namespace Pass

variable {ctx : Context} {ns : String} {rs : ReplicaSet} {names : List String} {k : ObjectKey}
  {s t u : Store}

/-- What work on the ConfigMaps of some names does to the ConfigMap of a key. -/
inductive Effect (ctx : Context) (ns : String) (rs : ReplicaSet) (names : List String)
    (k : ObjectKey) (s t : Store) : Prop
  /-- The ConfigMap is as before. -/
  | kept (h : t.configMap? k = s.configMap? k)
  /-- The ConfigMap was given the record of the ReplicaSet. -/
  | linked {name : String} {c : ConfigMap} {owner : OwnerReference} {version : Option String}
      (hk : k = ⟨ns, name⟩) (hn : name ∈ names) (h : Unlinked ctx ns rs s name c owner)
      (hkey : c.metadata.key = .ok k)
      (ht : t.configMap? k = some ((c.withOwner owner).withVersion version))

/-- What work on some names does, work on more names does too. -/
lemma Effect.mono {names' : List String} (h : Effect ctx ns rs names k s t)
    (hsub : ∀ name ∈ names, name ∈ names') : Effect ctx ns rs names' k s t := by
  cases h with
  | kept h => exact .kept h
  | linked hk hn h hkey ht => exact .linked hk (hsub _ hn) h hkey ht

/-- Effects compose. -/
lemma Effect.trans (hst : Effect ctx ns rs names k s t) (htu : Effect ctx ns rs names k t u) :
    Effect ctx ns rs names k s u := by
  cases hst with
  | kept hs =>
    cases htu with
    | kept ht => exact .kept (ht.trans hs)
    | linked hk hn h hkey hu =>
      subst hk
      exact .linked rfl hn ⟨hs ▸ h.stored, h.not_owned, h.not_dryRun, h.record⟩ hkey hu
  | @linked name c owner version hk hn h hkey ht =>
    cases htu with
    | kept hu => exact .linked hk hn h hkey (hu.trans ht)
    | linked hk' _ h' _ _ =>
      -- a second write would be to a ConfigMap that has the record already
      have howned : ((c.withOwner owner).withVersion version).isOwnedBy rs = true :=
        ConfigMap.withOwner_isOwnedBy h.record c
      rw [hk', h'.stored] at ht
      rw [← Option.some.inj ht, h'.not_owned] at howned
      exact nomatch howned

/-- The same keys are stored before and after. -/
lemma Effect.isSome_eq (h : Effect ctx ns rs names k s t) :
    (t.configMap? k).isSome = (s.configMap? k).isSome := by
  cases h with
  | kept h => rw [h]
  | linked hk _ h _ ht =>
    subst hk
    rw [ht, h.stored]
    rfl

/-- Work on some ConfigMaps leaves those alone that are not among them. -/
lemma Effect.configMap?_eq_of_ne (h : Effect ctx ns rs names k s t)
    (hk : ∀ name ∈ names, k ≠ ⟨ns, name⟩) : t.configMap? k = s.configMap? k := by
  cases h with
  | kept h => exact h
  | linked hkey hn => exact absurd hkey (hk _ hn)

/-- Work on one ConfigMap has an effect on no other. -/
lemma Visit.effect {sum sum' : Summary} {name : String} (h : Visit ctx ns rs s sum name t sum')
    (k : ObjectKey) : Effect ctx ns rs [name] k s t := by
  cases h with
  | missing => exact .kept rfl
  | alreadyOwned => exact .kept rfl
  | dryRun => exact .kept rfl
  | linked h hkey =>
    by_cases hk : (⟨ns, name⟩ : ObjectKey) = k
    · subst hk
      exact .linked rfl (List.mem_singleton_self name) h hkey
        ((Store.put_configMap? _ _ _ _).trans (if_pos rfl))
    · exact .kept ((Store.put_configMap? _ _ _ _).trans (if_neg hk))

/-- Work on ConfigMaps has an effect on those alone. -/
lemma Visits.effect {sum sum' : Summary} (h : Visits ctx ns rs s sum names t sum')
    (k : ObjectKey) : Effect ctx ns rs names k s t := by
  induction h with
  | nil => exact .kept rfl
  | cons h _ ih =>
    refine ((h.effect k).mono fun name hn => ?_).trans (ih.mono fun name hn => ?_)
    · exact List.mem_cons.mpr (Or.inl (List.mem_singleton.mp hn))
    · exact List.mem_cons_of_mem _ hn

/-- Work on ConfigMaps leaves ReplicaSets alone. -/
lemma Visits.replicaSets_eq {sum sum' : Summary} (h : Visits ctx ns rs s sum names t sum') :
    t.replicaSets = s.replicaSets := by
  induction h with
  | nil => rfl
  | cons h _ ih =>
    rw [ih]
    cases h <;> rfl

/-- Work on ConfigMaps keeps a store consistent. -/
lemma Visits.consistent {sum sum' : Summary} (h : Visits ctx ns rs s sum names t sum')
    (hs : s.Consistent) : t.Consistent := by
  induction h with
  | nil => exact hs
  | cons h _ ih => exact ih (h.consistent hs)

/-- A run over ConfigMaps, ended or stopped, has an effect on those alone. -/
lemma LinkCourse.effect {sum : Summary} {e : Ending} (h : LinkCourse ctx ns rs s sum names t e)
    (k : ObjectKey) : Effect ctx ns rs names k s t := by
  cases h with
  | finished h => exact h.effect k
  | stopped hn h hstop =>
    refine Effect.trans ((h.effect k).mono fun name hname => ?_)
      (.kept (hstop.quiet.1.configMap?_eq k))
    rw [hn]
    exact List.mem_append_left _ hname

/-- A run over ConfigMaps, ended or stopped, leaves ReplicaSets alone. -/
lemma LinkCourse.replicaSets_eq {sum : Summary} {e : Ending}
    (h : LinkCourse ctx ns rs s sum names t e) : t.replicaSets = s.replicaSets := by
  cases h with
  | finished h => exact h.replicaSets_eq
  | stopped _ h hstop => exact hstop.quiet.1.replicaSets_eq.trans h.replicaSets_eq

/-- A pass leaves ReplicaSets alone. -/
lemma Course.replicaSets_eq {name : String} {e : Ending} (h : Course ctx ns name s t e) :
    t.replicaSets = s.replicaSets := by
  cases h with
  | linking _ _ _ _ h => exact h.replicaSets_eq
  | _ => rfl

/-- A pass has an effect on the ConfigMaps of its ReplicaSet alone, and on these only if the
ReplicaSet is selected and newer than the start. -/
lemma Course.effect {name : String} {e : Ending} (h : Course ctx ns name s t e) (k : ObjectKey) :
    t.configMap? k = s.configMap? k ∨
      ctx.filter.selects ns = true ∧ ∃ rs, s.replicaSets.get? ⟨ns, name⟩ = some rs ∧
        rs.metadata.isCreatedAfter ctx.start = true ∧
        Effect ctx ns rs rs.configMaps k s t := by
  cases h with
  | linking hf hget hc _ h => exact Or.inr ⟨hf, _, hget, hc, h.effect k⟩
  | _ => exact Or.inl rfl

/-- A pass leaves the ConfigMap of a key alone, or gives it the record of its ReplicaSet. -/
lemma Course.configMap?_cases {name : String} {e : Ending} (h : Course ctx ns name s t e)
    (k : ObjectKey) :
    t.configMap? k = s.configMap? k ∨
      ∃ rs configMap c owner version, s.replicaSets.get? ⟨ns, name⟩ = some rs ∧
        k = ⟨ns, configMap⟩ ∧ Unlinked ctx ns rs s configMap c owner ∧
        t.configMap? k = some ((c.withOwner owner).withVersion version) := by
  rcases h.effect k with hkept | ⟨_, rs, hget, _, heffect⟩
  · exact Or.inl hkept
  · cases heffect with
    | kept hkept => exact Or.inl hkept
    | @linked configMap c owner version hk _ hun _ ht =>
      exact Or.inr ⟨rs, configMap, c, owner, version, hget, hk, hun, ht⟩

/-- **Write safety.**  Whatever faults the store shows, wherever a pass is cancelled and whatever
it returns, it changes no ReplicaSet and neither creates nor deletes a ConfigMap.  A ConfigMap
that it changes is one that the ReplicaSet mounts in its own namespace; the pass was no dry run,
the namespace is selected, the ReplicaSet has a uid and a name and is newer than the start, and
the ConfigMap lacked it and differs in nothing but its version and the record put among its
owners. -/
theorem reconcile_write_safe {s : Store} (hs : s.Reachable) (ctx : Context) (ns name : String)
    (callsLeft : Option Nat) :
    let t := ((reconcile ctx ns name).run callsLeft s).1
    t.replicaSets = s.replicaSets ∧
    (∀ k, (t.configMap? k).isSome = (s.configMap? k).isSome) ∧
    ∀ k, t.configMap? k ≠ s.configMap? k →
      ctx.dryRun = false ∧ ctx.filter.selects ns = true ∧
      ∃ rs, s.replicaSets.get? ⟨ns, name⟩ = some rs ∧
        rs.metadata.uid.isSome ∧ rs.metadata.name.isSome ∧
        rs.metadata.isCreatedAfter ctx.start = true ∧
        (∃ configMap ∈ rs.configMaps, k = ⟨ns, configMap⟩) ∧
        ∃ c owner version, s.configMap? k = some c ∧ c.isOwnedBy rs = false ∧
          rs.ownerRecord = .ok owner ∧
          t.configMap? k =
            some ((c.withOwners (some (upsertOwner owner c.owners))).withVersion version) := by
  intro t
  have hcourse := course_reconcile hs.consistent ctx ns name callsLeft
  refine ⟨hcourse.replicaSets_eq, fun k => ?_, fun k hk => ?_⟩
  · rcases hcourse.effect k with hkept | ⟨_, rs, _, _, heffect⟩
    · rw [hkept]
    · exact heffect.isSome_eq
  · rcases hcourse.effect k with hkept | ⟨hf, rs, hget, hc, heffect⟩
    · exact absurd hkept hk
    · cases heffect with
      | kept hkept => exact absurd hkept hk
      | @linked configMap c owner version hkey hn h _ ht =>
        subst hkey
        obtain ⟨rsName, uid, hname, huid, _⟩ := ReplicaSet.ownerRecord_eq_ok_iff.mp h.record
        refine ⟨h.not_dryRun, hf, rs, hget, by rw [huid]; rfl, by rw [hname]; rfl, hc,
          ⟨configMap, hn, rfl⟩, c, owner, version, h.stored, h.not_owned, h.record, ht⟩

end Pass

/-! ### A small cluster -/

namespace Pass

deriving instance DecidableEq for Ending

/-- The pass over a ReplicaSet, with the names that it mounts told apart by comparing them.  The
kernel can run this one, while it cannot look names up in a table. -/
def compared (ctx : Context) (ns name : String) : Pass :=
  if ctx.filter.selects ns then
    .call (.readReplicaSet ⟨ns, name⟩) fun
      | none => .done (.ok (.skipped .workloadNotFound))
      | some rs =>
        if rs.metadata.isCreatedAfter ctx.start then
          match ((rs.podSpec?.map PodSpec.mentions).getD []).eraseDups with
          | [] => .done (.ok (.skipped .noConfigMapVolumes))
          | names => link ctx ns rs {} names
        else .done (.ok (.skipped .createdBeforeStart))
  else .done (.ok (.skipped .namespaceExcluded))

/-- Comparing the names gives the same pass as looking them up. -/
lemma reconcile_eq_compared (ctx : Context) (ns name : String) :
    reconcile ctx ns name = compared ctx ns name := by
  unfold compared
  simp only [← ReplicaSet.configMaps_eq_eraseDups]
  rfl

end Pass

namespace Sample

/-- The start of a controller. -/
def start : Time.Instant := ⟨1735689600, 0, by decide, by decide⟩

/-- A ReplicaSet that is newer than the start and mounts ConfigMaps, each through a volume. -/
def replicaSet (name uid : String) (configMaps : List String) : ReplicaSet where
  metadata :=
    { ns := some "default"
      name := some name
      uid := some uid
      creationTimestamp := some ⟨1735693200, 0, by decide, by decide⟩ }
  spec := some ⟨some ⟨some
    { containers := [⟨configMaps⟩]
      volumes := configMaps.map fun name => ⟨name, some name⟩ }⟩⟩

/-- The record of a ReplicaSet. -/
def record (name uid : String) : OwnerReference :=
  ⟨"apps/v1", "ReplicaSet", name, uid, some false, some false⟩

/-- A ConfigMap with owners. -/
def configMap (name : String) (owners : Option (List OwnerReference)) : ConfigMap where
  metadata := { ns := some "default", name := some name, ownerReferences := owners }

/-- Two ReplicaSets that share a ConfigMap, a ConfigMap that one of them owns already, and one that
is mounted and absent. -/
def store : Store :=
  ({} : Store)
    |>.addReplicaSet (replicaSet "app-rs" "u1" ["app-config", "shared-config", "gone-config"])
    |>.addReplicaSet (replicaSet "other-rs" "u2" ["app-config"])
    |>.addConfigMap (configMap "app-config" none)
    |>.addConfigMap (configMap "shared-config" (some [record "app-rs" "u1"]))

/-- A controller of every namespace. -/
def context (dryRun : Bool) : Context := ⟨.ofSources [], dryRun, start⟩

/-- The store of the example is reachable. -/
lemma reachable_store : store.Reachable :=
  (((Store.Reachable.empty.addReplicaSet _).addReplicaSet _).addConfigMap _).addConfigMap _

/-- The ReplicaSet of the example is stored under its key. -/
lemma get?_app_rs : store.replicaSets.get? ⟨"default", "app-rs"⟩ =
    some (replicaSet "app-rs" "u1" ["app-config", "shared-config", "gone-config"]) := by
  decide +kernel

/-- It mounts its ConfigMaps in order. -/
lemma configMaps_app_rs :
    (replicaSet "app-rs" "u1" ["app-config", "shared-config", "gone-config"]).configMaps =
      ["app-config", "shared-config", "gone-config"] := by
  rw [ReplicaSet.configMaps_eq_eraseDups]
  decide +kernel

/-- One of them is `app-config`. -/
lemma app_config_mem_app_rs : "app-config" ∈
    (replicaSet "app-rs" "u1" ["app-config", "shared-config", "gone-config"]).configMaps := by
  rw [configMaps_app_rs]
  exact List.mem_cons_self

/-- A real pass over `app-rs` links the one ConfigMap that is there and lacks it. -/
lemma applied_app_rs :
    ((Pass.reconcile (context false) "default" "app-rs").run none store).2 =
      .returned (.ok (.applied ⟨["app-config"], ["shared-config"], ["gone-config"], []⟩)) := by
  rw [Pass.reconcile_eq_compared]
  decide +kernel

end Sample

namespace Pass

/-- A pass over `app-rs` changes `app-config`, and that is a ConfigMap it mounts. -/
theorem reconcile_write_safe_app_config :
    ((reconcile (Sample.context false) "default" "app-rs").run none Sample.store).1.configMap?
        ⟨"default", "app-config"⟩ ≠
      Sample.store.configMap? ⟨"default", "app-config"⟩ ∧
    ∃ rs, Sample.store.replicaSets.get? ⟨"default", "app-rs"⟩ = some rs ∧
      rs.metadata.isCreatedAfter Sample.start = true ∧
      ∃ configMap ∈ rs.configMaps,
        (⟨"default", "app-config"⟩ : ObjectKey) = ⟨"default", configMap⟩ := by
  have hne : ((reconcile (Sample.context false) "default" "app-rs").run none
      Sample.store).1.configMap? ⟨"default", "app-config"⟩ ≠
      Sample.store.configMap? ⟨"default", "app-config"⟩ := by
    intro h
    have hafter : (((reconcile (Sample.context false) "default" "app-rs").run none
      Sample.store).1.configMap? ⟨"default", "app-config"⟩).map (fun c => c.owners.length) =
        some 1 := by
      rw [reconcile_eq_compared]
      decide +kernel
    have hbefore : (Sample.store.configMap? ⟨"default", "app-config"⟩).map
      (fun c => c.owners.length) = some 0 := by decide +kernel
    rw [h, hbefore] at hafter
    exact absurd hafter (by decide)
  obtain ⟨_, _, rs, hget, _, _, hc, hmem, _⟩ :=
    (reconcile_write_safe Sample.reachable_store (Sample.context false) "default" "app-rs"
      none).2.2 _ hne
  exact ⟨hne, rs, hget, hc, hmem⟩

end Pass

end MountOwnership
