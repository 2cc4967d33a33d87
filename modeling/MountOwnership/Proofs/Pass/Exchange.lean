import MountOwnership.Proofs.Ownership.Records
import MountOwnership.Proofs.Pass.Repeat

/-!
# Passes in either order

A pass looks at little of a ConfigMap: whether it lists the ReplicaSet, and under which key
it is to be written (`ConfigMap.view`).  The record of a ReplicaSet of another name changes
neither, so a pass over one ReplicaSet finds the same before and after a pass over another
one (`Pass.Effect.view_eq`) and ends with the same outcome (`Pass.Success.elsewhere`).

What a pass makes of a ConfigMap is a function of that ConfigMap (`Pass.imprint`), and the
functions of two ReplicaSets commute, apart from the order in which new records are
appended (`Pass.imprint_imprint`).  So two passes may be made in either order
(`Pass.reconcile_commutes`).
-/

namespace MountOwnership

/-! ### Two ReplicaSets and one ConfigMap -/

namespace ConfigMap

variable {a b : ReplicaSet} {c d : ConfigMap} {owner : OwnerReference}

/-- Two ConfigMaps differ at most in their versions and in the order of their owners. -/
structure SameButOrder (c d : ConfigMap) : Prop where
  rest_eq : (c.withOwners none).withVersion none = (d.withOwners none).withVersion none
  owners_perm : Option.Rel List.Perm c.metadata.ownerReferences d.metadata.ownerReferences

/-- A ConfigMap is the same as itself. -/
lemma SameButOrder.refl (c : ConfigMap) : c.SameButOrder c := by
  refine ⟨rfl, ?_⟩
  cases c.metadata.ownerReferences with
  | none => exact .none
  | some owners => exact .some (List.Perm.refl owners)

/-- Versions have no part in the comparison. -/
lemma SameButOrder.of_withVersion {v w : Option String}
    (h : (c.withVersion v).SameButOrder (d.withVersion w)) : c.SameButOrder d :=
  ⟨h.rest_eq, h.owners_perm⟩

/-- What a pass over a ReplicaSet looks at in a ConfigMap. -/
def view (rs : ReplicaSet) (c : ConfigMap) : Bool × Except ClusterError ObjectKey :=
  (c.isOwnedBy rs, c.metadata.key)

/-- The ConfigMap after work on it for a ReplicaSet: with its record, unless it is owned already or
the ReplicaSet has none. -/
def linkedTo (c : ConfigMap) (rs : ReplicaSet) : ConfigMap :=
  if c.isOwnedBy rs then c
  else
    match rs.ownerRecord with
    | .ok owner => c.withOwner owner
    | .error _ => c

/-- A ConfigMap that is owned stays as it is. -/
lemma linkedTo_of_owned (h : c.isOwnedBy a = true) : c.linkedTo a = c := if_pos h

/-- Without a record to give, a ConfigMap stays as it is. -/
lemma linkedTo_of_error {fault : OwnerFault} (h : a.ownerRecord = .error fault) :
    c.linkedTo a = c := by
  unfold linkedTo
  rw [h]
  exact ite_self c

/-- A ConfigMap that is not owned is given the record. -/
lemma linkedTo_of_ok (hno : c.isOwnedBy a = false) (h : a.ownerRecord = .ok owner) :
    c.linkedTo a = c.withOwner owner := by
  unfold linkedTo
  rw [h, if_neg (by simp [hno])]

/-- Work for a ReplicaSet of another name changes nothing about whether a ConfigMap is owned. -/
lemma linkedTo_isOwnedBy_of_ne (hne : a.metadata.name ≠ b.metadata.name) (c : ConfigMap) :
    (c.linkedTo a).isOwnedBy b = c.isOwnedBy b := by
  by_cases ho : c.isOwnedBy a = true
  · rw [linkedTo_of_owned ho]
  · cases hrecord : a.ownerRecord with
    | error fault => rw [linkedTo_of_error hrecord]
    | ok owner =>
      rw [linkedTo_of_ok (by simpa using ho) hrecord, withOwner_isOwnedBy_of_ne hne hrecord]

/-- A ConfigMap may be worked on for two ReplicaSets of different names in either order. -/
lemma linkedTo_linkedTo (hne : a.metadata.name ≠ b.metadata.name) (c : ConfigMap) :
    ((c.linkedTo a).linkedTo b).SameButOrder ((c.linkedTo b).linkedTo a) := by
  have ha := linkedTo_isOwnedBy_of_ne hne.symm c
  have hb := linkedTo_isOwnedBy_of_ne hne c
  by_cases hoa : c.isOwnedBy a = true
  · rw [linkedTo_of_owned hoa, linkedTo_of_owned (ha.trans hoa)]
    exact .refl _
  by_cases hob : c.isOwnedBy b = true
  · rw [linkedTo_of_owned hob, linkedTo_of_owned (hb.trans hob)]
    exact .refl _
  have hoa' : c.isOwnedBy a = false := by simpa using hoa
  have hob' : c.isOwnedBy b = false := by simpa using hob
  cases hra : a.ownerRecord with
  | error fault =>
    rw [linkedTo_of_error hra, linkedTo_of_error hra]
    exact .refl _
  | ok owner =>
    cases hrb : b.ownerRecord with
    | error fault =>
      rw [linkedTo_of_error hrb, linkedTo_of_error hrb]
      exact .refl _
    | ok owner' =>
      -- both records are written, and they have different keys
      have hkey : owner.key ≠ owner'.key := by
        obtain ⟨name, _, hname, _, rfl⟩ := ReplicaSet.ownerRecord_eq_ok_iff.mp hra
        obtain ⟨name', _, hname', _, rfl⟩ := ReplicaSet.ownerRecord_eq_ok_iff.mp hrb
        intro hsame
        refine hne ?_
        rw [hname, hname']
        exact congrArg (fun key => some key.2.2) hsame
      rw [linkedTo_of_ok (hb.trans hob') hrb, linkedTo_of_ok (ha.trans hoa') hra,
        linkedTo_of_ok hoa' hra, linkedTo_of_ok hob' hrb]
      exact ⟨rfl, .some (upsertOwner_upsertOwner_perm hkey)⟩

/-- Versions have no part in the work on a ConfigMap. -/
lemma linkedTo_withVersion (c : ConfigMap) (rs : ReplicaSet) (v : Option String) :
    (c.withVersion v).linkedTo rs = (c.linkedTo rs).withVersion v := by
  have hsame : (c.withVersion v).isOwnedBy rs = c.isOwnedBy rs := rfl
  by_cases ho : c.isOwnedBy rs = true
  · rw [linkedTo_of_owned ho, linkedTo_of_owned (hsame.trans ho)]
  · have ho' : c.isOwnedBy rs = false := by simpa using ho
    cases hr : rs.ownerRecord with
    | error fault => rw [linkedTo_of_error hr, linkedTo_of_error hr]
    | ok owner =>
      rw [linkedTo_of_ok ho' hr, linkedTo_of_ok (hsame.trans ho') hr]
      rfl

end ConfigMap

/-- The names of the ConfigMaps that a pass has written. -/
def Outcome.linked : Outcome → List String
  | .skipped _ => []
  | .applied sum => sum.linked

namespace Pass

variable {ctx : Context} {ns name : String} {rs other : ReplicaSet} {names : List String}
  {k : ObjectKey} {s t u : Store} {sum sum' : Summary} {outcome : Outcome}

/-! ### What a pass over another ReplicaSet sees -/

/-- Two stores look the same to a pass over a ReplicaSet. -/
def LooksAlike (rs : ReplicaSet) (s t : Store) : Prop :=
  ∀ k, (t.configMap? k).map (ConfigMap.view rs) = (s.configMap? k).map (ConfigMap.view rs)

/-- If one store looks like another, that one looks like the first. -/
lemma LooksAlike.symm (h : LooksAlike rs s t) : LooksAlike rs t s := fun k => (h k).symm

/-- The work for one ReplicaSet cannot be seen by a pass over one of another name. -/
lemma Effect.view_eq (h : Effect ctx ns rs names k s t)
    (hne : rs.metadata.name ≠ other.metadata.name) :
    (t.configMap? k).map (ConfigMap.view other) = (s.configMap? k).map (ConfigMap.view other) := by
  cases h with
  | kept h => rw [h]
  | @linked name c owner version hk _ h _ ht =>
    subst hk
    have howned : ((c.withOwner owner).withVersion version).isOwnedBy other = c.isOwnedBy other :=
      ConfigMap.withOwner_isOwnedBy_of_ne hne h.record c
    rw [ht, h.stored, Option.map_some, Option.map_some, ConfigMap.view, howned]
    rfl

/-- Stores that look the same have the same tally. -/
lemma LooksAlike.tally_eq (h : LooksAlike rs s t) (ctx : Context) (ns : String)
    (names : List String) : tally ctx ns rs t names = tally ctx ns rs s names := by
  have hany : ∀ (p : Bool → Bool) name,
      ((t.configMap? ⟨ns, name⟩).any fun c => p (c.isOwnedBy rs)) =
        (s.configMap? ⟨ns, name⟩).any fun c => p (c.isOwnedBy rs) := by
    intro p name
    have hview := congrArg (Option.any fun v => p v.1) (h ⟨ns, name⟩)
    rwa [Option.any_map, Option.any_map] at hview
  have hnone : ∀ name, (t.configMap? ⟨ns, name⟩).isNone = (s.configMap? ⟨ns, name⟩).isNone := by
    intro name
    have hview := congrArg Option.isNone (h ⟨ns, name⟩)
    rwa [Option.isNone_map, Option.isNone_map] at hview
  unfold tally
  congr 1 <;> refine List.filter_congr fun name _ => ?_
  · rw [lacksOwner, lacksOwner, hany (fun owned => !owned)]
  · exact hany (fun owned => owned) name
  · exact hnone name
  · rw [lacksOwner, lacksOwner, hany (fun owned => !owned)]

/-- In stores that look the same, the same ConfigMaps can be worked on. -/
lemma LooksAlike.workable (h : LooksAlike rs s t) (hw : Workable ctx ns rs s name) :
    Workable ctx ns rs t name := by
  intro c hget hno hd
  have hview := h ⟨ns, name⟩
  rw [hget, Option.map_some] at hview
  obtain ⟨c', hget', hsame⟩ := Option.map_eq_some_iff.mp hview.symm
  obtain ⟨howned, hkey⟩ := Prod.mk.inj hsame
  obtain ⟨hrecord, hk⟩ := hw c' hget' (howned.trans hno) hd
  exact ⟨hrecord, hkey.symm.trans hk⟩

/-- A pass that succeeded in one store succeeds with the same outcome in a store that looks the same
and shows no faults. -/
lemma Success.elsewhere (h : Success ctx ns name s t outcome)
    (hrs : u.replicaSets = s.replicaSets) (hf : u.faults = {})
    (halike : ∀ rs, s.replicaSets.get? ⟨ns, name⟩ = some rs → LooksAlike rs s u) :
    ∃ v, (reconcile ctx ns name).run none u = (v, .returned (.ok outcome)) ∧
      Success ctx ns name u v outcome := by
  have haim' := aim_congr hrs ctx ns name
  have hfind : Findable ctx ns u := fun _ => by rw [hf]
  cases h with
  | skipped haim =>
    exact ⟨u, run_reconcile_of_aim_error hfind (haim'.trans haim), .skipped (haim'.trans haim)⟩
  | @applied rs _ sum haim hvisits _ =>
    have hsame := halike rs (aim_eq_ok_iff.mp haim).2.1
    obtain ⟨v, sum', hv⟩ := exists_visits
      (fun configMap hm => hsame.workable (hvisits.workable configMap hm)) {}
    have hsum : sum' = sum := by
      rw [hv.eq_tally, hvisits.eq_tally, hsame.tally_eq]
    subst hsum
    have ha : ∀ configMap ∈ rs.configMaps, Answered ctx ns rs u configMap :=
      fun configMap _ => .of_no_faults hf configMap
    exact ⟨v, run_reconcile_of_answered hfind (haim'.trans haim) ha hv,
      .applied (haim'.trans haim) hv fun configMap hm => (ha configMap hm).legible⟩

/-- In a consistent store, ReplicaSets under different names of a namespace have different names. -/
lemma name_ne_of_get? {a b : String} {x y : ReplicaSet} (hs : s.Consistent) (hab : a ≠ b)
    (hx : s.replicaSets.get? ⟨ns, a⟩ = some x) (hy : s.replicaSets.get? ⟨ns, b⟩ = some y) :
    x.metadata.name ≠ y.metadata.name := by
  intro hsame
  have ha : x.metadata.name.getD "" = a := congrArg ObjectKey.name (hs.replicaSet_key hx)
  have hb : y.metadata.name.getD "" = b := congrArg ObjectKey.name (hs.replicaSet_key hy)
  exact hab (ha.symm.trans (hsame ▸ hb))

/-- A pass that succeeds leaves a store that looks the same to a pass over a ReplicaSet of another
name. -/
lemma Success.looksAlike {a b : String} (h : Success ctx ns a s t outcome) (hs : s.Consistent)
    (hab : a ≠ b) (hget : s.replicaSets.get? ⟨ns, b⟩ = some other) : LooksAlike other s t := by
  intro k
  cases h with
  | skipped => rfl
  | applied haim hvisits _ =>
    exact (hvisits.effect k).view_eq (name_ne_of_get? hs hab (aim_eq_ok_iff.mp haim).2.1 hget)

/-- A success changes no ReplicaSet. -/
lemma Success.replicaSets_eq (h : Success ctx ns name s t outcome) :
    t.replicaSets = s.replicaSets := by
  cases h with
  | skipped => rfl
  | applied _ hvisits _ => exact hvisits.replicaSets_eq

/-- A success uses up no fault. -/
lemma Success.faults_eq (h : Success ctx ns name s t outcome) : t.faults = s.faults := by
  cases h with
  | skipped => rfl
  | applied _ hvisits _ => exact hvisits.faults_eq

/-! ### Versions -/

/-- Work on one ConfigMap uses up a version if it writes it. -/
lemma Visit.version_eq (h : Visit ctx ns rs s sum name t sum') :
    t.version + sum.linked.length = s.version + sum'.linked.length := by
  cases h with
  | linked =>
    simp only [Store.overwrite, Store.put, Store.noted, List.length_append, List.length_singleton]
    omega
  | _ => rfl

/-- Work on ConfigMaps uses up one version for each that it writes. -/
lemma Visits.version_eq (h : Visits ctx ns rs s sum names t sum') :
    t.version + sum.linked.length = s.version + sum'.linked.length := by
  induction h with
  | nil => rfl
  | cons hvisit _ ih =>
    have hfirst := hvisit.version_eq
    omega

/-- A pass that succeeds uses up one version for each ConfigMap that it writes. -/
lemma Success.version_eq (h : Success ctx ns name s t outcome) :
    t.version = s.version + outcome.linked.length := by
  cases h with
  | skipped => rfl
  | applied _ hvisits _ => exact hvisits.version_eq

/-! ### What a pass makes of a ConfigMap -/

/-- What a pass with a given aim makes of the ConfigMap of a key, apart from its version. -/
def imprint (ctx : Context) (ns : String) (aim : Except SkipReason ReplicaSet) (k : ObjectKey)
    (c : ConfigMap) : ConfigMap :=
  match aim with
  | .error _ => c
  | .ok rs =>
    if ctx.dryRun = false ∧ k.ns = ns ∧ k.name ∈ rs.configMaps then c.linkedTo rs else c

/-- Versions have no part in what a pass makes of a ConfigMap. -/
lemma imprint_withVersion (ctx : Context) (ns : String) (aim : Except SkipReason ReplicaSet)
    (k : ObjectKey) (c : ConfigMap) (v : Option String) :
    imprint ctx ns aim k (c.withVersion v) = (imprint ctx ns aim k c).withVersion v := by
  unfold imprint
  cases aim with
  | error _ => rfl
  | ok rs =>
    dsimp only
    split
    · exact c.linkedTo_withVersion rs v
    · rfl

/-- The stored ConfigMap of a key, apart from its version. -/
def content (s : Store) (k : ObjectKey) : Option ConfigMap :=
  (s.configMap? k).map (·.withVersion none)

/-- A pass that succeeds makes of each ConfigMap what its aim tells. -/
lemma Success.content_eq (h : Success ctx ns name s t outcome) (k : ObjectKey) :
    content t k = (content s k).map (imprint ctx ns (aim ctx ns name s) k) := by
  unfold content
  rw [Option.map_map]
  cases h with
  | skipped haim =>
    rw [haim]
    rfl
  | @applied rs _ sum haim hvisits _ =>
    rw [haim]
    cases hvisits.effect k with
    | kept hkept =>
      rw [hkept]
      cases hget : s.configMap? k with
      | none => rfl
      | some c =>
        refine congrArg some (Eq.symm ?_)
        rw [Function.comp_apply, imprint_withVersion]
        unfold imprint
        dsimp only
        split
        · -- a ConfigMap of the pass that was kept is owned already
          rename_i hcond
          obtain ⟨hd, rfl, hm⟩ := hcond
          rcases hvisits.settled k.name hm c (hkept.trans hget) with ho | hdry
          · rw [ConfigMap.linkedTo_of_owned ho]
          · exact nomatch hd.symm.trans hdry
        · rfl
    | @linked configMap c owner version hk hm hun _ ht =>
      subst hk
      rw [ht, hun.stored]
      refine congrArg some (Eq.symm ?_)
      rw [Function.comp_apply, imprint_withVersion]
      unfold imprint
      dsimp only
      rw [if_pos ⟨hun.not_dryRun, rfl, hm⟩, ConfigMap.linkedTo_of_ok hun.not_owned hun.record]
      rfl

/-- Two passes over ReplicaSets of different names make the same of a ConfigMap in either order. -/
lemma imprint_imprint {a b : Except SkipReason ReplicaSet}
    (hne : ∀ x y, a = .ok x → b = .ok y → x.metadata.name ≠ y.metadata.name) (ctx : Context)
    (ns : String) (k : ObjectKey) (c : ConfigMap) :
    (imprint ctx ns b k (imprint ctx ns a k c)).SameButOrder
      (imprint ctx ns a k (imprint ctx ns b k c)) := by
  cases a with
  | error _ => exact .refl _
  | ok x =>
    cases b with
    | error _ => exact .refl _
    | ok y =>
      unfold imprint
      dsimp only
      by_cases hx : ctx.dryRun = false ∧ k.ns = ns ∧ k.name ∈ x.configMaps
      · by_cases hy : ctx.dryRun = false ∧ k.ns = ns ∧ k.name ∈ y.configMaps
        · rw [if_pos hx, if_pos hy, if_pos hx, if_pos hy]
          exact ConfigMap.linkedTo_linkedTo (hne x y rfl rfl) c
        · rw [if_neg hy, if_neg hy]
          exact .refl _
      · rw [if_neg hx, if_neg hx]
        exact .refl _

/-- ConfigMaps that differ at most in versions and order without their versions do so with them. -/
lemma sameButOrder_of_content (h : Option.Rel ConfigMap.SameButOrder (content t k) (content u k)) :
    Option.Rel ConfigMap.SameButOrder (t.configMap? k) (u.configMap? k) := by
  unfold content at h
  cases ht : t.configMap? k with
  | none =>
    cases hu : u.configMap? k with
    | none => exact .none
    | some d =>
      rw [ht, hu] at h
      exact nomatch h
  | some c =>
    cases hu : u.configMap? k with
    | none =>
      rw [ht, hu] at h
      exact nomatch h
    | some d =>
      rw [ht, hu] at h
      cases h with
      | some h => exact .some h.of_withVersion

/-! ### Two passes -/

/-- **Passes commute.**  When a pass over one ReplicaSet and then a pass over another one of the
same namespace succeed in a store without faults, the passes succeed in the other order too, each
with the same outcome.  Both orders use up as many versions and leave the same ConfigMaps, apart
from their versions and the order of their owners. -/
theorem reconcile_commutes (hs : s.Reachable) (hf : s.faults = {}) {a b : String} (hab : a ≠ b)
    {x y : Outcome} (hfirst : (reconcile ctx ns a).run none s = (t, .returned (.ok x)))
    (hsecond : (reconcile ctx ns b).run none t = (u, .returned (.ok y))) :
    ∃ t' u', (reconcile ctx ns b).run none s = (t', .returned (.ok y)) ∧
      (reconcile ctx ns a).run none t' = (u', .returned (.ok x)) ∧
      u'.version = u.version ∧
      ∀ k, Option.Rel ConfigMap.SameButOrder (u.configMap? k) (u'.configMap? k) := by
  have hc := hs.consistent
  obtain ⟨_, ha⟩ := success_of_run hc hfirst
  have ht : t.Consistent := by
    have hreach := reachable_run hs (reconcile ctx ns a) none
    rw [hfirst] at hreach
    exact hreach.consistent
  obtain ⟨_, hb⟩ := success_of_run ht hsecond
  -- neither pass sees what the other one has written
  obtain ⟨t', hfirst', hb'⟩ := hb.elsewhere ha.replicaSets_eq.symm hf
    fun y hy => (ha.looksAlike hc hab (ha.replicaSets_eq ▸ hy)).symm
  obtain ⟨u', hsecond', ha'⟩ := ha.elsewhere hb'.replicaSets_eq (hb'.faults_eq.trans hf)
    fun x hx => hb'.looksAlike hc hab.symm hx
  have hversion : u'.version = u.version := by
    rw [ha'.version_eq, hb'.version_eq, hb.version_eq, ha.version_eq]
    omega
  refine ⟨t', u', hfirst', hsecond', hversion, fun k => sameButOrder_of_content ?_⟩
  have haimA := aim_congr hb'.replicaSets_eq ctx ns a
  have haimB := aim_congr ha.replicaSets_eq ctx ns b
  rw [hb.content_eq, ha.content_eq, ha'.content_eq, hb'.content_eq, haimA, haimB]
  cases content s k with
  | none => exact .none
  | some c =>
    refine .some (imprint_imprint (fun x y hx hy => ?_) ctx ns k c)
    exact name_ne_of_get? hc hab (aim_eq_ok_iff.mp hx).2.1 (aim_eq_ok_iff.mp hy).2.1

/-- Passes over `app-rs` and `other-rs`, which share `app-config`, in either order. -/
theorem reconcile_commutes_app_rs_other_rs :
    let x := Outcome.applied ⟨["app-config"], ["shared-config"], ["gone-config"], []⟩
    let y := Outcome.applied ⟨["app-config"], [], [], []⟩
    ∃ t u t' u',
      (reconcile (Sample.context false) "default" "app-rs").run none Sample.store =
        (t, .returned (.ok x)) ∧
      (reconcile (Sample.context false) "default" "other-rs").run none t =
        (u, .returned (.ok y)) ∧
      (reconcile (Sample.context false) "default" "other-rs").run none Sample.store =
        (t', .returned (.ok y)) ∧
      (reconcile (Sample.context false) "default" "app-rs").run none t' =
        (u', .returned (.ok x)) ∧
      u'.version = u.version ∧
      ∀ k, Option.Rel ConfigMap.SameButOrder (u.configMap? k) (u'.configMap? k) := by
  intro x y
  have hc := Sample.reachable_store.consistent
  have hab : "app-rs" ≠ "other-rs" := by decide
  have hother : ((reconcile (Sample.context false) "default" "other-rs").run none
      Sample.store).2 = .returned (.ok (.applied ⟨["app-config"], [], [], []⟩)) := by
    rw [reconcile_eq_compared]
    decide +kernel
  obtain ⟨_, ha⟩ := success_of_run hc (Prod.ext rfl Sample.applied_app_rs)
  obtain ⟨_, hb⟩ := success_of_run hc (Prod.ext rfl hother)
  obtain ⟨u, hafter, _⟩ := hb.elsewhere ha.replicaSets_eq ha.faults_eq
    fun y hy => ha.looksAlike hc hab hy
  have hfirst : (reconcile (Sample.context false) "default" "app-rs").run none Sample.store =
      (_, .returned (.ok x)) := Prod.ext rfl Sample.applied_app_rs
  obtain ⟨t', u', hexchanged⟩ :=
    reconcile_commutes Sample.reachable_store rfl hab hfirst hafter
  exact ⟨_, u, t', u', hfirst, hafter, hexchanged⟩

end Pass

end MountOwnership
