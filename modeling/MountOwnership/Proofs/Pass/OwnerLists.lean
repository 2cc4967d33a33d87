import Mathlib.Data.Finset.Card
import MountOwnership.Proofs.Ownership.Records
import MountOwnership.Proofs.Pass.Effect

/-!
# Owner lists over many passes

Putting a record into a list of owners does not keep the owners apart: the record takes the
place of the first one of its API group, kind and name, and there may be others with its
kind, name and uid.  A pass looks for these before it writes, and writes only where there
are none.  So a list without two owners of the same kind, name and uid stays one, however
many passes are made and however they end.

A list grows only by a record of a name that had none yet.  Records of a name stay, with a
new uid perhaps, so each ReplicaSet name that was ever linked accounts for one place at most
(`Store.ownerLists_undergoAll`).
-/

namespace MountOwnership

/-- What tells owners apart: kind, name and uid. -/
def OwnerReference.subject (o : OwnerReference) : String × String × String :=
  (o.kind, o.name, o.uid)

/-- A record with the subject of a ReplicaSet's record names the ReplicaSet. -/
lemma ReplicaSet.names_of_subject {rs : ReplicaSet} {o owner : OwnerReference} {name uid : String}
    (h : rs.ownerRecord = .ok owner) (hname : rs.metadata.name = some name)
    (huid : rs.metadata.uid = some uid) (ho : o.subject = owner.subject) :
    o.names name uid = true := by
  obtain ⟨name', uid', hname', huid', rfl⟩ := ReplicaSet.ownerRecord_eq_ok_iff.mp h
  obtain rfl := Option.some.inj (hname.symm.trans hname')
  obtain rfl := Option.some.inj (huid.symm.trans huid')
  simp only [OwnerReference.subject, Prod.mk.injEq] at ho
  exact OwnerReference.names_iff.mpr ho

namespace ConfigMap

variable {c₀ c c' : ConfigMap} {rs : ReplicaSet} {owner : OwnerReference} {names : List String}
  {name : String}

/-- No two owners have the same kind, name and uid. -/
def OwnersDistinct (c : ConfigMap) : Prop := (c.owners.map OwnerReference.subject).Nodup

/-- A ConfigMap that does not list a ReplicaSet has no record with the subject of its record. -/
lemma subject_not_mem_of_not_owned (h : rs.ownerRecord = .ok owner)
    (hno : c.isOwnedBy rs = false) : owner.subject ∉ c.owners.map OwnerReference.subject := by
  intro hmem
  obtain ⟨o, ho, hsubject⟩ := List.mem_map.mp hmem
  obtain ⟨name, uid, hname, huid, _⟩ := ReplicaSet.ownerRecord_eq_ok_iff.mp h
  have howned : c.isOwnedBy rs = true :=
    (isOwnedBy_iff hname huid).mpr ⟨o, ho, ReplicaSet.names_of_subject h hname huid hsubject⟩
  exact nomatch hno.symm.trans howned

/-! ### Growing lists -/

/-- The owners of a ConfigMap are distinct, there is a record for each of some names, and they are
no more than those of an earlier ConfigMap and one for each of the names. -/
structure GrownFrom (c₀ c : ConfigMap) (names : List String) : Prop where
  distinct : c.OwnersDistinct
  length_le : c.owners.length ≤ c₀.owners.length + names.toFinset.card
  key_mem : ∀ name ∈ names, workloadOwnerKey name ∈ c.owners.map OwnerReference.key

/-- Owners that are distinct have grown by nothing. -/
lemma OwnersDistinct.grownFrom (h : c.OwnersDistinct) : c.GrownFrom c [] where
  distinct := h
  length_le := Nat.le_refl _
  key_mem _ hn := absurd hn List.not_mem_nil

/-- Only the owners count. -/
lemma GrownFrom.congr (h : c₀.GrownFrom c names) (ho : c'.owners = c.owners) :
    c₀.GrownFrom c' names where
  distinct := by
    unfold OwnersDistinct
    rw [ho]
    exact h.distinct
  length_le := ho ▸ h.length_le
  key_mem := ho ▸ h.key_mem

/-- A new record of a name makes the list longer only if the name is new. -/
lemma GrownFrom.linked (h : c₀.GrownFrom c names) (ho : c'.owners = upsertOwner owner c.owners)
    (hkey : owner.key = workloadOwnerKey name)
    (hnew : owner.subject ∉ c.owners.map OwnerReference.subject) :
    c₀.GrownFrom c' (names ++ [name]) := by
  have hkeys : c'.owners.map OwnerReference.key =
      if workloadOwnerKey name ∈ c.owners.map OwnerReference.key then
        c.owners.map OwnerReference.key
      else c.owners.map OwnerReference.key ++ [workloadOwnerKey name] := by
    rw [ho, map_key_upsertOwner, hkey]
  have hnames : (names ++ [name]).toFinset = insert name names.toFinset := by
    ext
    simp
  refine ⟨?_, ?_, ?_⟩
  · unfold OwnersDistinct
    rw [ho]
    exact nodup_map_upsertOwner h.distinct hnew
  · rw [hnames]
    have hlength := congrArg List.length hkeys
    rw [List.length_map] at hlength
    have hle := h.length_le
    by_cases hmem : workloadOwnerKey name ∈ c.owners.map OwnerReference.key
    · rw [if_pos hmem, List.length_map] at hlength
      have hcard := Finset.card_le_card (Finset.subset_insert name names.toFinset)
      omega
    · -- a name without a record was not linked before
      have hname : name ∉ names.toFinset := fun hn =>
        hmem (h.key_mem name (List.mem_toFinset.mp hn))
      rw [if_neg hmem, List.length_append, List.length_map, List.length_singleton] at hlength
      rw [Finset.card_insert_of_notMem hname]
      omega
  · intro name' hn
    have hkept : ∀ key ∈ c.owners.map OwnerReference.key,
        key ∈ c'.owners.map OwnerReference.key := by
      intro key hmem
      rw [hkeys]
      split
      · exact hmem
      · exact List.mem_append_left _ hmem
    rcases List.mem_append.mp hn with hn | hn
    · exact hkept _ (h.key_mem name' hn)
    · obtain rfl := List.mem_singleton.mp hn
      rw [← hkey, ho]
      exact List.mem_map_of_mem (mem_upsertOwner_self owner c.owners)

end ConfigMap

/-! ### What happens to a cluster -/

/-- Something that happens to a cluster in which passes are made. -/
inductive Episode where
  /-- A pass is made, and cancelled after a number of calls or never. -/
  | pass (ctx : Context) (ns name : String) (callsLeft : Option Nat)
  /-- A ReplicaSet is added, or made anew under its old name. -/
  | addReplicaSet (rs : ReplicaSet)
  /-- A ConfigMap is touched. -/
  | touch (k : ObjectKey)
  /-- Faults are set. -/
  | setFaults (f : Faults)

namespace Sample

/-- The key of the ConfigMap that both ReplicaSets of the small cluster mount. -/
def appConfigKey : ObjectKey := ⟨"default", "app-config"⟩

/-- A pass over `app-rs`. -/
def pass (dryRun : Bool) (callsLeft : Option Nat) : Episode :=
  .pass (context dryRun) "default" "app-rs" callsLeft

/-- `app-rs` is linked, made anew, and linked again, with passes in between that are cancelled or
change nothing. -/
def episodes : List Episode :=
  [pass false (some 2), .touch appConfigKey, pass false none,
    .addReplicaSet (replicaSet "app-rs" "u3" ["app-config"]), pass true none, pass false (some 1),
    pass false none]

end Sample

namespace Store

/-- The store after an episode. -/
def undergo (s : Store) : Episode → Store
  | .pass ctx ns name callsLeft => ((Pass.reconcile ctx ns name).run callsLeft s).1
  | .addReplicaSet rs => s.addReplicaSet rs
  | .touch k => s.touch k
  | .setFaults f => { s with faults := f }

/-- The store after episodes in order. -/
def undergoAll (s : Store) (es : List Episode) : Store := es.foldl undergo s

/-- Whether the ConfigMap of a key is there and lists a ReplicaSet among its owners. -/
def listsOwner (s : Store) (k : ObjectKey) (rs : ReplicaSet) : Bool :=
  (s.configMap? k).any fun c => c.isOwnedBy rs

/-- The name of the ReplicaSet that an episode links to the ConfigMap of a key: that of a pass whose
ReplicaSet is listed afterwards and was not before. -/
def linkedName? (s : Store) (k : ObjectKey) : Episode → Option String
  | .pass ctx ns name callsLeft =>
    bif (s.replicaSets.get? ⟨ns, name⟩).any fun rs =>
        !s.listsOwner k rs && (s.undergo (.pass ctx ns name callsLeft)).listsOwner k rs then
      some name
    else none
  | _ => none

/-- The names of the ReplicaSets that episodes link to the ConfigMap of a key. -/
def linkedNames (s : Store) (k : ObjectKey) : List Episode → List String
  | [] => []
  | e :: es => (s.linkedName? k e).toList ++ (s.undergo e).linkedNames k es

variable {s t : Store} {k : ObjectKey} {c c' : ConfigMap} {e : Episode}

/-- Episodes in a row are undergone one part after the other. -/
lemma undergoAll_append (s : Store) (es es' : List Episode) :
    s.undergoAll (es ++ es') = (s.undergoAll es).undergoAll es' := List.foldl_append

/-- The names linked in episodes in a row are those of the first part and then of the second. -/
lemma linkedNames_append (s : Store) (k : ObjectKey) (es es' : List Episode) :
    s.linkedNames k (es ++ es') = s.linkedNames k es ++ (s.undergoAll es).linkedNames k es' := by
  induction es generalizing s with
  | nil => rfl
  | cons e es ih =>
    change (s.linkedName? k e).toList ++ (s.undergo e).linkedNames k (es ++ es') = _
    rw [ih, ← List.append_assoc]
    rfl

/-- Episodes lead from reachable stores to reachable stores. -/
lemma Reachable.undergo (hs : s.Reachable) (e : Episode) : (s.undergo e).Reachable := by
  cases e with
  | pass ctx ns name callsLeft => exact Pass.reachable_run hs _ _
  | addReplicaSet rs => exact hs.addReplicaSet rs
  | touch k => exact hs.touch k
  | setFaults f => exact hs.setFaults f

/-- Episodes lead from a reachable store to a reachable one. -/
lemma Reachable.undergoAll (hs : s.Reachable) (es : List Episode) :
    (s.undergoAll es).Reachable := by
  induction es generalizing s with
  | nil => exact hs
  | cons e es ih => exact ih (hs.undergo e)

/-! ### One episode -/

/-- What an episode does to the owners of the ConfigMap of a key. -/
inductive Undergone (s : Store) (k : ObjectKey) (e : Episode) : Prop
  /-- They stay. -/
  | kept (hlinked : s.linkedName? k e = none)
      (h : ((s.undergo e).configMap? k).map ConfigMap.owners =
        (s.configMap? k).map ConfigMap.owners)
  /-- A new record of a name is put among them. -/
  | linked {name : String} {c c' : ConfigMap} {owner : OwnerReference}
      (hlinked : s.linkedName? k e = some name) (hget : s.configMap? k = some c)
      (hget' : (s.undergo e).configMap? k = some c') (ho : c'.owners = upsertOwner owner c.owners)
      (hkey : owner.key = workloadOwnerKey name)
      (hnew : owner.subject ∉ c.owners.map OwnerReference.subject)

/-- A pass links its ReplicaSet to a ConfigMap, or keeps the owners. -/
lemma undergone_pass (hs : s.Consistent) (k : ObjectKey) (ctx : Context) (ns name : String)
    (callsLeft : Option Nat) : s.Undergone k (.pass ctx ns name callsLeft) := by
  have hkept : (s.undergo (.pass ctx ns name callsLeft)).configMap? k = s.configMap? k →
      s.Undergone k (.pass ctx ns name callsLeft) := by
    intro h
    refine .kept ?_ (congrArg _ h)
    simp [linkedName?, listsOwner, h]
  rcases (Pass.course_reconcile hs ctx ns name callsLeft).configMap?_cases k with
    h | ⟨rs, configMap, c, owner, version, hrs, hk, hun, ht⟩
  · exact hkept h
  · subst hk
    have ht' : (s.undergo (.pass ctx ns name callsLeft)).configMap? ⟨ns, configMap⟩ =
        some ((c.withOwner owner).withVersion version) := ht
    have howned : ((c.withOwner owner).withVersion version).isOwnedBy rs = true :=
      ConfigMap.withOwner_isOwnedBy hun.record c
    obtain ⟨rsName, _, hrsName, _, _⟩ := ReplicaSet.ownerRecord_eq_ok_iff.mp hun.record
    have hname : rsName = name := hs.replicaSet_name hrs hrsName
    subst hname
    refine .linked ?_ hun.stored ht' rfl (ReplicaSet.key_ownerRecord hun.record hrsName)
      (ConfigMap.subject_not_mem_of_not_owned hun.record hun.not_owned)
    simp [linkedName?, listsOwner, hrs, hun.stored, hun.not_owned, ht', howned]

/-- Every episode does one of the listed things. -/
lemma undergone (hs : s.Consistent) (k : ObjectKey) (e : Episode) : s.Undergone k e := by
  cases e with
  | pass ctx ns name callsLeft => exact undergone_pass hs k ctx ns name callsLeft
  | addReplicaSet rs => exact .kept rfl rfl
  | setFaults f => exact .kept rfl rfl
  | touch k' =>
    refine .kept rfl ?_
    change ((s.touch k').configMap? k).map _ = _
    rcases s.touch_cases k' with ⟨c, hget, htouch⟩ | ⟨_, hquiet⟩
    · rw [htouch, put_configMap?]
      split
      · next hk =>
        subst hk
        rw [hget]
        rfl
      · rfl
    · rw [hquiet.configMap?_eq]

/-- An episode lets the owners of a ConfigMap grow by the name that it links. -/
lemma Undergone.grownFrom (h : s.Undergone k e) (hget' : (s.undergo e).configMap? k = some c') :
    ∃ c, s.configMap? k = some c ∧ ∀ {c₀ : ConfigMap} {names : List String},
      c₀.GrownFrom c names → c₀.GrownFrom c' (names ++ (s.linkedName? k e).toList) := by
  cases h with
  | kept hlinked howners =>
    rw [hget', Option.map_some] at howners
    obtain ⟨c, hget, ho⟩ := Option.map_eq_some_iff.mp howners.symm
    refine ⟨c, hget, fun hgrown => ?_⟩
    rw [hlinked, Option.toList_none, List.append_nil]
    exact hgrown.congr ho.symm
  | @linked name c c'' owner hlinked hget hget'' ho hkey hnew =>
    obtain rfl := Option.some.inj (hget'.symm.trans hget'')
    refine ⟨c, hget, fun hgrown => ?_⟩
    rw [hlinked, Option.toList_some]
    exact hgrown.linked ho hkey hnew

/-! ### Many episodes -/

/-- Episodes let distinct owners of a ConfigMap grow by the names that they link. -/
lemma grownFrom_undergoAll (hs : s.Reachable)
    (hd : ∀ c, s.configMap? k = some c → c.OwnersDistinct) (es : List Episode)
    (hget' : (s.undergoAll es).configMap? k = some c') :
    ∃ c, s.configMap? k = some c ∧ c.GrownFrom c' (s.linkedNames k es) := by
  induction es using List.reverseRecOn generalizing c' with
  | nil => exact ⟨c', hget', (hd c' hget').grownFrom⟩
  | append_singleton es e ih =>
    rw [undergoAll_append] at hget'
    have hlast : (s.undergoAll es).linkedNames k [e] =
        ((s.undergoAll es).linkedName? k e).toList := List.append_nil _
    obtain ⟨c, hget, hstep⟩ :=
      (undergone (hs.undergoAll es).consistent k e).grownFrom hget'
    obtain ⟨c₀, hget₀, hgrown⟩ := ih hget
    refine ⟨c₀, hget₀, ?_⟩
    rw [linkedNames_append, hlast]
    exact hstep hgrown

/-- **Owner lists.**  Take a store in which no ConfigMap has two owners of the same kind, name and
uid.  Whatever passes are made then and however they end, whatever ReplicaSets are added or made
anew, whatever ConfigMaps are touched and faults set: no ConfigMap has two such owners afterwards
either, and none has more owners than it had before and one for each ReplicaSet name that was linked
to it. -/
theorem ownerLists_undergoAll (hs : s.Reachable)
    (hd : ∀ k c, s.configMap? k = some c → c.OwnersDistinct) (es : List Episode) :
    ∀ k c', (s.undergoAll es).configMap? k = some c' → c'.OwnersDistinct ∧
      ∃ c, s.configMap? k = some c ∧
        c'.owners.length ≤ c.owners.length + (s.linkedNames k es).toFinset.card := by
  intro k c' hget'
  obtain ⟨c, hget, hgrown⟩ := grownFrom_undergoAll hs (hd k) es hget'
  exact ⟨hgrown.distinct, c, hget, hgrown.length_le⟩

/-- The record of a ReplicaSet that is made anew takes the place of the old one: two passes linked
`app-rs` to `app-config`, which has one owner. -/
theorem ownerLists_undergoAll_app_config :
    Sample.store.linkedNames Sample.appConfigKey Sample.episodes = ["app-rs", "app-rs"] ∧
      ((Sample.store.undergoAll Sample.episodes).configMap? Sample.appConfigKey).isSome ∧
      ∀ c, (Sample.store.undergoAll Sample.episodes).configMap? Sample.appConfigKey = some c →
        c.OwnersDistinct ∧ c.owners.length ≤ 1 := by
  have hd : ∀ k c, Sample.store.configMap? k = some c → c.OwnersDistinct := by
    intro k c hget
    unfold Sample.store at hget
    rw [addConfigMap_eq_put, put_configMap?, addConfigMap_eq_put, put_configMap?] at hget
    split at hget
    · obtain rfl := Option.some.inj hget
      exact List.nodup_singleton _
    · split at hget
      · obtain rfl := Option.some.inj hget
        exact List.nodup_nil
      · exact nomatch hget
  have hlinked : Sample.store.linkedNames Sample.appConfigKey Sample.episodes =
      ["app-rs", "app-rs"] := by
    simp only [Sample.episodes, Sample.pass, linkedNames, linkedName?, undergo,
      Pass.reconcile_eq_compared]
    decide +kernel
  have hbefore : (Sample.store.configMap? Sample.appConfigKey).map (fun c => c.owners.length) =
      some 0 := by decide +kernel
  have hthere :
      ((Sample.store.undergoAll Sample.episodes).configMap? Sample.appConfigKey).isSome := by
    simp only [undergoAll, List.foldl, Sample.episodes, Sample.pass, undergo,
      Pass.reconcile_eq_compared]
    decide +kernel
  refine ⟨hlinked, hthere, fun c hget => ?_⟩
  obtain ⟨hdistinct, c₀, hget₀, hle⟩ :=
    ownerLists_undergoAll Sample.reachable_store hd Sample.episodes _ c hget
  rw [hget₀, Option.map_some, Option.some.injEq] at hbefore
  rw [hlinked, hbefore] at hle
  exact ⟨hdistinct, hle⟩

end Store

end MountOwnership
