import MountOwnership.Proofs.Cluster.Copies

/-!
# Runs of a store

What happens to a store is a list of operations: objects are added, ConfigMaps are touched,
calls are made with any arguments, and faults are set (`Store.afterAll`).  An operation
writes a ConfigMap if it adds it, touches it, or replaces it and is carried out
(`Store.Writes`), and every operation either keeps all ConfigMaps or puts a single one into
the store (`Store.operated`).

Versions tell exactly whether a ConfigMap was written since it was read.  A replace on the
ground of a copy, however edited, is carried out if and only if it was not; otherwise it is
a conflict (`Store.replace_accepted_iff_unwritten`).
-/

namespace MountOwnership

/-- Something that happens to a store. -/
inductive Operation where
  /-- A ReplicaSet is added. -/
  | addReplicaSet (rs : ReplicaSet)
  /-- A ConfigMap is added. -/
  | addConfigMap (c : ConfigMap)
  /-- A ConfigMap is touched. -/
  | touch (k : ObjectKey)
  /-- A call is made. -/
  | call (c : Call)
  /-- Faults are set. -/
  | setFaults (f : Faults)

/-- A ConfigMap is an edited copy of another one: all but the namespace, the name and the version
may differ. -/
structure ConfigMap.Edits (copy c : ConfigMap) : Prop where
  ns_eq : copy.metadata.ns = c.metadata.ns
  name_eq : copy.metadata.name = c.metadata.name
  resourceVersion_eq : copy.metadata.resourceVersion = c.metadata.resourceVersion

namespace Store

/-- The store after an operation. -/
def operate (s : Store) : Operation → Store
  | .addReplicaSet rs => s.addReplicaSet rs
  | .addConfigMap c => s.addConfigMap c
  | .touch k => s.touch k
  | .call c => (s.perform c).1
  | .setFaults f => { s with faults := f }

/-- The store after operations in order. -/
def afterAll (s : Store) (ops : List Operation) : Store := ops.foldl operate s

/-- An operation writes the ConfigMap of a key. -/
inductive Writes (s : Store) (k : ObjectKey) : Operation → Prop
  | add {c : ConfigMap} (hk : c.metadata.storeKey = k) : Writes s k (.addConfigMap c)
  | touch : Writes s k (.touch k)
  | replace {c written : ConfigMap} (hk : c.metadata.key = .ok k)
      (h : (s.replaceConfigMap c).2 = .ok written) : Writes s k (.call (.replaceConfigMap c))

/-- One of the operations writes the ConfigMap of a key. -/
def WrittenBy (s : Store) (k : ObjectKey) : List Operation → Prop
  | [] => False
  | op :: ops => s.Writes k op ∨ (s.operate op).WrittenBy k ops

variable {s t : Store} {k : ObjectKey} {c copy : ConfigMap} {n : Nat} {op : Operation}
  {ops : List Operation}

/-- Operations in a row are done one part after the other. -/
lemma afterAll_append (s : Store) (ops ops' : List Operation) :
    s.afterAll (ops ++ ops') = (s.afterAll ops).afterAll ops' := List.foldl_append

/-- Operations lead from reachable stores to reachable stores. -/
lemma Reachable.operate (hs : s.Reachable) (op : Operation) : (s.operate op).Reachable := by
  cases op with
  | addReplicaSet rs => exact hs.addReplicaSet rs
  | addConfigMap c => exact hs.addConfigMap c
  | touch k => exact hs.touch k
  | call c => exact hs.perform c
  | setFaults f => exact hs.setFaults f

/-- Operations lead from a reachable store to a reachable one. -/
lemma Reachable.afterAll (hs : s.Reachable) (ops : List Operation) :
    (s.afterAll ops).Reachable := by
  induction ops generalizing s with
  | nil => exact hs
  | cons op ops ih => exact ih (hs.operate op)

/-! ### One operation -/

/-- What an operation does to the ConfigMaps of a store. -/
inductive Operated (s : Store) (op : Operation) (t : Store) : Prop
  /-- All are as before, and the operation was to write none of them. -/
  | kept (hmaps : t.configMaps = s.configMaps) (hv : s.version ≤ t.version)
      (hw : ∀ k, s.Writes k op → s.configMap? k = none)
  /-- One is put into the store, and it is the one that the operation was to write. -/
  | put {k : ObjectKey} {c : ConfigMap} (hmaps : t.configMaps = (s.put k c).configMaps)
      (hv : t.version = s.version + 1) (hw : ∀ k', s.Writes k' op ↔ k' = k)

/-- Calls that leave the ConfigMaps alone write none. -/
lemma operated_of_quiet {call : Call} (h : s.Quiet t) (hw : ∀ k, ¬ s.Writes k (.call call)) :
    s.Operated (.call call) t :=
  .kept h.configMaps_eq h.version_le fun k hk => absurd hk (hw k)

/-- Every operation does one of the listed things. -/
lemma operated (s : Store) (op : Operation) : s.Operated op (s.operate op) := by
  cases op with
  | addReplicaSet rs => exact .kept rfl (Nat.le_refl _) fun k hk => nomatch hk
  | setFaults f => exact .kept rfl (Nat.le_refl _) fun k hk => nomatch hk
  | addConfigMap c =>
    refine .put (k := c.metadata.storeKey) rfl rfl fun k => ⟨?_, ?_⟩
    · rintro ⟨hk⟩
      exact hk.symm
    · rintro rfl
      exact .add rfl
  | touch k =>
    rcases s.touch_cases k with ⟨c, _, htouch⟩ | ⟨hno, hquiet⟩
    · refine .put (k := k) (c := c) (congrArg configMaps htouch) (congrArg version htouch)
        fun k' => ⟨?_, ?_⟩
      · rintro ⟨⟩
        rfl
      · rintro rfl
        exact .touch
    · refine .kept hquiet.configMaps_eq hquiet.version_le fun k' hk => ?_
      cases hk
      exact hno
  | call call =>
    cases call with
    | readReplicaSet k => exact operated_of_quiet (s.quiet_readReplicaSet k) fun k hk => nomatch hk
    | readConfigMap k => exact operated_of_quiet (s.quiet_readConfigMap k) fun k hk => nomatch hk
    | replaceConfigMap copy =>
      change s.Operated (.call (.replaceConfigMap copy)) (s.replaceConfigMap copy).1
      rcases (s.replaced copy).quiet_or_overwrite with ⟨hquiet, hno⟩ | ⟨k, hk, ht, ha⟩
      · refine operated_of_quiet hquiet fun k hk => ?_
        cases hk with
        | replace _ h => exact hno _ h
      · rw [ht]
        refine .put (k := k) (c := copy) rfl rfl fun k' => ⟨fun h => ?_, ?_⟩
        · cases h with
          | replace hk' _ => exact Except.ok.inj (hk'.symm.trans hk)
        · rintro rfl
          exact .replace hk ha

/-- Versions are never taken back. -/
lemma version_le_operate (s : Store) (op : Operation) : s.version ≤ (s.operate op).version := by
  cases s.operated op with
  | kept _ hv _ => exact hv
  | put _ hv _ => omega

/-- An operation that does not write a ConfigMap keeps it. -/
lemma configMap?_operate (h : ¬ s.Writes k op) : (s.operate op).configMap? k = s.configMap? k := by
  cases s.operated op with
  | kept hmaps _ _ => exact congrArg (·.get? k) hmaps
  | put hmaps _ hw =>
    refine (congrArg (·.get? k) hmaps).trans ((s.put_configMap? _ k _).trans (if_neg ?_))
    exact fun hk => h ((hw k).mpr hk.symm)

/-- An operation that writes a ConfigMap that is there gives it a version after all that were given
out. -/
lemma newerThan_operate (h : s.Writes k op) (hget : s.configMap? k = some c)
    (hn : n ≤ s.version) : (s.operate op).NewerThan k n := by
  cases s.operated op with
  | kept _ _ hw => exact nomatch (hw k h).symm.trans hget
  | @put k' c' hmaps _ hw =>
    obtain rfl := (hw k).mp h
    obtain ⟨stored, m, hstored, hv, hlt⟩ := newerThan_put hn k c'
    exact ⟨stored, m, (congrArg (·.get? k) hmaps).trans hstored, hv, hlt⟩

/-- A newer version is followed by newer versions only. -/
lemma NewerThan.operate (h : s.NewerThan k n) (hn : n ≤ s.version) (op : Operation) :
    (s.operate op).NewerThan k n := by
  obtain ⟨stored, m, hget, hv, hlt⟩ := h
  by_cases hw : s.Writes k op
  · exact newerThan_operate hw hget hn
  · exact ⟨stored, m, (configMap?_operate hw).trans hget, hv, hlt⟩

/-! ### Operations in order -/

/-- Operations never lower the version counter. -/
lemma version_le_afterAll (s : Store) (ops : List Operation) :
    s.version ≤ (s.afterAll ops).version := by
  induction ops generalizing s with
  | nil => exact Nat.le_refl _
  | cons op ops ih => exact Nat.le_trans (s.version_le_operate op) (ih (s.operate op))

/-- A ConfigMap that is newer than a version that was given out stays newer. -/
lemma NewerThan.afterAll (h : s.NewerThan k n) (hn : n ≤ s.version) (ops : List Operation) :
    (s.afterAll ops).NewerThan k n := by
  induction ops generalizing s with
  | nil => exact h
  | cons op ops ih => exact ih (h.operate hn op) (Nat.le_trans hn (s.version_le_operate op))

/-- A ConfigMap that no operation writes is kept. -/
lemma configMap?_afterAll (h : ¬ s.WrittenBy k ops) :
    (s.afterAll ops).configMap? k = s.configMap? k := by
  induction ops generalizing s with
  | nil => rfl
  | cons op ops ih =>
    obtain ⟨hfirst, hrest⟩ := not_or.mp h
    exact (ih hrest).trans (configMap?_operate hfirst)

/-- A ConfigMap that is there and that one of the operations writes carries a newer version
afterwards. -/
lemma newerThan_afterAll (h : s.WrittenBy k ops) (hget : s.configMap? k = some c)
    (hn : n ≤ s.version) : (s.afterAll ops).NewerThan k n := by
  induction ops generalizing s with
  | nil => exact h.elim
  | cons op ops ih =>
    have hn' : n ≤ (s.operate op).version := Nat.le_trans hn (s.version_le_operate op)
    by_cases hw : s.Writes k op
    · exact (newerThan_operate hw hget hn).afterAll hn' ops
    · exact ih (h.resolve_left hw) ((configMap?_operate hw).trans hget) hn'

/-- Within a run, no ConfigMap has carried a version that was not given out yet. -/
lemma version_fresh {earlier : List Operation} (hs : s.Reachable) (h : earlier <+: ops)
    (hget : (s.afterAll earlier).configMap? k = some c) :
    c.metadata.resourceVersion ≠ some (versionText ((s.afterAll ops).version + 1)) := by
  obtain ⟨later, rfl⟩ := h
  obtain ⟨m, _, hle, hv⟩ := (hs.afterAll earlier).consistent.configMap_version hget
  have hlater := (s.afterAll earlier).version_le_afterAll later
  rw [afterAll_append]
  intro heq
  have hm := versionText_injective (Option.some.inj (hv.symm.trans heq))
  omega

/-! ### Replaces on the ground of a copy -/

/-- A copy of a ConfigMap was read from a consistent store, edited, and is to be written later,
where replaces are answered. -/
structure Returns (s : Store) (k : ObjectKey) (c copy : ConfigMap) (t : Store) : Prop where
  consistent : s.Consistent
  read : s.configMap? k = some c
  edits : copy.Edits c
  ns_isSome : copy.metadata.ns.isSome
  name_isSome : copy.metadata.name.isSome
  writable : t.Writable

namespace Returns

/-- A copy that a look-up returns belongs under the key that was looked up. -/
lemma storeKey_eq (h : s.Returns k c copy t) : copy.metadata.storeKey = k := by
  rw [← h.consistent.configMap_key h.read]
  unfold Metadata.storeKey
  rw [h.edits.ns_eq, h.edits.name_eq]

/-- So it has that key, and a replace with it is about the ConfigMap that was looked up. -/
lemma key_eq (h : s.Returns k c copy t) : copy.metadata.key = .ok k := by
  rw [← h.storeKey_eq]
  exact Metadata.key_of_isSome h.ns_isSome h.name_isSome

/-- If nothing wrote the ConfigMap, the copy is written. -/
lemma accepted (h : s.Returns k c copy (s.afterAll ops)) (hw : ¬ s.WrittenBy k ops) :
    (s.afterAll ops).replaceConfigMap copy =
      ((s.afterAll ops).overwrite k copy,
        .ok (copy.withVersion (some (versionText ((s.afterAll ops).version + 1))))) :=
  h.writable.perform_replaceConfigMap h.key_eq ((configMap?_afterAll hw).trans h.read)
    h.edits.resourceVersion_eq

/-- If something wrote the ConfigMap, the copy conflicts, and the objects are as before. -/
lemma refused (h : s.Returns k c copy (s.afterAll ops)) (hw : s.WrittenBy k ops) :
    (s.afterAll ops).Quiet ((s.afterAll ops).replaceConfigMap copy).1 ∧
      ∃ message, ((s.afterAll ops).replaceConfigMap copy).2 = .failed (.conflict message) := by
  obtain ⟨n, _, hle, hv⟩ := h.consistent.configMap_version h.read
  have hnew := newerThan_afterAll hw h.read hle
  obtain ⟨hquiet, hrefusal⟩ := hnew.refused h.storeKey_eq (h.edits.resourceVersion_eq.trans hv)
    (Option.isSome_iff_ne_none.mp h.name_isSome) ((s.afterAll ops).replaced copy)
  unfold Refusal at hrefusal
  rw [if_neg (Option.isSome_iff_ne_none.mp h.ns_isSome),
    if_neg (by simp [h.writable.not_stallReplaces])] at hrefusal
  exact ⟨hquiet, hrefusal⟩

end Returns

/-- **Exact concurrency.**  In the course of any run, a ConfigMap is read, and later an edited copy
of it, with a namespace and a name, is to replace it, where replaces are answered.  It does if and
only if no operation in between wrote the ConfigMap.  Otherwise this is a conflict, and every object
stays as it is.  If it does, it is stored as it was passed, under a version that no ConfigMap of the
run ever carried. -/
theorem replace_accepted_iff_unwritten {before between : List Operation}
    (hread : (({} : Store).afterAll before).perform (.readConfigMap k) = (t, .ok (some c)))
    (hcopy : copy.Edits c) (hns : copy.metadata.ns.isSome) (hname : copy.metadata.name.isSome)
    (hw : (({} : Store).afterAll (before ++ .call (.readConfigMap k) :: between)).Writable) :
    let run := before ++ .call (.readConfigMap k) :: between
    let s := ({} : Store).afterAll run
    ((∃ stored, (s.replaceConfigMap copy).2 = .ok stored) ↔ ¬ t.WrittenBy k between) ∧
    ((¬ ∃ stored, (s.replaceConfigMap copy).2 = .ok stored) →
      s.Quiet (s.replaceConfigMap copy).1 ∧
        ∃ message, (s.replaceConfigMap copy).2 = .failed (.conflict message)) ∧
    ∀ stored, (s.replaceConfigMap copy).2 = .ok stored →
      (s.replaceConfigMap copy).1.configMap? k = some stored ∧
      ∃ v, stored = copy.withVersion (some v) ∧
        ∀ earlier, earlier <+: run → ∀ k' c',
          (({} : Store).afterAll earlier).configMap? k' = some c' →
          c'.metadata.resourceVersion ≠ some v := by
  intro run s
  have hbefore : (({} : Store).afterAll before).Reachable := Reachable.empty.afterAll before
  obtain ⟨_, rfl, hget⟩ := perform_readConfigMap_eq_ok_iff.mp hread
  have hs : s = (({} : Store).afterAll before).afterAll between := by
    refine (afterAll_append _ _ _).trans ?_
    exact congrArg (·.afterAll between) (congrArg Prod.fst hread)
  have hreturns : (({} : Store).afterAll before).Returns k c copy
      ((({} : Store).afterAll before).afterAll between) :=
    ⟨hbefore.consistent, hget.symm, hcopy, hns, hname, hs ▸ hw⟩
  by_cases hwritten : (({} : Store).afterAll before).WrittenBy k between
  · obtain ⟨hquiet, message, hconflict⟩ := hreturns.refused hwritten
    rw [← hs] at hquiet hconflict
    have hno : ∀ stored, (s.replaceConfigMap copy).2 ≠ .ok stored := by
      intro stored hok
      exact nomatch hconflict.symm.trans hok
    refine ⟨⟨fun ⟨stored, hok⟩ => absurd hok (hno stored), fun h => absurd hwritten h⟩,
      fun _ => ⟨hquiet, message, hconflict⟩, fun stored hok => absurd hok (hno stored)⟩
  · have haccepted := hreturns.accepted hwritten
    rw [← hs] at haccepted
    have hanswer := congrArg Prod.snd haccepted
    refine ⟨⟨fun _ => hwritten, fun _ => ⟨_, hanswer⟩⟩, fun h => absurd ⟨_, hanswer⟩ h, ?_⟩
    intro stored hok
    obtain rfl : copy.withVersion _ = stored := Answer.ok.inj (hanswer.symm.trans hok)
    refine ⟨?_, _, rfl, fun earlier hprefix k' c' hget' => ?_⟩
    · rw [haccepted]
      exact (put_configMap? _ k k copy).trans (if_pos rfl)
    · exact version_fresh Reachable.empty hprefix hget'

end Store

/-! ### A ConfigMap that is read and written -/

namespace Sample

/-- A ConfigMap with texts and a version. -/
def textConfigMap (text : String) (version : Option String) : ConfigMap where
  metadata := { ns := some "default", name := some "app-config", resourceVersion := version }
  data := some [("mode", text)]

/-- Its key. -/
def textKey : ObjectKey := ⟨"default", "app-config"⟩

/-- It is added and read, and then something else happens. -/
def readAnd (between : List Operation) : List Operation :=
  [.addConfigMap (textConfigMap "slow" none)] ++ .call (.readConfigMap textKey) :: between

end Sample

namespace Store

/-- An edited copy of `app-config` is written although a replace was refused since it was read, and
conflicts if `app-config` was touched. -/
theorem replace_accepted_iff_unwritten_app_config :
    let refused := Operation.call (.replaceConfigMap (Sample.textConfigMap "idle" (some "7")))
    let copy := Sample.textConfigMap "fast" (some "1")
    (∃ stored, ((({} : Store).afterAll (Sample.readAnd [refused])).replaceConfigMap copy).2 =
      .ok stored) ∧
    ∃ message, ((({} : Store).afterAll
      (Sample.readAnd [refused, .touch Sample.textKey])).replaceConfigMap copy).2 =
        .failed (.conflict message) := by
  intro refused copy
  let t : Store := ({} : Store).afterAll [.addConfigMap (Sample.textConfigMap "slow" none)]
  have hread : t.perform (.readConfigMap Sample.textKey) =
      (t, .ok (some (Sample.textConfigMap "slow" (some "1")))) := by cbv
  have hcopy : copy.Edits (Sample.textConfigMap "slow" (some "1")) := ⟨rfl, rfl, rfl⟩
  have hanswer : (t.replaceConfigMap (Sample.textConfigMap "idle" (some "7"))).2 =
      .failed (Store.conflict "app-config" "the object has been modified") := rfl
  have hrefused : ¬ t.Writes Sample.textKey
      (.call (.replaceConfigMap (Sample.textConfigMap "idle" (some "7")))) := by
    intro h
    cases h with
    | replace _ h => cases hanswer.symm.trans h
  have hwritable : (({} : Store).afterAll (Sample.readAnd [refused])).Writable :=
    ⟨by cbv, by cbv⟩
  have hwritable' :
      (({} : Store).afterAll (Sample.readAnd [refused, .touch Sample.textKey])).Writable :=
    ⟨by cbv, by cbv⟩
  constructor
  · refine (replace_accepted_iff_unwritten hread hcopy rfl rfl hwritable).1.mpr ?_
    rintro (h | h)
    · exact hrefused h
    · exact h
  · have hraced := replace_accepted_iff_unwritten hread hcopy rfl rfl hwritable'
    exact (hraced.2.1 fun haccepted => hraced.1.mp haccepted (Or.inr (Or.inl .touch))).2

end Store

end MountOwnership
