import MountOwnership.Proofs.Crew.Moves
import MountOwnership.Proofs.Pass.Effect

/-!
# No update is lost

The owners of a ConfigMap are at every moment what the commits on it have made of
the owners it had at first, each putting its record among them, in the order of the
commits.  A write that rests on a copy which others have outdated is refused and
changes no object.  Both are said by `Crew.no_lost_update`.
-/

namespace MountOwnership

namespace Store

variable {s t : Store} {k : ObjectKey}

/-- The owners of the ConfigMap of a key; an absent one has none. -/
def ownersAt (s : Store) (k : ObjectKey) : List OwnerReference :=
  ((s.configMap? k).map ConfigMap.owners).getD []

/-- What is only noted changes no owners. -/
lemma Quiet.ownersAt_eq (h : s.Quiet t) (k : ObjectKey) : t.ownersAt k = s.ownersAt k := by
  unfold ownersAt
  rw [h.configMap?_eq]

/-- A ConfigMap that is stored brings its owners along. -/
lemma ownersAt_put (s : Store) (k k' : ObjectKey) (c : ConfigMap) :
    (s.put k c).ownersAt k' = if k = k' then c.owners else s.ownersAt k' := by
  unfold ownersAt
  rw [put_configMap?]
  split
  · rfl
  · rfl

/-- The owners at a key are those of the ConfigMap that is stored there. -/
lemma ownersAt_of_get {c : ConfigMap} (hget : s.configMap? k = some c) :
    s.ownersAt k = c.owners := by
  unfold ownersAt
  rw [hget]
  rfl

/-- A touch changes no owners. -/
lemma ownersAt_touch (s : Store) (k k' : ObjectKey) : (s.touch k).ownersAt k' = s.ownersAt k' := by
  rcases s.touch_cases k with ⟨c, hget, htouch⟩ | ⟨_, hquiet⟩
  · rw [htouch, ownersAt_put]
    split
    · next hk =>
      subst hk
      exact (ownersAt_of_get hget).symm
    · rfl
  · exact hquiet.ownersAt_eq k'

/-- A replace that puts a record among the owners changes these owners and no others. -/
lemma ownersAt_overwrite {c : ConfigMap} (hget : s.configMap? k = some c)
    (owner : OwnerReference) (k' : ObjectKey) :
    (s.overwrite k (c.withOwner owner)).ownersAt k' =
      if k = k' then upsertOwner owner (s.ownersAt k') else s.ownersAt k' := by
  unfold overwrite
  rw [ownersAt_put, (s.quiet_noted k.name).ownersAt_eq]
  split
  · next hk =>
    subst hk
    rw [ownersAt_of_get hget]
    rfl
  · rfl

end Store

namespace Sample

/-- Passes over two ReplicaSets that share a ConfigMap. -/
def crew : Crew :=
  .start store [⟨context false, "default", "app-rs"⟩, ⟨context false, "default", "other-rs"⟩]

/-- The same passes where replaces never complete. -/
def stallingCrew : Crew := { crew with store := { store with faults := { stallReplaces := true } } }

/-- What a pass makes of the ConfigMap that both share, as it is at first. -/
def copy (name uid : String) : ConfigMap :=
  (configMap "app-config" (some [record name uid])).withVersion (some "1")

/-- The key of that ConfigMap. -/
def key : ObjectKey := ⟨"default", "app-config"⟩

/-- A pass where no object has a namespace. -/
def unplacedCrew : Crew :=
  .start
    (({} : Store)
      |>.addReplicaSet { replicaSet "app-rs" "u1" ["app-config"] with
          metadata := { (replicaSet "app-rs" "u1" []).metadata with ns := none } }
      |>.addConfigMap { metadata := { name := some "app-config" } })
    [⟨context false, "", "app-rs"⟩]

/-- What that pass makes of the ConfigMap. -/
def unplacedCopy : ConfigMap where
  metadata :=
    { name := some "app-config"
      resourceVersion := some "1"
      ownerReferences := some [record "app-rs" "u1"] }

end Sample

/-- The pass of a job, with the names that it mounts told apart by comparing them. -/
lemma Job.start_eq_compared : Job.start = fun j => Pass.compared j.context j.ns j.name :=
  funext fun j => Pass.reconcile_eq_compared j.context j.ns j.name

namespace Crew

variable {w v : Crew} {jobs : List Job} {m : Move} {commit : Option (Nat × ObjectKey)}
  {k : ObjectKey} {i : Nat}

/-! ### Owners -/

/-- The records that commits put among the owners of a ConfigMap. -/
def recordsOn (jobs : List Job) (s : Store) (k : ObjectKey) (commits : List (Nat × ObjectKey)) :
    List OwnerReference :=
  commits.filterMap fun e => if e.2 = k then jobs[e.1]?.bind fun j => j.record? s else none

/-- A later store gives jobs the same records, as its ReplicaSets are the same. -/
lemma recordsOn_later {s t : Store} (h : s.Later t) (jobs : List Job) (k : ObjectKey) :
    recordsOn jobs t k = recordsOn jobs s k := by
  unfold recordsOn
  simp only [Job.record?_later _ h]

/-- A move puts the record of its commit among the owners of the ConfigMap, and changes no
others. -/
lemma Moved.ownersAt_eq (h : w.Moved jobs m commit v) (k : ObjectKey) :
    v.store.ownersAt k = (recordsOn jobs w.store k commit.toList).foldl
      (fun owners owner => upsertOwner owner owners) (w.store.ownersAt k) := by
  cases h with
  | touch k' => exact w.store.ownersAt_touch k' k
  | idle => rfl
  | @turn i _ _ j _ _ _ hj h =>
    cases h with
    | quiet h _ => exact h.ownersAt_eq k
    | @commit k' c owner _ hget hr _ =>
      rw [Store.ownersAt_overwrite hget]
      by_cases hk : k' = k
      · simp [recordsOn, hk, hj, hr]
      · simp [recordsOn, hk]

/-- Owners are what the commits make of those at first. -/
lemma Manned.ownersAt_after (hw : w.Manned jobs) (moves : List Move) (k : ObjectKey) :
    (w.after moves).store.ownersAt k = (recordsOn jobs w.store k (w.commits moves)).foldl
      (fun owners owner => upsertOwner owner owners) (w.store.ownersAt k) := by
  induction moves generalizing w with
  | nil => rfl
  | cons m moves ih =>
    have hmoved := hw.moved m
    have hsplit : recordsOn jobs w.store k (w.commits (m :: moves)) =
        recordsOn jobs w.store k (w.commit? m).toList ++
          recordsOn jobs w.store k ((w.move m).commits moves) :=
      List.filterMap_append
    rw [hsplit, List.foldl_append, ← hmoved.ownersAt_eq k, ← recordsOn_later hmoved.later]
    exact ih (hmoved.manned hw)

/-- A commit is one of a job whose ReplicaSet has a record. -/
lemma Moved.record_of_commit (h : w.Moved jobs m commit v) : ∀ e ∈ commit.toList,
    ∃ (j : Job) (owner : OwnerReference), jobs[e.1]? = some j ∧ j.record? w.store = some owner := by
  intro e he
  cases h with
  | touch k => exact absurd he List.not_mem_nil
  | idle => exact absurd he List.not_mem_nil
  | @turn i _ _ j _ _ _ hj h =>
    cases h with
    | quiet => exact absurd he List.not_mem_nil
    | commit _ hr _ =>
      obtain rfl := List.mem_singleton.mp he
      exact ⟨j, _, hj, hr⟩

/-- Every commit is one of a job whose ReplicaSet has a record. -/
lemma Manned.record_of_commit (hw : w.Manned jobs) (moves : List Move) : ∀ e ∈ w.commits moves,
    ∃ (j : Job) (owner : OwnerReference), jobs[e.1]? = some j ∧ j.record? w.store = some owner := by
  induction moves generalizing w with
  | nil => exact fun e he => absurd he List.not_mem_nil
  | cons m moves ih =>
    intro e he
    have hmoved := hw.moved m
    rcases List.mem_append.mp he with he | he
    · exact hmoved.record_of_commit e he
    · obtain ⟨j, owner, hj, hr⟩ := ih (hmoved.manned hw) e he
      rw [j.record?_later hmoved.later] at hr
      exact ⟨j, owner, hj, hr⟩

/-! ### Outdated copies -/

/-- A pass looked up a ConfigMap and took no turn since; it is about to write the ConfigMap that it
found, but others touched or committed it in between. -/
structure Outdated (w : Crew) (before between : List Move) (i : Nat) (k : ObjectKey)
    (copy : ConfigMap) : Prop where
  read : ∃ next, (w.after before).passes[i]? = some (.call (.readConfigMap k) next)
  waits : Move.call i ∉ between
  writes : ∃ next, (w.after (before ++ .call i :: between)).passes[i]? =
    some (.call (.replaceConfigMap copy) next)
  written : Move.touch k ∈ between ∨
    ∃ other, (other, k) ∈ (w.after (before ++ [.call i])).commits between

/-- A commit stores its ConfigMap under a newer version. -/
lemma Moved.newerThan_of_commit {n other : Nat} (h : w.Moved jobs m commit v)
    (hn : n ≤ w.store.version) (hk : (other, k) ∈ commit.toList) : v.store.NewerThan k n := by
  cases h with
  | touch k' => exact absurd hk List.not_mem_nil
  | idle => exact absurd hk List.not_mem_nil
  | turn _ _ h =>
    cases h with
    | quiet => exact absurd hk List.not_mem_nil
    | @commit k' _ _ _ _ _ _ =>
      obtain rfl : k = k' := congrArg Prod.snd (List.mem_singleton.mp hk)
      exact Store.newerThan_put hn k _

/-- A ConfigMap that is touched or committed on the way carries a newer version at the end. -/
lemma Manned.newerThan_after (hw : w.Manned jobs) {c : ConfigMap} {n : Nat}
    (hget : w.store.configMap? k = some c) (hn : n ≤ w.store.version) (moves : List Move)
    (h : Move.touch k ∈ moves ∨ ∃ other, (other, k) ∈ w.commits moves) :
    (w.after moves).store.NewerThan k n := by
  induction moves generalizing w c with
  | nil =>
    rcases h with h | ⟨other, h⟩
    · exact absurd h List.not_mem_nil
    · exact absurd h List.not_mem_nil
  | cons m moves ih =>
    have hmoved := hw.moved m
    have hmanned := hmoved.manned hw
    have hn' : n ≤ (w.move m).store.version := Nat.le_trans hn hmoved.later.version_le
    obtain ⟨c', hget'⟩ : ∃ c', (w.move m).store.configMap? k = some c' := by
      rcases hmoved.later.configMap?_cases k with hkept | ⟨c', _, hget', _⟩
      · exact ⟨c, hkept.trans hget⟩
      · exact ⟨c', hget'⟩
    -- the ConfigMap is written by the first move, or by a later one
    have hfirst : (w.move m).store.NewerThan k n → (w.after (m :: moves)).store.NewerThan k n :=
      fun hnew => hnew.later hn' (hmanned.later moves)
    rcases h with h | ⟨other, h⟩
    · rcases List.mem_cons.mp h with rfl | h
      · refine hfirst ?_
        rcases w.store.touch_cases k with ⟨c, _, htouch⟩ | ⟨hno, _⟩
        · change (w.store.touch k).NewerThan k n
          rw [htouch]
          exact Store.newerThan_put hn k c
        · exact nomatch hget.symm.trans hno
      · exact ih hmanned hget' hn' (Or.inl h)
    · rcases List.mem_append.mp h with h | h
      · exact hfirst (hmoved.newerThan_of_commit hn h)
      · exact ih hmanned hget' hn' (Or.inr ⟨other, h⟩)

/-- A pass that takes no turn stays as it is. -/
lemma passes_after_of_not_mem (w : Crew) {moves : List Move} (h : Move.call i ∉ moves) :
    (w.after moves).passes[i]? = w.passes[i]? := by
  induction moves generalizing w with
  | nil => rfl
  | cons m moves ih =>
    rw [List.mem_cons, not_or] at h
    refine (ih (w.move m) h.2).trans ?_
    cases m with
    | touch k => rfl
    | call i' =>
      have hne : i' ≠ i := fun heq => h.1 (heq ▸ rfl)
      cases hi : w.passes[i']? with
      | none => rw [move_call_of_none hi]
      | some p =>
        rw [move_call hi]
        exact List.getElem?_set_ne hne

/-- The write of an outdated copy leaves the objects alone, and is refused. -/
lemma Manned.refused_of_outdated (hw : w.Manned jobs) {before between : List Move}
    {copy : ConfigMap} (h : w.Outdated before between i k copy) :
    (w.after (before ++ .call i :: between)).store.Quiet
        ((w.after (before ++ .call i :: between)).store.replaceConfigMap copy).1 ∧
      (w.after (before ++ .call i :: between)).store.Refusal copy
        ((w.after (before ++ .call i :: between)).store.replaceConfigMap copy).2 := by
  obtain ⟨⟨next, hread⟩, hwaits, ⟨next', hwrites⟩, hwritten⟩ := h
  have hbefore := hw.after before
  obtain ⟨j, _, hstage⟩ := hbefore.stage i _ hread
  have hmiddle : w.after (before ++ [.call i]) = (w.after before).move (.call i) := by
    rw [after_append]
    rfl
  have hend : w.after (before ++ .call i :: between) =
      (w.after (before ++ [.call i])).after between := by
    rw [← after_append, List.append_assoc, List.singleton_append]
  rw [hend] at hwrites ⊢
  rw [hmiddle] at hwrites hwritten ⊢
  -- the pass writes what it found by its look-up
  have hturn := hwrites
  rw [passes_after_of_not_mem _ hwaits, move_call hread] at hturn
  obtain ⟨hlt, _⟩ := List.getElem?_eq_some_iff.mp hread
  rw [List.getElem?_set_self hlt] at hturn
  obtain ⟨hstore, hname, c, owner, hget, rfl⟩ :=
    hstage.write_after_read (Option.some.inj hturn)
  -- and that carries an older version than what is stored now
  have hsame : ((w.after before).move (.call i)).store = (w.after before).store := by
    rw [move_call hread]
    exact hstore
  have hget' := hget
  rw [← hsame] at hget'
  have hmanned := (hbefore.moved (.call i)).manned hbefore
  obtain ⟨n, _, hle, hv⟩ := hmanned.consistent.configMap_version hget'
  have hnew := hmanned.newerThan_after hget' hle between hwritten
  have hkey : (c.withOwner owner).metadata.storeKey = k := by
    rw [ConfigMap.withOwner_storeKey]
    exact hmanned.consistent.configMap_key hget'
  refine hnew.refused hkey hv ?_ (Store.replaced _ _)
  intro hno
  refine hname ?_
  rw [← hkey]
  unfold Metadata.storeKey
  rw [hno]
  rfl

/-- **No lost update.**  Passes may take their turns in any order, with touches in between.  At
every moment the owners of a ConfigMap are those that it had at first, with the records of the
commits on it put among them one after the other; each of these is the record of the ReplicaSet
whose pass committed.  The write of a copy that others have outdated changes no object, and is
refused: as a conflict, unless the ConfigMap has no namespace or replaces never complete. -/
theorem no_lost_update {s : Store} (hs : s.Reachable) (jobs : List Job) (moves : List Move) :
    (∀ k, ((start s jobs).after moves).store.ownersAt k =
      (recordsOn jobs s k ((start s jobs).commits moves)).foldl
        (fun owners owner => upsertOwner owner owners) (s.ownersAt k)) ∧
    (∀ e ∈ (start s jobs).commits moves, ∃ (j : Job) (owner : OwnerReference),
      jobs[e.1]? = some j ∧ j.record? s = some owner) ∧
    ∀ before between i k copy, moves = before ++ .call i :: between →
      (start s jobs).Outdated before between i k copy →
      ((start s jobs).after moves).store.Quiet
          (((start s jobs).after moves).store.replaceConfigMap copy).1 ∧
        ((start s jobs).after moves).store.Refusal copy
          (((start s jobs).after moves).store.replaceConfigMap copy).2 := by
  have hw := manned_start hs.consistent jobs
  refine ⟨hw.ownersAt_after moves, hw.record_of_commit moves, ?_⟩
  rintro before between i k copy rfl h
  exact hw.refused_of_outdated h

/-- Two passes look up `app-config`; the first to write it commits, and the copy of the other is
refused. -/
theorem no_lost_update_app_config :
    (Sample.crew.after [.call 0, .call 0, .call 1, .call 1, .call 0]).store.ownersAt Sample.key =
      [Sample.record "app-rs" "u1"] ∧
    Sample.crew.Outdated [.call 0, .call 0, .call 1] [.call 0] 1 Sample.key
      (Sample.copy "other-rs" "u2") ∧
    (Sample.crew.after [.call 0, .call 0, .call 1, .call 1, .call 0]).store.Refusal
      (Sample.copy "other-rs" "u2")
      ((Sample.crew.after [.call 0, .call 0, .call 1, .call 1, .call 0]).store.replaceConfigMap
        (Sample.copy "other-rs" "u2")).2 := by
  have hupdate := no_lost_update Sample.reachable_store
    [⟨Sample.context false, "default", "app-rs"⟩, ⟨Sample.context false, "default", "other-rs"⟩]
    [.call 0, .call 0, .call 1, .call 1, .call 0]
  have houtdated : Sample.crew.Outdated [.call 0, .call 0, .call 1] [.call 0] 1 Sample.key
      (Sample.copy "other-rs" "u2") := by
    rw [Sample.crew, start, Job.start_eq_compared]
    exact ⟨⟨_, rfl⟩, by decide, ⟨_, rfl⟩, Or.inr ⟨0, by decide +kernel⟩⟩
  refine ⟨(hupdate.1 _).trans ?_, houtdated, (hupdate.2.2 _ _ _ _ _ rfl houtdated).2⟩
  rw [start, Job.start_eq_compared]
  decide +kernel

/-- The write of an outdated copy is no conflict where objects have no namespace or replaces never
complete, and where it is one, it still uses up a version. -/
theorem refusal_not_conflict :
    (Sample.unplacedCrew.Outdated [.call 0] [.touch ⟨"", "app-config"⟩] 0 ⟨"", "app-config"⟩
        Sample.unplacedCopy ∧
      ¬ ∃ message, ((Sample.unplacedCrew.after
        [.call 0, .call 0, .touch ⟨"", "app-config"⟩]).store.replaceConfigMap
          Sample.unplacedCopy).2 = .failed (.conflict message)) ∧
    (Sample.stallingCrew.Outdated [.call 0] [.touch Sample.key] 0 Sample.key
        (Sample.copy "app-rs" "u1") ∧
      ¬ ∃ message, ((Sample.stallingCrew.after
        [.call 0, .call 0, .touch Sample.key]).store.replaceConfigMap
          (Sample.copy "app-rs" "u1")).2 = .failed (.conflict message)) ∧
    (Sample.crew.Outdated [.call 0] [.touch Sample.key] 0 Sample.key
        (Sample.copy "app-rs" "u1") ∧
      ((Sample.crew.after [.call 0, .call 0, .touch Sample.key]).store.replaceConfigMap
        (Sample.copy "app-rs" "u1")).1.version ≠
        (Sample.crew.after [.call 0, .call 0, .touch Sample.key]).store.version) := by
  refine ⟨⟨?_, ?_⟩, ⟨?_, ?_⟩, ?_, ?_⟩
  · rw [Sample.unplacedCrew, start, Job.start_eq_compared]
    exact ⟨⟨_, rfl⟩, by decide, ⟨_, rfl⟩, Or.inl List.mem_cons_self⟩
  · have hanswer : ((Sample.unplacedCrew.after
        [.call 0, .call 0, .touch ⟨"", "app-config"⟩]).store.replaceConfigMap
          Sample.unplacedCopy).2 = .failed (.invalidRequest .noNamespace) := by
      rw [Sample.unplacedCrew, start, Job.start_eq_compared]
      decide +kernel
    rw [hanswer]
    rintro ⟨message, hmessage⟩
    cases hmessage
  · rw [Sample.stallingCrew, Sample.crew, start, Job.start_eq_compared]
    exact ⟨⟨_, rfl⟩, by decide, ⟨_, rfl⟩, Or.inl List.mem_cons_self⟩
  · have hanswer : ((Sample.stallingCrew.after
        [.call 0, .call 0, .touch Sample.key]).store.replaceConfigMap
          (Sample.copy "app-rs" "u1")).2 = .stalled := by
      rw [Sample.stallingCrew, Sample.crew, start, Job.start_eq_compared]
      decide +kernel
    rw [hanswer]
    rintro ⟨message, hmessage⟩
    cases hmessage
  · rw [Sample.crew, start, Job.start_eq_compared]
    exact ⟨⟨_, rfl⟩, by decide, ⟨_, rfl⟩, Or.inl List.mem_cons_self⟩
  · rw [Sample.crew, start, Job.start_eq_compared]
    decide +kernel

end Crew

end MountOwnership
