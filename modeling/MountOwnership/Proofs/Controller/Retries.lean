import MountOwnership.Proofs.Controller.Backoffs
import MountOwnership.Proofs.Pass.DryRun
import MountOwnership.Proofs.Pass.Isolation

/-!
# Attempts that meet conflicts

An injected conflict ends a pass at its first write.  It is used up by that, and nothing
else has changed: no object and no version, only the replace is recorded
(`Pass.run_link_of_conflict`).  So every attempt finds the same work as the first one, until
no conflict is left, and the attempt after that does what a single undisturbed one does.

Meanwhile the backoff of the ReplicaSet moves on with every failure.  These two facts are
kept by every failed attempt (`Controller.Disturbed`).  The success puts the backoff back to
its start, so that a later failure is followed by the shortest delay again
(`Controller.attempts_outlast_conflicts`).
-/

namespace MountOwnership

/-- The store after a replace that met an injected conflict. -/
def Store.disturbed (s : Store) (name : String) : Store :=
  { s.noted name with faults := { s.faults with conflicts := s.faults.conflicts - 1 } }

/-! ### Passes that meet a conflict -/

namespace Pass

variable {ctx : Context} {ns name : String} {rs : ReplicaSet} {names : List String} {s : Store}

/-- Where something is left to write into a ConfigMap that can be worked on, it is to be given a
record. -/
lemma Workable.exists_unlinked (h : Workable ctx ns rs s name)
    (hset : ¬ Settled ctx ns rs s name) :
    ∃ c owner, Unlinked ctx ns rs s name c owner ∧ c.metadata.key = .ok ⟨ns, name⟩ := by
  unfold Settled at hset
  push Not at hset
  obtain ⟨c, hget, hno, hd⟩ := hset
  have hno' : c.isOwnedBy rs = false := by simpa using hno
  have hd' : ctx.dryRun = false := by simpa using hd
  obtain ⟨⟨owner, hrecord⟩, hkey⟩ := h c hget hno' hd'
  exact ⟨c, owner, ⟨hget, hno', hd', hrecord⟩, hkey⟩

/-- A run over ConfigMaps that can be worked on, with something left to write, meets an injected
conflict at its first write. -/
lemma run_link_of_conflict (hl : ∀ name, s.Legible name)
    (hstall : s.faults.stallReplaces = false) (hc : 0 < s.faults.conflicts)
    (hw : ∀ name ∈ names, Workable ctx ns rs s name)
    (hleft : ∃ name ∈ names, ¬ Settled ctx ns rs s name) (sum : Summary) :
    ∃ name, (link ctx ns rs sum names).run none s =
      (s.disturbed name,
        .returned (.error (.cluster (Store.conflict name "injected conflict")))) := by
  induction names generalizing sum with
  | nil =>
    obtain ⟨name, hn, _⟩ := hleft
    exact absurd hn List.not_mem_nil
  | cons name names ih =>
    have hworkable := hw name List.mem_cons_self
    by_cases hset : Settled ctx ns rs s name
    · -- nothing is to be written here, so the run goes on with the store as it is
      obtain ⟨t, sum', hvisit⟩ := hworkable.exists_visit sum
      rw [hvisit.run_link (hset.answered (hl name)), hvisit.eq_of_settled hset]
      refine ih (fun other hn => hw other (List.mem_cons_of_mem _ hn)) ?_ sum'
      obtain ⟨other, hn, hno⟩ := hleft
      rcases List.mem_cons.mp hn with rfl | hn
      · exact absurd hset hno
      · exact ⟨other, hn, hno⟩
    · obtain ⟨c, owner, hun, hkey⟩ := hworkable.exists_unlinked hset
      have hkey' : (c.withOwner owner).metadata.key = .ok ⟨ns, name⟩ := hkey
      have hwrite : s.perform (.replaceConfigMap (c.withOwner owner)) =
          (s.disturbed name, .failed (Store.conflict name "injected conflict")) :=
        (Store.Replaced.injected hkey' hstall hc).eq
      refine ⟨name, ?_⟩
      rw [run_link_of_legible (hl name), hun.handle_eq]
      exact run_call_of_failed hwrite _

end Pass

namespace Controller

open Pass (reconcile aim_eq_ok_iff)

variable {c c' : Controller} {s s' t : Store} {k : WorkloadKey} {rs : ReplicaSet} {p n : Nat}

/-! ### Attempts -/

/-- What an attempt at a ReplicaSet led to. -/
structure Attempt where
  /-- The controller afterwards. -/
  controller : Controller
  /-- The store afterwards. -/
  store : Store
  /-- How the work on the ReplicaSet ended. -/
  result : Except ControllerError Action
  /-- What comes next. -/
  next : Action

/-- Work on a ReplicaSet, and decide what comes after it. -/
def attempt (c : Controller) (s : Store) (k : WorkloadKey) : Attempt :=
  let w := c.work s k none
  match w.result with
  | .ok action => ⟨w.controller, w.store, w.result, action⟩
  | .error e =>
    let (c, action) := w.controller.onError k e
    ⟨c, w.store, w.result, action⟩

/-- The controller and the store after a number of attempts at a ReplicaSet, one after the other. -/
def afterAttempts (c : Controller) (s : Store) (k : WorkloadKey) : Nat → Controller × Store
  | 0 => (c, s)
  | n + 1 =>
    let before := afterAttempts c s k n
    let a := before.1.attempt before.2 k
    (a.controller, a.store)

/-- An attempt at a ReplicaSet, by the number of attempts before it. -/
def attemptAt (c : Controller) (s : Store) (k : WorkloadKey) (n : Nat) : Attempt :=
  (c.afterAttempts s k n).1.attempt (c.afterAttempts s k n).2 k

/-- An attempt that succeeds puts the backoff of its ReplicaSet back to its start. -/
lemma attempt_of_ok {outcome : Outcome} (h : c.begin s k = (t, .returned (.ok outcome))) :
    c.attempt s k = ⟨c.resetBackoff k, t, .ok .awaitChange, .awaitChange⟩ := by
  unfold attempt work
  rw [h]
  rfl

/-- An attempt that fails and is worth another try moves the backoff of its ReplicaSet on. -/
lemma attempt_of_retryable {e : ControllerError} (h : c.begin s k = (t, .returned (.error e)))
    (he : e.isRetryable = true) :
    c.attempt s k = ⟨(c.nextBackoff k).2, t, .error e, .requeue (c.backoffOf k).current⟩ := by
  unfold attempt work
  rw [h]
  dsimp only [conclude]
  rw [onError_of_retryable c k he]

/-! ### ReplicaSets with work left -/

/-- A ReplicaSet that a pass is not to leave alone and can be worked on, with a mounted ConfigMap
that lacks it. -/
structure HasWork (c : Controller) (s : Store) (k : WorkloadKey) (rs : ReplicaSet) : Prop where
  key_eq : rs.key = .ok k
  stored : s.replicaSets.get? rs.metadata.storeKey = some rs
  ns_ne : lookupNamespace k ≠ ""
  selected : c.context.filter.selects (lookupNamespace k) = true
  uid_isSome : rs.metadata.uid.isSome
  created : rs.metadata.isCreatedAfter c.context.start = true
  not_dryRun : c.context.dryRun = false
  not_shutdown : c.shutdown = false
  unlinked : ∃ configMap ∈ rs.configMaps, ∃ cm,
    s.configMap? ⟨lookupNamespace k, configMap⟩ = some cm ∧ cm.isOwnedBy rs = false

/-- The key of a ReplicaSet tells its name and namespace. -/
lemma name_and_ns_of_key (h : rs.key = .ok k) :
    rs.metadata.name = some k.name ∧ rs.metadata.ns = k.ns := by
  unfold ReplicaSet.key at h
  cases hname : rs.metadata.name with
  | none => simp [hname] at h
  | some name =>
    rw [hname] at h
    obtain rfl := Except.ok.inj h
    exact ⟨rfl, rfl⟩

namespace HasWork

/-- A ReplicaSet is looked up where it is stored. -/
lemma storeKey_eq (h : HasWork c s k rs) :
    rs.metadata.storeKey = ⟨lookupNamespace k, k.name⟩ := by
  obtain ⟨hname, hns⟩ := name_and_ns_of_key h.key_eq
  rw [Metadata.storeKey, hname, hns]
  rfl

/-- A ReplicaSet with work left is stored under the key of the look-up. -/
lemma replicaSets_get? (h : HasWork c s k rs) :
    s.replicaSets.get? ⟨lookupNamespace k, k.name⟩ = some rs := by
  rw [← h.storeKey_eq]
  exact h.stored

/-- A pass is to work on the ConfigMaps. -/
lemma aim_eq (h : HasWork c s k rs) :
    Pass.aim c.context (lookupNamespace k) k.name s = .ok rs := by
  obtain ⟨configMap, hm, _⟩ := h.unlinked
  exact aim_eq_ok_iff.mpr
    ⟨h.selected, h.replicaSets_get?, h.created, List.ne_nil_of_mem hm⟩

/-- The ConfigMaps can be worked on. -/
lemma workable (h : HasWork c s k rs) (hs : s.Consistent) :
    ∀ configMap ∈ rs.configMaps, Pass.Workable c.context (lookupNamespace k) rs s configMap := by
  obtain ⟨hname, _⟩ := name_and_ns_of_key h.key_eq
  intro configMap hm
  exact Pass.workable_of_isSome hs h.ns_ne (hname ▸ rfl) h.uid_isSome hm

/-- Something is left to write. -/
lemma exists_not_settled (h : HasWork c s k rs) :
    ∃ configMap ∈ rs.configMaps,
      ¬ Pass.Settled c.context (lookupNamespace k) rs s configMap := by
  obtain ⟨configMap, hm, cm, hget, hno⟩ := h.unlinked
  refine ⟨configMap, hm, fun hset => ?_⟩
  rcases hset cm hget with ho | hd
  · exact nomatch hno.symm.trans ho
  · exact nomatch h.not_dryRun.symm.trans hd

/-- Work on a key with work left is a pass over its ReplicaSet that is not cancelled. -/
lemma begin_eq (h : HasWork c s k rs) :
    c.begin s k = (reconcile c.context (lookupNamespace k) k.name).run none s := by
  unfold begin
  rw [h.not_shutdown]
  rfl

/-- Work meets the next injected conflict. -/
lemma begin_of_conflict (h : HasWork c s k rs) (hs : s.Consistent)
    (hf : s.faults = { conflicts := n + 1 }) :
    ∃ name, c.begin s k = (s.disturbed name,
      .returned (.error (.cluster (Store.conflict name "injected conflict")))) := by
  have hfind : Pass.Findable c.context (lookupNamespace k) s := fun _ => by rw [hf]
  rw [h.begin_eq, Pass.run_reconcile_of_findable hfind, h.aim_eq]
  refine Pass.run_link_of_conflict (fun name => ⟨?_, ?_⟩) ?_ ?_ (h.workable hs)
    h.exists_not_settled {}
  all_goals simp [hf]

/-- Without faults, work comes to its end. -/
lemma begin_of_no_faults (h : HasWork c s k rs) (hs : s.Consistent) (hf : s.faults = {}) :
    ∃ t sum, c.begin s k = (t, .returned (.ok (.applied sum))) := by
  obtain ⟨t, sum, hvisits⟩ := Pass.exists_visits (h.workable hs) {}
  obtain ⟨hselected, hget, hcreated, hne⟩ := aim_eq_ok_iff.mp h.aim_eq
  rw [h.begin_eq]
  exact ⟨t, sum, Pass.run_reconcile_of_visits hselected hget hcreated hne hvisits hf⟩

end HasWork

/-! ### Attempts until the conflicts are used up -/

/-- What a number of attempts that met conflicts have made of a controller and a store. -/
structure Disturbed (c : Controller) (s : Store) (k : WorkloadKey) (p n : Nat) (c' : Controller)
    (s' : Store) : Prop where
  context_eq : c'.context = c.context
  shutdown_eq : c'.shutdown = c.shutdown
  backoff_eq : c'.backoffOf k = .afterFailures n
  store_eq : ∃ calls, s' = { s with replaceCalls := calls, faults := { conflicts := p - n } }

namespace Disturbed

/-- The work that was left is left still. -/
lemma hasWork (hd : Disturbed c s k p n c' s') (h : HasWork c s k rs) : HasWork c' s' k rs := by
  obtain ⟨calls, rfl⟩ := hd.store_eq
  exact { h with
    selected := hd.context_eq ▸ h.selected
    created := hd.context_eq ▸ h.created
    not_dryRun := hd.context_eq ▸ h.not_dryRun
    not_shutdown := hd.shutdown_eq ▸ h.not_shutdown }

/-- All the faults that are left are the conflicts that are left. -/
lemma faults_eq (hd : Disturbed c s k p n c' s') : s'.faults = { conflicts := p - n } := by
  obtain ⟨calls, rfl⟩ := hd.store_eq
  rfl

/-- A disturbed store stays consistent. -/
lemma consistent (hd : Disturbed c s k p n c' s') (hs : s.Consistent) : s'.Consistent := by
  obtain ⟨calls, rfl⟩ := hd.store_eq
  exact hs.of_quiet ⟨rfl, rfl, Nat.le_refl _⟩

/-- When all conflicts are used up, the objects and the version are those of the beginning. -/
lemma agreesOn (hd : Disturbed c s k p p c' s') :
    s'.AgreesOn Set.univ { s with faults := {} } := by
  obtain ⟨calls, hstore⟩ := hd.store_eq
  rw [Nat.sub_self] at hstore
  subst hstore
  exact ⟨fun _ _ => rfl, .refl {}, rfl⟩

/-- While conflicts are left, an attempt fails by one, and is one more of them. -/
lemma attempt_of_lt (hd : Disturbed c s k p n c' s') (h : HasWork c s k rs) (hs : s.Consistent)
    (hn : n < p) :
    ∃ name, (c'.attempt s' k).result =
        .error (.cluster (Store.conflict name "injected conflict")) ∧
      (c'.attempt s' k).next = .requeue (Backoff.retryDelay (n + 1)) ∧
      Disturbed c s k p (n + 1) (c'.attempt s' k).controller (c'.attempt s' k).store := by
  have hfaults : s'.faults = { conflicts := p - (n + 1) + 1 } := by
    rw [hd.faults_eq, show p - (n + 1) + 1 = p - n by omega]
  obtain ⟨name, hbegin⟩ := (hd.hasWork h).begin_of_conflict (hd.consistent hs) hfaults
  rw [attempt_of_retryable hbegin rfl]
  refine ⟨name, rfl, ?_, hd.context_eq, hd.shutdown_eq, ?_, ?_⟩
  · rw [hd.backoff_eq, Backoff.current_afterFailures]
  · rw [backoffOf_nextBackoff, if_pos rfl, hd.backoff_eq, Backoff.advance_afterFailures]
  · obtain ⟨calls, rfl⟩ := hd.store_eq
    exact ⟨calls ++ [name], rfl⟩

/-- When all conflicts are used up, an attempt succeeds, and writes what a single one writes that
meets no conflict. -/
lemma attempt_of_eq (hd : Disturbed c s k p p c' s') (h : HasWork c s k rs) (hs : s.Consistent) :
    (c'.attempt s' k).result = .ok .awaitChange ∧
      (∀ key, (c'.attempt s' k).store.configMap? key =
        (c.attempt { s with faults := {} } k).store.configMap? key) ∧
      (c'.attempt s' k).controller.backoffOf k = .standard := by
  have hfaults : s'.faults = {} := by
    rw [hd.faults_eq, Nat.sub_self]
  have hwork := hd.hasWork h
  have hwork₀ : HasWork c { s with faults := {} } k rs := { h with }
  have hs₀ : ({ s with faults := {} } : Store).Consistent :=
    hs.of_quiet ⟨rfl, rfl, Nat.le_refl _⟩
  obtain ⟨t, _, hbegin⟩ := hwork.begin_of_no_faults (hd.consistent hs) hfaults
  obtain ⟨u, _, hbegin₀⟩ := hwork₀.begin_of_no_faults hs₀ rfl
  have hget₀ : s.replicaSets.get? ⟨lookupNamespace k, k.name⟩ =
      s'.replicaSets.get? ⟨lookupNamespace k, k.name⟩ :=
    h.replicaSets_get?.trans hwork.replicaSets_get?.symm
  have hstep := Pass.lockstep_reconcile (hd.consistent hs) hd.agreesOn hget₀ (Set.subset_univ _)
    c'.context none
  rw [hwork.begin_eq.symm.trans hbegin, hd.context_eq, hwork₀.begin_eq.symm.trans hbegin₀] at hstep
  rw [attempt_of_ok hbegin, attempt_of_ok hbegin₀]
  refine ⟨rfl, fun key => (hstep.inStep.agree.configMap?_eq key (Set.mem_univ key)).symm, ?_⟩
  exact (backoffOf_resetBackoff hd.backoff_eq k).trans (if_pos rfl)

end Disturbed

/-- As many attempts as there are conflicts are disturbed. -/
lemma disturbed_afterAttempts (h : HasWork c s k rs) (hs : s.Consistent)
    (hfaults : s.faults = { conflicts := p }) (hbackoff : c.backoffs.get? k = none)
    (hn : n ≤ p) :
    Disturbed c s k p n (c.afterAttempts s k n).1 (c.afterAttempts s k n).2 := by
  induction n with
  | zero =>
    refine ⟨rfl, rfl, ?_, s.replaceCalls, ?_⟩
    · rw [Backoff.afterFailures_zero]
      exact backoffOf_of_none hbackoff
    · change s = { s with faults := { conflicts := p } }
      rw [← hfaults]
  | succ n ih =>
    obtain ⟨_, _, _, hd⟩ := (ih (Nat.le_of_succ_le hn)).attempt_of_lt h hs hn
    exact hd

/-- **Attempts and conflicts.**  Take a reachable store whose only faults are injected conflicts,
and a ReplicaSet with work left and no backoff.  As many attempts at it fail as there are conflicts,
each by a conflict, and each is to be tried again after the next Fibonacci number of seconds, up to
five minutes.  The attempt after these succeeds, with the same ConfigMaps as a single attempt
without conflicts, versions included; and a later failure is followed by the shortest delay again.
-/
theorem attempts_outlast_conflicts (hs : s.Reachable) (hfaults : s.faults = { conflicts := p })
    (h : HasWork c s k rs) (hbackoff : c.backoffs.get? k = none) :
    (∀ i < p, ∃ e message, e = ControllerError.cluster (.conflict message) ∧
      e.isRetryable = true ∧ (c.attemptAt s k i).result = .error e ∧
      (c.attemptAt s k i).next = .requeue (Backoff.retryDelay (i + 1))) ∧
    (c.attemptAt s k p).result = .ok .awaitChange ∧
    (∀ key, (c.attemptAt s k p).store.configMap? key =
      (c.attempt { s with faults := {} } k).store.configMap? key) ∧
    ∀ e, e.isRetryable = true →
      ((c.attemptAt s k p).controller.onError k e).2 = .requeue (.ofSeconds 1) := by
  have hconsistent := hs.consistent
  have hdisturbed := fun n (hn : n ≤ p) =>
    disturbed_afterAttempts h hconsistent hfaults hbackoff hn
  refine ⟨fun i hi => ?_, ?_⟩
  · obtain ⟨name, hresult, hnext, _⟩ := (hdisturbed i hi.le).attempt_of_lt h hconsistent hi
    exact ⟨_, _, rfl, rfl, hresult, hnext⟩
  · obtain ⟨hresult, hkept, hbackoff'⟩ := (hdisturbed p le_rfl).attempt_of_eq h hconsistent
    refine ⟨hresult, hkept, fun e he => ?_⟩
    rw [onError_of_retryable _ k he]
    exact congrArg (fun b : Backoff => Action.requeue b.current) hbackoff'

/-- With three conflicts to come, work on `app-rs` fails three times, with growing delays, and then
succeeds. -/
theorem attempts_outlast_conflicts_app_rs :
    let c : Controller := { context := Sample.context false }
    let s : Store := { Sample.store with faults := { conflicts := 3 } }
    let k : WorkloadKey := ⟨some "default", "app-rs"⟩
    (c.attemptAt s k 0).next = .requeue (.ofSeconds 1) ∧
      (c.attemptAt s k 1).next = .requeue (.ofSeconds 1) ∧
      (c.attemptAt s k 2).next = .requeue (.ofSeconds 2) ∧
      (c.attemptAt s k 3).result = .ok .awaitChange := by
  intro c s k
  have hs : s.Reachable := Sample.reachable_store.setFaults _
  have hwork : HasWork c s k
      (Sample.replicaSet "app-rs" "u1" ["app-config", "shared-config", "gone-config"]) :=
    { key_eq := rfl
      stored := Sample.get?_app_rs
      ns_ne := by decide
      selected := by decide +kernel
      uid_isSome := rfl
      created := by decide +kernel
      not_dryRun := rfl
      not_shutdown := rfl
      unlinked := ⟨"app-config", Sample.app_config_mem_app_rs, _, rfl, rfl⟩ }
  obtain ⟨hfailed, hresult, _⟩ := attempts_outlast_conflicts hs rfl hwork rfl
  have hnext : ∀ i < 3, (c.attemptAt s k i).next = .requeue (Backoff.retryDelay (i + 1)) := by
    intro i hi
    obtain ⟨_, _, _, _, _, hnext⟩ := hfailed i hi
    exact hnext
  have hdelays : Backoff.retryDelay 1 = .ofSeconds 1 ∧ Backoff.retryDelay 2 = .ofSeconds 1 ∧
      Backoff.retryDelay 3 = .ofSeconds 2 := by
    decide
  refine ⟨?_, ?_, ?_, hresult⟩
  · rw [hnext 0 (by decide), hdelays.1]
  · rw [hnext 1 (by decide), hdelays.2.1]
  · rw [hnext 2 (by decide), hdelays.2.2]

end Controller

end MountOwnership
