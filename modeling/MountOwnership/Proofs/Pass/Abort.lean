import MountOwnership.Proofs.Crew.Turns
import MountOwnership.Proofs.Pass.Success

/-!
# Passes that fail

A pass works on the ConfigMaps of its ReplicaSet in order and ends with the first call that is
not answered, the first ConfigMap that cannot be given a record, or when it is cancelled.  What
it did before is what it does if it is given the ConfigMaps before that one and no others, and is
not cancelled (`Pass.report_link`).  What stopped it changes no object.

So a pass that fails leaves a clean prefix (`Pass.CleanPrefix`), whatever the cause: the ConfigMaps
before the one at which it failed are stored as after a pass over these alone, all others are
stored as before, and the log of replaces tells of the prefix and, if the failing call was a
replace that was recorded, of the one after it.
-/

namespace MountOwnership

namespace Pass

variable {ctx : Context} {ns : String} {rs : ReplicaSet} {s t u : Store} {names : List String}
  {sum : Summary}

/-! ### Work on ConfigMaps that stops -/

/-- A run over names comes to their end, or it does what it does over the names before one, without
cancellation, and stops at that one. -/
lemma report_link (hs : s.Consistent) (ctx : Context) (ns : String) (rs : ReplicaSet)
    (callsLeft : Option Nat) (sum : Summary) (names : List String) :
    (∃ t sum', (link ctx ns rs sum names).report callsLeft s =
      ((t, .returned (.ok (.applied sum'))), none)) ∨
    ∃ done name rest u sum', names = done ++ name :: rest ∧ Visits ctx ns rs s sum done u sum' ∧
      (link ctx ns rs sum done).run none s = (u, .returned (.ok (.applied sum'))) ∧
      StopsAt ctx ns rs u name ((link ctx ns rs sum names).report callsLeft s) := by
  -- a first ConfigMap that does not stop the run is put before those that the rest has done
  induction names generalizing s sum callsLeft with
  | nil => exact Or.inl ⟨s, sum, rfl⟩
  | cons name names ih =>
    rcases report_link_cons hs ctx ns rs callsLeft sum name names with
      ⟨t, sum', m, hvisit, hanswered, hreport⟩ | hstop
    · rw [hreport]
      rcases ih (hvisit.consistent hs) m sum' with
        hend | ⟨done, last, rest, u, sum'', hnames, hvisits, hrun, hstop⟩
      · exact Or.inl hend
      · have hfirst : (link ctx ns rs sum (name :: done)).run none s =
            (link ctx ns rs sum' done).run none t := hvisit.run_link hanswered done
        exact Or.inr ⟨name :: done, last, rest, u, sum'', by rw [hnames, List.cons_append],
          .cons hvisit hvisits, hfirst.trans hrun, hstop⟩
    · exact Or.inr ⟨[], name, names, s, sum, rfl, .nil, rfl, hstop⟩

/-- What a pass that failed leaves, with the call that failed: the ConfigMaps before the one at
which it failed are as a pass over these alone leaves them, and all else is as it was. -/
structure CleanPrefix (ctx : Context) (ns : String) (rs : ReplicaSet) (s t : Store)
    (failing : Option Call) (done : List String) (name : String) (rest : List String) : Prop where
  configMaps_eq : rs.configMaps = done ++ name :: rest
  /-- The work on `done` alone, which is not cancelled, comes to its end.  It leaves the ConfigMaps
  of `done` as they are now, and links those whose replaces were recorded.  After them comes the
  replace that failed, if it was one that is recorded. -/
  committed : ∃ u sum, (link ctx ns rs {} done).run none s = (u, .returned (.ok (.applied sum))) ∧
    (∀ d ∈ done, t.configMap? ⟨ns, d⟩ = u.configMap? ⟨ns, d⟩) ∧
    t.replaceCalls = s.replaceCalls ++ sum.linked ++ recordedBy failing ⟨ns, name⟩
  untouched : ∀ other ∈ name :: rest, t.configMap? ⟨ns, other⟩ = s.configMap? ⟨ns, other⟩
  not_mounted : ∀ k, (∀ d ∈ rs.configMaps, k ≠ ⟨ns, d⟩) → t.configMap? k = s.configMap? k
  replicaSets_eq : t.replicaSets = s.replicaSets

/-- Work on the ConfigMaps before one, and a stop at that one, leave a clean prefix. -/
lemma StopsAt.cleanPrefix {done rest : List String} {name : String}
    {r : (Store × Ending) × Option Call} (hstop : StopsAt ctx ns rs u name r)
    (hnames : rs.configMaps = done ++ name :: rest) (hvisits : Visits ctx ns rs s {} done u sum)
    (hrun : (link ctx ns rs {} done).run none s = (u, .returned (.ok (.applied sum)))) :
    CleanPrefix ctx ns rs s r.1.1 r.2 done name rest := by
  have hnodup : (done ++ name :: rest).Nodup := hnames ▸ rs.nodup_configMaps
  obtain ⟨hdone, _, hdisjoint⟩ := List.nodup_append'.mp hnodup
  obtain ⟨hquiet, _⟩ := hstop.stop.quiet
  obtain ⟨hsum, hcalls⟩ := hvisits.summary_eq hdone
  have hlinked : sum.linked = (tally ctx ns rs s done).linked := congrArg Summary.linked hsum
  refine
    { configMaps_eq := hnames
      committed := ⟨u, sum, hrun, fun d _ => hquiet.configMap?_eq _, ?_⟩
      untouched := fun other hother => ?_
      not_mounted := fun k hk => ?_
      replicaSets_eq := hquiet.replicaSets_eq.trans hvisits.replicaSets_eq }
  · rw [hstop.replaceCalls_eq, hcalls, hlinked]
  · have hnotin : other ∉ done := fun hmem => hdisjoint hmem hother
    exact (hquiet.configMap?_eq _).trans ((hvisits.effect _).configMap?_eq_of_not_mem hnotin)
  · refine (hquiet.configMap?_eq k).trans ((hvisits.effect k).configMap?_eq_of_ne ?_)
    intro d hd
    exact hk d (hnames ▸ List.mem_append_left _ hd)

/-! ### Passes -/

/-- **Aborted passes.**  A pass that fails, whatever the cause, fails before it looks at a
ConfigMap, and then leaves the store as it was, or it fails at one of the ConfigMaps that its
ReplicaSet mounts and leaves a clean prefix. -/
theorem reconcile_fails_cleanly (hs : s.Reachable) {ctx : Context} {ns name : String}
    {callsLeft : Option Nat} {e : Ending} {fault : ControllerError}
    (h : (reconcile ctx ns name).run callsLeft s = (t, e)) (he : e.result = .error fault) :
    ((callsLeft = some 0 ∨ s.faults.replicaSetsUnreadable = true) ∧ t = s) ∨
    ∃ rs done configMap rest, s.replicaSets.get? ⟨ns, name⟩ = some rs ∧
      CleanPrefix ctx ns rs s t ((reconcile ctx ns name).failingCall? callsLeft s) done configMap
        rest := by
  have hreport : (reconcile ctx ns name).report callsLeft s =
      ((t, e), (reconcile ctx ns name).failingCall? callsLeft s) := by
    unfold report
    rw [h]
  generalize (reconcile ctx ns name).failingCall? callsLeft s = failing at hreport ⊢
  rcases report_reconcile_cases ctx ns name callsLeft s with
    ⟨hcause, e', c, hearly⟩ | ⟨_, m, hpursue⟩
  · rw [hearly] at hreport
    cases hreport
    exact Or.inl ⟨hcause, rfl⟩
  · right
    rw [hpursue] at hreport
    cases haim : aim ctx ns name s with
    | error reason =>
      -- a pass that leaves its ReplicaSet alone does not fail
      rw [haim] at hreport
      cases hreport
      exact nomatch he
    | ok rs =>
      rw [haim] at hreport
      change (link ctx ns rs {} rs.configMaps).report m s = _ at hreport
      obtain ⟨_, hget, _, _⟩ := aim_eq_ok_iff.mp haim
      have hcases := report_link hs.consistent ctx ns rs m {} rs.configMaps
      rw [hreport] at hcases
      rcases hcases with
        ⟨t', sum', hend⟩ | ⟨done, configMap, rest, u, sum', hnames, hvisits, hrun, hstop⟩
      · cases hend
        exact nomatch he
      · exact ⟨rs, done, configMap, rest, hget, hstop.cleanPrefix hnames hvisits hrun⟩

/-- A pass over `app-rs` that cannot look up `shared-config` has written `app-config`, and leaves
a clean prefix. -/
theorem reconcile_fails_cleanly_shared_config :
    let s : Store := { Sample.store with faults := { unreadable := ["shared-config"] } }
    let pass := reconcile (Sample.context false) "default" "app-rs"
    (pass.run none s).2.result =
      .error (.cluster (.api "injected failure reading configmap default/shared-config")) ∧
    (pass.run none s).1.replaceCalls = ["app-config"] ∧
    ∃ rs done configMap rest, s.replicaSets.get? ⟨"default", "app-rs"⟩ = some rs ∧
      CleanPrefix (Sample.context false) "default" rs s (pass.run none s).1
        (pass.failingCall? none s) done configMap rest := by
  intro s pass
  have hs : s.Reachable := Sample.reachable_store.setFaults _
  have hresult : ((reconcile (Sample.context false) "default" "app-rs").run none
      { Sample.store with faults := { unreadable := ["shared-config"] } }).2.result =
      .error (.cluster (.api "injected failure reading configmap default/shared-config")) := by
    rw [reconcile_eq_compared]
    decide +kernel
  have hcalls : ((reconcile (Sample.context false) "default" "app-rs").run none
      { Sample.store with faults := { unreadable := ["shared-config"] } }).1.replaceCalls =
      ["app-config"] := by
    rw [reconcile_eq_compared]
    decide +kernel
  refine ⟨hresult, hcalls, ?_⟩
  rcases reconcile_fails_cleanly hs (Prod.ext rfl rfl) hresult with ⟨hcause, _⟩ | hprefix
  · exact absurd hcause (by decide)
  · exact hprefix

end Pass

end MountOwnership
