import MountOwnership.Proofs.Pass.Summary

/-!
# Passes that succeed

A pass looks up its ReplicaSet and then knows what it is to do (`Pass.aim`): leave the
ReplicaSet alone, for a reason, or work on its ConfigMaps.  The aim depends on the
ReplicaSets alone, so it is the same for a dry run, and stays the same when ConfigMaps
are written.

A pass that succeeds has reached its aim, and the store has answered its look-ups
(`Pass.success_of_run`).  In the other direction, a pass that is not cancelled does
reach its aim if its ConfigMaps can be worked on and the store answers its calls
(`Pass.run_reconcile_of_answered`).
-/

namespace MountOwnership

namespace Pass

variable {ctx : Context} {ns name : String} {rs : ReplicaSet} {names : List String} {s t : Store}
  {sum : Summary} {outcome : Outcome}

/-! ### What a pass is to do -/

/-- What a pass is to do about the ReplicaSet that it looked up. -/
def judge (ctx : Context) : Option ReplicaSet → Except SkipReason ReplicaSet
  | none => .error .workloadNotFound
  | some rs =>
    if rs.metadata.isCreatedAfter ctx.start then
      if rs.configMaps = [] then .error .noConfigMapVolumes else .ok rs
    else .error .createdBeforeStart

/-- A pass is to work on the ConfigMaps of a ReplicaSet exactly if it looked that one up, and it is
newer than the start and mounts some. -/
lemma judge_eq_ok_iff {found : Option ReplicaSet} : judge ctx found = .ok rs ↔
    found = some rs ∧ rs.metadata.isCreatedAfter ctx.start = true ∧ rs.configMaps ≠ [] := by
  cases found with
  | none => exact ⟨nofun, fun h => nomatch h.1⟩
  | some stored =>
    unfold judge
    dsimp only
    by_cases hc : stored.metadata.isCreatedAfter ctx.start = true
    · rw [if_pos hc]
      by_cases hn : stored.configMaps = []
      · rw [if_pos hn]
        exact ⟨nofun, fun h => absurd (Option.some.inj h.1 ▸ hn) h.2.2⟩
      · rw [if_neg hn]
        constructor
        · rintro ⟨⟩
          exact ⟨rfl, hc, hn⟩
        · intro h
          rw [Option.some.inj h.1]
    · rw [if_neg hc]
      exact ⟨nofun, fun h => absurd (Option.some.inj h.1 ▸ h.2.1) hc⟩

/-- What a pass is to do: leave its ReplicaSet alone, or work on the ConfigMaps of the one that
is stored. -/
def aim (ctx : Context) (ns name : String) (s : Store) : Except SkipReason ReplicaSet :=
  if ctx.filter.selects ns then judge ctx (s.replicaSets.get? ⟨ns, name⟩)
  else .error .namespaceExcluded

/-- A pass is to work on ConfigMaps exactly if its ReplicaSet is selected, stored, newer than the
start, and mounts some. -/
lemma aim_eq_ok_iff : aim ctx ns name s = .ok rs ↔
    ctx.filter.selects ns = true ∧ s.replicaSets.get? ⟨ns, name⟩ = some rs ∧
      rs.metadata.isCreatedAfter ctx.start = true ∧ rs.configMaps ≠ [] := by
  unfold aim
  by_cases hf : ctx.filter.selects ns = true
  · rw [if_pos hf, judge_eq_ok_iff, and_iff_right hf]
  · rw [if_neg hf]
    exact ⟨nofun, fun h => absurd h.1 hf⟩

/-- What a pass is to do depends on the ReplicaSets alone. -/
lemma aim_congr (h : t.replicaSets = s.replicaSets) (ctx : Context) (ns name : String) :
    aim ctx ns name t = aim ctx ns name s := by
  unfold aim
  rw [h]

/-- How a pass goes on when it knows what it is to do. -/
def pursue (ctx : Context) (ns : String) : Except SkipReason ReplicaSet → Pass
  | .error reason => .done (.ok (.skipped reason))
  | .ok rs => link ctx ns rs {} rs.configMaps

/-- A pass is the look-up of its ReplicaSet, if it is selected, and the pursuit of what is then to
be done. -/
lemma reconcile_eq (ctx : Context) (ns name : String) :
    reconcile ctx ns name =
      if ctx.filter.selects ns then
        .call (.readReplicaSet ⟨ns, name⟩) fun found => pursue ctx ns (judge ctx found)
      else pursue ctx ns (.error .namespaceExcluded) := by
  unfold reconcile
  congr 2
  funext found
  cases found with
  | none => rfl
  | some rs =>
    change apply ctx ns rs = _
    unfold judge
    by_cases hc : rs.metadata.isCreatedAfter ctx.start = true
    · dsimp only
      rw [if_pos hc]
      by_cases hn : rs.configMaps = []
      · rw [if_pos hn, apply, if_pos hc, hn]
        rfl
      · rw [if_neg hn, apply_eq_link hc hn]
        rfl
    · dsimp only
      rw [if_neg hc, apply, if_neg hc]
      rfl

/-- The look-up of a ReplicaSet is answered, if it is made. -/
def Findable (ctx : Context) (ns : String) (s : Store) : Prop :=
  ctx.filter.selects ns = true → s.faults.replicaSetsUnreadable = false

/-- A run fails before its ReplicaSet is found, or goes on with what is to be done. -/
lemma report_reconcile_cases (ctx : Context) (ns name : String) (callsLeft : Option Nat)
    (s : Store) :
    ((callsLeft = some 0 ∨ s.faults.replicaSetsUnreadable = true) ∧
      ∃ e c, (reconcile ctx ns name).report callsLeft s = ((s, .returned (.error e)), c)) ∨
    (Findable ctx ns s ∧ ∃ m, (reconcile ctx ns name).report callsLeft s =
      (pursue ctx ns (aim ctx ns name s)).report m s) := by
  rw [reconcile_eq]
  unfold aim
  by_cases hf : ctx.filter.selects ns = true
  · rw [if_pos hf, if_pos hf]
    rcases report_call_cases callsLeft s (.readReplicaSet ⟨ns, name⟩)
      (fun found => pursue ctx ns (judge ctx found)) with
      ⟨hc, hrun⟩ | ⟨t, hp, _⟩ | ⟨t, e, hp, hrun⟩ | ⟨t, found, hp, hrun⟩
    · exact Or.inl ⟨Or.inl hc, _, _, hrun⟩
    · rcases s.perform_readReplicaSet_cases ⟨ns, name⟩ with ⟨e, hp'⟩ | hp' <;>
        exact nomatch hp'.symm.trans hp
    · rcases s.perform_readReplicaSet_cases ⟨ns, name⟩ with ⟨e', hp'⟩ | hp'
      · obtain ⟨rfl, _⟩ := Prod.mk.inj (hp'.symm.trans hp)
        have hunreadable : s.faults.replicaSetsUnreadable = true := by
          by_contra hread
          have hfound : s.perform (.readReplicaSet ⟨ns, name⟩) = (s, .ok _) :=
            Store.perform_readReplicaSet_eq_ok_iff.mpr
              ⟨Bool.eq_false_iff.mpr hread, rfl, rfl⟩
          exact nomatch hp'.symm.trans hfound
        exact Or.inl ⟨Or.inr hunreadable, _, _, hrun⟩
      · exact nomatch hp'.symm.trans hp
    · obtain ⟨hread, rfl, rfl⟩ := Store.perform_readReplicaSet_eq_ok_iff.mp hp
      exact Or.inr ⟨fun _ => hread, _, hrun⟩
  · rw [if_neg hf, if_neg hf]
    exact Or.inr ⟨fun h => absurd h hf, callsLeft, rfl⟩

/-- A run fails before its ReplicaSet is found, or goes on with what is to be done. -/
lemma run_reconcile_cases (ctx : Context) (ns name : String) (callsLeft : Option Nat)
    (s : Store) :
    (∃ e, (reconcile ctx ns name).run callsLeft s = (s, .returned (.error e))) ∨
      Findable ctx ns s ∧ ∃ m, (reconcile ctx ns name).run callsLeft s =
        (pursue ctx ns (aim ctx ns name s)).run m s := by
  rcases report_reconcile_cases ctx ns name callsLeft s with ⟨_, e, c, h⟩ | ⟨hfind, m, h⟩
  · exact Or.inl ⟨e, congrArg Prod.fst h⟩
  · exact Or.inr ⟨hfind, m, congrArg Prod.fst h⟩

/-- A pass that is not cancelled goes on with what is to be done if its ReplicaSet is found. -/
lemma run_reconcile_of_findable (h : Findable ctx ns s) (name : String) :
    (reconcile ctx ns name).run none s = (pursue ctx ns (aim ctx ns name s)).run none s := by
  rw [reconcile_eq]
  unfold aim
  by_cases hf : ctx.filter.selects ns = true
  · rw [if_pos hf, if_pos hf,
      run_call_of_ok (Store.perform_readReplicaSet_eq_ok_iff.mpr ⟨h hf, rfl, rfl⟩)]
  · rw [if_neg hf, if_neg hf]

/-! ### What success shows -/

/-- A run over ConfigMaps that succeeds was answered all its look-ups. -/
lemma legible_of_run_link (hs : s.Consistent) {callsLeft : Option Nat}
    (h : ((link ctx ns rs sum names).run callsLeft s).2 = .returned (.ok outcome)) :
    ∀ name ∈ names, s.Legible name := by
  induction names generalizing s sum callsLeft with
  | nil => exact fun name hn => absurd hn List.not_mem_nil
  | cons name names ih =>
    intro other hother
    rcases report_link_cons hs ctx ns rs callsLeft sum name names with
      ⟨t, sum', m, hvisit, ha, hreport⟩ | hstop
    · have hrun : (link ctx ns rs sum (name :: names)).run callsLeft s =
          (link ctx ns rs sum' names).run m t := congrArg Prod.fst hreport
      rw [hrun] at h
      rcases List.mem_cons.mp hother with rfl | hother
      · exact ha.legible
      · exact (ih (hvisit.consistent hs) h other hother).congr hvisit.faults_eq.symm
    · exact absurd h (hstop.stop.quiet.2 outcome)

/-- The ways in which a pass can succeed. -/
inductive Success (ctx : Context) (ns name : String) (s : Store) : Store → Outcome → Prop
  /-- It leaves its ReplicaSet alone. -/
  | skipped {reason : SkipReason} (haim : aim ctx ns name s = .error reason) :
      Success ctx ns name s s (.skipped reason)
  /-- It comes to the end of the work on the ConfigMaps. -/
  | applied {rs : ReplicaSet} {t : Store} {sum : Summary} (haim : aim ctx ns name s = .ok rs)
      (hvisits : Visits ctx ns rs s {} rs.configMaps t sum)
      (hlegible : ∀ configMap ∈ rs.configMaps, s.Legible configMap) :
      Success ctx ns name s t (.applied sum)

/-- A pass that succeeds does so in one of the listed ways, and its ReplicaSet was found. -/
lemma success_of_run (hs : s.Consistent) {callsLeft : Option Nat}
    (h : (reconcile ctx ns name).run callsLeft s = (t, .returned (.ok outcome))) :
    Findable ctx ns s ∧ Success ctx ns name s t outcome := by
  rcases run_reconcile_cases ctx ns name callsLeft s with ⟨e, hrun⟩ | ⟨hfind, m, hrun⟩
  · exact nomatch hrun.symm.trans h
  · refine ⟨hfind, ?_⟩
    replace h := hrun.symm.trans h
    cases haim : aim ctx ns name s with
    | error reason =>
      rw [haim] at h
      cases h
      exact .skipped haim
    | ok rs =>
      rw [haim] at h
      change (link ctx ns rs {} rs.configMaps).run m s = _ at h
      have hlegible := legible_of_run_link hs (congrArg Prod.snd h)
      have hcourse : LinkCourse ctx ns rs s {} rs.configMaps
          ((link ctx ns rs {} rs.configMaps).run m s).1
          ((link ctx ns rs {} rs.configMaps).run m s).2 := course_link hs m {} rs.configMaps
      rw [h] at hcourse
      generalize he : Ending.returned (.ok outcome) = e at hcourse
      cases hcourse with
      | finished hvisits =>
        cases he
        exact .applied haim hvisits hlegible
      | stopped _ _ hstop => exact absurd he.symm (hstop.quiet.2 outcome)

/-! ### What is enough for success -/

/-- A pass that is to leave its ReplicaSet alone does so, if that was found. -/
lemma run_reconcile_of_aim_error {reason : SkipReason} (hfind : Findable ctx ns s)
    (haim : aim ctx ns name s = .error reason) :
    (reconcile ctx ns name).run none s = (s, .returned (.ok (.skipped reason))) := by
  rw [run_reconcile_of_findable hfind, haim]
  rfl

/-- A pass comes to the end of its ConfigMaps if these can be worked on and its calls are
answered. -/
lemma run_reconcile_of_answered (hfind : Findable ctx ns s) (haim : aim ctx ns name s = .ok rs)
    (ha : ∀ configMap ∈ rs.configMaps, Answered ctx ns rs s configMap)
    (h : Visits ctx ns rs s {} rs.configMaps t sum) :
    (reconcile ctx ns name).run none s = (t, .returned (.ok (.applied sum))) := by
  rw [run_reconcile_of_findable hfind, haim]
  exact run_link_of_visits h ha

/-- Without faults, a pass over a ReplicaSet whose ConfigMaps can be worked on comes to its
end. -/
lemma run_reconcile_of_visits (hfilter : ctx.filter.selects ns = true)
    (hget : s.replicaSets.get? ⟨ns, name⟩ = some rs)
    (hc : rs.metadata.isCreatedAfter ctx.start = true) (hn : rs.configMaps ≠ [])
    (h : Visits ctx ns rs s {} rs.configMaps t sum) (hf : s.faults = {}) :
    (reconcile ctx ns name).run none s = (t, .returned (.ok (.applied sum))) := by
  refine run_reconcile_of_answered (fun _ => ?_) (aim_eq_ok_iff.mpr ⟨hfilter, hget, hc, hn⟩)
    (fun configMap _ => .of_no_faults hf configMap) h
  rw [hf]

/-- A pass that is not cancelled leaves its ReplicaSet alone exactly if it is to do so and the
ReplicaSet was found. -/
lemma run_reconcile_skipped_iff (hs : s.Consistent) (ctx : Context) (ns name : String)
    (reason : SkipReason) :
    ((reconcile ctx ns name).run none s).2 = .returned (.ok (.skipped reason)) ↔
      Findable ctx ns s ∧ aim ctx ns name s = .error reason := by
  constructor
  · generalize hrun : (reconcile ctx ns name).run none s = r
    obtain ⟨t, e⟩ := r
    rintro rfl
    obtain ⟨hfind, hsuccess⟩ := success_of_run hs hrun
    cases hsuccess with
    | skipped haim => exact ⟨hfind, haim⟩
  · rintro ⟨hfind, haim⟩
    rw [run_reconcile_of_aim_error hfind haim]

end Pass

end MountOwnership
