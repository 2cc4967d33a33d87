import MountOwnership.Proofs.Pass.Retry

/-!
# Passes that are repeated

Where nothing is left to write, a pass needs no more than answers to its look-ups, and
leaves the store exactly as it is (`Pass.run_reconcile_of_settled`).  A pass that
succeeded leaves nothing to write, whatever owners the ConfigMaps had before, and has
been answered its look-ups.  So the same pass succeeds again and changes nothing
(`Pass.reconcile_repeated`).
-/

namespace MountOwnership

namespace Pass

variable {ctx : Context} {ns name : String} {rs : ReplicaSet} {names : List String} {s t : Store}
  {sum sum' : Summary}

/-! ### Where nothing is left to write -/

/-- In a dry run nothing is left to write. -/
lemma settled_of_dryRun (hd : ctx.dryRun = true) : Settled ctx ns rs s name :=
  fun _ _ => Or.inr hd

/-- A ConfigMap with nothing left to write into it can be worked on. -/
lemma Settled.workable (h : Settled ctx ns rs s name) : Workable ctx ns rs s name := by
  intro c hget hno hd
  rcases h c hget with ho | hdry
  · exact nomatch hno.symm.trans ho
  · exact nomatch hd.symm.trans hdry

/-- Where nothing is left to write, look-ups are all that has to be answered. -/
lemma Settled.answered (h : Settled ctx ns rs s name) (hl : s.Legible name) :
    Answered ctx ns rs s name :=
  ⟨hl, fun hun => absurd hun (h.not_unlinked rfl)⟩

/-- Work on a ConfigMap with nothing left to write into it leaves the store as it is. -/
lemma Visit.eq_of_settled (h : Visit ctx ns rs s sum name t sum')
    (hset : Settled ctx ns rs s name) : t = s := by
  cases h with
  | linked hun _ => exact absurd hun (hset.not_unlinked rfl)
  | _ => rfl

/-- Work on ConfigMaps with nothing left to write leaves the store as it is. -/
lemma Visits.eq_of_settled (h : Visits ctx ns rs s sum names t sum')
    (hset : ∀ name ∈ names, Settled ctx ns rs s name) : t = s := by
  induction h with
  | nil => rfl
  | cons hvisit _ ih =>
    obtain rfl := hvisit.eq_of_settled (hset _ List.mem_cons_self)
    exact ih fun other hn => hset other (List.mem_cons_of_mem _ hn)

/-- Where nothing is left to write, a pass that is answered its look-ups leaves the store as it
is and returns the tally. -/
lemma run_reconcile_of_settled (hfind : Findable ctx ns s) (haim : aim ctx ns name s = .ok rs)
    (hl : ∀ configMap ∈ rs.configMaps, s.Legible configMap)
    (hset : ∀ configMap ∈ rs.configMaps, Settled ctx ns rs s configMap) :
    (reconcile ctx ns name).run none s =
      (s, .returned (.ok (.applied (tally ctx ns rs s rs.configMaps)))) := by
  obtain ⟨t, sum, hvisits⟩ := exists_visits (fun configMap hm => (hset configMap hm).workable) {}
  obtain rfl := hvisits.eq_of_settled hset
  obtain rfl := hvisits.eq_tally
  exact run_reconcile_of_answered hfind haim
    (fun configMap hm => (hset configMap hm).answered (hl configMap hm)) hvisits

/-- Where nothing is left to write, what is there is owned. -/
lemma tally_of_settled (hd : ctx.dryRun = false)
    (hset : ∀ name ∈ names, Settled ctx ns rs s name) :
    tally ctx ns rs s names =
      { missing := (tally ctx ns rs s names).missing
        alreadyOwned := names.filter (· ∉ (tally ctx ns rs s names).missing) } := by
  have hlacks : ∀ name ∈ names, lacksOwner ns rs s name = false := by
    intro name hn
    refine Bool.eq_false_iff.mpr fun hlacks => ?_
    obtain ⟨c, hget, hno⟩ := lacksOwner_iff.mp hlacks
    rcases hset name hn c hget with ho | hdry
    · exact nomatch hno.symm.trans ho
    · exact nomatch hd.symm.trans hdry
  unfold tally
  congr 1
  · exact List.filter_eq_nil_iff.mpr fun name hn => by simp [hlacks name hn]
  · refine List.filter_congr fun name hn => ?_
    have hno := hlacks name hn
    unfold lacksOwner at hno
    unfold hasOwner
    cases hget : s.configMap? ⟨ns, name⟩ with
    | none => simp [hget, hn]
    | some c => simpa [hget] using hno
  · exact List.filter_eq_nil_iff.mpr fun name hn => by simp [hd]

/-! ### A second pass -/

/-- Work on ConfigMaps leaves the faults alone. -/
lemma Visits.faults_eq (h : Visits ctx ns rs s sum names t sum') : t.faults = s.faults := by
  induction h with
  | nil => rfl
  | cons hvisit _ ih => exact ih.trans hvisit.faults_eq

/-- The same ConfigMaps are missing before and after work on them. -/
lemma Visits.missing_tally_eq (h : Visits ctx ns rs s sum names t sum') (names' : List String) :
    (tally ctx ns rs t names').missing = (tally ctx ns rs s names').missing := by
  refine List.filter_congr fun name _ => ?_
  rw [← Option.not_isSome, ← Option.not_isSome, (h.effect _).isSome_eq]

/-- **Idempotence.**  When a pass succeeds, the same pass, made again at once and not cancelled,
succeeds too and leaves the store exactly as it is.  It returns what the first one did if that
left its ReplicaSet alone or was a dry run; else it finds every ConfigMap owned that is there, and
those missing that were. -/
theorem reconcile_repeated (hs : s.Reachable) {callsLeft : Option Nat} {outcome : Outcome}
    (h : (reconcile ctx ns name).run callsLeft s = (t, .returned (.ok outcome))) :
    ∃ again, (reconcile ctx ns name).run none t = (t, .returned (.ok again)) ∧
      ((∃ reason, outcome = .skipped reason) ∨ ctx.dryRun = true → again = outcome) ∧
      ∀ sum, outcome = .applied sum → ctx.dryRun = false →
        ∃ rs, s.replicaSets.get? ⟨ns, name⟩ = some rs ∧
          again = .applied
            { linked := []
              dryRun := []
              missing := sum.missing
              alreadyOwned := rs.configMaps.filter (· ∉ sum.missing) } := by
  obtain ⟨hfind, hsuccess⟩ := success_of_run hs.consistent h
  cases hsuccess with
  | @skipped reason haim =>
    exact ⟨.skipped reason, run_reconcile_of_aim_error hfind haim, fun _ => rfl, nofun⟩
  | @applied rs t sum haim hvisits hlegible =>
    have hfaults := hvisits.faults_eq
    have hfind' : Findable ctx ns t := fun hf => hfaults ▸ hfind hf
    have haim' : aim ctx ns name t = .ok rs := by
      unfold aim
      rw [hvisits.replicaSets_eq]
      exact haim
    have hl : ∀ configMap ∈ rs.configMaps, t.Legible configMap :=
      fun configMap hm => (hlegible configMap hm).congr hfaults
    have hsum := hvisits.eq_tally
    refine ⟨_, run_reconcile_of_settled hfind' haim' hl hvisits.settled, ?_, ?_⟩
    · rintro (⟨_, hskip⟩ | hd)
      · exact nomatch hskip
      · -- a dry run has written nothing, so the tally is still the same
        rw [hvisits.eq_of_settled fun _ _ => settled_of_dryRun hd, hsum]
    · intro sum' hsum' hd
      obtain rfl := Outcome.applied.inj hsum'
      refine ⟨rs, (aim_eq_ok_iff.mp haim).2.1, ?_⟩
      rw [tally_of_settled hd hvisits.settled, hvisits.missing_tally_eq, hsum]

/-- A second pass over `app-rs` finds owned what the first one has linked. -/
theorem reconcile_repeated_app_rs :
    let t := ((reconcile (Sample.context false) "default" "app-rs").run none Sample.store).1
    (reconcile (Sample.context false) "default" "app-rs").run none t =
      (t, .returned (.ok (.applied
        ⟨[], ["app-config", "shared-config"], ["gone-config"], []⟩))) := by
  intro t
  obtain ⟨again, hrun, _, hagain⟩ :=
    reconcile_repeated Sample.reachable_store (Prod.ext rfl Sample.applied_app_rs)
  obtain ⟨rs, hget, rfl⟩ := hagain _ rfl rfl
  obtain rfl := Option.some.inj (hget.symm.trans Sample.get?_app_rs)
  have hfound : (Sample.replicaSet "app-rs" "u1"
      ["app-config", "shared-config", "gone-config"]).configMaps.filter (· ∉ ["gone-config"]) =
        ["app-config", "shared-config"] := by
    rw [Sample.configMaps_app_rs]
    decide
  rw [hrun, hfound]

end Pass

end MountOwnership
