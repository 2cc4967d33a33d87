import MountOwnership.Proofs.Pass.Repeat

/-!
# Dry runs

A real pass looks up its later ConfigMaps in a store that it has changed already, a dry
run finds all of them as they were at the beginning.  Still both return a tally of the
store at the beginning, and the two tallies differ only in the list that the ConfigMaps
to be written are filed in (`Pass.tally_foretells`).

What else a real pass needs is that replaces are answered and that the ConfigMaps can
be written: their keys can be built if the namespace is not empty, since no mounted name
is, and there is a record if the ReplicaSet has a name and a uid.  So a dry run foretells
the real pass, and is foretold by it (`Pass.dryRun_foretells`).
-/

namespace MountOwnership

namespace Pass

variable {ctx : Context} {ns name : String} {rs : ReplicaSet} {s t : Store}

/-! ### What a dry run leaves behind -/

/-- A dry run that stops has at most left a look-up unanswered. -/
lemma Stop.eq_or_eq_stall {e : Ending} (h : Stop ctx ns rs s name t e) (hd : ctx.dryRun = true) :
    t = s ∨ t = s.stall := by
  cases h with
  | cancelled => exact Or.inl rfl
  | unreadable => exact Or.inl rfl
  | readStalled => exact Or.inr rfl
  | noRecord => exact Or.inl rfl
  | refused h _ => exact nomatch h.not_dryRun.symm.trans hd
  | replaceStalled h _ => exact nomatch h.not_dryRun.symm.trans hd

/-- However it ends, a dry run leaves the store as it is, apart from a look-up that was left
unanswered. -/
lemma run_dryRun_eq_or_eq_stall (hs : s.Consistent) (hd : ctx.dryRun = true) (ns name : String)
    (callsLeft : Option Nat) :
    ((reconcile ctx ns name).run callsLeft s).1 = s ∨
      ((reconcile ctx ns name).run callsLeft s).1 = s.stall := by
  have hcourse := course_reconcile hs ctx ns name callsLeft
  generalize (reconcile ctx ns name).run callsLeft s = r at hcourse ⊢
  obtain ⟨t, e⟩ := r
  change Course ctx ns name s t e at hcourse
  cases hcourse with
  | linking _ _ _ _ hlink =>
    cases hlink with
    | finished h => exact Or.inl (h.eq_of_settled fun _ _ => settled_of_dryRun hd)
    | stopped _ h hstop =>
      obtain rfl := h.eq_of_settled fun _ _ => settled_of_dryRun hd
      exact hstop.eq_or_eq_stall hd
  | _ => exact Or.inl rfl

/-! ### What a dry run foretells -/

/-- A summary of a dry run tells what a summary of a real pass tells, but that the ConfigMaps are
yet to be written. -/
structure Foretells (dry real : Summary) : Prop where
  dryRun_eq : dry.dryRun = real.linked
  alreadyOwned_eq : dry.alreadyOwned = real.alreadyOwned
  missing_eq : dry.missing = real.missing
  linked_eq : dry.linked = []

/-- The tally for a dry run foretells the tally for a real pass. -/
lemma tally_foretells (ctx : Context) (ns : String) (rs : ReplicaSet) (s : Store)
    (names : List String) :
    Foretells (tally { ctx with dryRun := true } ns rs s names)
      (tally { ctx with dryRun := false } ns rs s names) where
  dryRun_eq := by simp [tally]
  alreadyOwned_eq := rfl
  missing_eq := rfl
  linked_eq := by simp [tally]

/-- A dry run is to do what a real pass is to do. -/
lemma aim_dryRun (ctx : Context) (ns name : String) (s : Store) (d d' : Bool) :
    aim { ctx with dryRun := d } ns name s = aim { ctx with dryRun := d' } ns name s := rfl

/-- If a real pass returns a summary, so does a dry run from the same store, and foretells it. -/
lemma dryRun_of_real (hs : s.Consistent) {sum : Summary}
    (h : (reconcile { ctx with dryRun := false } ns name).run none s =
      (t, .returned (.ok (.applied sum)))) :
    ∃ sum', (reconcile { ctx with dryRun := true } ns name).run none s =
      (s, .returned (.ok (.applied sum'))) ∧ Foretells sum' sum := by
  obtain ⟨hfind, hsuccess⟩ := success_of_run hs h
  cases hsuccess with
  | @applied rs _ _ haim hvisits hlegible =>
    refine ⟨_, run_reconcile_of_settled hfind ((aim_dryRun ctx ns name s true false).trans haim)
      hlegible fun _ _ => settled_of_dryRun rfl, ?_⟩
    obtain rfl := hvisits.eq_tally
    exact tally_foretells ctx ns rs s rs.configMaps

/-- A ConfigMap of a namespace that is not empty can be worked on for a ReplicaSet with a name and
a uid. -/
lemma workable_of_isSome (hs : s.Consistent) (hns : ns ≠ "") (hname : rs.metadata.name.isSome)
    (huid : rs.metadata.uid.isSome) {configMap : String} (hm : configMap ∈ rs.configMaps) :
    Workable ctx ns rs s configMap := by
  obtain ⟨rsName, hname⟩ := Option.isSome_iff_exists.mp hname
  obtain ⟨uid, huid⟩ := Option.isSome_iff_exists.mp huid
  intro c hget _ _
  exact ⟨⟨_, ReplicaSet.ownerRecord_eq_ok_iff.mpr ⟨rsName, uid, hname, huid, rfl⟩⟩,
    Metadata.key_of_storeKey (hs.configMap_key hget) hns (ReplicaSet.ne_empty_of_mem_configMaps hm)⟩

/-- If a dry run returns a summary and what is to be written can be, then a real pass from the same
store returns a summary that was foretold. -/
lemma real_of_dryRun (hs : s.Consistent) (hw : s.Writable) (hns : ns ≠ "")
    (hrs : ∀ rs, s.replicaSets.get? ⟨ns, name⟩ = some rs →
      rs.metadata.name.isSome ∧ rs.metadata.uid.isSome) {sum' : Summary}
    (h : (reconcile { ctx with dryRun := true } ns name).run none s =
      (t, .returned (.ok (.applied sum')))) :
    ∃ u sum, (reconcile { ctx with dryRun := false } ns name).run none s =
      (u, .returned (.ok (.applied sum))) ∧ Foretells sum' sum := by
  obtain ⟨hfind, hsuccess⟩ := success_of_run hs h
  cases hsuccess with
  | @applied rs _ _ haim hvisits hlegible =>
    obtain ⟨hname, huid⟩ := hrs rs (aim_eq_ok_iff.mp haim).2.1
    obtain ⟨u, sum, hreal⟩ :=
      exists_visits (fun configMap hm => workable_of_isSome hs hns hname huid hm) {}
    have ha : ∀ configMap ∈ rs.configMaps,
        Answered { ctx with dryRun := false } ns rs s configMap :=
      fun configMap hm => ⟨hlegible configMap hm, fun _ => hw⟩
    refine ⟨u, sum, run_reconcile_of_answered hfind
      ((aim_dryRun ctx ns name s false true).trans haim) ha hreal, ?_⟩
    obtain rfl := hvisits.eq_tally
    obtain rfl := hreal.eq_tally
    exact tally_foretells ctx ns rs s rs.configMaps

/-- **Dry runs.**  A dry run foretells the real pass from the same store.  If the real pass returns
a summary, the dry run returns one that foretells it; and the other way round, if replaces are
answered, the namespace is not empty and the ReplicaSet has a name and a uid.  Both leave the
ReplicaSet alone in the same cases and for the same reason.  The dry run changes nothing in the
store, apart from a look-up that was left unanswered. -/
theorem dryRun_foretells (hs : s.Reachable) (ctx : Context) (ns name : String) :
    let real := (reconcile { ctx with dryRun := false } ns name).run none s
    let dry := (reconcile { ctx with dryRun := true } ns name).run none s
    (∀ sum, real.2 = .returned (.ok (.applied sum)) →
      ∃ sum', dry.2 = .returned (.ok (.applied sum')) ∧ Foretells sum' sum) ∧
    (∀ sum', dry.2 = .returned (.ok (.applied sum')) →
      s.faults.conflicts = 0 → s.faults.stallReplaces = false → ns ≠ "" →
      (∀ rs, s.replicaSets.get? ⟨ns, name⟩ = some rs →
        rs.metadata.name.isSome ∧ rs.metadata.uid.isSome) →
      ∃ sum, real.2 = .returned (.ok (.applied sum)) ∧ Foretells sum' sum) ∧
    (∀ reason, real.2 = .returned (.ok (.skipped reason)) ↔
      dry.2 = .returned (.ok (.skipped reason))) ∧
    (dry.1 = s ∨ dry.1 = s.stall) := by
  intro real dry
  refine ⟨fun sum hreal => ?_, fun sum' hdry hc hstall hns hrs => ?_, fun reason => ?_, ?_⟩
  · obtain ⟨sum', hdry, hforetells⟩ := dryRun_of_real hs.consistent (Prod.ext rfl hreal)
    exact ⟨sum', congrArg Prod.snd hdry, hforetells⟩
  · obtain ⟨u, sum, hreal, hforetells⟩ :=
      real_of_dryRun hs.consistent ⟨hstall, hc⟩ hns hrs (Prod.ext rfl hdry)
    exact ⟨sum, congrArg Prod.snd hreal, hforetells⟩
  · rw [run_reconcile_skipped_iff hs.consistent, run_reconcile_skipped_iff hs.consistent,
      aim_dryRun ctx ns name s false true]
    rfl
  · exact run_dryRun_eq_or_eq_stall hs.consistent rfl ns name none

/-- The dry run over `app-rs` tells what the real pass will link, and the real pass links it. -/
theorem dryRun_foretells_app_rs :
    (∃ dry, ((reconcile (Sample.context true) "default" "app-rs").run none Sample.store).2 =
        .returned (.ok (.applied dry)) ∧
      Foretells dry ⟨["app-config"], ["shared-config"], ["gone-config"], []⟩) ∧
    ∃ real, ((reconcile (Sample.context false) "default" "app-rs").run none Sample.store).2 =
        .returned (.ok (.applied real)) ∧
      Foretells ⟨[], ["shared-config"], ["gone-config"], ["app-config"]⟩ real := by
  have hdry : ((reconcile (Sample.context true) "default" "app-rs").run none Sample.store).2 =
      .returned (.ok (.applied ⟨[], ["shared-config"], ["gone-config"], ["app-config"]⟩)) := by
    rw [reconcile_eq_compared]
    decide +kernel
  have hrs : ∀ rs, Sample.store.replicaSets.get? ⟨"default", "app-rs"⟩ = some rs →
      rs.metadata.name.isSome ∧ rs.metadata.uid.isSome := by
    intro rs hget
    obtain rfl := Option.some.inj (Sample.get?_app_rs.symm.trans hget)
    exact ⟨rfl, rfl⟩
  have h := dryRun_foretells Sample.reachable_store (Sample.context true) "default" "app-rs"
  exact ⟨h.1 _ Sample.applied_app_rs, h.2.1 _ hdry rfl rfl (by decide) hrs⟩

end Pass

end MountOwnership
