import MountOwnership.Proofs.Pass.Success

/-!
# Passes that are tried again

A pass that is cut off keeps what it has written.  When it is tried again and again,
under whatever faults, and at last returns a summary, the ConfigMaps are those that
one undisturbed pass would have made of the store at the beginning, apart from their
versions (`Pass.retry_eq_undisturbed`).

Two facts carry the proof.  The attempts have an effect on the store as one piece of
work would have, and such an effect is determined by the store at the beginning as
soon as nothing is left to write (`Pass.Effect.content_eq`).  And what lets a pass
come to its end, that each ConfigMap can be worked on, is neither gained nor lost on
the way (`Pass.Effect.workable_iff`).
-/

namespace MountOwnership

namespace Pass

variable {ctx : Context} {ns name : String} {rs : ReplicaSet} {names : List String}
  {s t u : Store} {sum sum' : Summary}

/-! ### What lets a pass come to its end -/

/-- If the ConfigMap of a name is to be written, it can be. -/
def Workable (ctx : Context) (ns : String) (rs : ReplicaSet) (s : Store) (name : String) : Prop :=
  ∀ c, s.configMap? ⟨ns, name⟩ = some c → c.isOwnedBy rs = false → ctx.dryRun = false →
    (∃ owner, rs.ownerRecord = .ok owner) ∧ c.metadata.key = .ok ⟨ns, name⟩

/-- Work on ConfigMaps changes nothing about whether they can be worked on. -/
lemma Effect.workable_iff (h : Effect ctx ns rs names ⟨ns, name⟩ s t) :
    Workable ctx ns rs t name ↔ Workable ctx ns rs s name := by
  cases h with
  | kept h =>
    unfold Workable
    rw [h]
  | @linked name' c owner version hk _ h hkey ht =>
    obtain rfl := congrArg ObjectKey.name hk
    constructor
    · -- the write shows that the ConfigMap could be written
      intro _ c' hget _ _
      obtain rfl := Option.some.inj (h.stored.symm.trans hget)
      exact ⟨⟨owner, h.record⟩, hkey⟩
    · -- after the write there is nothing to be written
      intro _ c' hget hno _
      obtain rfl := Option.some.inj (ht.symm.trans hget)
      have howned := ConfigMap.withOwner_isOwnedBy h.record c
      exact nomatch hno.symm.trans howned

/-- A ConfigMap that was worked on can be worked on. -/
lemma Visit.workable (h : Visit ctx ns rs s sum name t sum') : Workable ctx ns rs s name := by
  intro c hget hno hd
  cases h with
  | missing h => exact nomatch h.symm.trans hget
  | alreadyOwned h ho =>
    obtain rfl := Option.some.inj (h.symm.trans hget)
    exact nomatch hno.symm.trans ho
  | dryRun _ _ hd' => exact nomatch hd.symm.trans hd'
  | linked h hk =>
    obtain rfl := Option.some.inj (h.stored.symm.trans hget)
    exact ⟨⟨_, h.record⟩, hk⟩

/-- ConfigMaps that were worked on could be worked on from the beginning. -/
lemma Visits.workable (h : Visits ctx ns rs s sum names t sum') :
    ∀ name ∈ names, Workable ctx ns rs s name := by
  induction h with
  | nil => exact fun name hn => absurd hn List.not_mem_nil
  | cons h _ ih =>
    intro name hn
    rcases List.mem_cons.mp hn with rfl | hn
    · exact h.workable
    · exact (h.effect _).workable_iff.mp (ih name hn)

/-- A ConfigMap that can be worked on is worked on to the end. -/
lemma Workable.exists_visit (h : Workable ctx ns rs s name) (sum : Summary) :
    ∃ t sum', Visit ctx ns rs s sum name t sum' := by
  cases hget : s.configMap? ⟨ns, name⟩ with
  | none => exact ⟨_, _, .missing hget⟩
  | some c =>
    by_cases ho : c.isOwnedBy rs = true
    · exact ⟨_, _, .alreadyOwned hget ho⟩
    · have ho' : c.isOwnedBy rs = false := by simpa using ho
      by_cases hd : ctx.dryRun = true
      · exact ⟨_, _, .dryRun hget ho' hd⟩
      · have hd' : ctx.dryRun = false := by simpa using hd
        obtain ⟨⟨owner, hr⟩, hk⟩ := h c hget ho' hd'
        exact ⟨_, _, .linked ⟨hget, ho', hd', hr⟩ hk⟩

/-- ConfigMaps that can be worked on are worked on to the end. -/
lemma exists_visits (h : ∀ name ∈ names, Workable ctx ns rs s name) (sum : Summary) :
    ∃ t sum', Visits ctx ns rs s sum names t sum' := by
  induction names generalizing s sum with
  | nil => exact ⟨s, sum, .nil⟩
  | cons name names ih =>
    obtain ⟨t, sum', hvisit⟩ := (h name List.mem_cons_self).exists_visit sum
    have hrest : ∀ other ∈ names, Workable ctx ns rs t other := by
      intro other hn
      exact (hvisit.effect _).workable_iff.mpr (h other (List.mem_cons_of_mem _ hn))
    obtain ⟨u, sum'', hvisits⟩ := ih hrest sum'
    exact ⟨u, sum'', .cons hvisit hvisits⟩

/-! ### What the work makes of a store -/

/-- Where nothing is left to write, the ConfigMap is not one that was to be written. -/
lemma Settled.not_unlinked {c : ConfigMap} {owner : OwnerReference}
    (ht : Settled ctx ns rs t name) (hkept : t.configMap? ⟨ns, name⟩ = s.configMap? ⟨ns, name⟩) :
    ¬ Unlinked ctx ns rs s name c owner := by
  intro h
  rcases ht c (hkept.trans h.stored) with ho | hd
  · exact nomatch h.not_owned.symm.trans ho
  · exact nomatch h.not_dryRun.symm.trans hd

/-- Two pieces of work on the same ConfigMaps of a store that leave nothing to write make the
same of it, apart from the versions. -/
lemma Effect.content_eq {k : ObjectKey} (ht : Effect ctx ns rs names k s t)
    (hu : Effect ctx ns rs names k s u) (hts : ∀ name ∈ names, Settled ctx ns rs t name)
    (hus : ∀ name ∈ names, Settled ctx ns rs u name) :
    (t.configMap? k).map (·.withVersion none) = (u.configMap? k).map (·.withVersion none) := by
  -- what one piece wrote, the other cannot have left as it was
  cases ht with
  | kept ht =>
    cases hu with
    | kept hu => rw [ht, hu]
    | linked hk hn h _ _ =>
      subst hk
      exact absurd h ((hts _ hn).not_unlinked ht)
  | linked hk hn h _ ht =>
    subst hk
    cases hu with
    | kept hu => exact absurd h ((hus _ hn).not_unlinked hu)
    | linked hk' _ h' _ hu =>
      obtain rfl := congrArg ObjectKey.name hk'
      obtain rfl := Option.some.inj (h.stored.symm.trans h'.stored)
      obtain rfl := Except.ok.inj (h.record.symm.trans h'.record)
      rw [ht, hu]
      rfl

/-! ### Attempts -/

/-- An attempt at a pass: the faults that the store shows meanwhile, and after how many calls the
pass is cancelled, if ever.  A pass that comes to wait for a call is given up. -/
structure Attempt where
  faults : Faults
  callsLeft : Option Nat

/-- The run of a pass that an attempt makes. -/
def Attempt.run (a : Attempt) (ctx : Context) (ns name : String) (s : Store) : Store × Ending :=
  (reconcile ctx ns name).run a.callsLeft { s with faults := a.faults }

/-- The store after attempts at a pass, one after the other. -/
def tried (ctx : Context) (ns name : String) (s : Store) (attempts : List Attempt) : Store :=
  attempts.foldl (fun s a => (a.run ctx ns name s).1) s

/-- The faults of a store have no part in what work makes of it. -/
lemma Effect.of_setFaults {k : ObjectKey} {f : Faults}
    (h : Effect ctx ns rs names k { s with faults := f } t) : Effect ctx ns rs names k s t := by
  have hfaults : Effect ctx ns rs names k s { s with faults := f } := .kept rfl
  exact hfaults.trans h

namespace Attempt

/-- An attempt is a pass over the store with its faults. -/
lemma course (a : Attempt) (hs : s.Reachable) (ctx : Context) (ns name : String) :
    Course ctx ns name { s with faults := a.faults } (a.run ctx ns name s).1
      (a.run ctx ns name s).2 :=
  course_reconcile (hs.setFaults a.faults).consistent ctx ns name a.callsLeft

/-- An attempt leads from a reachable store to a reachable one. -/
lemma reachable (a : Attempt) (hs : s.Reachable) (ctx : Context) (ns name : String) :
    (a.run ctx ns name s).1.Reachable :=
  reachable_run (hs.setFaults a.faults) _ _

/-- An attempt leaves ReplicaSets alone. -/
lemma replicaSets_eq (a : Attempt) (hs : s.Reachable) (ctx : Context) (ns name : String) :
    (a.run ctx ns name s).1.replicaSets = s.replicaSets :=
  (a.course hs ctx ns name).replicaSets_eq

/-- An attempt has the effect of work on the ConfigMaps of the ReplicaSet. -/
lemma effect (a : Attempt) (hs : s.Reachable) (ctx : Context)
    (hget : s.replicaSets.get? ⟨ns, name⟩ = some rs) (k : ObjectKey) :
    Effect ctx ns rs rs.configMaps k s (a.run ctx ns name s).1 := by
  rcases (a.course hs ctx ns name).effect k with hkept | ⟨_, rs', hget', _, heffect⟩
  · exact .kept hkept
  · obtain rfl := Option.some.inj (hget.symm.trans hget')
    exact heffect.of_setFaults

end Attempt

/-- Attempts lead from reachable stores to reachable stores. -/
lemma reachable_tried (hs : s.Reachable) (ctx : Context) (ns name : String)
    (attempts : List Attempt) : (tried ctx ns name s attempts).Reachable := by
  induction attempts generalizing s with
  | nil => exact hs
  | cons a attempts ih => exact ih (a.reachable hs ctx ns name)

/-- Attempts leave ReplicaSets alone. -/
lemma replicaSets_tried (hs : s.Reachable) (ctx : Context) (ns name : String)
    (attempts : List Attempt) :
    (tried ctx ns name s attempts).replicaSets = s.replicaSets := by
  induction attempts generalizing s with
  | nil => rfl
  | cons a attempts ih =>
    exact (ih (a.reachable hs ctx ns name)).trans (a.replicaSets_eq hs ctx ns name)

/-- Attempts together have the effect of work on the ConfigMaps of the ReplicaSet. -/
lemma effect_tried (hs : s.Reachable) (ctx : Context)
    (hget : s.replicaSets.get? ⟨ns, name⟩ = some rs) (attempts : List Attempt) (k : ObjectKey) :
    Effect ctx ns rs rs.configMaps k s (tried ctx ns name s attempts) := by
  induction attempts generalizing s with
  | nil => exact .kept rfl
  | cons a attempts ih =>
    have hget' : (a.run ctx ns name s).1.replicaSets.get? ⟨ns, name⟩ = some rs := by
      rw [a.replicaSets_eq hs ctx ns name]
      exact hget
    exact (a.effect hs ctx hget k).trans (ih (a.reachable hs ctx ns name) hget')

/-- **Retries.**  When attempts at a pass, under any faults and cut off anywhere, are followed by
one that returns a summary, then a single pass over the store at the beginning, without faults and
cancellation, returns a summary too, and both leave the same ConfigMaps, apart from their
versions. -/
theorem retry_eq_undisturbed (hs : s.Reachable) {ctx : Context} {ns name : String}
    (attempts : List Attempt) (last : Attempt) {t : Store} {sum : Summary}
    (h : last.run ctx ns name (tried ctx ns name s attempts) =
      (t, .returned (.ok (.applied sum)))) :
    ∃ u sum', (reconcile ctx ns name).run none { s with faults := {} } =
        (u, .returned (.ok (.applied sum'))) ∧
      ∀ k, (t.configMap? k).map (·.withVersion none) =
        (u.configMap? k).map (·.withVersion none) := by
  have hreach := reachable_tried hs ctx ns name attempts
  have hcourse := last.course hreach ctx ns name
  rw [h] at hcourse
  cases hcourse with
  | @linking rs _ _ hf hget hc hn hlink =>
    cases hlink with
    | stopped _ _ hstop => exact absurd rfl (hstop.quiet.2 _)
    | finished hlast =>
      have hget' : s.replicaSets.get? ⟨ns, name⟩ = some rs := by
        rw [← replicaSets_tried hs ctx ns name attempts]
        exact hget
      have hbefore := effect_tried hs ctx hget' attempts
      -- the ConfigMaps could be worked on in the end, so they could at the beginning
      have hwork : ∀ configMap ∈ rs.configMaps,
          Workable ctx ns rs { s with faults := {} } configMap := by
        intro configMap hm
        exact (hbefore ⟨ns, configMap⟩).workable_iff.mp (hlast.workable configMap hm)
      obtain ⟨u, sum', hvisits⟩ := exists_visits hwork {}
      refine ⟨u, sum', run_reconcile_of_visits hf hget' hc hn hvisits rfl, fun k => ?_⟩
      have ht : Effect ctx ns rs rs.configMaps k s t :=
        (hbefore k).trans (hlast.effect k).of_setFaults
      have hu : Effect ctx ns rs rs.configMaps k s u := (hvisits.effect k).of_setFaults
      exact ht.content_eq hu hlast.settled hvisits.settled

/-- A pass over `app-rs` that meets a conflict, is given up while it writes, fails after its first
write, and is cancelled, before it comes to its end. -/
theorem retry_eq_undisturbed_app_rs :
    ∃ u sum', (reconcile (Sample.context false) "default" "app-rs").run none
        { Sample.store with faults := {} } = (u, .returned (.ok (.applied sum'))) ∧
      ∀ k, ((Attempt.run ⟨{}, none⟩ (Sample.context false) "default" "app-rs"
          (tried (Sample.context false) "default" "app-rs" Sample.store
            [⟨{ conflicts := 1 }, none⟩, ⟨{ stallReplaces := true }, none⟩,
              ⟨{ unreadable := ["shared-config"] }, none⟩, ⟨{}, some 2⟩])).1.configMap? k).map
            (·.withVersion none) =
        (u.configMap? k).map (·.withVersion none) := by
  have hend : (Attempt.run ⟨{}, none⟩ (Sample.context false) "default" "app-rs"
      (tried (Sample.context false) "default" "app-rs" Sample.store
        [⟨{ conflicts := 1 }, none⟩, ⟨{ stallReplaces := true }, none⟩,
          ⟨{ unreadable := ["shared-config"] }, none⟩, ⟨{}, some 2⟩])).2 =
      .returned (.ok (.applied ⟨[], ["app-config", "shared-config"], ["gone-config"], []⟩)) := by
    simp only [Attempt.run, tried, reconcile_eq_compared]
    decide +kernel
  exact retry_eq_undisturbed Sample.reachable_store _ _ (Prod.ext rfl hend)

end Pass

end MountOwnership
