import MountOwnership.Proofs.Pass.Effect
import MountOwnership.Proofs.References

/-!
# What the summary of a pass tells

The tally of a store is the summary that a pass over some names ought to give: each
name filed once, by the ConfigMap that the store holds for it.  A pass looks at each
ConfigMap only after it has written others, but as no name comes twice, it finds
each as it was before the pass.  So the summary of a pass that came to its end is
the tally of the store before it (`Pass.Visits.summary_eq`), and the tally says where
every mounted ConfigMap stands (`Pass.reconcile_accounts`).
-/

namespace MountOwnership

namespace Summary

/-- The lists of one summary followed by those of another. -/
def append (a b : Summary) : Summary where
  linked := a.linked ++ b.linked
  alreadyOwned := a.alreadyOwned ++ b.alreadyOwned
  missing := a.missing ++ b.missing
  dryRun := a.dryRun ++ b.dryRun

/-- Summaries can be put together in any grouping. -/
lemma append_assoc (a b c : Summary) : (a.append b).append c = a.append (b.append c) := by
  simp [append]

/-- The empty summary adds nothing. -/
lemma append_empty (a : Summary) : a.append {} = a := by
  simp [append]

/-- All names that a summary tells of, list by list. -/
def names (a : Summary) : List String := a.linked ++ a.alreadyOwned ++ a.missing ++ a.dryRun

/-- Two summaries in one tell of the names of both. -/
lemma names_append (a b : Summary) : (a.append b).names.Perm (a.names ++ b.names) := by
  rw [List.perm_iff_count]
  intro name
  simp only [names, append, List.count_append]
  omega

end Summary

namespace Pass

variable {ctx : Context} {ns : String} {rs : ReplicaSet} {names : List String} {s t u : Store}
  {sum sum' : Summary}

/-- Whether the ConfigMap of a name is there and lacks the ReplicaSet. -/
def lacksOwner (ns : String) (rs : ReplicaSet) (s : Store) (name : String) : Bool :=
  (s.configMap? ⟨ns, name⟩).any fun c => !c.isOwnedBy rs

/-- Whether the ConfigMap of a name is there and lists the ReplicaSet. -/
def hasOwner (ns : String) (rs : ReplicaSet) (s : Store) (name : String) : Bool :=
  (s.configMap? ⟨ns, name⟩).any fun c => c.isOwnedBy rs

/-- The names filed by what a store holds for them. -/
def tally (ctx : Context) (ns : String) (rs : ReplicaSet) (s : Store) (names : List String) :
    Summary where
  linked := names.filter fun name => !ctx.dryRun && lacksOwner ns rs s name
  alreadyOwned := names.filter (hasOwner ns rs s)
  missing := names.filter fun name => (s.configMap? ⟨ns, name⟩).isNone
  dryRun := names.filter fun name => ctx.dryRun && lacksOwner ns rs s name

/-- The tally of a list is that of its head followed by that of its tail. -/
lemma tally_cons (name : String) (names : List String) :
    tally ctx ns rs s (name :: names) =
      (tally ctx ns rs s [name]).append (tally ctx ns rs s names) := by
  unfold tally Summary.append
  simp only [← List.filter_append, List.singleton_append]

/-- Each name is filed in one list. -/
lemma names_tally_singleton (name : String) : (tally ctx ns rs s [name]).names = [name] := by
  cases hget : s.configMap? ⟨ns, name⟩ with
  | none => simp [Summary.names, tally, lacksOwner, hasOwner, hget]
  | some c =>
    by_cases ho : c.isOwnedBy rs = true
    · simp [Summary.names, tally, lacksOwner, hasOwner, hget, ho]
    · by_cases hd : ctx.dryRun = true
      · simp [Summary.names, tally, lacksOwner, hasOwner, hget, ho, hd]
      · simp [Summary.names, tally, lacksOwner, hasOwner, hget, ho, hd]

/-- A tally files every name, and as often as it comes. -/
lemma names_tally (names : List String) : (tally ctx ns rs s names).names.Perm names := by
  induction names with
  | nil => exact List.Perm.refl _
  | cons name names ih =>
    rw [tally_cons]
    refine (Summary.names_append _ _).trans ?_
    rw [names_tally_singleton]
    exact ih.cons name

/-- Stores that hold the same for every name have the same tally. -/
lemma tally_congr (h : ∀ name ∈ names, t.configMap? ⟨ns, name⟩ = s.configMap? ⟨ns, name⟩) :
    tally ctx ns rs t names = tally ctx ns rs s names := by
  unfold tally
  congr 1 <;> refine List.filter_congr fun name hn => ?_
  · rw [lacksOwner, lacksOwner, h name hn]
  · rw [hasOwner, hasOwner, h name hn]
  · rw [h name hn]
  · rw [lacksOwner, lacksOwner, h name hn]

/-- Work on one ConfigMap files its name and records its replace as the store has it. -/
lemma Visit.summary_eq {name : String} (h : Visit ctx ns rs s sum name t sum') :
    sum' = sum.append (tally ctx ns rs s [name]) ∧
      t.replaceCalls = s.replaceCalls ++ (tally ctx ns rs s [name]).linked := by
  cases h with
  | missing h => simp [Summary.append, tally, lacksOwner, hasOwner, h]
  | alreadyOwned h ho => simp [Summary.append, tally, lacksOwner, hasOwner, h, ho]
  | dryRun h ho hd => simp [Summary.append, tally, lacksOwner, hasOwner, h, ho, hd]
  | linked h _ =>
    simp [Summary.append, tally, lacksOwner, hasOwner, h.stored, h.not_owned, h.not_dryRun,
      Store.overwrite, Store.noted, Store.put]

/-- Work on other names leaves the ConfigMap of a name as it is. -/
lemma Effect.configMap?_eq_of_not_mem {name : String}
    (h : Effect ctx ns rs names ⟨ns, name⟩ s t) (hn : name ∉ names) :
    t.configMap? ⟨ns, name⟩ = s.configMap? ⟨ns, name⟩ := by
  refine h.configMap?_eq_of_ne fun other hother hkey => ?_
  obtain rfl := congrArg ObjectKey.name hkey
  exact hn hother

/-- Work on ConfigMaps files their names and records its replaces as the store was before it. -/
lemma Visits.summary_eq (h : Visits ctx ns rs s sum names t sum') (hnodup : names.Nodup) :
    sum' = sum.append (tally ctx ns rs s names) ∧
      t.replaceCalls = s.replaceCalls ++ (tally ctx ns rs s names).linked := by
  induction h with
  | @nil s sum => exact ⟨sum.append_empty.symm, (List.append_nil s.replaceCalls).symm⟩
  | @cons s t u sum sum' sum'' name names h _ ih =>
    obtain ⟨hnotin, hnodup'⟩ := List.nodup_cons.mp hnodup
    obtain ⟨hsum, hcalls⟩ := h.summary_eq
    obtain ⟨hsum', hcalls'⟩ := ih hnodup'
    have hsame : tally ctx ns rs t names = tally ctx ns rs s names := by
      refine tally_congr fun other hother => (h.effect _).configMap?_eq_of_not_mem ?_
      rintro hmem
      exact hnotin (List.mem_singleton.mp hmem ▸ hother)
    rw [hsame] at hsum' hcalls'
    rw [tally_cons]
    constructor
    · rw [hsum', hsum, Summary.append_assoc]
    · rw [hcalls', hcalls, List.append_assoc]
      rfl

/-- The summary of work on the ConfigMaps of a ReplicaSet is the tally of the store before it. -/
lemma Visits.eq_tally (h : Visits ctx ns rs s {} rs.configMaps t sum) :
    sum = tally ctx ns rs s rs.configMaps :=
  (h.summary_eq rs.nodup_configMaps).1

/-- Nothing is left to write into the ConfigMap of a name. -/
def Settled (ctx : Context) (ns : String) (rs : ReplicaSet) (s : Store) (name : String) : Prop :=
  ∀ c, s.configMap? ⟨ns, name⟩ = some c → c.isOwnedBy rs = true ∨ ctx.dryRun = true

/-- Work on one ConfigMap leaves nothing to write into it. -/
lemma Visit.settled {name : String} (h : Visit ctx ns rs s sum name t sum') :
    Settled ctx ns rs t name := by
  intro c hget
  cases h with
  | missing h => exact nomatch h.symm.trans hget
  | alreadyOwned h ho =>
    obtain rfl := Option.some.inj (h.symm.trans hget)
    exact Or.inl ho
  | dryRun _ _ hd => exact Or.inr hd
  | @linked c' owner h _ =>
    rw [Store.overwrite, Store.put_configMap?, if_pos rfl] at hget
    obtain rfl := Option.some.inj hget
    exact Or.inl (ConfigMap.withOwner_isOwnedBy h.record c')

/-- Where nothing is left to write, work on ConfigMaps leaves it so. -/
lemma Effect.settled {name : String} (h : Effect ctx ns rs names ⟨ns, name⟩ s t)
    (hs : Settled ctx ns rs s name) : Settled ctx ns rs t name := by
  intro c hget
  cases h with
  | kept h => exact hs c (h.symm.trans hget)
  | linked hk _ h _ ht =>
    obtain rfl := Option.some.inj (ht.symm.trans hget)
    exact Or.inl (ConfigMap.withOwner_isOwnedBy h.record _)

/-- Work on ConfigMaps that came to its end leaves nothing to write. -/
lemma Visits.settled (h : Visits ctx ns rs s sum names t sum') :
    ∀ name ∈ names, Settled ctx ns rs t name := by
  induction h with
  | nil => exact fun name hn => absurd hn List.not_mem_nil
  | cons h hrest ih =>
    intro name hn
    rcases List.mem_cons.mp hn with rfl | hn
    · exact (hrest.effect _).settled h.settled
    · exact ih name hn

/-! ### Passes that came to their end -/

/-- What a summary is to tell of the ConfigMaps that a ReplicaSet mounts, for the stores before
and after a pass. -/
structure Accounts (ctx : Context) (ns : String) (rs : ReplicaSet) (s t : Store) (sum : Summary) :
    Prop where
  perm : sum.names.Perm rs.configMaps
  nodup : sum.names.Nodup
  linked_sublist : sum.linked.Sublist rs.configMaps
  alreadyOwned_sublist : sum.alreadyOwned.Sublist rs.configMaps
  missing_sublist : sum.missing.Sublist rs.configMaps
  dryRun_sublist : sum.dryRun.Sublist rs.configMaps
  mem_missing : ∀ name ∈ rs.configMaps,
    (name ∈ sum.missing ↔ s.configMap? ⟨ns, name⟩ = none)
  mem_alreadyOwned : ∀ name ∈ rs.configMaps,
    (name ∈ sum.alreadyOwned ↔ ∃ c, s.configMap? ⟨ns, name⟩ = some c ∧ c.isOwnedBy rs = true)
  mem_dryRun : ∀ name ∈ rs.configMaps, (name ∈ sum.dryRun ↔ ctx.dryRun = true ∧
    ∃ c, s.configMap? ⟨ns, name⟩ = some c ∧ c.isOwnedBy rs = false)
  mem_linked : ∀ name ∈ rs.configMaps, (name ∈ sum.linked ↔ ctx.dryRun = false ∧
    ∃ c, s.configMap? ⟨ns, name⟩ = some c ∧ c.isOwnedBy rs = false)
  replaceCalls_eq : t.replaceCalls = s.replaceCalls ++ sum.linked
  owned_after : ctx.dryRun = false → ∀ name ∈ rs.configMaps, ∀ c,
    t.configMap? ⟨ns, name⟩ = some c → c.isOwnedBy rs = true

/-- A name lacks the owner if its ConfigMap is stored and not owned. -/
lemma lacksOwner_iff {name : String} : lacksOwner ns rs s name = true ↔
    ∃ c, s.configMap? ⟨ns, name⟩ = some c ∧ c.isOwnedBy rs = false := by
  simp [lacksOwner, Option.any_eq_true]

/-- A name has the owner if its ConfigMap is stored and owned. -/
lemma hasOwner_iff {name : String} : hasOwner ns rs s name = true ↔
    ∃ c, s.configMap? ⟨ns, name⟩ = some c ∧ c.isOwnedBy rs = true := by
  simp [hasOwner, Option.any_eq_true]

/-- The tally of the store before the pass tells what is to be told. -/
lemma Visits.accounts (h : Visits ctx ns rs s {} rs.configMaps t sum) :
    Accounts ctx ns rs s t sum := by
  obtain ⟨hsum, hcalls⟩ := h.summary_eq rs.nodup_configMaps
  change sum = tally ctx ns rs s rs.configMaps at hsum
  subst hsum
  have hperm : (tally ctx ns rs s rs.configMaps).names.Perm rs.configMaps := names_tally _
  refine
    { perm := hperm
      nodup := hperm.nodup_iff.mpr rs.nodup_configMaps
      linked_sublist := List.filter_sublist
      alreadyOwned_sublist := List.filter_sublist
      missing_sublist := List.filter_sublist
      dryRun_sublist := List.filter_sublist
      mem_missing := fun name hn => ?_
      mem_alreadyOwned := fun name hn => ?_
      mem_dryRun := fun name hn => ?_
      mem_linked := fun name hn => ?_
      replaceCalls_eq := hcalls
      owned_after := fun hd name hn c hget => ?_ }
  · simp [tally, List.mem_filter, hn]
  · simp [tally, List.mem_filter, hn, hasOwner_iff]
  · simp [tally, List.mem_filter, hn, lacksOwner_iff]
  · simp [tally, List.mem_filter, hn, lacksOwner_iff]
  · rcases h.settled name hn c hget with ho | hdry
    · exact ho
    · rw [hd] at hdry
      exact nomatch hdry

/-- **Completeness.**  A pass that returns a summary files each ConfigMap that the ReplicaSet
mounts exactly once, in order, and by what the store held for it before the pass; it asked to
replace those that it linked and no others, and unless it was a dry run, it leaves every
ConfigMap owned that is there. -/
theorem reconcile_accounts {s t : Store} (hs : s.Reachable) {ctx : Context} {ns name : String}
    {callsLeft : Option Nat} {sum : Summary}
    (h : (reconcile ctx ns name).run callsLeft s = (t, .returned (.ok (.applied sum)))) :
    ∃ rs, s.replicaSets.get? ⟨ns, name⟩ = some rs ∧ Accounts ctx ns rs s t sum := by
  have hcourse := course_reconcile hs.consistent ctx ns name callsLeft
  rw [h] at hcourse
  cases hcourse with
  | @linking rs _ _ _ hget _ _ hlink =>
    cases hlink with
    | finished hvisits => exact ⟨rs, hget, hvisits.accounts⟩
    | stopped _ _ hstop => exact absurd rfl (hstop.quiet.2 _)

/-- A pass over `app-rs` links the one ConfigMap that is there and lacks it. -/
theorem reconcile_accounts_app_rs :
    ((reconcile (Sample.context false) "default" "app-rs").run none Sample.store).2 =
      .returned (.ok (.applied ⟨["app-config"], ["shared-config"], ["gone-config"], []⟩)) ∧
    ∃ rs, Sample.store.replicaSets.get? ⟨"default", "app-rs"⟩ = some rs ∧
      Accounts (Sample.context false) "default" rs Sample.store
        ((reconcile (Sample.context false) "default" "app-rs").run none Sample.store).1
        ⟨["app-config"], ["shared-config"], ["gone-config"], []⟩ :=
  ⟨Sample.applied_app_rs,
    reconcile_accounts Sample.reachable_store (Prod.ext rfl Sample.applied_app_rs)⟩

end Pass

end MountOwnership
