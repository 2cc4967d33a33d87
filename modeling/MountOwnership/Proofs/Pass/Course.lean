import MountOwnership.Pass
import MountOwnership.Proofs.Cluster.Reachable

/-!
# The course of a pass

A run of a pass over a consistent store takes one of few courses.  It ends before
any ConfigMap is looked at, and then the store is as before.  Or it works on the
ConfigMaps of the ReplicaSet one after the other (`Pass.Visits`), and either comes
to their end or stops at one of them (`Pass.Stop`), whatever the reason.

`Pass.course_reconcile` says so for every store, every point of cancellation and
all faults.  A run is followed along with the call that stops it (`Pass.report`), as
that call may have been recorded (`Pass.StopsAt`).  In the other direction,
`Pass.run_link_of_visits` says that without cancellation the work does come to its end
if every ConfigMap can be worked on and the calls about it are answered
(`Pass.Answered`).
-/

namespace MountOwnership

namespace Pass

variable {ctx : Context} {ns : String} {rs : ReplicaSet}

/-! ### Work on one ConfigMap -/

/-- The ConfigMap of a name is there, lacks the ReplicaSet, and is to be given its record. -/
structure Unlinked (ctx : Context) (ns : String) (rs : ReplicaSet) (s : Store) (name : String)
    (c : ConfigMap) (owner : OwnerReference) : Prop where
  stored : s.configMap? ⟨ns, name⟩ = some c
  not_owned : c.isOwnedBy rs = false
  not_dryRun : ctx.dryRun = false
  record : rs.ownerRecord = .ok owner

/-- The calls that a pass makes about the ConfigMap of a name are answered. -/
structure Answered (ctx : Context) (ns : String) (rs : ReplicaSet) (s : Store) (name : String) :
    Prop where
  legible : s.Legible name
  writable : ∀ {c : ConfigMap} {owner : OwnerReference}, Unlinked ctx ns rs s name c owner →
    s.Writable

/-- Work on the ConfigMap of a name that comes to its end, with the store and the summary before
and after. -/
inductive Visit (ctx : Context) (ns : String) (rs : ReplicaSet) (s : Store) (sum : Summary)
    (name : String) : Store → Summary → Prop
  | missing (h : s.configMap? ⟨ns, name⟩ = none) :
      Visit ctx ns rs s sum name s { sum with missing := sum.missing ++ [name] }
  | alreadyOwned {c : ConfigMap} (h : s.configMap? ⟨ns, name⟩ = some c)
      (ho : c.isOwnedBy rs = true) :
      Visit ctx ns rs s sum name s { sum with alreadyOwned := sum.alreadyOwned ++ [name] }
  | dryRun {c : ConfigMap} (h : s.configMap? ⟨ns, name⟩ = some c) (ho : c.isOwnedBy rs = false)
      (hd : ctx.dryRun = true) :
      Visit ctx ns rs s sum name s { sum with dryRun := sum.dryRun ++ [name] }
  | linked {c : ConfigMap} {owner : OwnerReference} (h : Unlinked ctx ns rs s name c owner)
      (hk : c.metadata.key = .ok ⟨ns, name⟩) :
      Visit ctx ns rs s sum name (s.overwrite ⟨ns, name⟩ (c.withOwner owner))
        { sum with linked := sum.linked ++ [name] }

/-- The ways in which a run can stop at the ConfigMap of a name. -/
inductive Stop (ctx : Context) (ns : String) (rs : ReplicaSet) (s : Store) (name : String) :
    Store → Ending → Prop
  /-- The pass is cancelled before one of its calls. -/
  | cancelled : Stop ctx ns rs s name s (.returned (.error .cancelled))
  /-- The look-up fails. -/
  | unreadable {e : ClusterError} : Stop ctx ns rs s name s (.returned (.error (.cluster e)))
  /-- The look-up never completes. -/
  | readStalled : Stop ctx ns rs s name s.stall .waiting
  /-- The ReplicaSet has no record. -/
  | noRecord {fault : OwnerFault} (hr : rs.ownerRecord = .error fault) :
      Stop ctx ns rs s name s (.returned (.error (.ownerReference fault)))
  /-- The replace fails. -/
  | refused {c : ConfigMap} {owner : OwnerReference} {t : Store} {e : ClusterError}
      (h : Unlinked ctx ns rs s name c owner) (hr : s.Replaced (c.withOwner owner) t (.failed e)) :
      Stop ctx ns rs s name t (.returned (.error (.cluster e)))
  /-- The replace never completes. -/
  | replaceStalled {c : ConfigMap} {owner : OwnerReference} {t : Store}
      (h : Unlinked ctx ns rs s name c owner) (hr : s.Replaced (c.withOwner owner) t .stalled) :
      Stop ctx ns rs s name t .waiting

/-- A stop leaves the objects alone, and no pass succeeds by one. -/
lemma Stop.quiet {s t : Store} {name : String} {e : Ending} (h : Stop ctx ns rs s name t e) :
    s.Quiet t ∧ ∀ outcome, e ≠ .returned (.ok outcome) := by
  cases h with
  | cancelled => exact ⟨.refl s, nofun⟩
  | unreadable => exact ⟨.refl s, nofun⟩
  | readStalled => exact ⟨⟨rfl, rfl, Nat.le_refl _⟩, nofun⟩
  | noRecord => exact ⟨.refl s, nofun⟩
  | refused _ hr =>
    rcases hr.quiet_or_overwrite with ⟨hquiet, _⟩ | ⟨_, _, _, ha⟩
    · exact ⟨hquiet, nofun⟩
    · exact nomatch ha
  | replaceStalled _ hr =>
    rcases hr.quiet_or_overwrite with ⟨hquiet, _⟩ | ⟨_, _, _, ha⟩
    · exact ⟨hquiet, nofun⟩
    · exact nomatch ha

/-! ### One call of a run -/

/-- A run that is never cancelled and whose first call has a result goes on with it. -/
lemma run_call_of_ok {s t : Store} {c : Call} {result : c.Result}
    (hp : s.perform c = (t, .ok result)) (next : c.Result → Pass) :
    (Pass.call c next).run none s = (next result).run none t := by
  rw [run, if_neg (Option.some_ne_none 0).symm, hp]
  rfl

/-- A run that is never cancelled and whose first call fails, fails by it. -/
lemma run_call_of_failed {s t : Store} {c : Call} {e : ClusterError}
    (hp : s.perform c = (t, .failed e)) (next : c.Result → Pass) :
    (Pass.call c next).run none s = (t, .returned (.error (.cluster e))) := by
  rw [run, if_neg (Option.some_ne_none 0).symm, hp]

/-- The call at which a run stops: one that fails, or one that never completes. -/
def failingCall? (callsLeft : Option Nat) (s : Store) : Pass → Option Call
  | .done _ => none
  | .call c next =>
    if callsLeft = some 0 then none
    else
      match s.perform c with
      | (_, .stalled) => some c
      | (_, .failed _) => some c
      | (s, .ok result) => (next result).failingCall? (callsLeft.map (· - 1)) s

/-- A run and the call at which it stops. -/
def report (callsLeft : Option Nat) (s : Store) (p : Pass) : (Store × Ending) × Option Call :=
  (p.run callsLeft s, p.failingCall? callsLeft s)

/-- A run stops before its first call, or waits for it, or fails by it, or goes on with its
result. -/
lemma report_call_cases (callsLeft : Option Nat) (s : Store) (c : Call) (next : c.Result → Pass) :
    (callsLeft = some 0 ∧
      (Pass.call c next).report callsLeft s = ((s, .returned (.error .cancelled)), none)) ∨
    (∃ t, s.perform c = (t, .stalled) ∧
      (Pass.call c next).report callsLeft s = ((t, .waiting), some c)) ∨
    (∃ t e, s.perform c = (t, .failed e) ∧
      (Pass.call c next).report callsLeft s = ((t, .returned (.error (.cluster e))), some c)) ∨
    ∃ t result, s.perform c = (t, .ok result) ∧
      (Pass.call c next).report callsLeft s = (next result).report (callsLeft.map (· - 1)) t := by
  unfold report
  by_cases hc : callsLeft = some 0
  · refine Or.inl ⟨hc, ?_⟩
    rw [run, if_pos hc, failingCall?, if_pos hc]
  · right
    rw [run, if_neg hc, failingCall?, if_neg hc]
    rcases hp : s.perform c with ⟨t, result | e | _⟩
    · exact Or.inr (Or.inr ⟨t, result, rfl, rfl⟩)
    · exact Or.inr (Or.inl ⟨t, e, rfl, rfl⟩)
    · exact Or.inl ⟨t, rfl, rfl⟩

/-- A run stops before its first call, or waits for it, or fails by it, or goes on with its
result. -/
lemma run_call_cases (callsLeft : Option Nat) (s : Store) (c : Call) (next : c.Result → Pass) :
    (Pass.call c next).run callsLeft s = (s, .returned (.error .cancelled)) ∨
    (∃ t, s.perform c = (t, .stalled) ∧ (Pass.call c next).run callsLeft s = (t, .waiting)) ∨
    (∃ t e, s.perform c = (t, .failed e) ∧
      (Pass.call c next).run callsLeft s = (t, .returned (.error (.cluster e)))) ∨
    ∃ t result, s.perform c = (t, .ok result) ∧
      (Pass.call c next).run callsLeft s = (next result).run (callsLeft.map (· - 1)) t := by
  rcases report_call_cases callsLeft s c next with
    ⟨_, h⟩ | ⟨t, hp, h⟩ | ⟨t, e, hp, h⟩ | ⟨t, result, hp, h⟩
  · exact Or.inl (congrArg Prod.fst h)
  · exact Or.inr (Or.inl ⟨t, hp, congrArg Prod.fst h⟩)
  · exact Or.inr (Or.inr (Or.inl ⟨t, e, hp, congrArg Prod.fst h⟩))
  · exact Or.inr (Or.inr (Or.inr ⟨t, result, hp, congrArg Prod.fst h⟩))

/-- Runs of passes lead from reachable stores to reachable stores. -/
lemma reachable_run {s : Store} (hs : s.Reachable) (p : Pass) (callsLeft : Option Nat) :
    (p.run callsLeft s).1.Reachable := by
  induction p generalizing s callsLeft with
  | done result => exact hs
  | call c next ih =>
    have hperform := hs.perform c
    rcases run_call_cases callsLeft s c next with
      hrun | ⟨t, hp, hrun⟩ | ⟨t, e, hp, hrun⟩ | ⟨t, result, hp, hrun⟩
    · rw [hrun]
      exact hs
    · rw [hp] at hperform
      rw [hrun]
      exact hperform
    · rw [hp] at hperform
      rw [hrun]
      exact hperform
    · rw [hp] at hperform
      rw [hrun]
      exact ih result hperform _

/-- A run that looks up a ReplicaSet stops before, or fails, or goes on with what is stored. -/
lemma run_readReplicaSet_cases (callsLeft : Option Nat) (s : Store) (k : ObjectKey)
    (next : Option ReplicaSet → Pass) :
    (Pass.call (.readReplicaSet k) next).run callsLeft s = (s, .returned (.error .cancelled)) ∨
    (∃ e, (Pass.call (.readReplicaSet k) next).run callsLeft s =
      (s, .returned (.error (.cluster e)))) ∨
    (Pass.call (.readReplicaSet k) next).run callsLeft s =
      (next (s.replicaSets.get? k)).run (callsLeft.map (· - 1)) s := by
  rcases run_call_cases callsLeft s (.readReplicaSet k) next with
    hrun | ⟨t, hp, hrun⟩ | ⟨t, e, hp, hrun⟩ | ⟨t, found, hp, hrun⟩
  · exact Or.inl hrun
  all_goals
    rcases s.perform_readReplicaSet_cases k with ⟨e', hp'⟩ | hp' <;> rw [hp'] at hp <;> cases hp
  · exact Or.inr (Or.inl ⟨_, hrun⟩)
  · exact Or.inr (Or.inr hrun)

/-- A run that looks up a ConfigMap stops before, or fails, or waits, or goes on with what is
stored. -/
lemma report_readConfigMap_cases (callsLeft : Option Nat) (s : Store) (k : ObjectKey)
    (next : Option ConfigMap → Pass) :
    (Pass.call (.readConfigMap k) next).report callsLeft s =
      ((s, .returned (.error .cancelled)), none) ∨
    (∃ e, (Pass.call (.readConfigMap k) next).report callsLeft s =
      ((s, .returned (.error (.cluster e))), some (.readConfigMap k))) ∨
    (Pass.call (.readConfigMap k) next).report callsLeft s =
      ((s.stall, .waiting), some (.readConfigMap k)) ∨
    (s.Legible k.name ∧ (Pass.call (.readConfigMap k) next).report callsLeft s =
      (next (s.configMap? k)).report (callsLeft.map (· - 1)) s) := by
  rcases report_call_cases callsLeft s (.readConfigMap k) next with
    ⟨_, hrun⟩ | ⟨t, hp, hrun⟩ | ⟨t, e, hp, hrun⟩ | ⟨t, found, hp, hrun⟩
  · exact Or.inl hrun
  · rcases s.perform_readConfigMap_cases k with ⟨e', hp'⟩ | hp' | hp' <;> rw [hp'] at hp <;>
      cases hp
    exact Or.inr (Or.inr (Or.inl hrun))
  · rcases s.perform_readConfigMap_cases k with ⟨e', hp'⟩ | hp' | hp' <;> rw [hp'] at hp <;>
      cases hp
    exact Or.inr (Or.inl ⟨_, hrun⟩)
  · obtain ⟨hl, rfl, rfl⟩ := Store.perform_readConfigMap_eq_ok_iff.mp hp
    exact Or.inr (Or.inr (Or.inr ⟨hl, hrun⟩))

/-! ### What follows a look-up -/

/-- How a pass goes on when it has looked up the ConfigMap of a name. -/
def handle (ctx : Context) (ns : String) (rs : ReplicaSet) (sum : Summary) (name : String)
    (names : List String) : Option ConfigMap → Pass
  | none => link ctx ns rs { sum with missing := sum.missing ++ [name] } names
  | some c =>
    if c.isOwnedBy rs then
      link ctx ns rs { sum with alreadyOwned := sum.alreadyOwned ++ [name] } names
    else if ctx.dryRun then link ctx ns rs { sum with dryRun := sum.dryRun ++ [name] } names
    else
      match c.setOwner rs with
      | .error fault => .done (.error (.ownerReference fault))
      | .ok c =>
        .call (.replaceConfigMap c) fun _ =>
          link ctx ns rs { sum with linked := sum.linked ++ [name] } names

/-- Working on a first name is looking up its ConfigMap and going on with what was found. -/
lemma link_cons (ctx : Context) (ns : String) (rs : ReplicaSet) (sum : Summary) (name : String)
    (names : List String) :
    link ctx ns rs sum (name :: names) =
      .call (.readConfigMap ⟨ns, name⟩) (handle ctx ns rs sum name names) := by
  rw [link]
  congr 1
  funext found
  cases found with
  | none => rfl
  | some c => rfl

/-- The ways in which a pass goes on when it has looked up a ConfigMap. -/
inductive Handled (ctx : Context) (ns : String) (rs : ReplicaSet) (sum : Summary) (name : String)
    (names : List String) : Option ConfigMap → Pass → Prop
  | missing : Handled ctx ns rs sum name names none
      (link ctx ns rs { sum with missing := sum.missing ++ [name] } names)
  | alreadyOwned {c : ConfigMap} (ho : c.isOwnedBy rs = true) :
      Handled ctx ns rs sum name names (some c)
        (link ctx ns rs { sum with alreadyOwned := sum.alreadyOwned ++ [name] } names)
  | dryRun {c : ConfigMap} (ho : c.isOwnedBy rs = false) (hd : ctx.dryRun = true) :
      Handled ctx ns rs sum name names (some c)
        (link ctx ns rs { sum with dryRun := sum.dryRun ++ [name] } names)
  | noRecord {c : ConfigMap} {fault : OwnerFault} (hr : rs.ownerRecord = .error fault) :
      Handled ctx ns rs sum name names (some c) (.done (.error (.ownerReference fault)))
  | write {c : ConfigMap} {owner : OwnerReference} (ho : c.isOwnedBy rs = false)
      (hd : ctx.dryRun = false) (hr : rs.ownerRecord = .ok owner) :
      Handled ctx ns rs sum name names (some c)
        (.call (.replaceConfigMap (c.withOwner owner)) fun _ =>
          link ctx ns rs { sum with linked := sum.linked ++ [name] } names)

/-- Every look-up is followed in one of the listed ways. -/
lemma handled (ctx : Context) (ns : String) (rs : ReplicaSet) (sum : Summary) (name : String)
    (names : List String) (found : Option ConfigMap) :
    Handled ctx ns rs sum name names found (handle ctx ns rs sum name names found) := by
  cases found with
  | none => exact .missing
  | some c =>
    unfold handle
    dsimp only
    by_cases ho : c.isOwnedBy rs = true
    · rw [if_pos ho]
      exact .alreadyOwned ho
    · have ho' : c.isOwnedBy rs = false := by simpa using ho
      rw [if_neg ho]
      by_cases hd : ctx.dryRun = true
      · rw [if_pos hd]
        exact .dryRun ho' hd
      · have hd' : ctx.dryRun = false := by simpa using hd
        rw [if_neg hd]
        cases hr : rs.ownerRecord with
        | error fault =>
          rw [ConfigMap.setOwner_of_error hr]
          exact .noRecord hr
        | ok owner =>
          rw [ConfigMap.setOwner_of_ok hr]
          exact .write ho' hd' hr

/-! ### Work on a first ConfigMap -/

/-- What the call that stopped a run, if any did, has recorded about a ConfigMap: its name if it was
to replace that ConfigMap, and nothing otherwise. -/
def recordedBy (c : Option Call) (k : ObjectKey) : List String :=
  if c.bind Call.replacedKey? = some k then [k.name] else []

/-- A call that is to replace no ConfigMap but one records nothing but the name of that one. -/
lemma replaceCalls_eq_recordedBy {s t : Store} {c : Call} {a : Answer c.Result} {k : ObjectKey}
    (hp : s.perform c = (t, a)) (hk : ∀ k', c.replacedKey? = some k' → k' = k) :
    t.replaceCalls = s.replaceCalls ++ recordedBy (some c) k := by
  have hcalls := s.perform_replaceCalls c
  rw [hp] at hcalls
  rw [hcalls]
  unfold recordedBy
  rw [Option.bind_some]
  cases hc : c.replacedKey? with
  | none => rw [if_neg (Option.some_ne_none k).symm, Option.map_none, Option.toList_none]
  | some k' =>
    obtain rfl := hk k' hc
    rw [if_pos rfl, Option.map_some, Option.toList_some]

/-- A run stops at the ConfigMap of a name, and has recorded what the call that stopped it
recorded. -/
structure StopsAt (ctx : Context) (ns : String) (rs : ReplicaSet) (s : Store) (name : String)
    (r : (Store × Ending) × Option Call) : Prop where
  stop : Stop ctx ns rs s name r.1.1 r.1.2
  replaceCalls_eq : r.1.1.replaceCalls = s.replaceCalls ++ recordedBy r.2 ⟨ns, name⟩

/-- A run that stops without a call records nothing. -/
lemma Stop.stopsAt {s : Store} {name : String} {e : Ending} (h : Stop ctx ns rs s name s e) :
    StopsAt ctx ns rs s name ((s, e), none) where
  stop := h
  replaceCalls_eq := (List.append_nil s.replaceCalls).symm

/-- A replace by a run is carried out under the name that was looked up, or the run stops. -/
lemma report_replace_cases {s : Store} (hs : s.Consistent) {name : String} {c : ConfigMap}
    {owner : OwnerReference} (h : Unlinked ctx ns rs s name c owner) (callsLeft : Option Nat)
    (rest : Pass) :
    (c.metadata.key = .ok ⟨ns, name⟩ ∧ s.Writable ∧
      (Pass.call (.replaceConfigMap (c.withOwner owner)) fun _ => rest).report callsLeft s =
        rest.report (callsLeft.map (· - 1)) (s.overwrite ⟨ns, name⟩ (c.withOwner owner))) ∨
    StopsAt ctx ns rs s name
      ((Pass.call (.replaceConfigMap (c.withOwner owner)) fun _ => rest).report callsLeft s) := by
  have hkey : ∀ k, (c.withOwner owner).metadata.key = .ok k → k = ⟨ns, name⟩ := by
    intro k hk
    rw [← Metadata.storeKey_of_key hk, ConfigMap.withOwner_storeKey]
    exact hs.configMap_key h.stored
  have hreplaced : ∀ k, (Call.replaceConfigMap (c.withOwner owner)).replacedKey? = some k →
      k = ⟨ns, name⟩ := by
    intro k hk
    exact hkey k (Call.replacedKey?_replace_eq_some_iff.mp hk)
  rcases report_call_cases callsLeft s (.replaceConfigMap (c.withOwner owner)) (fun _ => rest) with
    ⟨_, hrun⟩ | ⟨t, hp, hrun⟩ | ⟨t, e, hp, hrun⟩ | ⟨t, written, hp, hrun⟩
  · rw [hrun]
    exact Or.inr Stop.cancelled.stopsAt
  · rw [hrun]
    exact Or.inr ⟨.replaceStalled h (Store.replaced_of_eq hp),
      replaceCalls_eq_recordedBy hp hreplaced⟩
  · rw [hrun]
    exact Or.inr ⟨.refused h (Store.replaced_of_eq hp), replaceCalls_eq_recordedBy hp hreplaced⟩
  · cases Store.replaced_of_eq hp with
    | @accepted k stored hk hf hc =>
      obtain rfl := hkey k hk
      exact Or.inl ⟨hk, ⟨hf, hc⟩, hrun⟩

/-- A run over a first name works on its ConfigMap and goes on with the other names, or it
stops. -/
lemma report_link_cons {s : Store} (hs : s.Consistent) (ctx : Context) (ns : String)
    (rs : ReplicaSet) (callsLeft : Option Nat) (sum : Summary) (name : String)
    (names : List String) :
    (∃ t sum' m, Visit ctx ns rs s sum name t sum' ∧ Answered ctx ns rs s name ∧
      (link ctx ns rs sum (name :: names)).report callsLeft s =
        (link ctx ns rs sum' names).report m t) ∨
    StopsAt ctx ns rs s name ((link ctx ns rs sum (name :: names)).report callsLeft s) := by
  rw [link_cons]
  rcases report_readConfigMap_cases callsLeft s ⟨ns, name⟩ (handle ctx ns rs sum name names) with
    hrun | ⟨e, hrun⟩ | hrun | ⟨hl, hrun⟩
  · rw [hrun]
    exact Or.inr Stop.cancelled.stopsAt
  · rw [hrun]
    exact Or.inr ⟨.unreadable, (List.append_nil _).symm⟩
  · rw [hrun]
    exact Or.inr ⟨.readStalled, (List.append_nil _).symm⟩
  · rw [hrun]
    have hhandled := handled ctx ns rs sum name names (s.configMap? ⟨ns, name⟩)
    generalize handle ctx ns rs sum name names (s.configMap? ⟨ns, name⟩) = rest at hhandled ⊢
    generalize hget : s.configMap? ⟨ns, name⟩ = found at hhandled
    cases hhandled with
    | missing =>
      have ha : Answered ctx ns rs s name := ⟨hl, fun h => nomatch hget.symm.trans h.stored⟩
      exact Or.inl ⟨s, _, _, .missing hget, ha, rfl⟩
    | @alreadyOwned c ho =>
      have ha : Answered ctx ns rs s name := by
        refine ⟨hl, fun h => ?_⟩
        obtain rfl := Option.some.inj (hget.symm.trans h.stored)
        exact nomatch ho.symm.trans h.not_owned
      exact Or.inl ⟨s, _, _, .alreadyOwned hget ho, ha, rfl⟩
    | dryRun ho hd =>
      have ha : Answered ctx ns rs s name := ⟨hl, fun h => nomatch hd.symm.trans h.not_dryRun⟩
      exact Or.inl ⟨s, _, _, .dryRun hget ho hd, ha, rfl⟩
    | noRecord hr =>
      have hstop : Stop ctx ns rs s name s (.returned (.error (.ownerReference _))) := .noRecord hr
      exact Or.inr hstop.stopsAt
    | write ho hd hr =>
      have hun : Unlinked ctx ns rs s name _ _ := ⟨hget, ho, hd, hr⟩
      rcases report_replace_cases hs hun (callsLeft.map (· - 1))
        (link ctx ns rs { sum with linked := sum.linked ++ [name] } names) with
        ⟨hk, hw, hnext⟩ | hstop
      · exact Or.inl ⟨_, _, _, .linked hun hk, ⟨hl, fun _ => hw⟩, hnext⟩
      · exact Or.inr hstop

/-- A run over a first name works on its ConfigMap and goes on with the other names, or it
stops. -/
lemma run_link_cons {s : Store} (hs : s.Consistent) (callsLeft : Option Nat) (sum : Summary)
    (name : String) (names : List String) :
    (∃ t sum' m, Visit ctx ns rs s sum name t sum' ∧
      (link ctx ns rs sum (name :: names)).run callsLeft s =
        (link ctx ns rs sum' names).run m t) ∨
    ∃ t e, Stop ctx ns rs s name t e ∧
      (link ctx ns rs sum (name :: names)).run callsLeft s = (t, e) := by
  rcases report_link_cons hs ctx ns rs callsLeft sum name names with
    ⟨t, sum', m, hvisit, _, h⟩ | hstop
  · exact Or.inl ⟨t, sum', m, hvisit, congrArg Prod.fst h⟩
  · exact Or.inr ⟨_, _, hstop.stop, rfl⟩

/-- Work on one ConfigMap keeps a store consistent. -/
lemma Visit.consistent {s t : Store} {sum sum' : Summary} {name : String}
    (h : Visit ctx ns rs s sum name t sum') (hs : s.Consistent) : t.Consistent := by
  cases h with
  | missing => exact hs
  | alreadyOwned => exact hs
  | dryRun => exact hs
  | linked _ hk => exact hs.overwrite (Metadata.storeKey_of_key hk)

/-! ### Whole runs -/

/-- Work on ConfigMaps in order that comes to its end. -/
inductive Visits (ctx : Context) (ns : String) (rs : ReplicaSet) :
    Store → Summary → List String → Store → Summary → Prop
  | nil {s : Store} {sum : Summary} : Visits ctx ns rs s sum [] s sum
  | cons {s t u : Store} {sum sum' sum'' : Summary} {name : String} {names : List String}
      (h : Visit ctx ns rs s sum name t sum') (hrest : Visits ctx ns rs t sum' names u sum'') :
      Visits ctx ns rs s sum (name :: names) u sum''

/-- The ways in which the work on ConfigMaps in order can end. -/
inductive LinkCourse (ctx : Context) (ns : String) (rs : ReplicaSet) (s : Store) (sum : Summary)
    (names : List String) : Store → Ending → Prop
  | finished {t : Store} {sum' : Summary} (h : Visits ctx ns rs s sum names t sum') :
      LinkCourse ctx ns rs s sum names t (.returned (.ok (.applied sum')))
  | stopped {t u : Store} {sum' : Summary} {name : String} {done rest : List String} {e : Ending}
      (hn : names = done ++ name :: rest) (h : Visits ctx ns rs s sum done t sum')
      (hstop : Stop ctx ns rs t name u e) : LinkCourse ctx ns rs s sum names u e

/-- A ConfigMap that was worked on lengthens the course over the ones after it. -/
lemma LinkCourse.cons {s t u : Store} {sum sum' : Summary} {name : String} {names : List String}
    {e : Ending} (hvisit : Visit ctx ns rs s sum name t sum')
    (h : LinkCourse ctx ns rs t sum' names u e) :
    LinkCourse ctx ns rs s sum (name :: names) u e := by
  cases h with
  | finished h => exact .finished (.cons hvisit h)
  | stopped hn h hstop => exact .stopped (by rw [hn, List.cons_append]) (.cons hvisit h) hstop

/-- Every run over ConfigMaps ends in one of the listed ways. -/
lemma course_link {s : Store} (hs : s.Consistent) (callsLeft : Option Nat) (sum : Summary)
    (names : List String) :
    LinkCourse ctx ns rs s sum names ((link ctx ns rs sum names).run callsLeft s).1
      ((link ctx ns rs sum names).run callsLeft s).2 := by
  induction names generalizing s sum callsLeft with
  | nil => exact .finished .nil
  | cons name names ih =>
    rcases run_link_cons hs callsLeft sum name names with
      ⟨t, sum', m, hvisit, hrun⟩ | ⟨t, e, hstop, hrun⟩
    · rw [hrun]
      exact .cons hvisit (ih (hvisit.consistent hs) m sum')
    · rw [hrun]
      exact .stopped rfl .nil hstop

/-- The courses of a pass over the ReplicaSet of a namespace and name. -/
inductive Course (ctx : Context) (ns name : String) (s : Store) : Store → Ending → Prop
  | excluded (hf : ctx.filter.selects ns = false) :
      Course ctx ns name s s (.returned (.ok (.skipped .namespaceExcluded)))
  | cancelled (hf : ctx.filter.selects ns = true) :
      Course ctx ns name s s (.returned (.error .cancelled))
  | unreadable {e : ClusterError} (hf : ctx.filter.selects ns = true) :
      Course ctx ns name s s (.returned (.error (.cluster e)))
  | notFound (hf : ctx.filter.selects ns = true) (hget : s.replicaSets.get? ⟨ns, name⟩ = none) :
      Course ctx ns name s s (.returned (.ok (.skipped .workloadNotFound)))
  | tooOld {rs : ReplicaSet} (hf : ctx.filter.selects ns = true)
      (hget : s.replicaSets.get? ⟨ns, name⟩ = some rs)
      (hc : rs.metadata.isCreatedAfter ctx.start = false) :
      Course ctx ns name s s (.returned (.ok (.skipped .createdBeforeStart)))
  | noConfigMaps {rs : ReplicaSet} (hf : ctx.filter.selects ns = true)
      (hget : s.replicaSets.get? ⟨ns, name⟩ = some rs)
      (hc : rs.metadata.isCreatedAfter ctx.start = true) (hn : rs.configMaps = []) :
      Course ctx ns name s s (.returned (.ok (.skipped .noConfigMapVolumes)))
  | linking {rs : ReplicaSet} {t : Store} {e : Ending} (hf : ctx.filter.selects ns = true)
      (hget : s.replicaSets.get? ⟨ns, name⟩ = some rs)
      (hc : rs.metadata.isCreatedAfter ctx.start = true) (hn : rs.configMaps ≠ [])
      (h : LinkCourse ctx ns rs s {} rs.configMaps t e) : Course ctx ns name s t e

/-- A pass over a ReplicaSet with ConfigMaps that is newer than the start works on these. -/
lemma apply_eq_link (hc : rs.metadata.isCreatedAfter ctx.start = true) (hn : rs.configMaps ≠ []) :
    apply ctx ns rs = link ctx ns rs {} rs.configMaps := by
  unfold apply
  rw [if_pos hc]
  cases hnames : rs.configMaps with
  | nil => exact absurd hnames hn
  | cons name names => rfl

/-- Every run of a pass takes one of the listed courses. -/
theorem course_reconcile {s : Store} (hs : s.Consistent) (ctx : Context) (ns name : String)
    (callsLeft : Option Nat) :
    Course ctx ns name s ((reconcile ctx ns name).run callsLeft s).1
      ((reconcile ctx ns name).run callsLeft s).2 := by
  unfold reconcile
  by_cases hf : ctx.filter.selects ns = true
  · rw [if_pos hf]
    rcases run_readReplicaSet_cases callsLeft s ⟨ns, name⟩ _ with hrun | ⟨e, hrun⟩ | hrun
    · rw [hrun]
      exact .cancelled hf
    · rw [hrun]
      exact .unreadable hf
    · rw [hrun]
      cases hget : s.replicaSets.get? ⟨ns, name⟩ with
      | none => exact .notFound hf hget
      | some rs =>
        dsimp only
        by_cases hc : rs.metadata.isCreatedAfter ctx.start = true
        · by_cases hn : rs.configMaps = []
          · unfold apply
            rw [if_pos hc, hn]
            exact .noConfigMaps hf hget hc hn
          · rw [apply_eq_link hc hn]
            exact .linking hf hget hc hn (course_link hs _ {} rs.configMaps)
        · unfold apply
          rw [if_neg hc]
          exact .tooOld hf hget (by simpa using hc)
  · rw [if_neg hf]
    exact .excluded (by simpa using hf)

/-! ### Runs that come to their end -/

/-- Without faults, all calls are answered. -/
lemma Answered.of_no_faults {s : Store} (hf : s.faults = {}) (name : String) :
    Answered ctx ns rs s name := by
  refine ⟨⟨?_, ?_⟩, fun _ => ⟨?_, ?_⟩⟩ <;> simp [hf]

/-- Work on one ConfigMap leaves the faults alone. -/
lemma Visit.faults_eq {s t : Store} {sum sum' : Summary} {name : String}
    (h : Visit ctx ns rs s sum name t sum') : t.faults = s.faults := by
  cases h <;> rfl

/-- What is answered before the work on one ConfigMap is answered after it. -/
lemma Visit.answered {s t : Store} {sum sum' : Summary} {name other : String}
    (h : Visit ctx ns rs s sum name t sum') (hname : Answered ctx ns rs s name)
    (hother : Answered ctx ns rs s other) : Answered ctx ns rs t other := by
  cases h with
  | missing => exact hother
  | alreadyOwned => exact hother
  | dryRun => exact hother
  | linked h _ =>
    have hw := hname.writable h
    exact ⟨hother.legible.congr rfl, fun _ => ⟨hw.1, hw.2⟩⟩

/-- A run that is answered its look-up of a first ConfigMap goes on with what is stored. -/
lemma run_link_of_legible {s : Store} {name : String} (hl : s.Legible name) (sum : Summary)
    (names : List String) :
    (link ctx ns rs sum (name :: names)).run none s =
      (handle ctx ns rs sum name names (s.configMap? ⟨ns, name⟩)).run none s := by
  rw [link_cons,
    run_call_of_ok (Store.perform_readConfigMap_eq_ok_iff.mpr ⟨hl, rfl, rfl⟩)]

/-- What follows the look-up of a ConfigMap that is to be given a record is the replace of it. -/
lemma Unlinked.handle_eq {s : Store} {name : String} {c : ConfigMap} {owner : OwnerReference}
    (h : Unlinked ctx ns rs s name c owner) (sum : Summary) (names : List String) :
    handle ctx ns rs sum name names (s.configMap? ⟨ns, name⟩) =
      .call (.replaceConfigMap (c.withOwner owner)) fun _ =>
        link ctx ns rs { sum with linked := sum.linked ++ [name] } names := by
  unfold handle
  rw [h.stored]
  dsimp only
  rw [if_neg (by simp [h.not_owned]), if_neg (by simp [h.not_dryRun]),
    ConfigMap.setOwner_of_ok h.record]

/-- A run whose calls are answered goes through the work on a first ConfigMap. -/
lemma Visit.run_link {s t : Store} {sum sum' : Summary} {name : String}
    (h : Visit ctx ns rs s sum name t sum') (ha : Answered ctx ns rs s name)
    (names : List String) :
    (link ctx ns rs sum (name :: names)).run none s = (link ctx ns rs sum' names).run none t := by
  rw [run_link_of_legible ha.legible]
  cases h with
  | missing hget =>
    rw [hget]
    rfl
  | alreadyOwned hget ho =>
    rw [hget]
    unfold handle
    dsimp only
    rw [if_pos ho]
  | dryRun hget ho hd =>
    rw [hget]
    unfold handle
    dsimp only
    rw [if_neg (by simp [ho]), if_pos hd]
  | @linked c owner h hk =>
    rw [h.handle_eq]
    have hwrite : s.perform (.replaceConfigMap (c.withOwner owner)) =
        (s.overwrite ⟨ns, name⟩ (c.withOwner owner), .ok _) :=
      (ha.writable h).perform_replaceConfigMap hk h.stored rfl
    exact run_call_of_ok hwrite _

/-- A run over ConfigMaps that can be worked on comes to its end if its calls are answered. -/
lemma run_link_of_visits {s t : Store} {sum sum' : Summary} {names : List String}
    (h : Visits ctx ns rs s sum names t sum') (ha : ∀ name ∈ names, Answered ctx ns rs s name) :
    (link ctx ns rs sum names).run none s = (t, .returned (.ok (.applied sum'))) := by
  induction h with
  | nil => rfl
  | @cons _ _ _ _ _ _ name names hvisit _ ih =>
    have hname := ha name List.mem_cons_self
    refine (hvisit.run_link hname names).trans (ih fun other hn => ?_)
    exact hvisit.answered hname (ha other (List.mem_cons_of_mem _ hn))

end Pass

end MountOwnership
