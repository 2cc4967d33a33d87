import Mathlib.Logic.Function.Iterate
import MountOwnership.Proofs.Pass.Course

/-!
# Passes under a token

A pass runs under a token that can be cancelled at any moment, also while the pass waits for a
call that never completes.  Here a pass is taken from moment to moment (`Pass.step`).  While the
token is not cancelled, its moments are those of its run: they lead to the end of a run that is
never cancelled (`Pass.exists_iterate_step_run`), and a run that is cancelled after some calls is
one cut off at the moment after these (`Pass.run_some`).

From the moment on at which the token is cancelled, the store stays as it is, and the pass is
over (`Pass.iterate_step_cancelled`).  A pass that waits has changed no object by the call that it
waits for (`Pass.exists_moment_waiting`).
-/

namespace MountOwnership

namespace Pass

/-- Where a pass stands. -/
inductive Stand where
  /-- It is over, or is about to make its next call. -/
  | ready (p : Pass)
  /-- It waits for a call that never completes. -/
  | waiting

namespace Stand

/-- A pass that is over. -/
def ended (result : Except ControllerError Outcome) : Stand := .ready (.done result)

/-- The result of a pass that is over. -/
def result? : Stand → Option (Except ControllerError Outcome)
  | .ready (.done result) => some result
  | .ready (.call _ _) => none
  | .waiting => none

/-- Where a pass stands when its call is answered. -/
def answered {α : Type} (next : α → Pass) : Answer α → Stand
  | .ok result => .ready (next result)
  | .failed e => ended (.error (.cluster e))
  | .stalled => .waiting

/-- How a run ends that is cut off before the next call of a pass. -/
def cutOff : Stand → Ending
  | .ready (.done result) => .returned result
  | .ready (.call _ _) => .returned (.error .cancelled)
  | .waiting => .waiting

end Stand

/-- Where a pass stands when its run has ended. -/
def Ending.stand : Ending → Stand
  | .returned result => .ended result
  | .waiting => .waiting

/-- The store and a pass at the next moment, under a token.  A pass whose token is cancelled makes
no call and no longer waits. -/
def step (cancelled : Bool) : Store × Stand → Store × Stand
  | (s, .ready (.done result)) => (s, .ended result)
  | (s, .ready (.call c next)) =>
    if cancelled then (s, .ended (.error .cancelled))
    else ((s.perform c).1, .answered next (s.perform c).2)
  | (s, .waiting) => if cancelled then (s, .ended (.error .cancelled)) else (s, .waiting)

/-- The store and a pass over the ReplicaSet of a namespace and name, after a number of steps under
a token that is not cancelled. -/
def moment (ctx : Context) (ns name : String) (s : Store) (n : Nat) : Store × Stand :=
  (step false)^[n] (s, .ready (reconcile ctx ns name))

/-! ### While the token is not cancelled -/

/-- A pass without cancellation makes its call and has the answer at the next moment. -/
lemma step_call {s t : Store} {c : Call} {a : Answer c.Result} (hp : s.perform c = (t, a))
    (next : c.Result → Pass) :
    step false (s, .ready (.call c next)) = (t, .answered next a) := by
  change ((s.perform c).1, Stand.answered next (s.perform c).2) = _
  rw [hp]

/-- A pass that has ended, or waits, stays so. -/
lemma iterate_step_stand (s : Store) (e : Ending) (n : Nat) :
    (step false)^[n] (s, e.stand) = (s, e.stand) := by
  induction n with
  | zero => rfl
  | succ n ih =>
    have hstep : step false (s, e.stand) = (s, e.stand) := by
      cases e with
      | returned result => rfl
      | waiting => rfl
    rw [Function.iterate_succ_apply, hstep, ih]

/-- The moments of a pass lead to the end of its run. -/
lemma exists_iterate_step_run (p : Pass) (s : Store) :
    ∃ n, (step false)^[n] (s, .ready p) = ((p.run none s).1, (p.run none s).2.stand) := by
  induction p generalizing s with
  | done result => exact ⟨0, rfl⟩
  | call c next ih =>
    rcases hp : s.perform c with ⟨t, result | e | _⟩
    · obtain ⟨n, hn⟩ := ih result t
      refine ⟨n + 1, ?_⟩
      rw [Function.iterate_succ_apply, step_call hp, run_call_of_ok hp]
      exact hn
    · refine ⟨1, ?_⟩
      rw [Function.iterate_one, step_call hp, run_call_of_failed hp]
      rfl
    · refine ⟨1, ?_⟩
      rw [Function.iterate_one, step_call hp, run, if_neg (Option.some_ne_none 0).symm, hp]
      rfl

/-- A run that is cancelled after some calls is cut off at the moment after these. -/
lemma run_some (n : Nat) (s : Store) (p : Pass) :
    p.run (some n) s =
      (((step false)^[n] (s, .ready p)).1, ((step false)^[n] (s, .ready p)).2.cutOff) := by
  induction n generalizing s p with
  | zero =>
    cases p with
    | done result => rfl
    | call c next =>
      rw [run, if_pos rfl]
      rfl
  | succ n ih =>
    cases p with
    | done result =>
      have hstand : (step false)^[n + 1] (s, .ready (.done result)) = (s, .ended result) :=
        iterate_step_stand s (.returned result) (n + 1)
      rw [hstand]
      rfl
    | call c next =>
      have hn : (some (n + 1)).map (· - 1) = some n := rfl
      rw [run, if_neg (by simp), hn, Function.iterate_succ_apply]
      rcases hp : s.perform c with ⟨t, result | e | _⟩
      · rw [step_call hp]
        exact ih t (next result)
      · have hstand : (step false)^[n] (t, Stand.answered next (.failed e)) =
            (t, .ended (.error (.cluster e))) :=
          iterate_step_stand t (.returned (.error (.cluster e))) n
        rw [step_call hp, hstand]
        rfl
      · have hstand : (step false)^[n] (t, Stand.answered next .stalled) = (t, .waiting) :=
          iterate_step_stand t .waiting n
        rw [step_call hp, hstand]
        rfl

/-! ### Once the token is cancelled -/

/-- A pass whose token is cancelled leaves the store as it is and is over: by the result that it has
already, or as cancelled. -/
lemma step_cancelled (x : Store × Stand) :
    step true x = (x.1, .ended (x.2.result?.getD (.error .cancelled))) := by
  obtain ⟨s, stand⟩ := x
  cases stand with
  | waiting => rfl
  | ready p =>
    cases p with
    | done result => rfl
    | call c next => rfl

/-- However much time passes after that, nothing changes any more. -/
lemma iterate_step_cancelled (x : Store × Stand) (n : Nat) :
    (step true)^[n + 1] x = (x.1, .ended (x.2.result?.getD (.error .cancelled))) := by
  induction n with
  | zero => exact step_cancelled x
  | succ n ih =>
    rw [Function.iterate_succ_apply', ih, step_cancelled]
    rfl

/-! ### Waiting -/

/-- A call that never completes changes no object, and meets no injected conflict. -/
lemma quiet_of_stalled {s t : Store} {c : Call} (hp : s.perform c = (t, .stalled)) :
    s.Quiet t ∧ t.faults = s.faults := by
  cases c with
  | readReplicaSet k =>
    rcases s.perform_readReplicaSet_cases k with ⟨e, hp'⟩ | hp' <;> exact nomatch hp'.symm.trans hp
  | readConfigMap k =>
    rcases s.perform_readConfigMap_cases k with ⟨e, hp'⟩ | hp' | hp'
    · exact nomatch hp'.symm.trans hp
    · cases hp'.symm.trans hp
      exact ⟨⟨rfl, rfl, Nat.le_refl _⟩, rfl⟩
    · exact nomatch hp'.symm.trans hp
  | replaceConfigMap copy =>
    cases Store.replaced_of_eq hp with
    | stalled hk hf => exact ⟨⟨rfl, rfl, Nat.le_refl _⟩, rfl⟩

/-- A run that ends waiting made a call that never completes, and that call was its last. -/
lemma exists_stalled_of_run {p : Pass} {s t : Store} (h : p.run none s = (t, .waiting)) :
    ∃ n u c next, (step false)^[n] (s, .ready p) = (u, .ready (.call c next)) ∧
      u.perform c = (t, .stalled) := by
  induction p generalizing s with
  | done result => exact nomatch h
  | call c next ih =>
    rcases run_call_cases none s c next with
      hrun | ⟨t', hp, hrun⟩ | ⟨t', e, hp, hrun⟩ | ⟨t', result, hp, hrun⟩
    · exact nomatch hrun.symm.trans h
    · obtain ⟨rfl, _⟩ := Prod.mk.inj (hrun.symm.trans h)
      exact ⟨0, s, c, next, rfl, hp⟩
    · exact nomatch hrun.symm.trans h
    · obtain ⟨n, u, c', next', hn, hp'⟩ := ih result (hrun.symm.trans h)
      refine ⟨n + 1, u, c', next', ?_, hp'⟩
      rw [Function.iterate_succ_apply, step_call hp]
      exact hn

/-! ### Passes over a ReplicaSet -/

section Reconcile

variable {ctx : Context} {ns : String}

/-- A pass in a namespace that is not selected is over from the start. -/
lemma reconcile_of_excluded (h : ctx.filter.selects ns = false) (name : String) :
    reconcile ctx ns name = .done (.ok (.skipped .namespaceExcluded)) := by
  unfold reconcile
  rw [if_neg (by simp [h])]

/-- A pass in a selected namespace begins with a call. -/
lemma result?_reconcile (h : ctx.filter.selects ns = true) (name : String) :
    (Stand.ready (reconcile ctx ns name)).result? = none := by
  unfold reconcile
  rw [if_pos h]
  rfl

/-- A pass in a namespace that is not selected stays over. -/
lemma moment_of_excluded (h : ctx.filter.selects ns = false) (name : String) (s : Store) (n : Nat) :
    moment ctx ns name s n = (s, .ended (.ok (.skipped .namespaceExcluded))) := by
  unfold moment
  rw [reconcile_of_excluded h]
  exact iterate_step_stand s (.returned (.ok (.skipped .namespaceExcluded))) n

/-- A pass whose token is cancelled from the start leaves the store as it is. -/
lemma iterate_step_cancelled_reconcile (ctx : Context) (ns name : String) (s : Store) (m : Nat) :
    (step true)^[m + 1] (s, .ready (reconcile ctx ns name)) =
      (s, .ended (if ctx.filter.selects ns then .error .cancelled
        else .ok (.skipped .namespaceExcluded))) := by
  rw [iterate_step_cancelled]
  by_cases hf : ctx.filter.selects ns = true
  · rw [if_pos hf, result?_reconcile hf]
    rfl
  · rw [if_neg hf, reconcile_of_excluded (by simpa using hf)]
    rfl

/-- A pass that ends waiting has come to the moment of a call that never completes, which changed no
object and met no injected conflict. -/
lemma exists_moment_waiting {name : String} {s t : Store}
    (h : (reconcile ctx ns name).run none s = (t, .waiting)) :
    ∃ n u call next, moment ctx ns name s n = (u, .ready (.call call next)) ∧
      moment ctx ns name s (n + 1) = (t, .waiting) ∧
      u.perform call = (t, .stalled) ∧ u.Quiet t ∧ t.faults = u.faults := by
  obtain ⟨n, u, call, next, hn, hp⟩ := exists_stalled_of_run h
  obtain ⟨hquiet, hfaults⟩ := quiet_of_stalled hp
  refine ⟨n, u, call, next, hn, ?_, hp, hquiet, hfaults⟩
  unfold moment
  rw [Function.iterate_succ_apply', hn, step_call hp]
  rfl

end Reconcile

end Pass

end MountOwnership
