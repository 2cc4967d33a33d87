import Mathlib.Data.List.Basic
import MountOwnership.Controller
import MountOwnership.Proofs.Pass.Cancellation
import MountOwnership.Proofs.Pass.Effect

/-!
# Controllers after shutdown

Shutdown cancels the token of every pass that a controller runs, and the deadline of a pass cancels
its own.  Either way the store stays as it was at that moment, and the pass is cancelled; one in a
namespace that is not selected needs no call and ends as it always does
(`Controller.work_of_waiting`, `Controller.work_of_shutdown`).

A controller that is asked to do more after shutdown, about whatever ReplicaSets, changes nothing
but its own backoffs (`Controller.attendAll_of_shutdown`).
-/

namespace MountOwnership

open Pass (reconcile)

namespace Controller

variable {c : Controller} {s t : Store} {k : WorkloadKey}

/-! ### Work -/

/-- Whether shutdown is requested before the deadline of a pass. -/
def shutdownInTime (shutdownAfter : Option Nat) : Bool := shutdownAfter.any (· < deadline)

/-- Work whose pass waits for a call that never completes is cancelled when shutdown is requested,
or at the deadline. -/
lemma work_of_waiting (h : c.begin s k = (t, .waiting)) (shutdownAfter : Option Nat) :
    c.work s k shutdownAfter =
      { controller := { c with shutdown := c.shutdown || shutdownInTime shutdownAfter }
        store := t
        elapsed := min (shutdownAfter.getD deadline) deadline
        result := .error .cancelled } := by
  unfold work
  rw [h]
  cases shutdownAfter with
  | none => simp [shutdownInTime]
  | some after =>
    by_cases hlt : after < deadline
    · simp [shutdownInTime, hlt, Nat.le_of_lt hlt]
    · simp [shutdownInTime, hlt, Nat.le_of_not_lt hlt]

/-- A pass after shutdown makes no call. -/
lemma begin_of_shutdown (h : c.shutdown = true) (s : Store) (k : WorkloadKey) :
    c.begin s k =
      (s, .returned (if c.context.filter.selects (lookupNamespace k) then .error .cancelled
        else .ok (.skipped .namespaceExcluded))) := by
  unfold begin
  rw [if_pos h, Pass.run_some]
  by_cases hf : c.context.filter.selects (lookupNamespace k) = true
  · rw [if_pos hf, reconcile, if_pos hf]
    rfl
  · rw [if_neg hf, reconcile, if_neg hf]
    rfl

/-- Work after shutdown takes no time and leaves the store as it is. -/
lemma work_of_shutdown (h : c.shutdown = true) (s : Store) (k : WorkloadKey)
    (shutdownAfter : Option Nat) :
    c.work s k shutdownAfter =
      if c.context.filter.selects (lookupNamespace k) then ⟨c, s, 0, .error .cancelled⟩
      else ⟨c.resetBackoff k, s, 0, .ok .awaitChange⟩ := by
  unfold work
  rw [begin_of_shutdown h]
  by_cases hf : c.context.filter.selects (lookupNamespace k) = true
  · rw [if_pos hf, if_pos hf]
    rfl
  · rw [if_neg hf, if_neg hf]
    rfl

/-! ### Errands -/

/-- What a controller can be asked about a ReplicaSet. -/
inductive Errand where
  /-- To work on it, while shutdown is requested after some milliseconds or not. -/
  | work (rs : ReplicaSet) (shutdownAfter : Option Nat)
  /-- To judge an error. -/
  | judge (rs : ReplicaSet) (e : ControllerError)

/-- The ReplicaSet of an errand. -/
def Errand.replicaSet : Errand → ReplicaSet
  | .work rs _ => rs
  | .judge rs _ => rs

/-- The controller and the store after an errand about the ReplicaSet of a key. -/
def attend (c : Controller) (s : Store) (k : WorkloadKey) : Errand → Controller × Store
  | .work _ shutdownAfter =>
    ((c.work s k shutdownAfter).controller, (c.work s k shutdownAfter).store)
  | .judge _ e => ((c.onError k e).1, s)

/-- The controller and the store after errands in order, which have to be about ReplicaSets with
keys. -/
def attendAll (c : Controller) (s : Store) (errands : List Errand) :
    Except KeyFault (Controller × Store) :=
  errands.foldlM (fun now x => x.replicaSet.key.map fun k => now.1.attend now.2 k x) (c, s)

/-- To start a backoff anew changes nothing but the backoffs. -/
lemma resetBackoff_eq (c : Controller) (k : WorkloadKey) :
    ∃ backoffs, c.resetBackoff k = { c with backoffs := backoffs } := by
  unfold resetBackoff
  cases c.backoffs.get? k with
  | none => exact ⟨c.backoffs, rfl⟩
  | some b => exact ⟨c.backoffs.insert k b.reset, rfl⟩

/-- To take in an error changes nothing but the backoffs. -/
lemma onError_eq (c : Controller) (k : WorkloadKey) (e : ControllerError) :
    ∃ backoffs, (c.onError k e).1 = { c with backoffs := backoffs } := by
  unfold onError
  by_cases he : e.isRetryable = true
  · rw [if_pos he]
    exact ⟨(c.nextBackoff k).2.backoffs, rfl⟩
  · rw [if_neg he]
    exact c.resetBackoff_eq k

/-- An errand after shutdown changes nothing but the backoffs. -/
lemma attend_of_shutdown (h : c.shutdown = true) (s : Store) (k : WorkloadKey) (x : Errand) :
    ∃ backoffs, c.attend s k x = ({ c with backoffs := backoffs }, s) := by
  cases x with
  | work rs shutdownAfter =>
    unfold attend
    dsimp only
    rw [work_of_shutdown h]
    by_cases hf : c.context.filter.selects (lookupNamespace k) = true
    · rw [if_pos hf]
      exact ⟨c.backoffs, rfl⟩
    · rw [if_neg hf]
      obtain ⟨backoffs, hreset⟩ := c.resetBackoff_eq k
      exact ⟨backoffs, by rw [hreset]⟩
  | judge rs e =>
    obtain ⟨backoffs, herror⟩ := c.onError_eq k e
    exact ⟨backoffs, congrArg (·, s) herror⟩

/-- However many errands follow, about ReplicaSets with names, they change nothing but the
backoffs. -/
lemma attendAll_of_shutdown (h : c.shutdown = true) (s : Store) {errands : List Errand}
    (hnamed : ∀ x ∈ errands, x.replicaSet.metadata.name.isSome) :
    ∃ backoffs, c.attendAll s errands = .ok ({ c with backoffs := backoffs }, s) := by
  induction errands generalizing c with
  | nil => exact ⟨c.backoffs, rfl⟩
  | cons x errands ih =>
    obtain ⟨name, hname⟩ := Option.isSome_iff_exists.mp (hnamed x List.mem_cons_self)
    have hkey : x.replicaSet.key = .ok ⟨x.replicaSet.metadata.ns, name⟩ := by
      unfold ReplicaSet.key
      rw [hname]
    obtain ⟨backoffs, hstep⟩ :=
      attend_of_shutdown h s ⟨x.replicaSet.metadata.ns, name⟩ x
    have hrest : c.attendAll s (x :: errands) =
        ({ c with backoffs := backoffs } : Controller).attendAll s errands := by
      unfold attendAll
      rw [List.foldlM_cons, hkey, Except.map, hstep]
      rfl
    obtain ⟨backoffs', hend⟩ := ih (c := { c with backoffs := backoffs }) h
      fun y hy => hnamed y (List.mem_cons_of_mem x hy)
    exact ⟨backoffs', hrest.trans hend⟩

/-! ### Cancellation -/

/-- What cancellation guarantees for the passes of a controller over a store. -/
structure CancelsCleanly (c : Controller) (s : Store) : Prop where
  /-- The moments of a pass are those of the run that the controller begins. -/
  moments : c.shutdown = false → ∀ k, ∃ n,
    Pass.moment c.context (lookupNamespace k) k.name s n =
      ((c.begin s k).1, (c.begin s k).2.stand)
  /-- A run that is cancelled after some calls is cut off at the moment after these. -/
  cutOff : ∀ ns name n,
    let now := Pass.moment c.context ns name s n
    (reconcile c.context ns name).run (some n) s = (now.1, now.2.cutOff)
  /-- At whatever moment the token is cancelled, the store stays as it is then, and the pass is
  cancelled, unless it was over. -/
  frozen : ∀ ns name n m,
    let now := Pass.moment c.context ns name s n
    (Pass.step true)^[m + 1] now = (now.1, .ended (now.2.result?.getD (.error .cancelled)))
  /-- A pass whose token is cancelled from the start is cancelled, unless its namespace is not
  selected. -/
  start : ∀ ns name m,
    (Pass.step true)^[m + 1] (s, .ready (reconcile c.context ns name)) =
      (s, .ended (if c.context.filter.selects ns then .error .cancelled
        else .ok (.skipped .namespaceExcluded)))
  /-- A pass whose namespace is not selected is over at every moment. -/
  excluded : ∀ ns name n, c.context.filter.selects ns = false →
    Pass.moment c.context ns name s n = (s, .ended (.ok (.skipped .namespaceExcluded)))
  /-- Work whose pass waits is cancelled when shutdown is requested, or at the deadline, with the
  store as it was when the pass began to wait. -/
  waiting : ∀ k shutdownAfter t, c.begin s k = (t, .waiting) →
    c.work s k shutdownAfter =
      { controller := { c with shutdown := c.shutdown || shutdownInTime shutdownAfter }
        store := t
        elapsed := min (shutdownAfter.getD deadline) deadline
        result := .error .cancelled } ∧
    ∃ n u call next,
      Pass.moment c.context (lookupNamespace k) k.name s n = (u, .ready (.call call next)) ∧
      Pass.moment c.context (lookupNamespace k) k.name s (n + 1) = (t, .waiting) ∧
      u.perform call = (t, .stalled) ∧ u.Quiet t ∧ t.faults = u.faults
  /-- Work after shutdown leaves the store as it is and is cancelled, unless the namespace is not
  selected. -/
  afterShutdown : c.shutdown = true → ∀ k shutdownAfter,
    c.work s k shutdownAfter =
      if c.context.filter.selects (lookupNamespace k) then ⟨c, s, 0, .error .cancelled⟩
      else ⟨c.resetBackoff k, s, 0, .ok .awaitChange⟩
  /-- After shutdown, errands about ReplicaSets with names change nothing but the backoffs. -/
  errands : c.shutdown = true → ∀ errands : List Errand,
    (∀ x ∈ errands, x.replicaSet.metadata.name.isSome) →
    ∃ backoffs, c.attendAll s errands = .ok ({ c with backoffs := backoffs }, s)

/-- **Cancellation.**  Once the token of a pass is cancelled, by shutdown or at the deadline,
nothing happens to the store any more, whatever the pass was about to do or waits for, and whatever
the controller is asked to do after shutdown. -/
theorem cancelsCleanly (c : Controller) (s : Store) : c.CancelsCleanly s where
  moments hshutdown k := by
    unfold begin
    rw [if_neg (by simp [hshutdown])]
    exact Pass.exists_iterate_step_run (reconcile c.context (lookupNamespace k) k.name) s
  cutOff ns name n := Pass.run_some n s (reconcile c.context ns name)
  frozen _ _ _ m := Pass.iterate_step_cancelled _ m
  start ns name m := Pass.iterate_step_cancelled_reconcile c.context ns name s m
  excluded _ name n hexcluded := Pass.moment_of_excluded hexcluded name s n
  waiting k shutdownAfter t hwait := by
    refine ⟨work_of_waiting hwait shutdownAfter, ?_⟩
    by_cases hshutdown : c.shutdown = true
    · -- after shutdown no pass waits
      exact nomatch (begin_of_shutdown hshutdown s k).symm.trans hwait
    · unfold begin at hwait
      rw [if_neg hshutdown] at hwait
      exact Pass.exists_moment_waiting hwait
  afterShutdown hshutdown k shutdownAfter := work_of_shutdown hshutdown s k shutdownAfter
  errands hshutdown _ hnamed := attendAll_of_shutdown hshutdown s hnamed

/-- Work on `app-rs` that waits for its first replace is cancelled when shutdown is requested, and
nothing that is asked of the controller afterwards changes the store; without shutdown it is
cancelled at the deadline. -/
theorem cancelsCleanly_app_rs :
    let c : Controller := { context := Sample.context false }
    let s : Store := { Sample.store with faults := { stallReplaces := true } }
    let k : WorkloadKey := ⟨some "default", "app-rs"⟩
    let rs := Sample.replicaSet "app-rs" "u1" []
    let w := c.work s k (some 500)
    w.result = .error .cancelled ∧ w.elapsed = 500 ∧ (c.work s k none).elapsed = 30000 ∧
      w.store.replaceCalls = ["app-config"] ∧
      ∃ c', w.controller.attendAll w.store [.judge rs .cancelled, .work rs none] =
        .ok (c', w.store) := by
  intro c s k rs w
  have hwaiting : ((Controller.begin { context := Sample.context false }
      { Sample.store with faults := { stallReplaces := true } }
      ⟨some "default", "app-rs"⟩).2) = .waiting := by
    rw [begin, Pass.reconcile_eq_compared]
    decide +kernel
  have hcalls : ((Controller.begin { context := Sample.context false }
      { Sample.store with faults := { stallReplaces := true } }
      ⟨some "default", "app-rs"⟩).1.replaceCalls) = ["app-config"] := by
    rw [begin, Pass.reconcile_eq_compared]
    decide +kernel
  have hbegin : c.begin s k = ((c.begin s k).1, .waiting) := Prod.ext rfl hwaiting
  obtain ⟨hwork, _⟩ := (cancelsCleanly c s).waiting k (some 500) _ hbegin
  obtain ⟨hlate, _⟩ := (cancelsCleanly c s).waiting k none _ hbegin
  have hw : w = _ := hwork
  have hnamed : ∀ x ∈ [Errand.judge rs .cancelled, .work rs none],
      x.replicaSet.metadata.name.isSome := by
    intro x hx
    rcases List.mem_pair.mp hx with rfl | rfl <;> rfl
  have hshutdown : w.controller.shutdown = true := by
    rw [hw]
    rfl
  obtain ⟨backoffs, hattend⟩ := (cancelsCleanly w.controller w.store).errands hshutdown _ hnamed
  refine ⟨?_, ?_, ?_, ?_, _, hattend⟩
  · rw [hw]
  · rw [hw]
    rfl
  · rw [hlate]
    rfl
  · rw [hw]
    exact hcalls

end Controller

end MountOwnership
