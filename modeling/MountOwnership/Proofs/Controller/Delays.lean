import MountOwnership.Proofs.Controller.Backoffs
import MountOwnership.Proofs.Pass.Effect

/-!
# The delays of a controller

One controller works on many ReplicaSets, in any order, and judges their errors.  What
it has done so far is its journal, which names the ReplicaSets and tells how each piece
of work ended and which errors were judged (`Controller.Ran`).

For the backoff of a ReplicaSet, its own part of the journal is all that counts, and of
that only the failures since the last reset: a success, or a failure that is not worth
another try.  The delay before the next try is the one after as many failures
(`Controller.delay_by_journal`).
-/

namespace MountOwnership

namespace Controller

/-! ### Journals -/

/-- What a controller has done. -/
inductive Entry where
  /-- Work on a ReplicaSet came to a result. -/
  | worked (rs : ReplicaSet) (result : Except ControllerError Action)
  /-- An error of a ReplicaSet was judged. -/
  | judged (rs : ReplicaSet) (e : ControllerError)

/-- What an entry means for the backoff of its ReplicaSet. -/
inductive Bearing where
  /-- The backoff starts anew. -/
  | reset
  /-- There was one more failure that is worth another try. -/
  | failure
  /-- The backoff stays as it is. -/
  | nothing
deriving DecidableEq

namespace Entry

/-- The ReplicaSet that an entry is about. -/
def replicaSet : Entry → ReplicaSet
  | .worked rs _ => rs
  | .judged rs _ => rs

/-- Whether an entry is about the ReplicaSet of a key. -/
def concerns (k : WorkloadKey) (x : Entry) : Bool :=
  match x.replicaSet.key with
  | .ok k' => k' = k
  | .error _ => false

/-- A success and a final failure start the backoff anew.  Work that failed leaves it alone until
its error is judged. -/
def bearing : Entry → Bearing
  | .worked _ (.ok _) => .reset
  | .worked _ (.error _) => .nothing
  | .judged _ e => if e.isRetryable then .failure else .reset

end Entry

/-- The bearings of the entries about the ReplicaSet of a key, in order. -/
def bearings (k : WorkloadKey) (journal : List Entry) : List Bearing :=
  (journal.filter (·.concerns k)).map Entry.bearing

/-- The number of failures worth another try since the last reset. -/
def failuresSinceReset (bs : List Bearing) : Nat :=
  (bs.reverse.takeWhile (· ≠ .reset)).count .failure

/-- The controllers that arise from a first one, with their journals.  Work may be on any store.  As
passes run side by side, one that began earlier may come to any result at any time, and shutdown may
be requested. -/
inductive Ran (first : Controller) : List Entry → Controller → Prop
  | start : Ran first [] first
  | worked {journal : List Entry} {c : Controller} {rs : ReplicaSet} {k : WorkloadKey}
      (h : Ran first journal c) (hk : rs.key = .ok k) (s : Store) (shutdownAfter : Option Nat) :
      Ran first (journal ++ [.worked rs (c.work s k shutdownAfter).result])
        (c.work s k shutdownAfter).controller
  | concluded {journal : List Entry} {c : Controller} {rs : ReplicaSet} {k : WorkloadKey}
      (h : Ran first journal c) (hk : rs.key = .ok k)
      (result : Except ControllerError Outcome) :
      Ran first (journal ++ [.worked rs (c.conclude k result).2]) (c.conclude k result).1
  | judged {journal : List Entry} {c : Controller} {rs : ReplicaSet} {k : WorkloadKey}
      (h : Ran first journal c) (hk : rs.key = .ok k) (e : ControllerError) :
      Ran first (journal ++ [.judged rs e]) (c.onError k e).1
  | shutdown {journal : List Entry} {c : Controller} (h : Ran first journal c) :
      Ran first journal { c with shutdown := true }

variable {first c c' : Controller} {journal : List Entry} {rs : ReplicaSet} {k k' : WorkloadKey}
  {x : Entry} {e : ControllerError}

/-! ### Counting failures -/

/-- A reset sets the number of failures to zero, and a failure adds one. -/
lemma failuresSinceReset_append (bs : List Bearing) (b : Bearing) :
    failuresSinceReset (bs ++ [b]) =
      match b with
      | .reset => 0
      | .failure => failuresSinceReset bs + 1
      | .nothing => failuresSinceReset bs := by
  unfold failuresSinceReset
  rw [List.reverse_append, List.reverse_singleton, List.singleton_append]
  cases b with
  | reset => rfl
  | failure =>
    rw [List.takeWhile_cons_of_pos (by decide)]
    exact List.count_cons_self
  | nothing =>
    rw [List.takeWhile_cons_of_pos (by decide)]
    exact List.count_cons_of_ne (by decide)

/-- An entry about a ReplicaSet has its bearing on the key of that ReplicaSet, and on no other. -/
lemma bearings_append (hk : x.replicaSet.key = .ok k) (k' : WorkloadKey) :
    bearings k' (journal ++ [x]) =
      if k = k' then bearings k' journal ++ [x.bearing] else bearings k' journal := by
  have hconcerns : x.concerns k' = decide (k = k') := by
    unfold Entry.concerns
    rw [hk]
  unfold bearings
  rw [List.filter_append, List.map_append]
  by_cases h : k = k'
  · rw [if_pos h, List.filter_cons_of_pos (by simp [hconcerns, h])]
    rfl
  · rw [if_neg h, List.filter_cons_of_neg (by simp [hconcerns, h])]
    exact List.append_nil _

/-! ### Backoffs -/

/-- Every backoff is as far on as the journal has failures since the last reset. -/
def Paced (c : Controller) (journal : List Entry) : Prop :=
  ∀ k, c.backoffOf k = .afterFailures (failuresSinceReset (bearings k journal))

/-- Only the backoffs of a controller count. -/
lemma Paced.congr (h : c.Paced journal) (hb : c'.backoffs = c.backoffs) : c'.Paced journal := by
  intro k
  rw [← h k]
  unfold backoffOf
  rw [hb]

/-- A controller without any backoffs is paced by an empty journal. -/
lemma paced_nil (h : c.backoffs = {}) : c.Paced [] := by
  intro k
  refine (backoffOf_of_none ?_).trans Backoff.afterFailures_zero.symm
  rw [h]
  rfl

/-- An entry without a bearing changes nothing. -/
lemma Paced.append_nothing (h : c.Paced journal) (hk : x.replicaSet.key = .ok k)
    (hx : x.bearing = .nothing) : c.Paced (journal ++ [x]) := by
  intro k'
  rw [bearings_append hk, h k']
  split
  · rw [failuresSinceReset_append, hx]
  · rfl

/-- The backoff that starts anew is the one of the entry's ReplicaSet. -/
lemma Paced.append_reset (h : c.Paced journal) (hk : x.replicaSet.key = .ok k)
    (hx : x.bearing = .reset) : (c.resetBackoff k).Paced (journal ++ [x]) := by
  intro k'
  rw [bearings_append hk, backoffOf_resetBackoff (h k)]
  split
  · rw [failuresSinceReset_append, hx]
    exact Backoff.afterFailures_zero.symm
  · exact h k'

/-- The backoff that moves on is the one of the entry's ReplicaSet. -/
lemma Paced.append_failure (h : c.Paced journal) (hk : x.replicaSet.key = .ok k)
    (hx : x.bearing = .failure) : (c.nextBackoff k).2.Paced (journal ++ [x]) := by
  intro k'
  rw [bearings_append hk, backoffOf_nextBackoff]
  split
  · next hkey =>
    subst hkey
    rw [failuresSinceReset_append, hx, h k]
    exact Backoff.advance_afterFailures _
  · exact h k'

/-! ### What a controller does -/

/-- The result of a pass is taken in as the journal tells. -/
lemma Paced.conclude (h : c.Paced journal) (hk : rs.key = .ok k)
    (result : Except ControllerError Outcome) :
    (c.conclude k result).1.Paced (journal ++ [.worked rs (c.conclude k result).2]) := by
  cases result with
  | ok outcome => exact h.append_reset hk rfl
  | error e => exact h.append_nothing hk rfl

/-- Work on a ReplicaSet moves on as the journal tells. -/
lemma Paced.work (h : c.Paced journal) (hk : rs.key = .ok k) (s : Store)
    (shutdownAfter : Option Nat) :
    (c.work s k shutdownAfter).controller.Paced
      (journal ++ [.worked rs (c.work s k shutdownAfter).result]) := by
  unfold Controller.work
  rcases c.begin s k with ⟨t, result | _⟩
  · exact h.conclude hk result
  · -- a pass that is given up is cancelled, whether by its deadline or by a shutdown
    have hcancelled : c.Paced (journal ++ [.worked rs (.error .cancelled)]) :=
      h.append_nothing hk rfl
    dsimp only
    split
    · split
      · exact hcancelled.congr rfl
      · exact hcancelled
    · exact hcancelled

/-- An error is judged as the journal tells. -/
lemma Paced.onError (h : c.Paced journal) (hk : rs.key = .ok k) (e : ControllerError) :
    (c.onError k e).1.Paced (journal ++ [.judged rs e]) := by
  unfold Controller.onError
  by_cases he : e.isRetryable = true
  · rw [if_pos he]
    exact h.append_failure hk (if_pos he)
  · rw [if_neg he]
    exact h.append_reset hk (if_neg he)

/-- Whatever a controller does, its backoffs are those that its journal tells. -/
lemma Ran.paced (h : Ran first journal c) (hfirst : first.backoffs = {}) : c.Paced journal := by
  induction h with
  | start => exact paced_nil hfirst
  | worked _ hk s shutdownAfter ih => exact ih.work hk s shutdownAfter
  | concluded _ hk result ih => exact ih.conclude hk result
  | judged _ hk e ih => exact ih.onError hk e
  | shutdown _ ih => exact ih.congr rfl

/-- **Delays.**  Take any controller that began without backoffs, whatever it has done since.  A
failure of a ReplicaSet that is worth another try is followed by one after a Fibonacci number of
seconds, up to five minutes: the one after as many such failures as its ReplicaSet had since its
last reset.  Any other failure is followed by none.  Nothing else counts: not what the journal tells
of other ReplicaSets, nor which error it was, nor the uid. -/
theorem delay_by_journal (hfirst : first.backoffs = {}) (h : Ran first journal c)
    (k : WorkloadKey) (e : ControllerError) :
    (e.isRetryable = true → (c.onError k e).2 =
      .requeue (Backoff.retryDelay (failuresSinceReset (bearings k journal) + 1))) ∧
    (e.isRetryable = false → (c.onError k e).2 = .awaitChange) ∧
    ∀ (first' : Controller) (journal' : List Entry) (c' : Controller) (e' : ControllerError),
      first'.backoffs = {} → Ran first' journal' c' → bearings k journal' = bearings k journal →
      e'.isRetryable = e.isRetryable → (c'.onError k e').2 = (c.onError k e).2 := by
  have hdelay : ∀ {first : Controller} {journal : List Entry} {c : Controller}
      {e : ControllerError}, first.backoffs = {} → Ran first journal c → e.isRetryable = true →
      (c.onError k e).2 =
        .requeue (Backoff.retryDelay (failuresSinceReset (bearings k journal) + 1)) := by
    intro first journal c e hfirst h he
    rw [onError_of_retryable c k he, h.paced hfirst k, Backoff.current_afterFailures]
  refine ⟨hdelay hfirst h, onError_of_final c k, ?_⟩
  intro first' journal' c' e' hfirst' h' hbearings he'
  cases he : e.isRetryable with
  | true => rw [hdelay hfirst h he, hdelay hfirst' h' (he'.trans he), hbearings]
  | false => rw [onError_of_final c k he, onError_of_final c' k (he'.trans he)]

/-- Two failures of `app-rs` make the next delay two seconds, although `other-rs` failed and
succeeded in between and `app-rs` was made anew. -/
theorem delay_by_journal_app_rs :
    let key : WorkloadKey := ⟨some "default", "app-rs"⟩
    let otherKey : WorkloadKey := ⟨some "default", "other-rs"⟩
    let c₀ : Controller := { context := Sample.context false }
    let c₁ := (c₀.onError key (.cluster (.api "refused"))).1
    let c₂ := (c₁.onError otherKey .cancelled).1
    let c₃ := (c₂.work Sample.store otherKey none).controller
    let c₄ := (c₃.onError key .cancelled).1
    (c₄.onError key .cancelled).2 = .requeue (.ofSeconds 2) ∧
      (c₄.onError otherKey .cancelled).2 = .requeue (.ofSeconds 1) := by
  intro key otherKey c₀ c₁ c₂ c₃ c₄
  have hother : (Sample.replicaSet "other-rs" "u2" []).key = .ok otherKey := rfl
  have hrun : Ran c₀
      [.judged (Sample.replicaSet "app-rs" "u1" []) (.cluster (.api "refused")),
        .judged (Sample.replicaSet "other-rs" "u2" []) .cancelled,
        .worked (Sample.replicaSet "other-rs" "u2" []) (c₂.work Sample.store otherKey none).result,
        .judged (Sample.replicaSet "app-rs" "u3" []) .cancelled] c₄ :=
    (((Ran.start.judged rfl _).judged hother _).worked hother Sample.store none).judged rfl _
  have hsuccess : (c₂.work Sample.store otherKey none).result = .ok .awaitChange := by
    simp only [work, begin, Pass.reconcile_eq_compared]
    decide +kernel
  rw [hsuccess] at hrun
  refine ⟨((delay_by_journal rfl hrun key .cancelled).1 rfl).trans ?_,
    ((delay_by_journal rfl hrun otherKey .cancelled).1 rfl).trans ?_⟩
  · decide
  · decide

end Controller

end MountOwnership
