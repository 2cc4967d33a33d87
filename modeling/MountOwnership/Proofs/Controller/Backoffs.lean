import MountOwnership.Controller
import MountOwnership.Proofs.Backoff

/-!
# The backoffs of a controller

A controller keeps a backoff for every ReplicaSet that failed, and one that never failed is
at the start of its backoff (`Controller.backoffOf`).  A failure that is worth another try
moves the backoff of its ReplicaSet on, and a success or a final failure puts it back to the
start.  No other backoff is touched.
-/

namespace MountOwnership

namespace Controller

variable {c : Controller} {k : WorkloadKey} {e : ControllerError}

/-- The backoff of a ReplicaSet; without a failure it is at its start. -/
def backoffOf (c : Controller) (k : WorkloadKey) : Backoff := (c.backoffs.get? k).getD .standard

/-- A key that has no backoff yet has the standard one. -/
lemma backoffOf_of_none (h : c.backoffs.get? k = none) : c.backoffOf k = .standard := by
  rw [backoffOf, h]
  rfl

/-- A failure that is worth another try is followed by one after the next delay. -/
lemma onError_of_retryable (c : Controller) (k : WorkloadKey) (h : e.isRetryable = true) :
    c.onError k e = ((c.nextBackoff k).2, .requeue (c.backoffOf k).current) := by
  unfold onError
  rw [if_pos h]
  rfl

/-- A failure that is not worth another try is followed by none. -/
lemma onError_of_final (c : Controller) (k : WorkloadKey) (h : e.isRetryable = false) :
    (c.onError k e).2 = .awaitChange := by
  unfold onError
  rw [if_neg (by simp [h])]

/-- A backoff that is stored anew is that of its ReplicaSet, and no other. -/
lemma backoffOf_insert (c : Controller) (k k' : WorkloadKey) (b : Backoff) :
    { c with backoffs := c.backoffs.insert k b }.backoffOf k' =
      if k = k' then b else c.backoffOf k' := by
  unfold backoffOf
  dsimp only
  rw [Table.get?_insert]
  exact apply_ite (Option.getD · Backoff.standard) _ _ _

/-- A delay moves the backoff of its ReplicaSet on, and no other. -/
lemma backoffOf_nextBackoff (c : Controller) (k k' : WorkloadKey) :
    (c.nextBackoff k).2.backoffOf k' =
      if k = k' then (c.backoffOf k).advance else c.backoffOf k' :=
  backoffOf_insert c k k' _

/-- A reset puts the backoff of its ReplicaSet back to its start, and no other. -/
lemma backoffOf_resetBackoff {n : Nat} (h : c.backoffOf k = .afterFailures n)
    (k' : WorkloadKey) :
    (c.resetBackoff k).backoffOf k' = if k = k' then .standard else c.backoffOf k' := by
  unfold resetBackoff
  cases hget : c.backoffs.get? k with
  | none =>
    by_cases hk : k = k'
    · subst hk
      rw [if_pos rfl]
      exact backoffOf_of_none hget
    · rw [if_neg hk]
  | some b =>
    have hb : b = .afterFailures n := by
      rw [← h, backoffOf, hget]
      rfl
    subst hb
    rw [← Backoff.reset_afterFailures n]
    exact backoffOf_insert c k k' _

end Controller

end MountOwnership
