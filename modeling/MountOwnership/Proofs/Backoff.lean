import Mathlib.Data.Nat.Fib.Basic
import MountOwnership.Backoff

/-!
# The delays of a backoff

Every delay is the sum of the two before it, so the delays of a sequence are the Fibonacci
multiples of its shortest delay, up to its longest one.  The bound is applied to every sum,
and the sum of two bounded delays is bounded to the same as the sum of the two unbounded
ones.  So a sequence is determined by the number of delays that it has given
(`Backoff.advance_stage`).
-/

namespace MountOwnership

/-- Spans of the same length are equal. -/
lemma Time.Span.eq_of_nanos {a b : Time.Span} (h : a.nanos = b.nanos) : a = b := by
  cases a
  cases b
  cases h
  rfl

namespace Backoff

variable {shortest longest : Time.Span}

/-- A delay of the sequence between two delays, by its number: a Fibonacci multiple of the shortest
one, up to the longest one. -/
def delay (shortest longest : Time.Span) (n : Nat) : Time.Span where
  nanos := min longest.nanos (Nat.fib n * shortest.nanos)
  nanos_lt := lt_of_le_of_lt (min_le_left _ _) longest.nanos_lt

/-- Two delays in a row add up to the next one. -/
lemma delay_add_delay (shortest longest : Time.Span) (n : Nat) :
    ((delay shortest longest n).add (delay shortest longest (n + 1))).min longest =
      delay shortest longest (n + 2) := by
  refine Time.Span.eq_of_nanos ?_
  have hlongest := longest.nanos_lt
  have hfib : Nat.fib (n + 2) * shortest.nanos =
      Nat.fib n * shortest.nanos + Nat.fib (n + 1) * shortest.nanos := by
    rw [Nat.fib_add_two, Nat.add_mul]
  rw [Time.Span.nanos_min, Time.Span.nanos_add]
  unfold delay
  dsimp only
  rw [hfib]
  simp only [Nat.min_eq_min]
  omega

/-- The sequence between two delays when it has given a number of delays. -/
def stage (shortest longest : Time.Span) (n : Nat) : Backoff where
  shortest := shortest
  previous := delay shortest longest n
  current := delay shortest longest (n + 1)
  longest := longest

/-- A backoff begins at the first stage. -/
lemma between_eq_stage (h : shortest.nanos ≤ longest.nanos) :
    between shortest longest = stage shortest longest 0 := by
  have hprevious : delay shortest longest 0 = .zero :=
    Time.Span.eq_of_nanos (by simp [delay, Time.Span.zero])
  have hcurrent : delay shortest longest 1 = shortest :=
    Time.Span.eq_of_nanos (by simp [delay, h])
  rw [stage, hprevious, hcurrent, between]

/-- After its next delay, a sequence has given one delay more. -/
lemma advance_stage (shortest longest : Time.Span) (n : Nat) :
    (stage shortest longest n).advance = stage shortest longest (n + 1) := by
  unfold advance stage
  dsimp only
  rw [delay_add_delay]

/-- From every stage, a reset leads back to the beginning. -/
lemma reset_stage (shortest longest : Time.Span) (n : Nat) :
    (stage shortest longest n).reset = between shortest longest := rfl

/-! ### The sequence for ReplicaSets -/

/-- The delay after a number of failures in a row: a Fibonacci number of seconds, up to five
minutes. -/
def retryDelay (n : Nat) : Time.Span := .ofSeconds (UInt32.ofNat (min 300 (Nat.fib n)))

/-- The delay after a failure is a Fibonacci number of seconds, and at most five minutes. -/
lemma nanos_retryDelay (n : Nat) :
    (retryDelay n).nanos = min 300 (Nat.fib n) * Time.nanosPerSecond := by
  have hlt : min 300 (Nat.fib n) < UInt32.size :=
    lt_of_le_of_lt (min_le_left _ _) (by decide)
  unfold retryDelay Time.Span.ofSeconds
  dsimp only
  rw [UInt32.toNat_ofNat_of_lt' hlt]

/-- The sequence for ReplicaSets after a number of failures in a row. -/
def afterFailures (n : Nat) : Backoff := stage (.ofSeconds 1) (.ofSeconds 300) n

/-- Without a failure the backoff is the standard one. -/
lemma afterFailures_zero : afterFailures 0 = standard :=
  (between_eq_stage (by decide)).symm

/-- A delay that is used counts as one more failure. -/
lemma advance_afterFailures (n : Nat) : (afterFailures n).advance = afterFailures (n + 1) :=
  advance_stage _ _ n

/-- A reset forgets the failures. -/
lemma reset_afterFailures (n : Nat) : (afterFailures n).reset = standard :=
  reset_stage _ _ n

/-- The next delay is the one after one more failure. -/
lemma current_afterFailures (n : Nat) : (afterFailures n).current = retryDelay (n + 1) := by
  refine Time.Span.eq_of_nanos ?_
  rw [nanos_retryDelay, ← Nat.mul_min_mul_right]
  rfl

end Backoff

end MountOwnership
