import MountOwnership.Time.Span

/-!
# Backoff

The delay before a failed ReplicaSet is tried again. Every delay is the sum of
the two before it, starting with the shortest one twice, and the longest delay
bounds the sums.
-/

namespace MountOwnership

/-- A sequence of growing delays. -/
structure Backoff where
  /-- The first delay. -/
  shortest : Time.Span
  /-- The delay before the present one. -/
  previous : Time.Span
  /-- The delay that comes next. -/
  current : Time.Span
  /-- The bound of the sums. -/
  longest : Time.Span
deriving DecidableEq

namespace Backoff

/-- The sequence between two delays, from its start. -/
def between (shortest longest : Time.Span) : Backoff := ⟨shortest, .zero, shortest, longest⟩

/-- The sequence for ReplicaSets: from one second to five minutes. -/
def standard : Backoff := between (.ofSeconds 1) (.ofSeconds 300)

/-- The sequence after its next delay. -/
def advance (b : Backoff) : Backoff :=
  { b with previous := b.current, current := (b.previous.add b.current).min b.longest }

/-- The next delay, and the sequence after it. -/
def next (b : Backoff) : Time.Span × Backoff := (b.current, b.advance)

/-- The sequence from its start again. -/
def reset (b : Backoff) : Backoff := between b.shortest b.longest

end Backoff

end MountOwnership
