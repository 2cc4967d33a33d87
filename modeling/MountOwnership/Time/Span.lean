import MountOwnership.Time.Instant

/-!
# Spans of time

A span is a number of nanoseconds that fits in 64 bits of seconds. Addition
stops at the longest span instead of passing it.
-/

namespace MountOwnership.Time

/-- The number of values of 64 bits. -/
def secondRange : Nat := 18446744073709551616

/-- The nanoseconds of all the seconds that 64 bits can count. -/
def nanoRange : Nat := secondRange * nanosPerSecond

/-- A span of time. -/
structure Span where
  /-- Its length in nanoseconds. -/
  nanos : Nat
  /-- The whole seconds fit in 64 bits. -/
  nanos_lt : nanos < nanoRange
deriving DecidableEq

namespace Span

/-- No time at all. -/
def zero : Span := ⟨0, by decide⟩

/-- The longest span. -/
def longest : Span := ⟨nanoRange - 1, by decide⟩

/-- A span of whole seconds and nanoseconds, if it is not too long. -/
def ofParts? (seconds nanos : Nat) : Option Span :=
  if h : seconds * nanosPerSecond + nanos < nanoRange then
    some ⟨seconds * nanosPerSecond + nanos, h⟩
  else none

/-- A span of seconds below the bound of 32 bits. -/
def ofSeconds (seconds : UInt32) : Span where
  nanos := seconds.toNat * nanosPerSecond
  nanos_lt := by
    have := seconds.toNat_lt
    simp only [nanoRange, secondRange, nanosPerSecond]
    omega

/-- The whole seconds of a span. -/
def seconds (s : Span) : Nat := s.nanos / nanosPerSecond

/-- The nanoseconds of a span beyond its whole seconds. -/
def subsecond (s : Span) : Nat := s.nanos % nanosPerSecond

/-- The sum of two spans, or the longest span where the sum would pass it. -/
def add (a b : Span) : Span :=
  if h : a.nanos + b.nanos < nanoRange then ⟨a.nanos + b.nanos, h⟩ else longest

/-- The shorter of two spans. -/
def min (a b : Span) : Span := if a.nanos ≤ b.nanos then a else b

/-- The nanoseconds of a sum, which is the greatest span if it would be greater. -/
@[simp] theorem nanos_add (a b : Span) :
    (a.add b).nanos = Nat.min (a.nanos + b.nanos) (nanoRange - 1) := by
  unfold add
  split
  · rename_i h
    exact (Nat.min_eq_left (Nat.le_sub_one_of_lt h)).symm
  · rename_i h
    exact (Nat.min_eq_right (Nat.le_trans (Nat.sub_le _ _) (Nat.not_lt.mp h))).symm

/-- The nanoseconds of the shorter of two spans. -/
@[simp] theorem nanos_min (a b : Span) : (a.min b).nanos = Nat.min a.nanos b.nanos := by
  unfold min
  split
  · rename_i h
    exact (Nat.min_eq_left h).symm
  · rename_i h
    exact (Nat.min_eq_right (by omega)).symm

end Span

end MountOwnership.Time
