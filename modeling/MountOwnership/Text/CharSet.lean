/-!
# Sets of characters

A set of code points, kept as a list of closed ranges. `CharSet.ofRanges` brings
any list of ranges into the canonical form: ascending, disjoint, and with no two
ranges that touch. The set operations keep that form.

`CharSet.ofHex` reads the compact text in which the tables of this library are
written: ranges such as `41-5A` or single code points such as `AA`, in
hexadecimal, with blanks between them.
-/

namespace MountOwnership

/-- A set of code points as ascending closed ranges. -/
structure CharSet where
  /-- The ranges, each as its first and last code point. -/
  ranges : List (Nat × Nat)
deriving DecidableEq, Repr

namespace CharSet

/-- The last code point. -/
def lastCode : Nat := 0x10FFFF

/-- No code point. -/
def empty : CharSet := ⟨[]⟩

/-- Every code point. -/
def all : CharSet := ⟨[(0, lastCode)]⟩

/-- Whether no code point is in the set. -/
def isEmpty (s : CharSet) : Bool := s.ranges.isEmpty

/-- Whether a code point is in the set. -/
def contains (s : CharSet) (n : Nat) : Bool :=
  s.ranges.any fun r => r.1 ≤ n && n ≤ r.2

/-- Put a range in front of ascending ranges, joined with those it reaches. -/
def consRange (r : Nat × Nat) : List (Nat × Nat) → List (Nat × Nat)
  | [] => [r]
  | next :: rest =>
    if next.1 ≤ r.2 + 1 then consRange (r.1, max r.2 next.2) rest else r :: next :: rest

/-- Join the ranges of a list sorted by first code point. -/
def coalesce : List (Nat × Nat) → List (Nat × Nat)
  | [] => []
  | r :: rest => consRange r (coalesce rest)

/-- The set with the given ranges, which may overlap and come in any order. -/
def ofRanges (rs : List (Nat × Nat)) : CharSet :=
  ⟨coalesce ((rs.filter fun r => r.1 ≤ r.2).mergeSort fun a b => a.1 ≤ b.1)⟩

/-- The set of one code point. -/
def single (n : Nat) : CharSet := ⟨[(n, n)]⟩

/-- The code points between two bounds. -/
def range (lo hi : Nat) : CharSet := ofRanges [(lo, hi)]

/-- Merge two lists of ranges that are sorted by first code point. -/
def mergeRanges : List (Nat × Nat) → List (Nat × Nat) → List (Nat × Nat)
  | [], bs => bs
  | as, [] => as
  | a :: as, b :: bs =>
    if a.1 ≤ b.1 then a :: mergeRanges as (b :: bs) else b :: mergeRanges (a :: as) bs

/-- The code points of either set. -/
def union (s t : CharSet) : CharSet := ⟨coalesce (mergeRanges s.ranges t.ranges)⟩

/-- The gaps between ascending ranges from `lo` up to the bound `top`. -/
def gaps (top : Nat) : Nat → List (Nat × Nat) → List (Nat × Nat)
  | lo, [] => if lo ≤ top then [(lo, top)] else []
  | lo, r :: rest =>
    if lo < r.1 then (lo, r.1 - 1) :: gaps top (r.2 + 1) rest else gaps top (r.2 + 1) rest

/-- The code points up to `top` that are not in the set. -/
def complementUpTo (top : Nat) (s : CharSet) : CharSet := ⟨gaps top 0 s.ranges⟩

/-- The code points that are not in the set. -/
def complement (s : CharSet) : CharSet := s.complementUpTo lastCode

/-- The code points of both sets. -/
def inter (s t : CharSet) : CharSet := (s.complement.union t.complement).complement

/-- The code points of the first set that are not in the second. -/
def diff (s t : CharSet) : CharSet := s.inter t.complement

/-- The code points of exactly one of two sets. -/
def symmDiff (s t : CharSet) : CharSet := (s.union t).diff (s.inter t)

/-- The greatest code point of the set. -/
def max? (s : CharSet) : Option Nat := s.ranges.getLast?.map (·.2)

/-! ### The written form of the tables -/

/-- The value of a hexadecimal digit in upper case. -/
def hexDigit (c : Char) : Nat :=
  if c.isDigit then c.toNat - '0'.toNat else c.toNat - 'A'.toNat + 10

/-- A range being read from a table: its first code point once the dash is past, and the number
read so far, if there is one. -/
structure Reading where
  /-- The ranges read, last one first. -/
  done : List (Nat × Nat)
  /-- The first code point of the present range, once it is known. -/
  first : Option Nat
  /-- The number read so far. -/
  number : Option Nat

/-- The present range is complete, if one has begun. -/
def Reading.close (r : Reading) : Reading :=
  match r.number with
  | none => r
  | some n => ⟨(r.first.getD n, n) :: r.done, none, none⟩

/-- Read one more character of a table. -/
def Reading.step (r : Reading) (c : Char) : Reading :=
  if c = ' ' ∨ c = '\n' then r.close
  else if c = '-' then ⟨r.done, r.number, none⟩
  else ⟨r.done, r.first, some (r.number.getD 0 * 16 + hexDigit c)⟩

/-- The set written as ascending hexadecimal ranges, such as `41-5A 61-7A AA`. -/
def ofHex (table : String) : CharSet :=
  ⟨coalesce (table.toList.foldl Reading.step ⟨[], none, none⟩).close.done.reverse⟩

end CharSet

end MountOwnership
