import Std.Data.HashMap
import MountOwnership.Pattern.Node

/-!
# The size of compiled patterns

A pattern is refused when the automaton for it would take too much memory. The
automaton reads UTF-8: a state takes a fixed number of bytes, and the ways out
of a state that reads one of several byte ranges, or of a state that branches,
take some more each. A pattern is compiled twice, once to read forward and once
to read backward, and either size counts.

A set beyond ASCII becomes a small automaton of its own. Forward it shares the
states that have the same ways out; backward it shares states only between
characters that begin with the same bytes.
-/

namespace MountOwnership.Pattern

/-- The bytes that an automaton may take. -/
def sizeLimit : Nat := 10485760

/-- The bytes of a state. -/
def stateSize : Nat := 32

/-- The bytes of a way out that reads a range. -/
def wayOutSize : Nat := 8

/-- The bytes of a way out of a state that branches. -/
def branchSize : Nat := 4

/-- The bytes of the states that every automaton has. -/
def frameSize : Nat := 7 * stateSize + 2 * wayOutSize + 2 * branchSize

/-! ### Ranges of UTF-8 -/

/-- The bytes of a code point in UTF-8. -/
def utf8 (n : Nat) : List Nat :=
  if n < 0x80 then [n]
  else if n < 0x800 then [0xC0 + n / 0x40, 0x80 + n % 0x40]
  else if n < 0x10000 then [0xE0 + n / 0x1000, 0x80 + n / 0x40 % 0x40, 0x80 + n % 0x40]
  else [0xF0 + n / 0x40000, 0x80 + n / 0x1000 % 0x40, 0x80 + n / 0x40 % 0x40, 0x80 + n % 0x40]

/-- Cut a range where its ends do not agree above the last bits, so that every position of its
UTF-8 form takes all values of one range. -/
def cutAt (bits : Nat) (r : Nat × Nat) : Option ((Nat × Nat) × (Nat × Nat)) :=
  let unit := Nat.pow 2 bits
  if r.1 / unit = r.2 / unit then none
  else if r.1 % unit ≠ 0 then
    let last := r.1 / unit * unit + unit - 1
    some ((r.1, last), (last + 1, r.2))
  else if r.2 % unit ≠ unit - 1 then
    let first := r.2 / unit * unit
    some ((r.1, first - 1), (first, r.2))
  else none

/-- Cut a range so that both ends have equally many bytes and no part is a surrogate. -/
def cutAtLength (r : Nat × Nat) : Option ((Nat × Nat) × (Nat × Nat)) :=
  let cut (last : Nat) : Option ((Nat × Nat) × (Nat × Nat)) :=
    if r.1 ≤ last ∧ last < r.2 then some ((r.1, last), (last + 1, r.2)) else none
  (cut 0x7F).or ((cut 0x7FF).or ((cut 0xD7FF).or ((cut 0xDFFF).or (cut 0xFFFF))))

/-- The sequences of byte ranges that a range of code points takes, in order. -/
def byteRanges : Nat → Nat × Nat → List (List (Nat × Nat))
  | 0, _ => []
  | fuel + 1, r =>
    if 0xD800 ≤ r.1 ∧ r.2 ≤ 0xDFFF then []
    else
      let cut := (cutAtLength r).or
        (if r.2 < 0x80 then none else (cutAt 6 r).or ((cutAt 12 r).or (cutAt 18 r)))
      match cut with
      | some (front, back) => byteRanges fuel front ++ byteRanges fuel back
      | none => [(utf8 r.1).zip (utf8 r.2)]

/-- The sequences of byte ranges that a set takes, in order. A range is cut no deeper than this
many times. -/
def CharSet.byteRanges (s : CharSet) : List (List (Nat × Nat)) :=
  s.ranges.flatMap (Pattern.byteRanges 40)

/-! ### The automaton of a set -/

/-- The states made so far, each found by its ways out. -/
structure States where
  /-- The number of a state with these ways out. -/
  numbers : Std.HashMap (List ((Nat × Nat) × Nat)) Nat := ∅
  /-- The ways out of all states together. -/
  waysOut : Nat := 0

/-- The number of the state with the given ways out. -/
def States.intern (s : States) (ways : List ((Nat × Nat) × Nat)) : Nat × States :=
  match s.numbers[ways]? with
  | some n => (n, s)
  | none =>
    let n := s.numbers.size + 1
    (n, ⟨s.numbers.insert ways n, s.waysOut + ways.length⟩)

/-- Divide sequences by their first range; neighbours with the same one stay together. -/
def byFirst : List (List (Nat × Nat)) → List ((Nat × Nat) × List (List (Nat × Nat)))
  | [] => []
  | [] :: rest => byFirst rest
  | (r :: tail) :: rest =>
    match byFirst rest with
    | (r', tails) :: more =>
      if r = r' then (r, tail :: tails) :: more else (r, [tail]) :: (r', tails) :: more
    | [] => [(r, [tail])]

/-- The state that reads some sequences; 0 is the state where they end. -/
def internSequences : Nat → List (List (Nat × Nat)) → States → Nat × States
  | 0, _, s => (0, s)
  | fuel + 1, sequences, s =>
    let (ways, s) := (byFirst sequences).foldl (fun (ways, s) (r, tails) =>
      if tails.all List.isEmpty then (ways ++ [(r, 0)], s)
      else
        let (n, s) := internSequences fuel tails s
        (ways ++ [(r, n)], s)) ([], s)
    s.intern ways

/-- The number of different beginnings of some sequences. -/
def beginnings : Nat → List (List (Nat × Nat)) → Nat
  | 0, _ => 0
  | fuel + 1, sequences =>
    ((byFirst sequences).map fun (_, tails) => 1 + beginnings fuel tails).sum

/-- The bytes for a set, read in a direction. -/
def setSize (backward : Bool) (s : CharSet) : Nat :=
  match s.ranges with
  | [] => stateSize
  | [(a, b)] =>
    if a = b then (utf8 a).length * stateSize else wide
  | _ => wide
where
  /-- The bytes for a set of several characters. -/
  wide : Nat :=
    if s.max?.getD 0 < 0x80 then 2 * stateSize + s.ranges.length * wayOutSize
    else
      let sequences := CharSet.byteRanges s
      if backward then
        (2 + beginnings 4 sequences) * stateSize + sequences.length * branchSize
      else
        let (_, states) := internSequences 4 sequences {}
        (1 + states.numbers.size) * stateSize + states.waysOut * wayOutSize

namespace Node

mutual

/-- Whether a node matches no empty text. -/
def isNonEmpty : Node → Bool
  | .chars s => !s.isEmpty
  | .rounds least _ body => 0 < least && isNonEmpty body
  | .capture body => isNonEmpty body
  | .concat parts => anyNonEmpty parts
  | .either branches => allNonEmpty branches
  | _ => false

/-- Whether one of some nodes matches no empty text. -/
def anyNonEmpty : List Node → Bool
  | [] => false
  | n :: ns => isNonEmpty n || anyNonEmpty ns

/-- Whether all of some nodes match no empty text. -/
def allNonEmpty : List Node → Bool
  | [] => true
  | n :: ns => isNonEmpty n && allNonEmpty ns

end

/-- The bytes for rounds of a node that takes `body` bytes. -/
def roundsSize (least : Nat) (most : Option Nat) (bodyNonEmpty : Bool) (body : Nat) : Nat :=
  let branching := stateSize + 2 * branchSize
  match most with
  | none =>
    if least = 0 then
      if bodyNonEmpty then body + branching else body + 2 * branching + stateSize
    else least * body + branching
  | some most =>
    if least = 0 ∧ most = 1 then body + branching + stateSize
    else
      (if least = 0 then stateSize else least * body) +
        (if least = most then 0 else stateSize + (most - least) * (body + branching))

mutual

/-- The bytes for a node, read in a direction. -/
def size (backward : Bool) : Node → Nat
  | .empty => stateSize
  | .look _ => stateSize
  | .chars s => setSize backward s
  | .rounds least most body =>
    roundsSize least most (isNonEmpty body) (size backward body)
  | .capture body => size backward body + if backward then 0 else 2 * stateSize
  | .concat parts => sizes backward parts
  | .either branches =>
    sizes backward branches + 2 * stateSize + branches.length * branchSize

/-- The bytes for some nodes together. -/
def sizes (backward : Bool) : List Node → Nat
  | [] => 0
  | n :: ns => size backward n + sizes backward ns

end

/-- Whether both automata of a node fit in the memory they may take. -/
def fits (n : Node) : Bool :=
  n.size false + frameSize ≤ sizeLimit && n.size true + frameSize ≤ sizeLimit

end Node

end MountOwnership.Pattern
