import MountOwnership.Pattern.Node

/-!
# Pattern programs

A node as instructions that read one character at a time, and the search for a
match anywhere in a text. The search keeps the set of all instructions that can
be reached at a place, so it reads the text once and needs no way back.

`emit` writes the instructions for a node in front of those that come after it:
it is given the instruction to go on with and returns the one to start with.
-/

namespace MountOwnership.Pattern

/-- An instruction, with the instructions that may come after it. -/
inductive Instruction where
  /-- Read a character of a set, given by its ascending ranges. -/
  | read (ranges : Array (Nat × Nat)) (next : Nat)
  /-- Go on where a condition holds. -/
  | check (l : Look) (next : Nat)
  /-- Go on in two ways. -/
  | fork (next other : Nat)
  /-- The pattern has matched. -/
  | finish

namespace Node

mutual

/-- Write the instructions of a node that goes on with `next`. -/
def emit (next : Nat) (code : Array Instruction) : Node → Nat × Array Instruction
  | .empty => (next, code)
  | .chars s => (code.size, code.push (.read s.ranges.toArray next))
  | .look l => (code.size, code.push (.check l next))
  | .capture body => emit next code body
  | .concat parts => emitAll next code parts
  | .either branches => emitEither next code branches
  | .rounds least most body =>
    let (start, code) := match most with
      | none =>
        let loop := code.size
        let (start, code) := emit loop (code.push .finish) body
        (loop, code.setIfInBounds loop (.fork start next))
      | some most =>
        (List.range (most - least)).foldl (fun (after, code) _ =>
          let (start, code) := emit after code body
          (code.size, code.push (.fork start next))) (next, code)
    (List.range least).foldl (fun (after, code) _ => emit after code body) (start, code)

/-- Write the instructions of nodes that come one after the other. -/
def emitAll (next : Nat) (code : Array Instruction) : List Node → Nat × Array Instruction
  | [] => (next, code)
  | n :: ns =>
    let (after, code) := emitAll next code ns
    emit after code n

/-- Write the instructions of nodes of which one is to match; without any, reading cannot go on. -/
def emitEither (next : Nat) (code : Array Instruction) : List Node → Nat × Array Instruction
  | [] => (code.size, code.push (.read #[] next))
  | [n] => emit next code n
  | n :: ns =>
    let (other, code) := emitEither next code ns
    let (start, code) := emit next code n
    (code.size, code.push (.fork start other))

end

end Node

/-- The instructions of a pattern, and the one to start with. -/
structure Program where
  /-- The instructions. -/
  code : Array Instruction
  /-- The instruction to start with. -/
  start : Nat

/-- The program of a node. -/
def Program.ofNode (n : Node) : Program :=
  let (start, code) := n.emit 0 #[.finish]
  ⟨code, start⟩

/-! ### Conditions on the place -/

/-- A place in a text: the characters before and after it. -/
structure Place where
  /-- The character before. -/
  before : Option Char
  /-- The character after. -/
  after : Option Char

/-- Whether a character belongs to words. -/
def isWordChar (unicode : Bool) (c : Char) : Bool :=
  if c.toNat < 0x80 then c.isAlphanum || c = '_'
  else unicode && Unicode.wordCharacters.contains c.toNat

/-- Whether a condition holds at a place. -/
def Look.holds (p : Place) : Look → Bool
  | .startText => p.before.isNone
  | .endText => p.after.isNone
  | .startLine false => p.before.isNone || p.before == some '\n'
  | .endLine false => p.after.isNone || p.after == some '\n'
  | .startLine true =>
    p.before.isNone || p.before == some '\n' || (p.before == some '\r' && p.after != some '\n')
  | .endLine true =>
    p.after.isNone || p.after == some '\r' || (p.after == some '\n' && p.before != some '\r')
  | .word condition unicode =>
    let before := p.before.any (isWordChar unicode)
    let after := p.after.any (isWordChar unicode)
    match condition with
    | .boundary => before != after
    | .noBoundary => before == after
    | .wordStart => !before && after
    | .wordEnd => before && !after
    | .wordStartHalf => !before
    | .wordEndHalf => !after
    | _ => true

/-! ### Searching -/

/-- Whether a number lies in one of ascending ranges, looked for between two indices. -/
def inRanges (ranges : Array (Nat × Nat)) (n : Nat) : Nat → Nat → Nat → Bool
  | 0, _, _ => false
  | fuel + 1, lo, hi =>
    if lo < hi then
      let mid := (lo + hi) / 2
      match ranges[mid]? with
      | none => false
      | some (first, last) =>
        if n < first then inRanges ranges n fuel lo mid
        else if last < n then inRanges ranges n fuel (mid + 1) hi
        else true
    else false

/-- The instructions that can be reached at a place. -/
structure Reached where
  /-- For each instruction, the number of the last place where it was reached. -/
  marks : Array Nat
  /-- The reached instructions that read a character. -/
  readers : List (Array (Nat × Nat) × Nat)
  /-- Whether the pattern has matched. -/
  matched : Bool

/-- Reach instructions and those that they lead to without reading. -/
def Program.reach (p : Program) (place : Place) (mark : Nat) :
    Nat → List Nat → Reached → Reached
  | 0, _, r => r
  | _ + 1, [], r => r
  | fuel + 1, i :: rest, r =>
    if r.marks[i]? == some mark then p.reach place mark fuel rest r
    else
      let r := { r with marks := r.marks.setIfInBounds i mark }
      match p.code[i]? with
      | none => p.reach place mark fuel rest r
      | some .finish => { r with matched := true }
      | some (.read ranges next) =>
        p.reach place mark fuel rest { r with readers := (ranges, next) :: r.readers }
      | some (.check l next) =>
        p.reach place mark fuel (if l.holds place then next :: rest else rest) r
      | some (.fork a b) => p.reach place mark fuel (a :: b :: rest) r

/-- Search for a match that starts here or later, or goes on with one of `going`. -/
def Program.search (p : Program) : Nat → Array Nat → List Nat → Option Char → List Char → Bool
  | mark, marks, going, before, cs =>
    let place : Place := ⟨before, cs.head?⟩
    let fuel := 2 * p.code.size + going.length + 2
    let r := p.reach place mark fuel (p.start :: going) ⟨marks, [], false⟩
    if r.matched then true
    else
      match cs with
      | [] => false
      | c :: rest =>
        let going := r.readers.filterMap fun (ranges, next) =>
          if inRanges ranges c.toNat 64 0 ranges.size then some next else none
        p.search (mark + 1) r.marks going (some c) rest

/-- Whether the pattern matches somewhere in a text. -/
def Program.matchesIn (p : Program) (text : String) : Bool :=
  p.search 1 (Array.replicate p.code.size 0) [] none text.toList

end MountOwnership.Pattern
