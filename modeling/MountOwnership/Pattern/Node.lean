import MountOwnership.Pattern.Tree
import MountOwnership.Pattern.Unicode.CaseFolding
import MountOwnership.Pattern.Unicode.Lookup

/-!
# Patterns as nodes

A node says what a pattern matches: flags are applied, classes are sets of
characters, and anchors have their meaning. `Node.ofTree?` makes it, and finds
the faults that the text alone does not show: an unknown property, and without
the flag for Unicode everything that could match part of a character.
-/

namespace MountOwnership.Pattern

/-- A condition on the place, as the flags make it. -/
inductive Look where
  /-- The start of the text. -/
  | startText
  /-- The end of the text. -/
  | endText
  /-- The start of a line; a carriage return belongs to its end where the flag says so. -/
  | startLine (crlf : Bool)
  /-- The end of a line; a carriage return belongs to it where the flag says so. -/
  | endLine (crlf : Bool)
  /-- A condition on words, whose characters are those of Unicode or of ASCII. -/
  | word (condition : Assertion) (unicode : Bool)
deriving DecidableEq, Repr

/-- What a pattern matches. -/
inductive Node where
  /-- Nothing, everywhere. -/
  | empty
  /-- One character of a set. -/
  | chars (set : CharSet)
  /-- Nothing, where a condition holds. -/
  | look (l : Look)
  /-- A number of rounds between two bounds, or without an upper one. -/
  | rounds (least : Nat) (most : Option Nat) (body : Node)
  /-- A group that remembers its match. -/
  | capture (body : Node)
  /-- One after the other. -/
  | concat (parts : List Node)
  /-- One of several. -/
  | either (branches : List Node)

/-- The flags that hold at a place in the pattern. -/
structure Flags where
  /-- Letters match in either case. -/
  ignoreCase : Bool := false
  /-- Line anchors match at every line. -/
  multiLine : Bool := false
  /-- The dot matches line ends too. -/
  dotAll : Bool := false
  /-- Classes and folding cover all of Unicode. -/
  unicode : Bool := true
  /-- A carriage return belongs to a line end. -/
  crlf : Bool := false
deriving DecidableEq, Repr

/-- The flags after a change. -/
def Flags.change (f : Flags) (c : FlagChange) : Flags where
  ignoreCase := c.apply .ignoreCase f.ignoreCase
  multiLine := c.apply .multiLine f.multiLine
  dotAll := c.apply .dotAll f.dotAll
  unicode := c.apply .unicode f.unicode
  crlf := c.apply .crlf f.crlf

/-! ### Classes -/

/-- A set with the other cases of its characters, where the flags ask for them. -/
def Flags.fold (f : Flags) (s : CharSet) : CharSet :=
  if f.ignoreCase then
    if f.unicode then Unicode.foldClosure s else Unicode.asciiFoldClosure s
  else s

/-- The complement of a set, where it is asked for. Without the flag for Unicode it is taken among
bytes, and must not hold a part of a longer character. -/
def Flags.negate? (f : Flags) (negated : Bool) (s : CharSet) : Option CharSet :=
  let s := if negated then s.complementUpTo (if f.unicode then CharSet.lastCode else 0xFF) else s
  if f.unicode || (s.max?.getD 0) < 0x80 then some s else none

/-- The set of a class with a letter of its own. -/
def letterSet (unicode : Bool) : LetterClass → CharSet
  | .digit => if unicode then Unicode.digits else .range 0x30 0x39
  | .space => if unicode then Unicode.spaces else .ofRanges [(9, 13), (0x20, 0x20)]
  | .word =>
    if unicode then Unicode.wordCharacters
    else .ofRanges [(0x30, 0x39), (0x41, 0x5A), (0x5F, 0x5F), (0x61, 0x7A)]

/-- The set of a class with a letter of its own, or its complement. -/
def Flags.letter? (f : Flags) (c : LetterClass) (negated : Bool) : Option CharSet :=
  f.negate? negated (letterSet f.unicode c)

/-- The set of a property, or its complement. -/
def Flags.property? (f : Flags) (p : Property) (negated : Bool) : Option CharSet :=
  if f.unicode then do
    let s ← match p.value with
      | some value => Unicode.valued? p.name value
      | none => Unicode.named? p.name
    f.negate? negated (f.fold s)
  else none

/-- The code point of a character in a class. -/
def Flags.member? (f : Flags) (l : Literal) : Option Nat :=
  if f.unicode || l.char.toNat < 0x80 then some l.char.toNat else none

/-- Join two sets. -/
def SetOperation.join (op : SetOperation) (s t : CharSet) : CharSet :=
  match op with
  | .intersection => s.inter t
  | .difference => s.diff t
  | .symmetricDifference => s.symmDiff t

mutual

/-- The set of a part of a class. -/
def ClassItem.set? (f : Flags) : ClassItem → Option CharSet
  | .literal l => (f.member? l).map CharSet.single
  | .range first last => do
    let lo ← f.member? first
    let hi ← f.member? last
    some (.range lo hi)
  | .ascii ranges negated => f.negate? negated (f.fold (.ofRanges ranges))
  | .letter c negated => f.letter? c negated
  | .property p negated => f.property? p negated
  | .bracketed negated set => do
    let s ← set.set? f
    f.negate? negated (f.fold s)
  | .union items => ClassItem.union? f items

/-- The union of the sets of some parts. -/
def ClassItem.union? (f : Flags) : List ClassItem → Option CharSet
  | [] => some .empty
  | item :: items => do
    let s ← item.set? f
    let t ← ClassItem.union? f items
    some (s.union t)

/-- The set of the contents of a class. -/
def ClassSet.set? (f : Flags) : ClassSet → Option CharSet
  | .item i => i.set? f
  | .binary op left right => do
    let s ← left.set? f
    let t ← right.set? f
    some (op.join (f.fold s) (f.fold t))

end

/-! ### Nodes -/

namespace Node

mutual

/-- Whether a node can match nothing but the empty text. -/
def isZeroWidth : Node → Bool
  | .empty => true
  | .look _ => true
  | .chars _ => false
  | .rounds _ _ body => isZeroWidth body
  | .capture body => isZeroWidth body
  | .concat parts => areZeroWidth parts
  | .either branches => areZeroWidth branches

/-- Whether all nodes can match nothing but the empty text. -/
def areZeroWidth : List Node → Bool
  | [] => true
  | n :: ns => isZeroWidth n && areZeroWidth ns

end

/-- A node for rounds. More than one round of a node without width is no different from one. -/
def ofRounds (least : Nat) (most : Option Nat) (body : Node) : Node :=
  let least' := if body.isZeroWidth then min least 1 else least
  let most' := if body.isZeroWidth then some (min (most.getD 1) 1) else most
  if most' = some 0 then .empty
  else if least' = 1 ∧ most' = some 1 then body
  else .rounds least' most' body

/-- The set of a node that matches one character. -/
def set? : Node → Option CharSet
  | .chars s => some s
  | _ => none

/-- A node for one of several; characters are joined into one set. -/
def ofBranches (branches : List Node) : Node :=
  match branches.mapM set? with
  | some sets => .chars (sets.foldl CharSet.union .empty)
  | none => .either branches

/-- The condition that an assertion is under flags. -/
def ofAssertion (f : Flags) : Assertion → Node
  | .startLine => .look (if f.multiLine then .startLine f.crlf else .startText)
  | .endLine => .look (if f.multiLine then .endLine f.crlf else .endText)
  | .startText => .look .startText
  | .endText => .look .endText
  | condition => .look (.word condition f.unicode)

/-- Any character, line ends left out where the flags say so. -/
def dot? (f : Flags) : Option Node :=
  if f.unicode then
    let ends : CharSet :=
      if f.dotAll then .empty
      else if f.crlf then .ofRanges [(0x0A, 0x0A), (0x0D, 0x0D)]
      else .single 0x0A
    some (.chars ends.complement)
  else none

/-- One character, in either case where the flags say so. -/
def literal? (f : Flags) (l : Literal) : Option Node :=
  if !f.unicode && l.isByte && 0x80 ≤ l.char.toNat then none
  else some (.chars (f.fold (.single l.char.toNat)))

mutual

/-- The node of a tree under flags, and the flags after it. -/
def ofTreeWith? (f : Flags) : Tree → Option (Node × Flags)
  | .empty => some (.empty, f)
  | .flags change => some (.empty, f.change change)
  | .literal l => (literal? f l).map (·, f)
  | .dot => (dot? f).map (·, f)
  | .assertion a => some (ofAssertion f a, f)
  | .letter c negated => (f.letter? c negated).map fun s => (.chars s, f)
  | .property p negated => (f.property? p negated).map fun s => (.chars s, f)
  | .bracketed negated set => do
    let s ← set.set? f
    let s ← f.negate? negated (f.fold s)
    some (.chars s, f)
  | .repetition least most body => do
    let (node, f) ← ofTreeWith? f body
    some (ofRounds least most node, f)
  | .capture body => do
    let (node, _) ← ofTreeWith? f body
    some (.capture node, f)
  | .group change body => do
    let (node, _) ← ofTreeWith? (f.change change) body
    some (node, f)
  | .alternation branches => do
    let (nodes, f) ← ofTreesWith? f branches
    some (ofBranches nodes, f)
  | .concat parts => do
    let (nodes, f) ← ofTreesWith? f parts
    some (.concat nodes, f)

/-- The nodes of trees in order, each under the flags after the one before it. -/
def ofTreesWith? (f : Flags) : List Tree → Option (List Node × Flags)
  | [] => some ([], f)
  | t :: ts => do
    let (node, f) ← ofTreeWith? f t
    let (nodes, f) ← ofTreesWith? f ts
    some (node :: nodes, f)

end

/-- The node of a whole pattern. -/
def ofTree? (t : Tree) : Option Node := (ofTreeWith? {} t).map (·.1)

end Node

end MountOwnership.Pattern
