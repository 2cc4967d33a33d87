/-!
# Trees of patterns

What a pattern says, as it is written: before flags have been applied and
classes have been worked out.
-/

namespace MountOwnership.Pattern

/-- A flag that changes how the pattern after it is read. -/
inductive Flag where
  /-- Letters match in either case. -/
  | ignoreCase
  /-- Line anchors match at every line. -/
  | multiLine
  /-- The dot matches line ends too. -/
  | dotAll
  /-- Repetitions prefer few rounds, which decides no match. -/
  | swapGreed
  /-- Classes and folding cover all of Unicode. -/
  | unicode
  /-- A carriage return belongs to a line end. -/
  | crlf
  /-- Blanks and comments are left out. -/
  | verbose
deriving DecidableEq, Repr

/-- Flags that are turned on and off. -/
structure FlagChange where
  /-- The flags turned on. -/
  on : List Flag := []
  /-- The flags turned off. -/
  off : List Flag := []
deriving Repr

/-- What becomes of a flag. -/
def FlagChange.apply (c : FlagChange) (flag : Flag) (before : Bool) : Bool :=
  if c.on.contains flag then true else if c.off.contains flag then false else before

/-- A class with a letter of its own. -/
inductive LetterClass where
  /-- Digits. -/
  | digit
  /-- White space. -/
  | space
  /-- Characters of words. -/
  | word
deriving DecidableEq, Repr

/-- A condition on the place in the text. -/
inductive Assertion where
  /-- The start of the text, or of a line. -/
  | startLine
  /-- The end of the text, or of a line. -/
  | endLine
  /-- The start of the text. -/
  | startText
  /-- The end of the text. -/
  | endText
  /-- A word begins or ends. -/
  | boundary
  /-- No word begins or ends. -/
  | noBoundary
  /-- A word begins. -/
  | wordStart
  /-- A word ends. -/
  | wordEnd
  /-- No character of a word comes before. -/
  | wordStartHalf
  /-- No character of a word comes after. -/
  | wordEndHalf
deriving DecidableEq, Repr

/-- A character, and whether it was written by the two digits of a byte. -/
structure Literal where
  /-- The character. -/
  char : Char
  /-- Whether it was written as a byte. -/
  isByte : Bool
deriving DecidableEq, Repr

/-- A Unicode property, by its name and for some a value. -/
structure Property where
  /-- The name, or the value alone. -/
  name : List Char
  /-- The value after the name. -/
  value : Option (List Char)
deriving DecidableEq, Repr

/-- A way to join two classes. -/
inductive SetOperation where
  /-- The characters of both. -/
  | intersection
  /-- The characters of the first alone. -/
  | difference
  /-- The characters of exactly one. -/
  | symmetricDifference
deriving DecidableEq, Repr

mutual

/-- A part of a bracketed class. -/
inductive ClassItem where
  /-- One character. -/
  | literal (l : Literal)
  /-- The characters between two bounds. -/
  | range (first last : Literal)
  /-- A named class of ASCII, as its ranges. -/
  | ascii (ranges : List (Nat × Nat)) (negated : Bool)
  /-- A class with a letter of its own. -/
  | letter (c : LetterClass) (negated : Bool)
  /-- A Unicode property. -/
  | property (p : Property) (negated : Bool)
  /-- A class within the class. -/
  | bracketed (negated : Bool) (set : ClassSet)
  /-- Several parts, or none. -/
  | union (items : List ClassItem)

/-- The contents of a bracketed class. -/
inductive ClassSet where
  /-- A part. -/
  | item (i : ClassItem)
  /-- Two contents joined. -/
  | binary (op : SetOperation) (left right : ClassSet)

end

/-- What a pattern says. -/
inductive Tree where
  /-- Nothing. -/
  | empty
  /-- Flags for what follows in the group. -/
  | flags (change : FlagChange)
  /-- A character. -/
  | literal (l : Literal)
  /-- Any character. -/
  | dot
  /-- A condition on the place. -/
  | assertion (a : Assertion)
  /-- A class with a letter of its own. -/
  | letter (c : LetterClass) (negated : Bool)
  /-- A Unicode property. -/
  | property (p : Property) (negated : Bool)
  /-- A bracketed class. -/
  | bracketed (negated : Bool) (set : ClassSet)
  /-- A number of rounds between two bounds, or without an upper one. -/
  | repetition (least : Nat) (most : Option Nat) (body : Tree)
  /-- A group that remembers its match. -/
  | capture (body : Tree)
  /-- A group with flags of its own. -/
  | group (change : FlagChange) (body : Tree)
  /-- One of several. -/
  | alternation (branches : List Tree)
  /-- One after the other. -/
  | concat (parts : List Tree)

namespace Tree

/-- The tree of parts in a row. -/
def ofParts : List Tree → Tree
  | [] => .empty
  | [part] => part
  | parts => .concat parts

/-- Whether nothing is there that could be repeated. -/
def isVoid : Tree → Bool
  | .empty | .flags _ => true
  | _ => false

end Tree

/-- The part that stands for several parts of a class. -/
def ClassItem.ofParts : List ClassItem → ClassItem
  | [item] => item
  | items => .union items

/-! ### Nesting -/

mutual

/-- How deep the parts of a class nest. -/
def ClassItem.depth : ClassItem → Nat
  | .bracketed _ set => set.depth + 1
  | .union items => if items.isEmpty then 0 else ClassItem.depths items + 1
  | _ => 0

/-- The greatest depth of some parts. -/
def ClassItem.depths : List ClassItem → Nat
  | [] => 0
  | item :: items => max item.depth (ClassItem.depths items)

/-- How deep the contents of a class nest. -/
def ClassSet.depth : ClassSet → Nat
  | .item i => i.depth
  | .binary _ left right => max left.depth right.depth + 1

end

mutual

/-- How deep a tree nests. -/
def Tree.depth : Tree → Nat
  | .bracketed _ set => set.depth + 1
  | .repetition _ _ body => body.depth + 1
  | .capture body => body.depth + 1
  | .group _ body => body.depth + 1
  | .alternation branches => Tree.depths branches + 1
  | .concat parts => Tree.depths parts + 1
  | _ => 0

/-- The greatest depth of some trees. -/
def Tree.depths : List Tree → Nat
  | [] => 0
  | t :: ts => max t.depth (Tree.depths ts)

end

end MountOwnership.Pattern
