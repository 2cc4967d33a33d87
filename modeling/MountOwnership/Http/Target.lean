/-!
# Request targets

The target of a request is a path, which may be followed by a question mark and
a query. What follows a number sign is no part of either. Printable ASCII
characters that have no other meaning stand for themselves, and so does every
character beyond ASCII; blanks and control characters are refused.
-/

namespace MountOwnership.Http

/-- The target of a request. -/
structure Target where
  /-- What comes before the question mark. -/
  path : String
  /-- What comes after it. -/
  query : String
deriving DecidableEq, Repr

namespace Target

/-- The number of bytes that a target may have. -/
def maxSize : Nat := 65534

/-- Whether a character may stand in a path. -/
def isPathChar (c : Char) : Bool :=
  0x21 ≤ c.toNat && !(['#', '<', '>', '?', '\x60'].contains c)

/-- Whether a character may stand in a query. -/
def isQueryChar (c : Char) : Bool :=
  0x21 ≤ c.toNat && !(['"', '#', '<', '>'].contains c)

/-- Read a target. -/
def ofText? (text : String) : Option Target :=
  let kept := text.toList.takeWhile fun c => c ≠ '#'
  let path := kept.takeWhile fun c => c ≠ '?'
  let query := (kept.dropWhile fun c => c ≠ '?').drop 1
  if text.utf8ByteSize ≤ maxSize ∧ path.all isPathChar ∧ query.all isQueryChar then
    some ⟨String.ofList path, String.ofList query⟩
  else none

end Target

end MountOwnership.Http
