import MountOwnership.Pattern.Program
import MountOwnership.Pattern.Reader
import MountOwnership.Pattern.Size

/-!
# Patterns

A pattern is a regular expression without look-around and back references. It
matches a text when it matches somewhere in it.
-/

namespace MountOwnership

/-- A pattern that can be searched for. -/
structure Pattern where
  /-- The text of the pattern. -/
  source : String
  /-- Its instructions. -/
  program : Pattern.Program

namespace Pattern

/-- Why a text is no pattern. -/
inductive Fault where
  /-- The text is malformed. -/
  | malformed
  /-- The pattern would take too much memory. -/
  | tooLarge
deriving DecidableEq, Repr

/-- The first line of the report on a fault. -/
def Fault.message : Fault → String
  | .malformed => "regex parse error:"
  | .tooLarge => "Compiled regex exceeds size limit of " ++ toString sizeLimit ++ " bytes."

/-- Make a pattern from its text. -/
def compile (source : String) : Except Fault Pattern :=
  match (tree? source).bind Node.ofTree? with
  | none => .error .malformed
  | some node =>
    if node.fits then .ok ⟨source, .ofNode node⟩ else .error .tooLarge

/-- Whether a pattern matches somewhere in a text. -/
def isMatch (p : Pattern) (text : String) : Bool := p.program.matchesIn text

end Pattern

end MountOwnership
