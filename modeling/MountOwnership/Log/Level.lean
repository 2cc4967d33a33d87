import MountOwnership.Text.Decimal

/-!
# Levels of log lines

A threshold lets the lines of its level and of all more severe levels through,
or none at all.
-/

namespace MountOwnership.Log

/-- How severe a log line is. -/
inductive Level where
  /-- Work failed. -/
  | error
  /-- Something has to be looked at. -/
  | warn
  /-- What the program does. -/
  | info
  /-- Details. -/
  | debug
  /-- Everything. -/
  | trace
deriving DecidableEq, Repr

namespace Level

/-- The levels from the most severe one. -/
def all : List Level := [.error, .warn, .info, .debug, .trace]

/-- The place of a level, from one for the most severe. -/
def rank : Level → Nat
  | .error => 1
  | .warn => 2
  | .info => 3
  | .debug => 4
  | .trace => 5

/-- The name of a level. -/
def name : Level → String
  | .error => "ERROR"
  | .warn => "WARN"
  | .info => "INFO"
  | .debug => "DEBUG"
  | .trace => "TRACE"

end Level

/-- The least severe level that is let through, if any is. -/
abbrev Threshold := Option Level

namespace Threshold

/-- Whether a level is let through. -/
def passes (t : Threshold) (level : Level) : Bool := t.any fun least => level.rank ≤ least.rank

/-- The threshold of a rank. -/
def ofRank? (n : Nat) : Option Threshold :=
  if n = 0 then some none else (Level.all.find? fun l => l.rank = n).map some

/-- The threshold of a name in any case. -/
def ofName? (name : String) : Option Threshold :=
  if name.toUpper = "OFF" then some none
  else (Level.all.find? fun l => l.name = name.toUpper).map some

/-- The threshold that a text stands for: a rank or a name. -/
def ofText? (text : String) : Option Threshold :=
  match Text.readWord text with
  | .ok n => ofRank? n
  | .error _ => ofName? text

end Threshold

end MountOwnership.Log
