import MountOwnership.Log.Level
import MountOwnership.Pattern.Unicode.Lookup
import MountOwnership.Text.Blank

/-!
# Log filters

A log filter is a list of directives. A directive sets a threshold for the
targets that start with its own; of several that apply, the one with the longest
target decides, and of several with that target the last one. A directive with a
condition in brackets holds only within marked work, and never for a line outside
of it.

The written form is a comma-separated list: a threshold, a target, or a target
with a threshold after an equals sign. A target alone lets everything through.
The empty list stands for errors only.
-/

namespace MountOwnership.Log

/-- A part of a log filter. -/
structure Directive where
  /-- What the targets that it applies to start with. -/
  target : String
  /-- What is let through. -/
  threshold : Threshold
  /-- Whether it holds only within marked work. -/
  conditional : Bool
deriving DecidableEq, Repr

namespace Directive

/-- Whether a directive may start with a character. -/
def startsWith (c : Char) : Bool :=
  c = '-' || c = ':' || c = '_' || c.isAlphanum ||
    (0x80 ≤ c.toNat && (Pattern.Unicode.letters.contains c.toNat ||
      Pattern.Unicode.numbers.contains c.toNat))

/-- The threshold after an equals sign; nothing lets everything through. -/
def threshold? (cs : List Char) : Option Threshold :=
  if cs.isEmpty then some (some .trace) else Threshold.ofText? (String.ofList cs)

/-- A directive that is only a threshold or only a target. -/
def ofWord (word : String) : Directive :=
  match Threshold.ofText? word with
  | some threshold => ⟨"", threshold, false⟩
  | none => ⟨word, some .trace, false⟩

/-- The characters after a condition that follows its opening bracket. -/
def afterCondition? (cs : List Char) : Option (List Char) :=
  let isName (c : Char) : Bool := c ≠ ']' && c ≠ '{'
  match cs.dropWhile isName with
  | ']' :: rest => some rest
  | '{' :: fields =>
    let names := fields.takeWhile fun c => c ≠ '}'
    match fields.dropWhile fun c => c ≠ '}' with
    | '}' :: ']' :: rest => if names.isEmpty then none else some rest
    | _ => none
  | _ => none

/-- Read a directive. The threshold after an equals sign keeps the blanks of the text, so one
with blanks around it is refused. -/
def ofText? (text : String) : Option Directive :=
  let whole := text.toList
  let trimmed := Text.trimChars whole
  let isTarget (c : Char) : Bool := c ≠ '=' && c ≠ '['
  let target := (trimmed.takeWhile isTarget).length
  let after (rest : List Char) : List Char := whole.drop (trimmed.length - rest.length)
  let conditioned (target : String) (condition : List Char) : Option Directive :=
    match afterCondition? condition with
    | some [] => some ⟨target, some .trace, true⟩
    | some ('=' :: rest) => (threshold? (after rest)).map fun t => ⟨target, t, true⟩
    | _ => none
  match trimmed with
  | [] => none
  | '[' :: condition => conditioned "" condition
  | c :: _ =>
    if startsWith c then
      match trimmed.drop target with
      | '=' :: rest =>
        (threshold? (after rest)).map fun t => ⟨String.ofList (whole.take target), t, false⟩
      | '[' :: condition => conditioned (String.ofList (whole.take target)) condition
      | _ => some (ofWord text)
    else none

/-- Whether a directive applies to the lines of a target. -/
def applies (d : Directive) (target : String) : Bool :=
  !d.conditional && d.target.toList.isPrefixOf target.toList

end Directive

/-- What decides which log lines are shown. -/
structure Filter where
  /-- The directives in order. -/
  directives : List Directive
deriving DecidableEq, Repr

namespace Filter

/-- The filter that lets errors through. -/
def errorsOnly : Filter := ⟨[⟨"", some .error, false⟩]⟩

/-- Read a filter. -/
def ofText? (text : String) : Option Filter :=
  let pieces := (text.toList.splitOn ',').filter fun piece => !piece.isEmpty
  if pieces.isEmpty then some errorsOnly
  else (pieces.mapM fun piece => Directive.ofText? (String.ofList piece)).map Filter.mk

/-- The filter of a text that may be absent or malformed; another text stands in for it then. -/
def ofTexts (text : Option String) (standIn : String) : Filter :=
  ((text.bind ofText?).or (ofText? standIn)).getD errorsOnly

/-- The directive that decides on the lines of a target. -/
def deciding? (f : Filter) (target : String) : Option Directive :=
  (f.directives.filter fun d => d.applies target).foldl (fun best d =>
    match best with
    | some b => if d.target.length < b.target.length then best else some d
    | none => some d) none

/-- Whether the lines of a level and a target are shown. -/
def shows (f : Filter) (target : String) (level : Level) : Bool :=
  (f.deciding? target).any fun d => d.threshold.passes level

end Filter

end MountOwnership.Log
