import MountOwnership.Json.Reader
import MountOwnership.Pattern.Tree
import MountOwnership.Pattern.Unicode.GeneralCategory
import MountOwnership.Pattern.Unicode.Property
import MountOwnership.Text.Blank

/-!
# Reading patterns

From the text of a pattern to its tree. A reader takes the characters that
remain and gives what it read with the characters after it, or nothing where
the pattern is malformed.

After the flag for verbose patterns, blanks and comments are dropped between
tokens. Groups that are still open are kept on a stack, as are open classes, so
one pass over the characters reads everything; each step takes at least one
character, and the length of the pattern is fuel enough.
-/

namespace MountOwnership.Pattern

/-- The deepest nesting of a pattern. -/
def depthLimit : Nat := 250

/-! ### Blanks -/

/-- Drop blanks and comments. -/
def dropComments : Bool → List Char → List Char
  | _, [] => []
  | true, c :: rest => dropComments (c ≠ '\n') rest
  | false, c :: rest =>
    if Text.isBlank c then dropComments false rest
    else if c = '#' then dropComments true rest
    else c :: rest

/-- Drop what does not count in a verbose pattern. -/
def skip (verbose : Bool) (cs : List Char) : List Char :=
  if verbose then dropComments false cs else cs

/-- The character after the next token, blanks in between not counted; a comment sign is passed
over once. -/
def peekPast (verbose : Bool) (cs : List Char) : Option Char :=
  if verbose then
    match cs.dropWhile Text.isBlank with
    | '#' :: rest =>
      match rest.dropWhile Text.isBlank with
      | c :: _ => some c
      | [] => cs.head?
    | c :: _ => some c
    | [] => cs.head?
  else cs.head?

/-! ### Names, numbers and flags -/

/-- Whether a character has a property or category of a table. -/
def isIn (sets : List Unicode.NamedSet) (name : String) (c : Char) : Bool :=
  ((Unicode.lookup? sets name).getD .empty).contains c.toNat

/-- Whether a character is a letter. -/
def isLetter (c : Char) : Bool :=
  if c.toNat < 0x80 then c.isAlpha else isIn Unicode.binaryProperties "alphabetic" c

/-- Whether a character is a letter or a number. -/
def isLetterOrNumber (c : Char) : Bool :=
  if c.toNat < 0x80 then c.isAlphanum
  else isLetter c || isIn Unicode.leafCategories "nd" c || isIn Unicode.leafCategories "nl" c ||
    isIn Unicode.leafCategories "no" c

/-- Whether a text can name a group. -/
def isGroupName : List Char → Bool
  | [] => false
  | c :: rest => (c = '_' || isLetter c) &&
    rest.all fun c => c = '_' || c = '.' || c = '[' || c = ']' || isLetterOrNumber c

/-- Drop expected characters at the front. -/
def after? (expected : String) (cs : List Char) : Option (List Char) :=
  Json.expect? expected.toList cs

/-- The flag of a letter. -/
def flag? : Char → Option Flag
  | 'i' => some .ignoreCase
  | 'm' => some .multiLine
  | 's' => some .dotAll
  | 'U' => some .swapGreed
  | 'u' => some .unicode
  | 'R' => some .crlf
  | 'x' => some .verbose
  | _ => none

/-- Flags up to a colon or a closing parenthesis, which is left in front of the rest. -/
def flags? (change : FlagChange) (negating justNegated : Bool) :
    List Char → Option (FlagChange × List Char)
  | [] => none
  | c :: rest =>
    if c = ':' ∨ c = ')' then if justNegated then none else some (change, c :: rest)
    else if c = '-' then if negating then none else flags? change true true rest
    else
      match flag? c with
      | none => none
      | some f =>
        if change.on.contains f || change.off.contains f then none
        else
          let change : FlagChange :=
            if negating then ⟨change.on, f :: change.off⟩ else ⟨f :: change.on, change.off⟩
          flags? change negating false rest

/-- Digits with blanks between them in verbose patterns. -/
def spacedDigits (verbose : Bool) : Nat → List Char → List Char × List Char
  | 0, cs => ([], cs)
  | _ + 1, [] => ([], [])
  | fuel + 1, c :: rest =>
    if c.isDigit then
      let (digits, rest) := spacedDigits verbose fuel (skip verbose rest)
      (c :: digits, rest)
    else ([], c :: rest)

/-- A count of rounds, blanks around it dropped. It has at least one digit and fits in 32 bits. -/
def count? (verbose : Bool) (cs : List Char) : Option (Option Nat × List Char) :=
  let (digits, rest) := spacedDigits verbose (cs.length + 1) (cs.dropWhile Text.isBlank)
  let rest := skip verbose (rest.dropWhile Text.isBlank)
  if digits.isEmpty then some (none, rest)
  else
    let n := Json.digitsValue digits
    if n < 4294967296 then some (some n, rest) else none

/-- The bounds of a repetition after its opening brace, and the characters after its end. -/
def bounds? (verbose : Bool) (cs : List Char) : Option ((Nat × Option Nat) × List Char) := do
  let (least, rest) ← count? verbose (skip verbose cs)
  match rest with
  | ',' :: rest =>
    let least ← least
    match skip verbose rest with
    | '}' :: rest => some ((least, none), rest)
    | [] => none
    | rest =>
      let (most, rest) ← count? verbose rest
      let most ← most
      match rest with
      | '}' :: rest => if least ≤ most then some ((least, some most), rest) else none
      | _ => none
  | '}' :: rest => least.map fun n => ((n, some n), rest)
  | _ => none

/-! ### Escapes -/

/-- What an escape stands for. -/
inductive Escape where
  /-- A character. -/
  | literal (l : Literal)
  /-- A condition on the place. -/
  | assertion (a : Assertion)
  /-- A class with a letter of its own. -/
  | letter (c : LetterClass) (negated : Bool)
  /-- A Unicode property. -/
  | property (p : Property) (negated : Bool)

/-- The character of a number, if there is one. -/
def scalar? (n : Nat) : Option Char :=
  if n < 0xD800 ∨ (0xDFFF < n ∧ n ≤ 0x10FFFF) then some (Char.ofNat n) else none

/-- The number that hexadecimal digits stand for. -/
def hexValue? (digits : List Char) : Option Nat :=
  digits.foldlM (fun n c => (Json.hexValue? c).map (n * 16 + ·)) 0

/-- A number of hexadecimal digits with blanks between them in verbose patterns. -/
def hexFixed? (verbose : Bool) : Nat → List Char → Option (List Char × List Char)
  | 0, cs => some ([], cs)
  | n + 1, cs =>
    match cs with
    | [] => none
    | c :: rest => do
      let _ ← Json.hexValue? c
      let (digits, rest) ← hexFixed? verbose n (skip verbose rest)
      some (c :: digits, rest)

/-- The characters up to a closing brace, blanks dropped in verbose patterns. -/
def braced? (verbose : Bool) : Nat → List Char → Option (List Char × List Char)
  | 0, _ => none
  | fuel + 1, cs =>
    match skip verbose cs with
    | [] => none
    | '}' :: rest => some ([], rest)
    | c :: rest => (braced? verbose fuel rest).map fun (name, rest) => (c :: name, rest)

/-- A character by its number, after the letter that says how many digits there are. -/
def hexEscape? (verbose : Bool) (digits : Nat) (cs : List Char) : Option (Literal × List Char) :=
  match skip verbose cs with
  | '{' :: rest => do
    let (shown, rest) ← braced? verbose (rest.length + 1) rest
    if shown.isEmpty then none
    else
      let c ← (hexValue? shown).bind scalar?
      some (⟨c, false⟩, skip verbose rest)
  | rest => do
    let (shown, rest) ← hexFixed? verbose digits rest
    let c ← (hexValue? shown).bind scalar?
    some (⟨c, digits = 2⟩, rest)

/-- Divide a name at the first place of a separator. -/
def divideAt? (separator : List Char) : List Char → Option (List Char × List Char)
  | [] => none
  | c :: rest =>
    match Json.expect? separator (c :: rest) with
    | some tail => some ([], tail)
    | none => (divideAt? separator rest).map fun (front, tail) => (c :: front, tail)

/-- The property that a text between braces names. -/
def propertyOf (text : List Char) : Property :=
  match (divideAt? ['!', '='] text).or
      ((divideAt? [':'] text).or (divideAt? ['='] text)) with
  | some (name, value) => ⟨name, some value⟩
  | none => ⟨text, none⟩

/-- A property, after the letter that begins it. -/
def property? (verbose : Bool) (cs : List Char) : Option (Property × List Char) :=
  match skip verbose cs with
  | [] => none
  | '{' :: rest =>
    (braced? verbose (rest.length + 1) rest).map fun (name, rest) => (propertyOf name, rest)
  | c :: rest => if c = '\\' then none else some (⟨[c], none⟩, rest)

/-- A character that can be escaped to stand for itself. -/
def isEscapable (c : Char) : Bool :=
  c.toNat < 0x80 && !c.isAlphanum && c ≠ '<' && c ≠ '>'

/-- The letters and hyphens of a name, blanks between them dropped in verbose patterns. -/
def spacedName (verbose : Bool) : Nat → List Char → List Char × List Char
  | 0, cs => ([], cs)
  | _ + 1, [] => ([], [])
  | fuel + 1, c :: rest =>
    if c.isAlpha ∨ c = '-' then
      let (name, rest) := spacedName verbose fuel (skip verbose rest)
      (c :: name, rest)
    else ([], c :: rest)

/-- The condition on words that a name in braces asks for. -/
def wordCondition? (name : List Char) : Option Assertion :=
  if name = "start".toList then some .wordStart
  else if name = "end".toList then some .wordEnd
  else if name = "start-half".toList then some .wordStartHalf
  else if name = "end-half".toList then some .wordEndHalf
  else none

/-- A word boundary, with a name in braces where one follows. Braces that hold no name are left
for a repetition. -/
def boundary? (verbose : Bool) (cs : List Char) : Option (Assertion × List Char) :=
  match cs with
  | '{' :: inside =>
    match skip verbose inside with
    | [] => none
    | c :: rest =>
      if c.isAlpha ∨ c = '-' then
        let (name, rest) := spacedName verbose (rest.length + 2) (c :: rest)
        match rest with
        | '}' :: rest => (wordCondition? name).map fun a => (a, rest)
        | _ => none
      else some (.boundary, cs)
  | _ => some (.boundary, cs)

/-- What an escape stands for, after its backslash. -/
def escape? (verbose : Bool) : List Char → Option (Escape × List Char)
  | [] => none
  | c :: rest =>
    let char (n : Nat) : Option (Escape × List Char) :=
      some (.literal ⟨Char.ofNat n, false⟩, rest)
    if isEscapable c then some (.literal ⟨c, false⟩, rest)
    else
      match c with
      | 'x' => (hexEscape? verbose 2 rest).map fun (l, rest) => (.literal l, rest)
      | 'u' => (hexEscape? verbose 4 rest).map fun (l, rest) => (.literal l, rest)
      | 'U' => (hexEscape? verbose 8 rest).map fun (l, rest) => (.literal l, rest)
      | 'p' => (property? verbose rest).map fun (p, rest) => (.property p false, rest)
      | 'P' => (property? verbose rest).map fun (p, rest) => (.property p true, rest)
      | 'd' => some (.letter .digit false, rest)
      | 'D' => some (.letter .digit true, rest)
      | 's' => some (.letter .space false, rest)
      | 'S' => some (.letter .space true, rest)
      | 'w' => some (.letter .word false, rest)
      | 'W' => some (.letter .word true, rest)
      | 'a' => char 0x07
      | 'f' => char 0x0C
      | 't' => char 0x09
      | 'n' => char 0x0A
      | 'r' => char 0x0D
      | 'v' => char 0x0B
      | 'A' => some (.assertion .startText, rest)
      | 'z' => some (.assertion .endText, rest)
      | 'b' => (boundary? verbose rest).map fun (a, rest) => (.assertion a, rest)
      | 'B' => some (.assertion .noBoundary, rest)
      | '<' => some (.assertion .wordStart, rest)
      | '>' => some (.assertion .wordEnd, rest)
      | _ => none

/-! ### Bracketed classes -/

/-- The named classes of ASCII. -/
def asciiClasses : List (String × List (Nat × Nat)) :=
  [("alnum", [(0x30, 0x39), (0x41, 0x5A), (0x61, 0x7A)]),
    ("alpha", [(0x41, 0x5A), (0x61, 0x7A)]),
    ("ascii", [(0, 0x7F)]),
    ("blank", [(0x09, 0x09), (0x20, 0x20)]),
    ("cntrl", [(0, 0x1F), (0x7F, 0x7F)]),
    ("digit", [(0x30, 0x39)]),
    ("graph", [(0x21, 0x7E)]),
    ("lower", [(0x61, 0x7A)]),
    ("print", [(0x20, 0x7E)]),
    ("punct", [(0x21, 0x2F), (0x3A, 0x40), (0x5B, 0x60), (0x7B, 0x7E)]),
    ("space", [(0x09, 0x0D), (0x20, 0x20)]),
    ("upper", [(0x41, 0x5A)]),
    ("word", [(0x30, 0x39), (0x41, 0x5A), (0x5F, 0x5F), (0x61, 0x7A)]),
    ("xdigit", [(0x30, 0x39), (0x41, 0x46), (0x61, 0x66)])]

/-- A named class of ASCII, after its opening bracket. -/
def asciiClass? (cs : List Char) : Option (ClassItem × List Char) := do
  let rest ← after? ":" cs
  let (negated, rest) := match rest with
    | '^' :: rest => (true, rest)
    | rest => (false, rest)
  let name := String.ofList (rest.takeWhile (· ≠ ':'))
  let rest ← after? ":]" (rest.dropWhile (· ≠ ':'))
  let ranges ← asciiClasses.lookup name
  some (.ascii ranges negated, rest)

/-- A class that is open, or an operation whose right side is being read. -/
inductive ClassFrame where
  /-- An open class, with the parts read before it in the class around it, last first. -/
  | opened (negated : Bool) (before : List ClassItem)
  /-- An operation and its left side. -/
  | operation (op : SetOperation) (left : ClassSet)

/-- Join the contents just read with the left side of an operation that waits for them. -/
def joinOperation (contents : ClassSet) : List ClassFrame → ClassSet × List ClassFrame
  | .operation op left :: frames => (.binary op left contents, frames)
  | frames => (contents, frames)

/-- The hyphens, or the closing bracket, that stand for themselves at the start of a class. -/
def leadingItems (verbose : Bool) :
    Nat → List ClassItem → List Char → List ClassItem × List Char
  | 0, items, cs => (items, cs)
  | fuel + 1, items, cs =>
    match cs with
    | '-' :: rest =>
      leadingItems verbose fuel (.literal ⟨'-', false⟩ :: items) (skip verbose rest)
    | ']' :: rest =>
      if items.isEmpty then ([.literal ⟨']', false⟩], skip verbose rest) else (items, cs)
    | _ => (items, cs)

/-- Open a class after its bracket: whether it is negated, and the parts at its start. -/
def openClass (verbose : Bool) (cs : List Char) : Bool × List ClassItem × List Char :=
  let cs := skip verbose cs
  let (negated, cs) := match cs with
    | '^' :: rest => (true, skip verbose rest)
    | cs => (false, cs)
  let (items, cs) := leadingItems verbose (cs.length + 1) [] cs
  (negated, items, cs)

/-- A character or an escape within a class. -/
def classEscape? (verbose : Bool) : List Char → Option (Escape × List Char)
  | [] => none
  | '\\' :: rest => escape? verbose rest
  | c :: rest => some (.literal ⟨c, false⟩, rest)

/-- The part of a class that an escape is; conditions on the place are none. -/
def Escape.toItem? : Escape → Option ClassItem
  | .literal l => some (.literal l)
  | .letter c negated => some (.letter c negated)
  | .property p negated => some (.property p negated)
  | .assertion _ => none

/-- A character, a class by escape, or a range. -/
def classRange? (verbose : Bool) (cs : List Char) : Option (ClassItem × List Char) := do
  let (first, rest) ← classEscape? verbose cs
  match skip verbose rest with
  | [] => none
  | '-' :: more =>
    if peekPast verbose more = some ']' ∨ peekPast verbose more = some '-' then
      first.toItem?.map fun item => (item, '-' :: more)
    else
      let (last, rest) ← classEscape? verbose (skip verbose more)
      match first, last with
      | .literal a, .literal b =>
        if a.char.toNat ≤ b.char.toNat then some (.range a b, rest) else none
      | _, _ => none
  | rest => first.toItem?.map fun item => (item, rest)

/-- Read a class to its end; `items` are the parts read in the innermost class, last first. -/
def classRest? (verbose : Bool) : Nat → List ClassFrame → List ClassItem → List Char →
    Option ((Bool × ClassSet) × List Char)
  | 0, _, _, _ => none
  | fuel + 1, frames, items, cs =>
    let contents : ClassSet := .item (.ofParts items.reverse)
    let operation (op : SetOperation) (rest : List Char) :
        Option ((Bool × ClassSet) × List Char) :=
      let (left, frames) := joinOperation contents frames
      classRest? verbose fuel (.operation op left :: frames) [] rest
    match skip verbose cs with
    | [] => none
    | '[' :: rest =>
      match asciiClass? rest with
      | some (item, rest) => classRest? verbose fuel frames (item :: items) rest
      | none =>
        let (negated, start, rest) := openClass verbose rest
        classRest? verbose fuel (.opened negated items :: frames) start rest
    | ']' :: rest =>
      match joinOperation contents frames with
      | (set, [.opened negated _]) => some ((negated, set), rest)
      | (set, .opened negated before :: frames) =>
        classRest? verbose fuel frames (.bracketed negated set :: before) rest
      | _ => none
    | '&' :: '&' :: rest => operation .intersection rest
    | '-' :: '-' :: rest => operation .difference rest
    | '~' :: '~' :: rest => operation .symmetricDifference rest
    | rest => do
      let (item, rest) ← classRange? verbose rest
      classRest? verbose fuel frames (item :: items) rest

/-- A bracketed class after its opening bracket. -/
def bracketed? (verbose : Bool) (cs : List Char) : Option ((Bool × ClassSet) × List Char) :=
  let (negated, start, rest) := openClass verbose cs
  classRest? verbose (rest.length + 1) [.opened negated []] start rest

/-! ### Groups and the whole pattern -/

/-- How a group was opened. -/
inductive GroupKind where
  /-- It remembers its match. -/
  | capture
  /-- It has flags of its own. -/
  | flagged (change : FlagChange)

/-- What surrounds a group that is open. -/
structure Frame where
  /-- How the group was opened. -/
  kind : GroupKind
  /-- The branches finished around it, last first. -/
  branches : List Tree
  /-- The parts read before it in its branch, last first. -/
  parts : List Tree
  /-- Whether the pattern is verbose around it. -/
  verbose : Bool

/-- A pattern being read. -/
structure Reading where
  /-- The open groups, innermost first. -/
  frames : List Frame := []
  /-- The finished branches of the innermost group, last first. -/
  branches : List Tree := []
  /-- The parts of the present branch, last first. -/
  parts : List Tree := []
  /-- The names of groups met so far. -/
  names : List (List Char) := []
  /-- Whether blanks and comments are left out. -/
  verbose : Bool := false

namespace Reading

/-- The tree of the innermost group. -/
def tree (r : Reading) : Tree :=
  let last := Tree.ofParts r.parts.reverse
  if r.branches.isEmpty then last else .alternation (last :: r.branches).reverse

/-- One more part in the present branch. -/
def push (r : Reading) (t : Tree) : Reading := { r with parts := t :: r.parts }

/-- Open a group. -/
def openGroup (r : Reading) (kind : GroupKind) (verbose : Bool) : Reading :=
  { r with
    frames := ⟨kind, r.branches, r.parts, r.verbose⟩ :: r.frames
    branches := []
    parts := []
    verbose := verbose }

/-- Close the innermost group. -/
def closeGroup? (r : Reading) : Option Reading :=
  match r.frames with
  | [] => none
  | frame :: frames =>
    let group := match frame.kind with
      | .capture => Tree.capture r.tree
      | .flagged change => Tree.group change r.tree
    some { r with
      frames := frames
      branches := frame.branches
      parts := group :: frame.parts
      verbose := frame.verbose }

/-- Finish a branch of the innermost group. -/
def finishBranch (r : Reading) : Reading :=
  { r with branches := Tree.ofParts r.parts.reverse :: r.branches, parts := [] }

/-- Repeat the last part. -/
def repeatLast? (r : Reading) (least : Nat) (most : Option Nat) : Option Reading :=
  match r.parts with
  | [] => none
  | part :: parts =>
    if part.isVoid then none
    else some { r with parts := .repetition least most part :: parts }

end Reading

/-- Open a named group, after the angle bracket. -/
def namedGroup? (r : Reading) (cs : List Char) : Option (Reading × List Char) :=
  let name := cs.takeWhile (· ≠ '>')
  match cs.dropWhile (· ≠ '>') with
  | [] => none
  | _ :: rest =>
    if isGroupName name && !r.names.contains name then
      some ({ r with names := name :: r.names }.openGroup .capture r.verbose, rest)
    else none

/-- Open a group, or set flags, after the opening parenthesis. -/
def group? (r : Reading) (cs : List Char) : Option (Reading × List Char) :=
  let cs := skip r.verbose cs
  if [after? "?=" cs, after? "?!" cs, after? "?<=" cs, after? "?<!" cs].any Option.isSome then
    none
  else
    match (after? "?P<" cs).or (after? "?<" cs) with
    | some rest => namedGroup? r rest
    | none =>
      match cs with
      | '?' :: rest =>
        match flags? {} false false rest with
        | some (change, ')' :: rest) =>
          if change.on.isEmpty && change.off.isEmpty then none
          else
            let verbose := change.apply .verbose r.verbose
            some ({ r.push (.flags change) with verbose := verbose }, rest)
        | some (change, ':' :: rest) =>
          some (r.openGroup (.flagged change) (change.apply .verbose r.verbose), rest)
        | _ => none
      | _ => some (r.openGroup .capture r.verbose, cs)

/-- Drop the mark of a repetition that prefers few rounds. -/
def dropLazyMark : List Char → List Char
  | '?' :: rest => rest
  | rest => rest

/-- The tree of an escape. -/
def Escape.toTree : Escape → Tree
  | .literal l => .literal l
  | .assertion a => .assertion a
  | .letter c negated => .letter c negated
  | .property p negated => .property p negated

/-- Read one token, which starts with the given character. -/
def step? (r : Reading) (c : Char) (rest : List Char) : Option (Reading × List Char) :=
  let repeated (least : Nat) (most : Option Nat) (rest : List Char) :
      Option (Reading × List Char) :=
    (r.repeatLast? least most).map fun r => (r, dropLazyMark rest)
  match c with
  | '(' => group? r rest
  | ')' => r.closeGroup?.map fun r => (r, rest)
  | '|' => some (r.finishBranch, rest)
  | '[' => (bracketed? r.verbose rest).map fun ((negated, set), rest) =>
      (r.push (.bracketed negated set), rest)
  | '?' => repeated 0 (some 1) rest
  | '*' => repeated 0 none rest
  | '+' => repeated 1 none rest
  | '{' => do
    let ((least, most), rest) ← bounds? r.verbose rest
    repeated least most (skip r.verbose rest)
  | '\\' => (escape? r.verbose rest).map fun (e, rest) => (r.push e.toTree, rest)
  | '.' => some (r.push .dot, rest)
  | '^' => some (r.push (.assertion .startLine), rest)
  | '$' => some (r.push (.assertion .endLine), rest)
  | c => some (r.push (.literal ⟨c, false⟩), rest)

/-- Read tokens to the end of the pattern. -/
def readAll? : Nat → Reading → List Char → Option Reading
  | 0, _, _ => none
  | fuel + 1, r, cs =>
    match skip r.verbose cs with
    | [] => some r
    | c :: rest => do
      let (r, rest) ← step? r c rest
      readAll? fuel r rest

/-- The tree of a pattern that is well formed and does not nest too deep. -/
def tree? (pattern : String) : Option Tree := do
  let cs := pattern.toList
  let r ← readAll? (cs.length + 1) {} cs
  if r.frames.isEmpty && r.tree.depth ≤ depthLimit then some r.tree else none

end MountOwnership.Pattern
