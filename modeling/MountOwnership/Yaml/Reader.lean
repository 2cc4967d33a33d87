import MountOwnership.Json.Basic

/-!
# Reading YAML

A reader for the part of YAML in which configurations of clusters are written:
block mappings and sequences, flow collections, plain, single-quoted and
double-quoted scalars on one line, comments, and one mark of a document at the
start. Anchors, tags, block scalars and scalars over several lines are refused,
as is a mapping with a repeated key.

The value is a JSON value. The functions on blocks take the characters from the
start of a line. A call reads a character or turns a hyphen into a blank before
it goes deeper, so four times the length of the text is fuel enough.
-/

namespace MountOwnership.Yaml

/-! ### Lines -/

/-- Blank space within a line. -/
def isSpace (c : Char) : Bool := c = ' ' || c = '\t'

/-- Drop a line up to and including its end. -/
def dropLine (cs : List Char) : List Char := (cs.dropWhile fun c => c ≠ '\n').drop 1

/-- Whether nothing but a comment follows on the line. -/
def atLineEnd (cs : List Char) : Bool :=
  match cs.dropWhile isSpace with
  | [] => true
  | c :: _ => c = '\n' || c = '#'

/-- The rest after a line on which nothing but blanks and a comment follow. A comment has a blank
in front of it. -/
def endLine? (cs : List Char) : Option (List Char) :=
  if cs.head? ≠ some '#' ∧ atLineEnd cs then some (dropLine cs) else none

/-- The next line with any content: its indentation, and the characters from there. -/
def nextLine? : Nat → List Char → Option (Nat × List Char)
  | 0, _ => none
  | fuel + 1, cs =>
    let indent := (cs.takeWhile fun c => c = ' ').length
    let body := cs.drop indent
    if body.isEmpty then none
    else if atLineEnd body then nextLine? fuel (dropLine body)
    else some (indent, body)

/-- The next line with any content. -/
def line? (cs : List Char) : Option (Nat × List Char) := nextLine? (cs.length + 1) cs

/-! ### Scalars -/

/-- Whether a text is written like a number. -/
def isNumber (cs : List Char) : Bool :=
  let unsigned := match cs with
    | '+' :: rest | '-' :: rest => rest
    | rest => rest
  match unsigned with
  | '0' :: 'x' :: rest => !rest.isEmpty && rest.all fun c => c.isDigit || ('a' ≤ c && c ≤ 'f')
      || ('A' ≤ c && c ≤ 'F')
  | '0' :: 'o' :: rest => !rest.isEmpty && rest.all fun c => '0' ≤ c && c ≤ '7'
  | _ =>
    let whole := unsigned.takeWhile Char.isDigit
    let rest := unsigned.dropWhile Char.isDigit
    let (fraction, rest) := match rest with
      | '.' :: more => (more.takeWhile Char.isDigit, more.dropWhile Char.isDigit)
      | more => ([], more)
    let exponentOk := match rest with
      | [] => true
      | e :: more =>
        let digits := match more with
          | '+' :: ds | '-' :: ds => ds
          | ds => ds
        (e = 'e' || e = 'E') && !digits.isEmpty && digits.all Char.isDigit
    !(whole ++ fraction).isEmpty && exponentOk

/-- The value of a plain scalar. -/
def plain (cs : List Char) : Json :=
  let text := String.ofList cs
  if ["", "~", "null", "Null", "NULL"].contains text then .null
  else if ["true", "True", "TRUE"].contains text then .bool true
  else if ["false", "False", "FALSE"].contains text then .bool false
  else if isNumber cs then .decimal text
  else .str text

/-- Whether a plain scalar may start so. -/
def startsPlain : List Char → Bool
  | [] => false
  | c :: rest =>
    if c = '-' ∨ c = '?' ∨ c = ':' then
      match rest with
      | [] => false
      | d :: _ => !(isSpace d || d = '\n')
    else !([',', '[', ']', '{', '}', '#', '&', '*', '!', '|', '>', '\'', '"', '%', '@',
      '\x60'].contains c)

/-- A plain scalar without the blanks at its end, and what follows it. It goes up to a colon with
a blank after it, a number sign with a blank before it, or the end of the line; in a flow
collection also up to a mark of that collection. -/
def plainChars (inFlow : Bool) (last : Char) : List Char → List Char × List Char
  | [] => ([], [])
  | c :: rest =>
    let marked := inFlow && [',', '[', ']', '{', '}'].contains c
    let ends := match rest with
      | [] => true
      | d :: _ => isSpace d || d = '\n' || (inFlow && [',', '[', ']', '{', '}'].contains d)
    if c = '\n' || marked || (c = ':' && ends) || (c = '#' && isSpace last) then ([], c :: rest)
    else
      let (scalar, after) := plainChars inFlow c rest
      if scalar.isEmpty && isSpace c then ([], c :: after) else (c :: scalar, after)

/-- The value of hexadecimal digits. -/
def hexValue? (cs : List Char) : Option Nat :=
  cs.foldlM (fun n c =>
    if c.isDigit then some (n * 16 + (c.toNat - '0'.toNat))
    else if 'a' ≤ c ∧ c ≤ 'f' then some (n * 16 + (c.toNat - 'a'.toNat + 10))
    else if 'A' ≤ c ∧ c ≤ 'F' then some (n * 16 + (c.toNat - 'A'.toNat + 10))
    else none) 0

/-- The number of digits of an escape by number. -/
def escapeWidth? : Char → Option Nat
  | 'x' => some 2
  | 'u' => some 4
  | 'U' => some 8
  | _ => none

/-- The character of a one-letter escape. -/
def letterEscape? : Char → Option Char
  | '0' => some '\x00'
  | 'a' => some '\x07'
  | 'b' => some '\x08'
  | 't' | '\t' => some '\t'
  | 'n' => some '\n'
  | 'v' => some '\x0b'
  | 'f' => some '\x0c'
  | 'r' => some '\r'
  | 'e' => some '\x1b'
  | ' ' => some ' '
  | '"' => some '"'
  | '/' => some '/'
  | '\\' => some '\\'
  | 'N' => some '\u0085'
  | '_' => some '\u00a0'
  | 'L' => some '\u2028'
  | 'P' => some '\u2029'
  | _ => none

/-- A double-quoted scalar after its opening quote. -/
def doubleQuoted? : Nat → List Char → Option (List Char × List Char)
  | 0, _ => none
  | _ + 1, [] => none
  | fuel + 1, c :: rest =>
    if c = '"' then some ([], rest)
    else if c = '\n' then none
    else if c = '\\' then
      match rest with
      | [] => none
      | e :: more =>
        match escapeWidth? e with
        | some width => do
          let n ← hexValue? (more.take width)
          if (more.take width).length = width ∧ n.isValidChar then
            (doubleQuoted? fuel (more.drop width)).map fun (s, after) => (Char.ofNat n :: s, after)
          else none
        | none => do
          let u ← letterEscape? e
          (doubleQuoted? fuel more).map fun (s, after) => (u :: s, after)
    else (doubleQuoted? fuel rest).map fun (s, after) => (c :: s, after)

/-- A single-quoted scalar after its opening quote; a quote inside is written twice. -/
def singleQuoted? : List Char → Option (List Char × List Char)
  | [] => none
  | '\'' :: '\'' :: rest => (singleQuoted? rest).map fun (s, after) => ('\'' :: s, after)
  | c :: rest =>
    if c = '\'' then some ([], rest)
    else if c = '\n' then none
    else (singleQuoted? rest).map fun (s, after) => (c :: s, after)

/-- A scalar in quotes. -/
def quoted? : List Char → Option (String × List Char)
  | '"' :: rest =>
    (doubleQuoted? (rest.length + 1) rest).map fun (s, after) => (String.ofList s, after)
  | '\'' :: rest => (singleQuoted? rest).map fun (s, after) => (String.ofList s, after)
  | _ => none

/-! ### Flow collections -/

/-- Drop blanks, line ends and comments inside a flow collection. -/
def skipFlow : Nat → List Char → List Char
  | 0, cs => cs
  | fuel + 1, cs =>
    match cs with
    | [] => []
    | c :: rest =>
      if isSpace c || c = '\n' then skipFlow fuel rest
      else if c = '#' then skipFlow fuel (dropLine rest)
      else c :: rest

/-- Drop what stands between the parts of a flow collection. -/
def skip (cs : List Char) : List Char := skipFlow (cs.length + 1) cs

/-- Add a member with a new name. -/
def addMember? (name : String) (value : Json) (members : List (String × Json)) :
    Option (List (String × Json)) :=
  if members.any fun m => m.1 = name then none else some ((name, value) :: members)

/-- The key of a flow mapping, and what follows it. -/
def flowKey? (cs : List Char) : Option (String × List Char) :=
  match quoted? cs with
  | some found => some found
  | none =>
    if startsPlain cs then
      let (scalar, rest) := plainChars true ' ' cs
      some (String.ofList scalar, rest)
    else none

mutual

/-- A value inside a flow collection, or one that stands alone. -/
def flow? : Nat → Bool → List Char → Option (Json × List Char)
  | 0, _, _ => none
  | fuel + 1, inFlow, cs =>
    match cs with
    | '[' :: rest => (flowItems? fuel (skip rest)).map fun (items, rest) => (.arr items, rest)
    | '{' :: rest => (flowMembers? fuel (skip rest)).map fun (ms, rest) => (.obj ms, rest)
    | cs =>
      match quoted? cs with
      | some (s, rest) => some (.str s, rest)
      | none =>
        if startsPlain cs then
          let (scalar, rest) := plainChars inFlow ' ' cs
          some (plain scalar, rest)
        else none

/-- The items of a flow sequence up to its closing bracket. -/
def flowItems? : Nat → List Char → Option (List Json × List Char)
  | 0, _ => none
  | fuel + 1, cs =>
    match cs with
    | ']' :: rest => some ([], rest)
    | cs => do
      let (item, rest) ← flow? fuel true cs
      match skip rest with
      | ']' :: rest => some ([item], rest)
      | ',' :: rest =>
        (flowItems? fuel (skip rest)).map fun (items, rest) => (item :: items, rest)
      | _ => none

/-- The members of a flow mapping up to its closing brace. -/
def flowMembers? : Nat → List Char → Option (List (String × Json) × List Char)
  | 0, _ => none
  | fuel + 1, cs =>
    match cs with
    | '}' :: rest => some ([], rest)
    | cs => do
      let (name, rest) ← flowKey? cs
      let (value, rest) ← match skip rest with
        | ':' :: rest =>
          match skip rest with
          | ',' :: rest => some (Json.null, ',' :: rest)
          | '}' :: rest => some (Json.null, '}' :: rest)
          | rest => flow? fuel true rest
        | rest => some (Json.null, rest)
      match skip rest with
      | '}' :: rest => some ([(name, value)], rest)
      | ',' :: rest => do
        let (members, rest) ← flowMembers? fuel (skip rest)
        (addMember? name value members).map fun members => (members, rest)
      | _ => none

end

/-! ### Blocks -/

/-- Whether a line starts an item of a sequence. -/
def startsItem : List Char → Bool
  | '-' :: rest =>
    match rest with
    | [] => true
    | c :: _ => isSpace c || c = '\n'
  | _ => false

/-- The key at the start of a line, and what follows its colon. -/
def key? (cs : List Char) : Option (String × List Char) :=
  let found :=
    match quoted? cs with
    | some found => some found
    | none =>
      if startsPlain cs then
        let (scalar, rest) := plainChars false ' ' cs
        some (String.ofList scalar, rest)
      else none
  match found with
  | none => none
  | some (name, rest) =>
    match rest.dropWhile isSpace with
    | ':' :: after =>
      if after.head?.all fun c => isSpace c || c = '\n' then some (name, after) else none
    | _ => none

/-- A value that ends with its line. -/
def inline? (cs : List Char) : Option (Json × List Char) := do
  let (value, rest) ← flow? (cs.length + 1) false cs
  (endLine? rest).map fun rest => (value, rest)

mutual

/-- The node of the next lines, if they are indented enough; else nothing. -/
def node? : Nat → Nat → List Char → Option (Json × List Char)
  | 0, _, _ => none
  | fuel + 1, least, cs =>
    match line? cs with
    | none => some (.null, [])
    | some (column, body) =>
      if column < least then some (.null, cs)
      else if startsItem body then
        (items? fuel column cs).map fun (items, rest) => (.arr items, rest)
      else if (key? body).isSome then
        (members? fuel column cs).map fun (members, rest) => (.obj members, rest)
      else inline? body

/-- The items of a sequence at a column. -/
def items? : Nat → Nat → List Char → Option (List Json × List Char)
  | 0, _, _ => none
  | fuel + 1, column, cs =>
    match line? cs with
    | none => some ([], [])
    | some (found, body) =>
      if column < found then none
      else if found = column ∧ startsItem body then do
        let (item, rest) ←
          node? fuel (column + 1) (List.replicate (column + 1) ' ' ++ body.drop 1)
        let (items, rest) ← items? fuel column rest
        some (item :: items, rest)
      else some ([], cs)

/-- The members of a mapping at a column. -/
def members? : Nat → Nat → List Char → Option (List (String × Json) × List Char)
  | 0, _, _ => none
  | fuel + 1, column, cs =>
    match line? cs with
    | none => some ([], [])
    | some (found, body) =>
      if found < column then some ([], cs)
      else if column < found then none
      else do
        let (name, after) ← key? body
        let (value, rest) ←
          if atLineEnd after then
            let below := dropLine after
            match line? below with
            | some (found, body) =>
              if found = column ∧ startsItem body then
                (items? fuel column below).map fun (items, rest) => (Json.arr items, rest)
              else node? fuel (column + 1) below
            | none => some (.null, [])
          else inline? (after.dropWhile isSpace)
        let (members, rest) ← members? fuel column rest
        (addMember? name value members).map fun members => (members, rest)

end

/-- Drop the mark of a document at the start of a text. -/
def dropMark : List Char → List Char
  | '-' :: '-' :: '-' :: '\n' :: rest => rest
  | cs => cs

/-- Read a text that holds one document; a text without content holds nothing. -/
def read? (text : String) : Option Json := do
  let cs := dropMark (text.toList.filter fun c => c ≠ '\r')
  let (value, rest) ← node? (4 * cs.length + 4) 0 cs
  if (line? rest).isNone then some value else none

end MountOwnership.Yaml
