import MountOwnership.Json.Basic
import MountOwnership.Text.Quoted

/-!
# Writing JSON

The compact form: no blanks between tokens, escapes only for quotes,
backslashes and control characters. `Json.sorted` brings the members of every
object into the order of their names and keeps the last of two members of one
name.
-/

namespace MountOwnership.Json

/-- A character as it stands in a JSON string. -/
def escapeChar (c : Char) : List Char :=
  if c = '"' then ['\\', '"']
  else if c = '\\' then ['\\', '\\']
  else if c = '\n' then ['\\', 'n']
  else if c = '\r' then ['\\', 'r']
  else if c = '\t' then ['\\', 't']
  else if c.toNat = 8 then ['\\', 'b']
  else if c.toNat = 12 then ['\\', 'f']
  else if c.toNat < 0x20 then
    let digits := Text.hexDigits c.toNat
    ['\\', 'u'] ++ List.replicate (4 - digits.length) '0' ++ digits
  else [c]

/-- A text as a JSON string. -/
def renderString (s : String) : List Char :=
  '"' :: s.toList.flatMap escapeChar ++ ['"']

mutual

/-- The characters of a value in compact form. -/
def renderChars : Json → List Char
  | .null => ['n', 'u', 'l', 'l']
  | .bool true => ['t', 'r', 'u', 'e']
  | .bool false => ['f', 'a', 'l', 's', 'e']
  | .int n => (toString n).toList
  | .decimal text => text.toList
  | .str s => renderString s
  | .arr [] => ['[', ']']
  | .arr (item :: items) => '[' :: renderChars item ++ renderItems items ++ [']']
  | .obj [] => ['{', '}']
  | .obj ((name, value) :: members) =>
    '{' :: renderString name ++ ':' :: renderChars value ++ renderMembers members ++ ['}']

/-- The items after the first. -/
def renderItems : List Json → List Char
  | [] => []
  | item :: items => ',' :: renderChars item ++ renderItems items

/-- The members after the first. -/
def renderMembers : List (String × Json) → List Char
  | [] => []
  | (name, value) :: members =>
    ',' :: renderString name ++ ':' :: renderChars value ++ renderMembers members

end

/-- A value in compact form. -/
def render (j : Json) : String := String.ofList j.renderChars

/-! ### Members in order -/

/-- Put a member into a list sorted by name, in place of one of the same name. -/
def insertMember (name : String) (value : Json) : List (String × Json) → List (String × Json)
  | [] => [(name, value)]
  | (other, kept) :: rest =>
    if name < other then (name, value) :: (other, kept) :: rest
    else if name = other then (name, value) :: rest
    else (other, kept) :: insertMember name value rest

mutual

/-- The value with the members of every object sorted by name, the last of each name kept. -/
def sorted : Json → Json
  | .arr items => .arr (sortedItems items)
  | .obj members => .obj (sortedMembers members [])
  | other => other

/-- The items, sorted inside. -/
def sortedItems : List Json → List Json
  | [] => []
  | item :: items => sorted item :: sortedItems items

/-- Insert members, sorted inside, into a sorted list. -/
def sortedMembers : List (String × Json) → List (String × Json) → List (String × Json)
  | [], done => done
  | (name, value) :: members, done => sortedMembers members (insertMember name (sorted value) done)

end

end MountOwnership.Json
