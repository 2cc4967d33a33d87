import MountOwnership.Json.Basic
import MountOwnership.Time.Instant

/-!
# Shapes of JSON values

A shape says which values a field may hold. Members that a record does not name
are ignored, and a named member may also be `null`; items of lists and values of
maps may not.
-/

namespace MountOwnership.Json

/-- The values that a field may hold. -/
inductive Shape where
  /-- Any value. -/
  | any
  /-- A text. -/
  | text
  /-- A truth value. -/
  | flag
  /-- A whole number between two bounds. -/
  | int (lo hi : Int)
  /-- A time in RFC 3339 text. -/
  | time
  /-- Bytes in Base64. -/
  | bytes
  /-- A list of items of one shape. -/
  | list (item : Shape)
  /-- An object whose values have one shape. -/
  | map (value : Shape)
  /-- An object with named members. -/
  | record (fields : List (String × Shape))
  /-- A text that, when the member is there, is this one; `null` is no such text. -/
  | exactly (s : String)

namespace Shape

/-- A whole number of 32 bits. -/
def int32 : Shape := .int (-2147483648) 2147483647

/-- A whole number of 64 bits. -/
def int64 : Shape := .int (-9223372036854775808) 9223372036854775807

/-- Whether a character stands for six bits in Base64. -/
def isBase64 (c : Char) : Bool := c.isAlphanum || c = '+' || c = '/'

/-- Whether text is padded Base64. -/
def isBytes (cs : List Char) : Bool :=
  let padding := cs.dropWhile isBase64
  cs.length % 4 = 0 && (padding = [] || padding = ['='] || padding = ['=', '='])

mutual

/-- Whether a value has a shape. -/
def accepts : Shape → Json → Bool
  | .any, _ => true
  | .text, j => j.str?.isSome
  | .flag, j => j.bool?.isSome
  | .int lo hi, j => j.int?.any fun n => lo ≤ n && n ≤ hi
  | .time, j => (j.str?.bind Time.Instant.parse?).isSome
  | .bytes, j => j.str?.any fun s => isBytes s.toList
  | .list item, j => j.arr?.any fun items => items.all fun i => accepts item i
  | .map value, j =>
    match j with
    | .obj members => members.all fun m => accepts value m.2
    | _ => false
  | .record fields, j =>
    match j with
    | .obj members => acceptsFields fields members
    | _ => false
  | .exactly s, j => j.str? == some s

/-- Whether the named members among the given ones have their shapes. -/
def acceptsFields : List (String × Shape) → List (String × Json) → Bool
  | [], _ => true
  | (name, shape) :: fields, members =>
    (members.all fun m => m.1 != name || acceptsField shape m.2) && acceptsFields fields members

/-- Whether a member that is there has its shape or is `null`. -/
def acceptsField : Shape → Json → Bool
  | .exactly s, j => j.str? == some s
  | shape, j =>
    match j with
    | .null => true
    | j => accepts shape j

end

end Shape

end MountOwnership.Json
