import MountOwnership.Text.CharSet

/-!
# Named sets of characters

Tables give a set of characters under its names. Names are compared loosely:
case, spaces, underscores and hyphens do not count, nor does a leading `is`.
-/

namespace MountOwnership.Pattern.Unicode

/-- A set of characters in its written form, with the names it has in loose form. -/
structure NamedSet where
  /-- The names in loose form. -/
  names : List String
  /-- The ranges as text. -/
  table : String

/-- The set that a table gives to a loose name. -/
def lookup? (sets : List NamedSet) (name : String) : Option CharSet :=
  (sets.find? fun s => s.names.contains name).map fun s => .ofHex s.table

/-- The characters of a name that count, in lower case. -/
def looseChars (cs : List Char) : List Char :=
  (cs.filter fun c => c.toNat < 0x80 && c ≠ ' ' && c ≠ '_' && c ≠ '-').map Char.toLower

/-- The loose form of a name. A leading `is` is dropped; a lone `c` that remains is kept apart
from the category of that name. -/
def looseName (name : List Char) : String :=
  match name with
  | i :: s :: rest =>
    if i.toLower = 'i' ∧ s.toLower = 's' then
      match looseChars rest with
      | ['c'] => "isc"
      | cs => String.ofList cs
    else String.ofList (looseChars name)
  | _ => String.ofList (looseChars name)

end MountOwnership.Pattern.Unicode
