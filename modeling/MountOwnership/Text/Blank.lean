/-!
# Blanks and comma-separated entries

Unicode white space, trimming, and the reading of a comma-separated list into
its entries. Blank entries are dropped, so a list of commas and white space has
no entries at all.

The functions on `List Char` are the definitions to reason about; `entries` is
their form on `String`.
-/

namespace MountOwnership.Text

/-- Unicode white space: the characters with the property `White_Space`. -/
def isBlank (c : Char) : Bool :=
  let n := c.toNat
  (9 ≤ n && n ≤ 13) || n == 0x20 || n == 0x85 || n == 0xA0 || n == 0x1680 ||
    (0x2000 ≤ n && n ≤ 0x200A) || n == 0x2028 || n == 0x2029 || n == 0x202F ||
    n == 0x205F || n == 0x3000

/-- Drop blanks at the end. -/
def trimEnd (cs : List Char) : List Char :=
  (cs.reverse.dropWhile isBlank).reverse

/-- Drop blanks at both ends. -/
def trimChars (cs : List Char) : List Char :=
  trimEnd (cs.dropWhile isBlank)

/-- Drop blanks at both ends of a string. -/
def trim (s : String) : String :=
  String.ofList (trimChars s.toList)

/-- The trimmed entries of a comma-separated list, blank entries dropped. -/
def entryChars (cs : List Char) : List (List Char) :=
  ((cs.splitOn ',').map trimChars).filter (fun entry => !entry.isEmpty)

/-- The trimmed entries of a comma-separated list, blank entries dropped. -/
def entries (s : String) : List String :=
  (entryChars s.toList).map String.ofList

end MountOwnership.Text
