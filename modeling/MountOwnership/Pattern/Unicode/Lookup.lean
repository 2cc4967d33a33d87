import MountOwnership.Pattern.Unicode.Age
import MountOwnership.Pattern.Unicode.GeneralCategory
import MountOwnership.Pattern.Unicode.Property
import MountOwnership.Pattern.Unicode.Script
import MountOwnership.Pattern.Unicode.ScriptExtensions
import MountOwnership.Pattern.Unicode.Segmentation

/-!
# Finding sets of characters by name

A name alone is a binary property, a general category or a script, in this
order. A name with a value is a property that has values.
-/

namespace MountOwnership.Pattern.Unicode

/-- General categories that are unions of others. -/
def compositeCategories : List (List String × List String) :=
  [(["c", "other"], ["cc", "cf", "cn", "co"]),
    (["l", "letter"], ["lu", "ll", "lt", "lm", "lo"]),
    (["lc", "casedletter"], ["lu", "ll", "lt"]),
    (["m", "mark", "combiningmark"], ["mn", "mc", "me"]),
    (["n", "number"], ["nd", "nl", "no"]),
    (["p", "punctuation", "punct"], ["pc", "pd", "pe", "pf", "pi", "po", "ps"]),
    (["s", "symbol"], ["sc", "sk", "sm", "so"]),
    (["z", "separator"], ["zl", "zp", "zs"])]

/-- The union of sets of one table. -/
def unionOf (sets : List NamedSet) (names : List String) : CharSet :=
  names.foldl (fun s name => s.union ((lookup? sets name).getD .empty)) .empty

/-- The general category of a loose name. -/
def category? (name : String) : Option CharSet :=
  if name = "any" then some .all
  else if name = "ascii" then some (.range 0 0x7F)
  else if name = "assigned" then (lookup? leafCategories "cn").map CharSet.complement
  else
    match compositeCategories.find? fun c => c.1.contains name with
    | some (_, parts) => some (unionOf leafCategories parts)
    | none => lookup? leafCategories name

/-- The characters that are used with a script of a loose name. -/
def extendedScript? (name : String) : Option CharSet :=
  (lookup? scriptExtensions name).or (lookup? scripts name)

/-- The characters that were there in a version of a loose name. -/
def age? (name : String) : Option CharSet :=
  if ages.any fun a => a.names.contains name then
    let older := ages.takeWhile fun a => !a.names.contains name
    let added := (older ++ (ages.find? fun a => a.names.contains name).toList)
    some (added.foldl (fun s a => s.union (.ofHex a.table)) .empty)
  else none

/-- The set of a name that stands alone. -/
def named? (name : List Char) : Option CharSet :=
  let loose := looseName name
  (lookup? binaryProperties loose).or ((category? loose).or (lookup? scripts loose))

/-- The set of a property with a value. -/
def valued? (name value : List Char) : Option CharSet :=
  let value := looseName value
  match looseName name with
  | "gc" | "generalcategory" => category? value
  | "sc" | "script" => lookup? scripts value
  | "scx" | "scriptextensions" => extendedScript? value
  | "age" => age? value
  | "gcb" | "graphemeclusterbreak" => lookup? graphemeBreaks value
  | "wb" | "wordbreak" => lookup? wordBreaks value
  | "sb" | "sentencebreak" => lookup? sentenceBreaks value
  | _ => none

/-- The digits of all scripts. -/
def digits : CharSet := unionOf leafCategories ["nd"]

/-- The letters of all scripts, and the marks that are used like letters. -/
def letters : CharSet := unionOf binaryProperties ["alpha"]

/-- The numbers of all scripts. -/
def numbers : CharSet := unionOf leafCategories ["nd", "nl", "no"]

/-- White space. -/
def spaces : CharSet := unionOf binaryProperties ["wspace"]

/-- The characters of words: letters, marks, digits, connectors and joiners. -/
def wordCharacters : CharSet :=
  (unionOf binaryProperties ["alpha", "joinc"]).union
    (unionOf leafCategories ["mn", "mc", "me", "nd", "pc"])

end MountOwnership.Pattern.Unicode
