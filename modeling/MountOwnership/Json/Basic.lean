/-!
# JSON values

A JSON value keeps the members of an object in the order in which they were
written, repeated names included: some readers take the last of two members of
one name, others refuse them.

A number is an integer or keeps the text it was written with.
-/

namespace MountOwnership

/-- A JSON value. -/
inductive Json where
  /-- The value `null`. -/
  | null
  /-- A truth value. -/
  | bool (b : Bool)
  /-- A whole number. -/
  | int (n : Int)
  /-- A number with a fraction or an exponent, as text. -/
  | decimal (text : String)
  /-- A text. -/
  | str (s : String)
  /-- A list of values. -/
  | arr (items : List Json)
  /-- An object with its members in order. -/
  | obj (members : List (String × Json))
deriving Inhabited

namespace Json

/-- The last member of a name in a list of members. -/
def lastMember? (name : String) (members : List (String × Json)) : Option Json :=
  (members.reverse.find? fun m => m.1 = name).map (·.2)

/-- A member of an object: the last of that name. -/
def member? (name : String) : Json → Option Json
  | .obj members => lastMember? name members
  | _ => none

/-- A member of an object, where `null` counts as absent. -/
def field? (name : String) (j : Json) : Option Json :=
  match j.member? name with
  | some .null => none
  | found => found

/-- The text of a string value. -/
def str? : Json → Option String
  | .str s => some s
  | _ => none

/-- A truth value. -/
def bool? : Json → Option Bool
  | .bool b => some b
  | _ => none

/-- A whole number. -/
def int? : Json → Option Int
  | .int n => some n
  | _ => none

/-- A whole number that is not negative. -/
def nat? : Json → Option Nat
  | .int n => if 0 ≤ n then some n.toNat else none
  | _ => none

/-- The items of a list. -/
def arr? : Json → Option (List Json)
  | .arr items => some items
  | _ => none

/-- A list of texts as a JSON value. -/
def ofStrings (ss : List String) : Json := .arr (ss.map .str)

/-- A text, or `null`. -/
def ofOption : Option String → Json
  | some s => .str s
  | none => .null

/-! ### Equality -/

mutual

/-- Whether two values are the same. -/
def beq : Json → Json → Bool
  | .null, .null => true
  | .bool b, .bool b' => b == b'
  | .int n, .int n' => n == n'
  | .decimal text, .decimal text' => text == text'
  | .str s, .str s' => s == s'
  | .arr items, .arr items' => beqItems items items'
  | .obj members, .obj members' => beqMembers members members'
  | _, _ => false

/-- Whether two lists have the same items. -/
def beqItems : List Json → List Json → Bool
  | [], [] => true
  | item :: items, item' :: items' => item.beq item' && beqItems items items'
  | _, _ => false

/-- Whether two lists have the same members. -/
def beqMembers : List (String × Json) → List (String × Json) → Bool
  | [], [] => true
  | (name, value) :: members, (name', value') :: members' =>
    name == name' && value.beq value' && beqMembers members members'
  | _, _ => false

end

mutual

/-- Values are the same if they are found to be. -/
theorem beq_iff : ∀ j j' : Json, j.beq j' = true ↔ j = j'
  | .null, j' => by cases j' <;> simp [beq]
  | .bool b, j' => by cases j' <;> simp [beq]
  | .int n, j' => by cases j' <;> simp [beq]
  | .decimal text, j' => by cases j' <;> simp [beq]
  | .str s, j' => by cases j' <;> simp [beq]
  | .arr items, j' => by cases j' <;> simp [beq, beqItems_iff items]
  | .obj members, j' => by cases j' <;> simp [beq, beqMembers_iff members]

/-- Lists have the same items if they are found to. -/
theorem beqItems_iff : ∀ items items' : List Json, beqItems items items' = true ↔ items = items'
  | [], items' => by cases items' <;> simp [beqItems]
  | item :: items, items' => by
    cases items' <;> simp [beqItems, beq_iff item, beqItems_iff items]

/-- Lists have the same members if they are found to. -/
theorem beqMembers_iff : ∀ members members' : List (String × Json),
    beqMembers members members' = true ↔ members = members'
  | [], members' => by cases members' <;> simp [beqMembers]
  | (name, value) :: members, members' => by
    cases members' <;> simp [beqMembers, beq_iff value, beqMembers_iff members, Prod.ext_iff]

end

instance : DecidableEq Json := fun j j' => decidable_of_iff _ (beq_iff j j')

end Json

end MountOwnership
