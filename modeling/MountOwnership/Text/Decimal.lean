/-!
# Decimal numbers in settings

Reading a count from a setting: ASCII digits, one leading plus sign allowed, and
a bound that the value must not pass. The first character at fault decides which
error is reported.
-/

namespace MountOwnership.Text

/-- Why a text is not a count. -/
inductive CountError where
  /-- There is no character. -/
  | missing
  /-- A character that is no digit. -/
  | badDigit
  /-- The value passes the bound. -/
  | tooLarge
deriving DecidableEq, Repr

/-- The wording of a count error. -/
def CountError.message : CountError → String
  | .missing => "cannot parse integer from empty string"
  | .badDigit => "invalid digit found in string"
  | .tooLarge => "number too large to fit in target type"

/-- The value of an ASCII digit. -/
def digit? (c : Char) : Option Nat :=
  if c.isDigit then some (c.toNat - '0'.toNat) else none

/-- Read digits after those that gave `value`, none of the values passing `bound`. -/
def readDigits (bound : Nat) : Nat → List Char → Except CountError Nat
  | value, [] => .ok value
  | value, c :: rest =>
    match digit? c with
    | none => .error .badDigit
    | some d =>
      if value * 10 + d ≤ bound then readDigits bound (value * 10 + d) rest
      else .error .tooLarge

/-- Read a count of at most `bound`. -/
def readCount (bound : Nat) : List Char → Except CountError Nat
  | [] => .error .missing
  | ['+'] => .error .badDigit
  | '+' :: digits => readDigits bound 0 digits
  | digits => readDigits bound 0 digits

/-- The greatest count of 64 bits. -/
def wordBound : Nat := 18446744073709551615

/-- Read a count of 64 bits. -/
def readWord (s : String) : Except CountError Nat :=
  readCount wordBound s.toList

/-- The decimal digits of a number, with zeros in front up to a width. -/
def padded (width n : Nat) : List Char :=
  let digits := Nat.toDigits 10 n
  List.replicate (width - digits.length) '0' ++ digits

end MountOwnership.Text
