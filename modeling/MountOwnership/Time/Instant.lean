import MountOwnership.Text.Decimal
import MountOwnership.Time.Calendar

/-!
# Instants and their written form

An instant is a second of the UTC time line and a fraction of it in nanoseconds.
A leap second has no number of its own: it is the part of the last second of a
minute from a whole second of nanoseconds on, so it comes after that second's
fractions and before the next minute.

`Instant.parse?` reads RFC 3339 text with any offset and any number of fraction
digits. `Instant.render` writes UTC with whole seconds. Years outside
`0000..9999` are written with a sign, and such text is not read back.
-/

namespace MountOwnership.Time

/-- The nanoseconds of a second. -/
def nanosPerSecond : Nat := 1000000000

/-- An instant of UTC. -/
structure Instant where
  /-- The second, counted from 1970-01-01T00:00:00Z without leap seconds. -/
  second : Int
  /-- The nanoseconds since the second began, a whole second more within a leap second. -/
  nano : Nat
  /-- A second with its leap second has two seconds of nanoseconds. -/
  nano_lt : nano < 2 * nanosPerSecond
  /-- Leap seconds follow the last second of a minute. -/
  leap_last : nanosPerSecond ≤ nano → second % 60 = 59
deriving DecidableEq

namespace Instant

/-- Whether one instant comes before another. -/
def before (a b : Instant) : Bool :=
  decide (a.second < b.second ∨ (a.second = b.second ∧ a.nano < b.nano))

/-- Whether the instant lies in a leap second. -/
def isLeap (t : Instant) : Bool := decide (nanosPerSecond ≤ t.nano)

/-- The instant with its fraction of a second dropped. -/
def floorSecond (t : Instant) : Instant where
  second := t.second
  nano := if nanosPerSecond ≤ t.nano then nanosPerSecond else 0
  nano_lt := by split <;> decide
  leap_last h := by
    split at h
    · exact t.leap_last ‹_›
    · exact absurd h (by decide)

/-- The day of the instant. -/
def date (t : Instant) : Date := Date.ofDays (t.second / 86400)

/-- The year of the instant. -/
def year (t : Instant) : Int := t.date.year

/-! ### Writing -/

/-- A year as text: four digits, or a sign and at least four digits. -/
def renderYear (year : Int) : List Char :=
  if 0 ≤ year ∧ year ≤ 9999 then Text.padded 4 year.toNat
  else (if year < 0 then '-' else '+') :: Text.padded 4 year.natAbs

/-- The instant in UTC with whole seconds. -/
def renderChars (t : Instant) : List Char :=
  let d := t.date
  let s := (t.second % 86400).toNat
  let second := if t.isLeap then 60 else s % 60
  renderYear d.year ++ '-' :: Text.padded 2 d.month ++ '-' :: Text.padded 2 d.day ++
    'T' :: Text.padded 2 (s / 3600) ++ ':' :: Text.padded 2 (s / 60 % 60) ++
    ':' :: Text.padded 2 second ++ ['Z']

/-- The instant in UTC with whole seconds. -/
def render (t : Instant) : String := String.ofList t.renderChars

/-! ### Reading -/

/-- The value of ASCII digits. -/
def digits? : List Char → Option Nat
  | [] => some 0
  | cs => cs.foldlM (fun n c => (Text.digit? c).map (n * 10 + ·)) 0

/-- The nanoseconds that fraction digits stand for; digits after the ninth do not count. -/
def fraction? (cs : List Char) : Option Nat :=
  if cs.isEmpty then none
  else if cs.all Char.isDigit then digits? ((cs ++ List.replicate 9 '0').take 9)
  else none

/-- The offset from UTC in minutes. -/
def offset? : List Char → Option Int
  | ['Z'] => some 0
  | ['z'] => some 0
  | [sign, h1, h2, ':', m1, m2] => do
    let hours ← digits? [h1, h2]
    let minutes ← digits? [m1, m2]
    if 23 < hours ∨ 59 < minutes then none
    else if sign = '+' then some (hours * 60 + minutes)
    else if sign = '-' ∨ sign = '\u2212' then some (-(hours * 60 + minutes : Int))
    else none
  | _ => none

/-- The nanoseconds and the offset that follow the whole seconds. -/
def tail? : List Char → Option (Nat × Int)
  | '.' :: rest => do
    let nano ← fraction? (rest.takeWhile Char.isDigit)
    let offset ← offset? (rest.dropWhile Char.isDigit)
    return (nano, offset)
  | rest => (offset? rest).map fun offset => (0, offset)

/-- The instant of a date, a time of day and an offset in minutes. A second numbered 60 is the
leap second after second 59. -/
def ofFields? (d : Date) (hour minute second nano : Nat) (offset : Int) : Option Instant :=
  if d.isValid ∧ hour ≤ 23 ∧ minute ≤ 59 then
    let start := d.toDays * 86400 + hour * 3600 + minute * 60 - offset * 60
    if hs : second ≤ 59 ∧ nano < nanosPerSecond then
      some { second := start + second, nano := nano
             nano_lt := by omega
             leap_last := fun h => absurd h (by omega) }
    else if hl : second = 60 ∧ nano < nanosPerSecond then
      some { second := start + 59, nano := nano + nanosPerSecond
             nano_lt := by omega
             leap_last := fun _ => by omega }
    else none
  else none

/-- Read RFC 3339 text. -/
def parseChars? : List Char → Option Instant
  | y1 :: y2 :: y3 :: y4 :: '-' :: mo1 :: mo2 :: '-' :: d1 :: d2 :: t ::
      h1 :: h2 :: ':' :: mi1 :: mi2 :: ':' :: s1 :: s2 :: rest => do
    let year ← digits? [y1, y2, y3, y4]
    let month ← digits? [mo1, mo2]
    let day ← digits? [d1, d2]
    if t = 'T' ∨ t = 't' ∨ t = ' ' then
      let hour ← digits? [h1, h2]
      let minute ← digits? [mi1, mi2]
      let second ← digits? [s1, s2]
      let (nano, offset) ← tail? rest
      ofFields? ⟨year, month, day⟩ hour minute second nano offset
    else none
  | _ => none

/-- Read RFC 3339 text. -/
def parse? (s : String) : Option Instant := parseChars? s.toList

end Instant

end MountOwnership.Time
