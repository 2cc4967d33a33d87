import Mathlib.Data.Prod.Lex
import Mathlib.Tactic.Common
import MountOwnership.Time.Instant

/-!
# The order of instants

Instants come one after the other as their seconds do, and within a second as their nanoseconds
do.  A leap second is a second of its own: it comes after the second that it shares its number
with, and before the next one (`Instant.utcSecond`).

An instant whose fraction of a second is dropped is the start of its second, so it comes after
another instant exactly if that one lies in an earlier second (`Instant.lt_floorSecond_iff`).
-/

namespace MountOwnership.Time

/-- A second has nanoseconds. -/
lemma nanosPerSecond_pos : 0 < nanosPerSecond := by decide

namespace Instant

variable {a b : Instant}

/-- An instant is its second and its nanoseconds. -/
lemma eq_of_second_nano (hsecond : a.second = b.second) (hnano : a.nano = b.nano) : a = b := by
  cases a
  cases b
  cases hsecond
  cases hnano
  rfl

/-! ### Earlier and later -/

/-- The place of an instant on the time line. -/
def position (t : Instant) : ℤ ×ₗ ℕ := toLex (t.second, t.nano)

/-- Two instants at one position are the same. -/
lemma position_injective : Function.Injective position := by
  intro a b h
  obtain ⟨hsecond, hnano⟩ := Prod.mk.inj (toLex.injective h)
  exact eq_of_second_nano hsecond hnano

/-- Instants in the order of their places. -/
instance : LinearOrder Instant := LinearOrder.lift' position position_injective

/-- Instants are compared by their seconds, and within a second by their nanoseconds. -/
lemma lt_iff : a < b ↔ a.second < b.second ∨ a.second = b.second ∧ a.nano < b.nano :=
  Prod.Lex.toLex_lt_toLex

/-- The same, where the two instants may be the same. -/
lemma le_iff : a ≤ b ↔ a.second < b.second ∨ a.second = b.second ∧ a.nano ≤ b.nano :=
  Prod.Lex.toLex_le_toLex

/-- To come before is to be less. -/
lemma before_iff_lt : a.before b = true ↔ a < b := by
  rw [lt_iff]
  exact decide_eq_true_iff

/-! ### Whole seconds -/

/-- The second of UTC that an instant lies in: its number, and whether it is the leap second of
that number. -/
def utcSecond (t : Instant) : ℤ ×ₗ ℕ := toLex (t.second, t.nano / nanosPerSecond)

/-- Seconds of UTC are compared by their numbers, and a leap second follows its second. -/
lemma utcSecond_lt_iff : a.utcSecond < b.utcSecond ↔ a.second < b.second ∨
    a.second = b.second ∧ a.nano / nanosPerSecond < b.nano / nanosPerSecond :=
  Prod.Lex.toLex_lt_toLex

/-- The same, where the two seconds may be the same. -/
lemma utcSecond_le_iff : a.utcSecond ≤ b.utcSecond ↔ a.second < b.second ∨
    a.second = b.second ∧ a.nano / nanosPerSecond ≤ b.nano / nanosPerSecond :=
  Prod.Lex.toLex_le_toLex

/-- Later instants do not lie in earlier seconds. -/
lemma utcSecond_mono (h : a ≤ b) : a.utcSecond ≤ b.utcSecond := by
  rw [utcSecond_le_iff]
  rcases le_iff.mp h with hsecond | ⟨hsecond, hnano⟩
  · exact Or.inl hsecond
  · exact Or.inr ⟨hsecond, Nat.div_le_div_right hnano⟩

/-- The start of a second is that second's leap second or its first nanosecond. -/
lemma nano_floorSecond (t : Instant) :
    t.floorSecond.nano = t.nano / nanosPerSecond * nanosPerSecond := by
  have hnano := t.nano_lt
  unfold floorSecond nanosPerSecond at *
  dsimp only
  split <;> omega

/-- A fraction of a second is dropped. -/
lemma nano_floorSecond_mod (t : Instant) : t.floorSecond.nano % nanosPerSecond = 0 := by
  rw [nano_floorSecond]
  exact Nat.mul_mod_left _ _

/-- A leap second stays one. -/
lemma isLeap_floorSecond (t : Instant) : t.floorSecond.isLeap = t.isLeap := by
  unfold isLeap floorSecond nanosPerSecond
  rw [decide_eq_decide]
  dsimp only
  split <;> omega

/-- To drop the fraction of a second leads to no later instant. -/
lemma floorSecond_le (t : Instant) : t.floorSecond ≤ t := by
  rw [le_iff, nano_floorSecond]
  exact Or.inr ⟨rfl, Nat.div_mul_le_self _ _⟩

/-- The start of a second comes after an instant exactly if that one lies in an earlier second. -/
lemma lt_floorSecond_iff : a < b.floorSecond ↔ a.utcSecond < b.utcSecond := by
  rw [lt_iff, utcSecond_lt_iff, nano_floorSecond, Nat.div_lt_iff_lt_mul nanosPerSecond_pos]
  rfl

/-- To drop the fraction leads to an instant of the same second of UTC. -/
lemma utcSecond_floorSecond (t : Instant) : t.floorSecond.utcSecond = t.utcSecond := by
  unfold utcSecond
  rw [nano_floorSecond, Nat.mul_div_cancel _ nanosPerSecond_pos]
  rfl

/-- Instants of later seconds start later. -/
lemma floorSecond_le_floorSecond_iff :
    a.floorSecond ≤ b.floorSecond ↔ a.utcSecond ≤ b.utcSecond := by
  rw [← not_lt, lt_floorSecond_iff, not_lt, utcSecond_floorSecond]

/-- The start of a second is its own start. -/
lemma floorSecond_floorSecond (t : Instant) : t.floorSecond.floorSecond = t.floorSecond :=
  le_antisymm (floorSecond_le _)
    (floorSecond_le_floorSecond_iff.mpr (utcSecond_floorSecond t).ge)

end Instant

end MountOwnership.Time
