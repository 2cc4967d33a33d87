import Mathlib.Algebra.Group.Nat.Defs
import Mathlib.Tactic.Common
import MountOwnership.Text.Decimal

/-!
# Decimal numbers that are written and read

Digits are read as the number they stand for, as long as it does not pass the bound.  The number is
no smaller than what any of its first digits stand for, so a bound that it does not pass is passed
nowhere on the way.  Nothing else is read: a text is a count exactly if it is made of digits, behind
a plus sign or not, and does not pass the bound (`readCount_eq_ok_iff`).

Zeros in front of a number do not change it, and fill it up to a width that it does not pass.
-/

namespace MountOwnership.Text

variable {bound n value : Nat} {cs : List Char}

/-- Digits behind a number make it no smaller. -/
lemma le_ofDigitChars (value : Nat) (cs : List Char) : value ≤ Nat.ofDigitChars 10 cs value := by
  induction cs generalizing value with
  | nil => exact Nat.le_refl value
  | cons c cs ih =>
    rw [Nat.ofDigitChars_cons]
    have hfirst : value ≤ 10 * value + (c.toNat - '0'.toNat) := by omega
    exact Nat.le_trans hfirst (ih _)

/-- Digits are read as the number they stand for. -/
lemma readDigits_of_isDigit (hdigit : ∀ c ∈ cs, c.isDigit = true)
    (hbound : Nat.ofDigitChars 10 cs value ≤ bound) :
    readDigits bound value cs = .ok (Nat.ofDigitChars 10 cs value) := by
  induction cs generalizing value with
  | nil => rfl
  | cons c cs ih =>
    rw [Nat.ofDigitChars_cons, Nat.mul_comm] at hbound ⊢
    have hc : digit? c = some (c.toNat - '0'.toNat) := if_pos (hdigit c List.mem_cons_self)
    have hfirst : value * 10 + (c.toNat - '0'.toNat) ≤ bound :=
      Nat.le_trans (le_ofDigitChars _ cs) hbound
    simp only [readDigits, hc, if_pos hfirst]
    exact ih (fun c' hc' => hdigit c' (List.mem_cons_of_mem _ hc')) hbound

/-- Some digits are a count. -/
lemma readCount_of_isDigit (hne : cs ≠ []) (hdigit : ∀ c ∈ cs, c.isDigit = true)
    (hbound : Nat.ofDigitChars 10 cs 0 ≤ bound) :
    readCount bound cs = .ok (Nat.ofDigitChars 10 cs 0) := by
  cases cs with
  | nil => exact absurd rfl hne
  | cons c cs =>
    have hplus : c ≠ '+' := by
      rintro rfl
      exact absurd (hdigit '+' List.mem_cons_self) (by decide)
    have hread : readCount bound (c :: cs) = readDigits bound 0 (c :: cs) := by
      unfold readCount
      split
      · next hcs => exact absurd hcs (List.cons_ne_nil c cs)
      · next hcs => exact absurd (List.cons.inj hcs).1 hplus
      · next hcs => exact absurd (List.cons.inj hcs).1 hplus
      · rfl
    exact hread.trans (readDigits_of_isDigit hdigit hbound)

/-- A number of 64 bits is read as it was written. -/
theorem readWord_toString (h : n ≤ wordBound) : readWord (toString n) = .ok n := by
  have hdigits : (toString n).toList = Nat.toDigits 10 n := Nat.toList_repr
  have hvalue : Nat.ofDigitChars 10 (Nat.toDigits 10 n) 0 = n := Nat.ofDigitChars_ten_toDigits
  have hread : readCount wordBound (Nat.toDigits 10 n) =
      .ok (Nat.ofDigitChars 10 (Nat.toDigits 10 n) 0) :=
    readCount_of_isDigit Nat.toDigits_ne_nil
      (fun c hc => Nat.isDigit_of_mem_toDigits (by decide) (by decide) hc)
      (Nat.le_trans (Nat.le_of_eq hvalue) h)
  rw [readWord, hdigits, hread, hvalue]

/-! ### What is a count -/

/-- What is read as a number is made of digits that stand for it. -/
lemma isDigit_of_readDigits (hvalue : value ≤ bound) (h : readDigits bound value cs = .ok n) :
    (∀ c ∈ cs, c.isDigit = true) ∧ Nat.ofDigitChars 10 cs value = n ∧ n ≤ bound := by
  induction cs generalizing value with
  | nil =>
    obtain rfl := Except.ok.inj h
    exact ⟨by simp, rfl, hvalue⟩
  | cons c cs ih =>
    rw [readDigits, digit?] at h
    by_cases hc : c.isDigit = true
    · rw [if_pos hc] at h
      by_cases hnext : value * 10 + (c.toNat - '0'.toNat) ≤ bound
      · simp only [if_pos hnext] at h
        obtain ⟨hdigit, hn, hbound⟩ := ih hnext h
        rw [Nat.ofDigitChars_cons, Nat.mul_comm]
        exact ⟨List.forall_mem_cons.mpr ⟨hc, hdigit⟩, hn, hbound⟩
      · simp only [if_neg hnext] at h
        cases h
    · rw [if_neg hc] at h
      cases h

/-- A text that writes a number in decimal digits, with or without a plus sign in front. -/
def IsDecimal (cs : List Char) (n : ℕ) : Prop :=
  ∃ digits : List Char, (cs = digits ∨ cs = '+' :: digits) ∧ digits ≠ [] ∧
    (∀ c ∈ digits, c.isDigit = true) ∧ Nat.ofDigitChars 10 digits 0 = n

/-- **Counts.**  A text is a count exactly if it writes a number that does not pass the bound. -/
theorem readCount_eq_ok_iff : readCount bound cs = .ok n ↔ IsDecimal cs n ∧ n ≤ bound := by
  constructor
  · intro h
    unfold readCount at h
    split at h
    · cases h
    · cases h
    · next digits hne =>
      obtain ⟨hdigit, hn, hbound⟩ := isDigit_of_readDigits (Nat.zero_le bound) h
      refine ⟨⟨digits, Or.inr rfl, ?_, hdigit, hn⟩, hbound⟩
      rintro rfl
      exact hne rfl
    · next hne _ _ =>
      obtain ⟨hdigit, hn, hbound⟩ := isDigit_of_readDigits (Nat.zero_le bound) h
      exact ⟨⟨cs, Or.inl rfl, hne, hdigit, hn⟩, hbound⟩
  · rintro ⟨⟨digits, rfl | rfl, hne, hdigit, rfl⟩, hbound⟩
    · exact readCount_of_isDigit hne hdigit hbound
    · have hplus : readCount bound ('+' :: digits) = readDigits bound 0 digits := by
        cases digits with
        | nil => exact absurd rfl hne
        | cons c cs => rfl
      exact hplus.trans (readDigits_of_isDigit hdigit hbound)

/-! ### Zeros in front -/

variable {width : Nat}

/-- A padded number has only digits. -/
lemma isDigit_of_mem_padded {c : Char} (h : c ∈ padded width n) : c.isDigit = true := by
  rcases List.mem_append.mp h with hzero | hdigit
  · rw [List.eq_of_mem_replicate hzero]
    rfl
  · exact Nat.isDigit_of_mem_toDigits (by decide) (by decide) hdigit

/-- Zeros in front do not change a number. -/
lemma ofDigitChars_padded (width n : Nat) : Nat.ofDigitChars 10 (padded width n) 0 = n := by
  unfold padded
  rw [Nat.ofDigitChars_append, Nat.ofDigitChars_replicate_zero, Nat.mul_zero,
    Nat.ofDigitChars_ten_toDigits]

/-- A padded number has at least the width that is asked for. -/
lemma le_length_padded (width n : Nat) : width ≤ (padded width n).length := by
  unfold padded
  rw [List.length_append, List.length_replicate]
  omega

/-- A number that has no more digits is filled up to the width. -/
lemma length_padded (hwidth : 0 < width) (h : n < 10 ^ width) :
    (padded width n).length = width := by
  have hdigits : (Nat.toDigits 10 n).length ≤ width :=
    (Nat.length_toDigits_le_iff (by decide) hwidth).mpr h
  unfold padded
  rw [List.length_append, List.length_replicate]
  omega

end MountOwnership.Text
