import Mathlib.Tactic.Common
import Mathlib.Tactic.IntervalCases
import MountOwnership.Time.Calendar

/-!
# The days of the calendar

Every number of days is the number of its day of the calendar (`Date.toDays_ofDays`), and that
day is one that the calendar has (`Date.isValid_ofDays`).

The days of an era are split into centuries, cycles of four years, years and days.  A leap day is
the last day of a year that begins in March, so each of these has as many days as the one before
it, apart from the last one of its kind: the last year of a cycle has one day more, the last cycle
of a century one less, and the last century of an era one more.
-/

namespace MountOwnership.Time.Date

/-! ### Years that begin in March -/

/-- The days of an era before one of its years. -/
def daysBeforeYear (yearOfEra : ℤ) : ℤ := 365 * yearOfEra + yearOfEra / 4 - yearOfEra / 100

/-- Where a day of an era falls. -/
structure Split (dayOfEra : ℤ) where
  /-- The century. -/
  century : ℤ
  /-- The four years of the century. -/
  cycle : ℤ
  /-- The year of the four. -/
  year : ℤ
  /-- The day of the year. -/
  day : ℤ
  century_mem : 0 ≤ century ∧ century ≤ 3
  cycle_mem : 0 ≤ cycle ∧ cycle ≤ 24
  year_mem : 0 ≤ year ∧ year ≤ 3
  day_mem : 0 ≤ day ∧ day ≤ 365
  /-- Only the last year of a cycle has a leap day, and where the cycle is the last one of its
  century, only in the last century. -/
  leap : day = 365 → year = 3 ∧ (cycle = 24 → century = 3)
  eq_add : dayOfEra = 36524 * century + 1461 * cycle + 365 * year + day

/-- The days that are left over count for the last century and the last year of a cycle. -/
lemma nonempty_split {dayOfEra : ℤ} (h : 0 ≤ dayOfEra) (h' : dayOfEra < 146097) :
    Nonempty (Split dayOfEra) := by
  obtain ⟨q, hq⟩ : ∃ q, q = min (dayOfEra / 36524) 3 := ⟨_, rfl⟩
  obtain ⟨k, hk⟩ : ∃ k, k = (dayOfEra - 36524 * q) / 1461 := ⟨_, rfl⟩
  obtain ⟨j, hj⟩ : ∃ j, j = min ((dayOfEra - 36524 * q - 1461 * k) / 365) 3 := ⟨_, rfl⟩
  refine ⟨⟨q, k, j, dayOfEra - 36524 * q - 1461 * k - 365 * j, ?_, ?_, ?_, ?_, ?_, ?_⟩⟩
  all_goals omega

namespace Split

variable {dayOfEra : ℤ} (s : Split dayOfEra)

/-- The year of the era. -/
def yearOfEra : ℤ := 100 * s.century + 4 * s.cycle + s.year

/-- An era has four hundred years. -/
lemma yearOfEra_mem : 0 ≤ s.yearOfEra ∧ s.yearOfEra ≤ 399 := by
  have hcentury := s.century_mem
  have hcycle := s.cycle_mem
  have hyear := s.year_mem
  unfold yearOfEra
  omega

/-- A day of an era is one of the days of its year. -/
lemma eq_daysBeforeYear_add : dayOfEra = daysBeforeYear s.yearOfEra + s.day := by
  have hcycle := s.cycle_mem
  have hyear := s.year_mem
  have hsum := s.eq_add
  unfold daysBeforeYear yearOfEra
  omega

/-- An era has one day more than four centuries of 36524 days have, its last one. -/
lemma century_eq : dayOfEra / 36524 - dayOfEra / 146096 = s.century := by
  have hcentury := s.century_mem
  have hcycle := s.cycle_mem
  have hyear := s.year_mem
  have hday := s.day_mem
  have hleap := s.leap
  have hsum := s.eq_add
  by_cases hlast : s.day = 365 ∧ s.cycle = 24
  · obtain ⟨hyear3, hcentury3⟩ := hleap hlast.1
    have hdayOfEra : dayOfEra = 146096 := by omega
    rw [hcentury3 hlast.2, hdayOfEra]
    decide
  · have hlt : 1461 * s.cycle + 365 * s.year + s.day < 36524 := by omega
    have hquotient : dayOfEra / 36524 = s.century := by omega
    have hera : dayOfEra / 146096 = 0 := by omega
    omega

/-- Without the leap days before it, a day is that many years of 365 days after the start of the
era. -/
lemma yearOfEra_eq : (dayOfEra - dayOfEra / 1460 + dayOfEra / 36524 - dayOfEra / 146096) / 365 =
    s.yearOfEra := by
  have hcentury := s.century_mem
  have hcycle := s.cycle_mem
  have hyear := s.year_mem
  have hday := s.day_mem
  have hleap := s.leap
  have hsum := s.eq_add
  have hcenturies := s.century_eq
  -- a day counts as a leap day if it is late enough in its cycle, and then it is not the first
  -- one of its year
  have hcycles : dayOfEra / 1460 = 25 * s.century + s.cycle +
      (24 * s.century + s.cycle + 365 * s.year + s.day) / 1460 := by omega
  have hrest : 0 ≤ s.day - (24 * s.century + s.cycle + 365 * s.year + s.day) / 1460 ∧
      s.day - (24 * s.century + s.cycle + 365 * s.year + s.day) / 1460 ≤ 364 := by omega
  unfold yearOfEra
  omega

end Split

/-! ### Days of a year -/

/-- The number of the first of March of a year. -/
def marchStart (year : ℤ) : ℤ := year / 400 * 146097 + daysBeforeYear (year % 400) - 719468

/-- The day of a year that begins in March, by its number. -/
def ofMarch (year day : ℤ) : Date :=
  let monthFromMarch := (5 * day + 2) / 153
  { year := if monthFromMarch < 10 then year else year + 1
    month := (if monthFromMarch < 10 then monthFromMarch + 3 else monthFromMarch - 9).toNat
    day := (day - (153 * monthFromMarch + 2) / 5 + 1).toNat }

/-- A year that begins in March has this day. -/
structure HasDay (year day : ℤ) : Prop where
  mem : 0 ≤ day ∧ day ≤ 365
  /-- The leap day is in February, so in the year that ends. -/
  leap : day = 365 → isLeapYear (year + 1) = true

/-- The rule for leap years of the Gregorian calendar. -/
lemma isLeapYear_iff {year : ℤ} :
    isLeapYear year = true ↔ year % 4 = 0 ∧ (year % 100 ≠ 0 ∨ year % 400 = 0) := by
  simp [isLeapYear]

/-- The day of a split is a day of its year, in every era. -/
lemma Split.hasDay {dayOfEra : ℤ} (s : Split dayOfEra) (era : ℤ) :
    HasDay (s.yearOfEra + era * 400) s.day where
  mem := s.day_mem
  leap hday := by
    have hcycle := s.cycle_mem
    have hleap := s.leap hday
    rw [isLeapYear_iff]
    unfold yearOfEra
    omega

/-- Every number of days is the one of a day of a year. -/
lemma exists_ofDays_eq (days : ℤ) : ∃ year day, HasDay year day ∧
    days = marchStart year + day ∧ ofDays days = ofMarch year day := by
  obtain ⟨era, hera⟩ : ∃ era, era = (days + 719468) / 146097 := ⟨_, rfl⟩
  obtain ⟨dayOfEra, hdayOfEra⟩ : ∃ d, d = (days + 719468) % 146097 := ⟨_, rfl⟩
  have hmem : 0 ≤ dayOfEra ∧ dayOfEra < 146097 := by omega
  obtain ⟨s⟩ := nonempty_split hmem.1 hmem.2
  have hyear := s.yearOfEra_mem
  have hadd := s.eq_daysBeforeYear_add
  refine ⟨s.yearOfEra + era * 400, s.day, s.hasDay era, ?_, ?_⟩
  · have hquotient : (s.yearOfEra + era * 400) / 400 = era := by omega
    have hrest : (s.yearOfEra + era * 400) % 400 = s.yearOfEra := by omega
    unfold marchStart
    rw [hquotient, hrest]
    omega
  · have hday : dayOfEra - (365 * s.yearOfEra + s.yearOfEra / 4 - s.yearOfEra / 100) = s.day := by
      unfold daysBeforeYear at hadd
      omega
    have hmonth := s.day_mem
    unfold ofDays ofMarch
    simp only [← hera, ← hdayOfEra, s.yearOfEra_eq, hday]
    congr 1
    split <;> split <;> omega

variable {year day : ℤ}

/-- The number of a day of a year. -/
lemma toDays_ofMarch (h : HasDay year day) : (ofMarch year day).toDays = marchStart year + day := by
  have hmem := h.mem
  unfold toDays ofMarch marchStart daysBeforeYear
  dsimp only
  split
  · omega
  · omega

/-- The months from March on, February apart, have their days between their first days. -/
lemma daysInMonth_fromMarch (year m : ℤ) (h : 0 ≤ m) (h' : m ≤ 10) :
    (daysInMonth year (if m < 10 then m + 3 else m - 9).toNat : ℤ) =
      (153 * (m + 1) + 2) / 5 - (153 * m + 2) / 5 := by
  interval_cases m
  all_goals rfl

/-- A day of a year is one that the calendar has. -/
lemma isValid_ofMarch (h : HasDay year day) : (ofMarch year day).isValid = true := by
  have hmem := h.mem
  unfold isValid ofMarch
  rw [decide_eq_true_iff]
  dsimp only
  generalize hm : (5 * day + 2) / 153 = m
  by_cases hfebruary : m = 11
  · subst hfebruary
    have hlength : daysInMonth (year + 1) (11 - 9 : ℤ).toNat =
        if isLeapYear (year + 1) then 29 else 28 := rfl
    rw [if_neg (by decide), if_neg (by decide), hlength]
    cases hleap : isLeapYear (year + 1) with
    | true =>
      rw [if_pos rfl]
      omega
    | false =>
      have hne : day ≠ 365 := fun heq => Bool.false_ne_true (hleap.symm.trans (h.leap heq))
      rw [if_neg Bool.false_ne_true]
      omega
  · -- the day lies between the first day of its month and that of the next
    have hm0 : 0 ≤ m := by omega
    have hm10 : m ≤ 10 := by omega
    have hlength := daysInMonth_fromMarch (if m < 10 then year else year + 1) m hm0 hm10
    split at hlength <;> split <;> omega

/-! ### Days and their numbers -/

/-- The day of a number of days has that number. -/
theorem toDays_ofDays (days : ℤ) : (ofDays days).toDays = days := by
  obtain ⟨year, day, hday, hdays, heq⟩ := exists_ofDays_eq days
  rw [heq, toDays_ofMarch hday, hdays]

/-- The day of a number of days is one that the calendar has. -/
theorem isValid_ofDays (days : ℤ) : (ofDays days).isValid = true := by
  obtain ⟨year, day, hday, _, heq⟩ := exists_ofDays_eq days
  rw [heq]
  exact isValid_ofMarch hday

end MountOwnership.Time.Date
