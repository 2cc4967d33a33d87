import MountOwnership.Proofs.Time.Written
import MountOwnership.Watermark

/-!
# What the watermark compares

The creation time of an object is read from its written form.  That is the start of the second in
which the object was created, if the year has four digits (`Metadata.creationTime_by_seconds`).  The
start of the controller keeps its fraction.  As the start of a second comes after another instant
exactly if that one lies in an earlier second, an object is newer than the controller exactly if
it was created in a later second (`Metadata.isCreatedAfter_by_seconds`).
-/

namespace MountOwnership

open Time

/-- To be new since a start is to come after it. -/
lemma isNewSince_iff {creation start : Instant} : isNewSince creation start = true ↔
    start < creation := Instant.before_iff_lt

namespace Sample

/-- An instant of the last second of a minute, or of the leap second after it. -/
def minuteEnd (minute : ℤ) (nano : ℕ) (h : nano < 2 * nanosPerSecond) : Instant where
  second := minute * 60 + 59
  nano := nano
  nano_lt := h
  leap_last _ := by omega

/-- The metadata of an object that was created at an instant. -/
def createdAt (t : Instant) : Metadata := { creationTimestamp := some t }

end Sample

namespace Metadata

variable {m : Metadata} {t : Instant}

/-! ### The creation time -/

/-- Without a timestamp there is no creation time. -/
lemma creationTime?_of_none (h : m.creationTimestamp = none) : m.creationTime? = none := by
  unfold creationTime?
  rw [h]
  rfl

/-- The creation time is the second of the timestamp, if its year has four digits. -/
lemma creationTime?_of_some (h : m.creationTimestamp = some t) :
    m.creationTime? = if t.HasPlainYear then some t.floorSecond else none := by
  unfold creationTime?
  rw [h, Option.bind_some, Instant.parse?_render]

/-- What is read is in a year that can be read again, and a start of a second. -/
lemma creationTime?_creationTime? (m : Metadata) :
    { m with creationTimestamp := m.creationTime? }.creationTime? = m.creationTime? := by
  cases hread : m.creationTime? with
  | none => exact creationTime?_of_none rfl
  | some c =>
    cases hcreated : m.creationTimestamp with
    | none => exact nomatch hread.symm.trans (creationTime?_of_none hcreated)
    | some t =>
      rw [creationTime?_of_some hcreated] at hread
      by_cases hyear : t.HasPlainYear
      · rw [if_pos hyear] at hread
        obtain rfl := Option.some.inj hread
        have hyear' : t.floorSecond.HasPlainYear := hyear
        rw [creationTime?_of_some rfl, if_pos hyear', Instant.floorSecond_floorSecond]
      · rw [if_neg hyear] at hread
        exact nomatch hread

/-- **Creation times.**  The creation time of an object is read with its fraction of a second
dropped, a leap second staying one, if its year has four digits, and as none otherwise, as it is
without one.  What was read is read as it is.  No creation time is read as a later one, and none
that is read changes places with another. -/
theorem creationTime_by_seconds (m : Metadata) :
    (m.creationTimestamp = none → m.creationTime? = none) ∧
    (∀ t, m.creationTimestamp = some t → ¬ t.HasPlainYear → m.creationTime? = none) ∧
    (∀ t, m.creationTimestamp = some t → t.HasPlainYear → ∃ c, m.creationTime? = some c ∧
      c.second = t.second ∧ c.isLeap = t.isLeap ∧ c.nano % nanosPerSecond = 0) ∧
    { m with creationTimestamp := m.creationTime? }.creationTime? = m.creationTime? ∧
    (∀ t c, m.creationTimestamp = some t → m.creationTime? = some c → c ≤ t) ∧
    ∀ (m' : Metadata) (t t' : Instant), m.creationTimestamp = some t →
      m'.creationTimestamp = some t' → t.HasPlainYear → t'.HasPlainYear → t ≤ t' →
      ∃ c c', m.creationTime? = some c ∧ m'.creationTime? = some c' ∧ c ≤ c' := by
  refine ⟨creationTime?_of_none, ?_, ?_, creationTime?_creationTime? m, ?_, ?_⟩
  · intro t hcreated hyear
    rw [creationTime?_of_some hcreated, if_neg hyear]
  · intro t hcreated hyear
    refine ⟨t.floorSecond, ?_, rfl, t.isLeap_floorSecond, t.nano_floorSecond_mod⟩
    rw [creationTime?_of_some hcreated, if_pos hyear]
  · intro t c hcreated hread
    rw [creationTime?_of_some hcreated] at hread
    obtain ⟨_, hread⟩ := Option.ite_none_right_eq_some.mp hread
    obtain rfl := Option.some.inj hread
    exact t.floorSecond_le
  · intro m' t t' hcreated hcreated' hyear hyear' hle
    refine ⟨t.floorSecond, t'.floorSecond, ?_, ?_, ?_⟩
    · rw [creationTime?_of_some hcreated, if_pos hyear]
    · rw [creationTime?_of_some hcreated', if_pos hyear']
    · exact Instant.floorSecond_le_floorSecond_iff.mpr (Instant.utcSecond_mono hle)

/-- Half a second into the leap second of 2016 is read as its start, which comes after the second
before; a creation time in the year 10000 is not read. -/
theorem creationTime_by_seconds_leap :
    let t := Sample.minuteEnd 24720479 1500000000 (by decide)
    let earlier := Sample.minuteEnd 24720479 999999999 (by decide)
    let unread := Sample.minuteEnd 4223371680 0 (by decide)
    (∃ c, (Sample.createdAt t).creationTime? = some c ∧ c.second = 1483228799 ∧ c.isLeap = true ∧
      c.nano % nanosPerSecond = 0 ∧ c ≤ t ∧
      ∃ c', (Sample.createdAt earlier).creationTime? = some c' ∧ c' ≤ c) ∧
    (Sample.createdAt unread).creationTime? = none := by
  intro t earlier unread
  have hyear : t.HasPlainYear := by decide
  have hyear' : earlier.HasPlainYear := by decide
  have hnot : ¬ unread.HasPlainYear := by decide
  have hle : earlier ≤ t := Instant.le_iff.mpr (Or.inr ⟨rfl, by decide⟩)
  obtain ⟨_, _, hread, _, hnotLater, _⟩ := creationTime_by_seconds (Sample.createdAt t)
  obtain ⟨c, hc, hsecond, hleap, hnano⟩ := hread t rfl hyear
  obtain ⟨_, _, _, _, _, hmono⟩ := creationTime_by_seconds (Sample.createdAt earlier)
  obtain ⟨c', c₁, hc', hc₁, hle'⟩ := hmono (Sample.createdAt t) earlier t rfl rfl hyear' hyear hle
  obtain rfl : c₁ = c := Option.some.inj (hc₁.symm.trans hc)
  exact ⟨⟨c₁, hc, hsecond, hleap, hnano, hnotLater t c₁ rfl hc, c', hc', hle'⟩,
    (creationTime_by_seconds (Sample.createdAt unread)).2.1 _ rfl hnot⟩

/-! ### The comparison -/

/-- An object is newer than a start if it has a creation time and that is after the start. -/
lemma isCreatedAfter_iff {start : Instant} : m.isCreatedAfter start = true ↔
    ∃ created, m.creationTime? = some created ∧ start < created := by
  unfold isCreatedAfter
  simp only [Option.any_eq_true, isNewSince_iff]

/-- An object is newer than the start exactly if it was created in a later second. -/
lemma isCreatedAfter_iff_second {start : Instant} (h : m.creationTimestamp = some t)
    (hyear : t.HasPlainYear) :
    m.isCreatedAfter start = true ↔ start.utcSecond < t.utcSecond := by
  rw [isCreatedAfter_iff, creationTime?_of_some h, if_pos hyear, ← Instant.lt_floorSecond_iff]
  simp only [Option.some.injEq, exists_eq_left']

/-- **Whole seconds.**  An object with a creation time in a year of four digits is newer than the
start of the controller exactly if it was created in a later second.  So it is not if it was
created at the start or before, starts in the same second make no difference, and if it was
created after the start but in the same second, it counts as older. -/
theorem isCreatedAfter_by_seconds (h : m.creationTimestamp = some t) (hyear : t.HasPlainYear) :
    (∀ start, m.isCreatedAfter start = true ↔ start.utcSecond < t.utcSecond) ∧
    (∀ start, t ≤ start → m.isCreatedAfter start = false) ∧
    (∀ start start' : Instant, start.utcSecond = start'.utcSecond →
      m.isCreatedAfter start = m.isCreatedAfter start') ∧
    ∀ start, start < t → start.utcSecond = t.utcSecond → m.isCreatedAfter start = false := by
  refine ⟨fun start => isCreatedAfter_iff_second h hyear, ?_, ?_, ?_⟩
  · intro start hle
    rw [← Bool.not_eq_true, isCreatedAfter_iff_second h hyear, not_lt]
    exact Instant.utcSecond_mono hle
  · intro start start' hsame
    rw [Bool.eq_iff_iff, isCreatedAfter_iff_second h hyear, isCreatedAfter_iff_second h hyear,
      hsame]
  · intro start _ hsame
    rw [← Bool.not_eq_true, isCreatedAfter_iff_second h hyear, hsame]
    exact lt_irrefl _

/-- An object created half a second into the leap second of 2016 is newer than a start right before
the leap second, and older than a start within it. -/
theorem isCreatedAfter_by_seconds_leap :
    let t := Sample.minuteEnd 24720479 1500000000 (by decide)
    let m := Sample.createdAt t
    m.isCreatedAfter (Sample.minuteEnd 24720479 999999999 (by decide)) = true ∧
      m.isCreatedAfter (Sample.minuteEnd 24720479 1200000000 (by decide)) = false ∧
      m.isCreatedAfter t = false := by
  intro t m
  have hcreated : m.creationTimestamp = some t := rfl
  have hyear : t.HasPlainYear := by decide
  have hlater : (Sample.minuteEnd 24720479 999999999 (by decide)).utcSecond < t.utcSecond :=
    Instant.utcSecond_lt_iff.mpr (Or.inr ⟨rfl, by decide⟩)
  have hsecond : (Sample.minuteEnd 24720479 1200000000 (by decide)).utcSecond = t.utcSecond := by
    decide
  have hlt : Sample.minuteEnd 24720479 1200000000 (by decide) < t :=
    Instant.lt_iff.mpr (Or.inr ⟨rfl, by decide⟩)
  obtain ⟨hnewer, hbefore, _, hsame⟩ := isCreatedAfter_by_seconds hcreated hyear
  exact ⟨(hnewer _).mpr hlater, hsame _ hlt hsecond, hbefore t le_rfl⟩

end Metadata

end MountOwnership
