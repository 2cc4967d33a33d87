import MountOwnership.Proofs.Text.Decimal
import MountOwnership.Proofs.Time.Calendar
import MountOwnership.Proofs.Time.Order

/-!
# Instants that are written and read

An instant is written as the fields of its day and of its time of day, and what is read from them
is the start of its second again (`Instant.parse?_render`): the day of a number of days has that
number, and a second numbered 60 is read as the leap second that it was written for.  A year that
is written with a sign is not read, as its fifth character is a digit and not the hyphen after a
year.
-/

namespace MountOwnership.Time.Instant

/-- The year is written in four digits, without a sign. -/
def HasPlainYear (t : Instant) : Prop := 0 ≤ t.year ∧ t.year ≤ 9999

instance (t : Instant) : Decidable t.HasPlainYear := inferInstanceAs (Decidable (_ ∧ _))

/-! ### Fields -/

/-- Digits are read as the number they stand for. -/
lemma digits?_of_isDigit {cs : List Char} (h : ∀ c ∈ cs, c.isDigit = true) :
    digits? cs = some (Nat.ofDigitChars 10 cs 0) := by
  have hread : ∀ value, cs.foldlM (fun n c => (Text.digit? c).map (n * 10 + ·)) value =
      some (Nat.ofDigitChars 10 cs value) := by
    induction cs with
    | nil => exact fun value => rfl
    | cons c cs ih =>
      intro value
      have hc : Text.digit? c = some (c.toNat - '0'.toNat) := if_pos (h c List.mem_cons_self)
      rw [List.foldlM_cons, hc, Nat.ofDigitChars_cons, Nat.mul_comm]
      exact ih (fun c' hc' => h c' (List.mem_cons_of_mem _ hc')) _
  cases cs with
  | nil => rfl
  | cons c cs => exact hread 0

/-- A padded number is read back. -/
lemma digits?_padded (width n : ℕ) : digits? (Text.padded width n) = some n := by
  rw [digits?_of_isDigit fun c hc => Text.isDigit_of_mem_padded hc, Text.ofDigitChars_padded]

/-- A number below a hundred is written in two digits, and read back. -/
lemma exists_padded_two {n : ℕ} (h : n < 100) :
    ∃ a b, Text.padded 2 n = [a, b] ∧ digits? [a, b] = some n := by
  have hlength : (Text.padded 2 n).length = 2 := Text.length_padded (by decide) h
  match hcs : Text.padded 2 n, hlength with
  | [a, b], _ => exact ⟨a, b, rfl, hcs ▸ digits?_padded 2 n⟩

/-- A year of four digits is read back. -/
lemma exists_renderYear {year : ℤ} (h : 0 ≤ year ∧ year ≤ 9999) :
    ∃ a b c d, renderYear year = [a, b, c, d] ∧ digits? [a, b, c, d] = some year.toNat := by
  have hyear : renderYear year = Text.padded 4 year.toNat := if_pos h
  have hlength : (Text.padded 4 year.toNat).length = 4 :=
    Text.length_padded (by decide) (by omega)
  match hcs : Text.padded 4 year.toNat, hlength with
  | [a, b, c, d], _ => exact ⟨a, b, c, d, hyear.trans hcs, hcs ▸ digits?_padded 4 year.toNat⟩

/-- Any other year begins with a sign and four digits. -/
lemma exists_renderYear_of_not {year : ℤ} (h : ¬ (0 ≤ year ∧ year ≤ 9999)) :
    ∃ sign a b c d rest, renderYear year = sign :: a :: b :: c :: d :: rest ∧ d ≠ '-' := by
  have hyear : renderYear year =
      (if year < 0 then '-' else '+') :: Text.padded 4 year.natAbs := if_neg h
  have hdigit : ∀ c ∈ Text.padded 4 year.natAbs, c.isDigit = true :=
    fun c hc => Text.isDigit_of_mem_padded hc
  have hlength : 4 ≤ (Text.padded 4 year.natAbs).length := Text.le_length_padded 4 _
  match hcs : Text.padded 4 year.natAbs, hlength with
  | a :: b :: c :: d :: rest, _ =>
    refine ⟨_, a, b, c, d, rest, hyear.trans (by rw [hcs]), ?_⟩
    rintro rfl
    exact absurd (hdigit '-' (by simp [hcs])) (by decide)

/-! ### The time of day -/

/-- The second of the day that an instant lies in. -/
def secondOfDay (t : Instant) : ℕ := (t.second % 86400).toNat

/-- The number of that second in its minute, as it is written. -/
def secondOfMinute (t : Instant) : ℕ := if t.isLeap then 60 else t.secondOfDay % 60

/-- A day has 86400 seconds. -/
lemma secondOfDay_lt (t : Instant) : t.secondOfDay < 86400 := by
  unfold secondOfDay
  omega

/-- The written form of an instant: date and time of day in UTC, with whole seconds. -/
lemma renderChars_eq (t : Instant) : t.renderChars =
    renderYear t.year ++ '-' :: Text.padded 2 t.date.month ++ '-' :: Text.padded 2 t.date.day ++
      'T' :: Text.padded 2 (t.secondOfDay / 3600) ++
      ':' :: Text.padded 2 (t.secondOfDay / 60 % 60) ++
      ':' :: Text.padded 2 t.secondOfMinute ++ ['Z'] := rfl

/-! ### What is read -/

/-- Months and days have two digits. -/
lemma date_lt (t : Instant) : t.date.month < 100 ∧ t.date.day < 100 := by
  have hvalid := Date.isValid_ofDays (t.second / 86400)
  unfold Date.isValid at hvalid
  rw [decide_eq_true_iff] at hvalid
  have hlength : Date.daysInMonth t.date.year t.date.month ≤ 31 := by
    unfold Date.daysInMonth
    split_ifs <;> decide
  unfold date at *
  omega

/-- The fields of an instant are read as they were written. -/
lemma parseChars?_renderChars {t : Instant} (h : t.HasPlainYear) :
    parseChars? t.renderChars = ofFields? t.date (t.secondOfDay / 3600) (t.secondOfDay / 60 % 60)
      t.secondOfMinute 0 0 := by
  have hday := t.secondOfDay_lt
  have hsecond : t.secondOfMinute < 100 := by
    unfold secondOfMinute
    split <;> omega
  obtain ⟨y1, y2, y3, y4, hyear, hyear'⟩ := exists_renderYear h
  obtain ⟨mo1, mo2, hmonth, hmonth'⟩ := exists_padded_two t.date_lt.1
  obtain ⟨d1, d2, hday, hday'⟩ := exists_padded_two t.date_lt.2
  obtain ⟨h1, h2, hhour, hhour'⟩ := exists_padded_two (n := t.secondOfDay / 3600) (by omega)
  obtain ⟨mi1, mi2, hminute, hminute'⟩ :=
    exists_padded_two (n := t.secondOfDay / 60 % 60) (by omega)
  obtain ⟨s1, s2, hsecond, hsecond'⟩ := exists_padded_two hsecond
  have hdate : (⟨t.year.toNat, t.date.month, t.date.day⟩ : Date) = t.date := by
    rw [Int.toNat_of_nonneg h.1]
    rfl
  rw [renderChars_eq, hyear, hmonth, hday, hhour, hminute, hsecond, ← hdate]
  simp [parseChars?, hyear', hmonth', hday', hhour', hminute', hsecond', tail?, offset?]

/-- A year that is written with a sign is not read. -/
lemma parseChars?_renderChars_of_not {t : Instant} (h : ¬ t.HasPlainYear) :
    parseChars? t.renderChars = none := by
  obtain ⟨sign, a, b, c, d, rest, hyear, hd⟩ := exists_renderYear_of_not h
  rw [renderChars_eq, hyear]
  unfold parseChars?
  split
  · next heq =>
    -- the fifth character would have to be the hyphen
    have hhyphen : d = '-' := by simp_all only [List.cons_append, List.cons.injEq]
    exact absurd hhyphen hd
  · rfl

/-- The second of an instant is made up of its day and its time of day. -/
lemma second_eq (t : Instant) : t.second = t.date.toDays * 86400 +
    (t.secondOfDay / 3600 : ℕ) * 3600 + (t.secondOfDay / 60 % 60 : ℕ) * 60 +
      (t.secondOfDay % 60 : ℕ) := by
  have hday : t.date.toDays = t.second / 86400 := Date.toDays_ofDays _
  rw [hday]
  unfold secondOfDay
  omega

/-- The fields of an instant are those of the start of its second. -/
lemma ofFields?_eq_floorSecond (t : Instant) :
    ofFields? t.date (t.secondOfDay / 3600) (t.secondOfDay / 60 % 60) t.secondOfMinute 0 0 =
      some t.floorSecond := by
  have hvalid : t.date.isValid = true := Date.isValid_ofDays _
  have hday := t.secondOfDay_lt
  have hsecond := t.second_eq
  have hfields : t.date.isValid = true ∧ t.secondOfDay / 3600 ≤ 23 ∧ t.secondOfDay / 60 % 60 ≤ 59 :=
    ⟨hvalid, by omega, by omega⟩
  unfold ofFields?
  rw [if_pos hfields]
  by_cases hleap : nanosPerSecond ≤ t.nano
  · have hnumber : t.secondOfMinute = 60 := if_pos (decide_eq_true hleap)
    have hnot : ¬ (t.secondOfMinute ≤ 59 ∧ 0 < nanosPerSecond) := by omega
    have hnano : t.floorSecond.nano = nanosPerSecond := if_pos hleap
    have hlast : t.secondOfDay % 60 = 59 := by
      have hminute := t.leap_last hleap
      unfold secondOfDay
      omega
    dsimp only
    rw [dif_neg hnot, dif_pos ⟨hnumber, nanosPerSecond_pos⟩]
    refine congrArg some (eq_of_second_nano ?_ ((Nat.zero_add _).trans hnano.symm))
    change _ = t.second
    dsimp only
    omega
  · have hnumber : t.secondOfMinute = t.secondOfDay % 60 := if_neg (by simpa [isLeap] using hleap)
    have hnano : t.floorSecond.nano = 0 := if_neg hleap
    have hlast : t.secondOfMinute ≤ 59 := by omega
    dsimp only
    rw [dif_pos ⟨hlast, nanosPerSecond_pos⟩]
    refine congrArg some (eq_of_second_nano ?_ hnano.symm)
    change _ = t.second
    dsimp only
    omega

/-- An instant is read as the start of its second, and as nothing if its year has a sign. -/
theorem parse?_render (t : Instant) :
    parse? t.render = if t.HasPlainYear then some t.floorSecond else none := by
  unfold parse? render
  rw [String.toList_ofList]
  split
  · next h => rw [parseChars?_renderChars h, ofFields?_eq_floorSecond]
  · next h => exact parseChars?_renderChars_of_not h

end MountOwnership.Time.Instant
