import Mathlib.Tactic.IntervalCases
import RemoteRecorder.Instant

/-!
# RemoteRecorder.Proofs.Instant.Calendar

**The days of the calendar, counted one after the other.** Months have their lengths, February by
the rule for leap years; what lies before a month or a year is the sum of what is shorter
(`daysBeforeMonth`, `daysBeforeYear`), and the number of a date is the number of days before it.

The date that is calculated for a day is a day of this calendar (`isDay_ofDays`), and as many days
lie before it as it should be (`dayNumber_ofDays`). What carries this:

* A day of an era is the day `s` of the year `j` of the four years `k` of the century `q`
  (`exists_yearInEra`). Only the last of four years has a day 365, and only the last century has
  it in the last of its years.
* From March on all months but the last are alike in every year, so the months need no leap years
  (`number_ofMarch`).
-/

namespace RemoteRecorder

/-! ## The calendar

These definitions count, and calculate nothing. They are what the calculation of a date is measured
by, and follow the calendar as it is explained to people. -/

/-- Whether a year has a 29th of February. -/
def IsLeapYear (year : Nat) : Prop := year % 4 = 0 ∧ (year % 100 ≠ 0 ∨ year % 400 = 0)

instance (year : Nat) : Decidable (IsLeapYear year) := inferInstanceAs (Decidable (_ ∧ _))

/-- The number of days in a month. There are twelve months with days in them. -/
def monthLength (year : Nat) : (month : Nat) → Nat
  | 1 | 3 | 5 | 7 | 8 | 10 | 12 => 31
  | 4 | 6 | 9 | 11 => 30
  | 2 => if IsLeapYear year then 29 else 28
  | _ => 0

/-- The number of days of a year before a month of it. -/
def daysBeforeMonth (year : Nat) : (month : Nat) → Nat
  | 0 => 0
  | month + 1 => daysBeforeMonth year month + monthLength year month

/-- The number of days from the beginning of the year 0 to that of a year. -/
def daysBeforeYear : (year : Nat) → Nat
  | 0 => 0
  | year + 1 => daysBeforeYear year + daysBeforeMonth year 13

namespace CivilDate

/-- Whether the calendar has a date. -/
def IsDay (d : CivilDate) : Prop := 1 ≤ d.day ∧ d.day ≤ monthLength d.year d.month

instance (d : CivilDate) : Decidable d.IsDay := inferInstanceAs (Decidable (_ ∧ _))

/-- The number of days from the beginning of the year 0 to a date. -/
def number (d : CivilDate) : Nat :=
  daysBeforeYear d.year + daysBeforeMonth d.year d.month + (d.day - 1)

/-- The first of January 1970. -/
def epoch : CivilDate := ⟨1970, 1, 1⟩

/-- The number of days from the first of January 1970 to a date. -/
def dayNumber (d : CivilDate) : Int := d.number - epoch.number

end CivilDate

/-! ## Years

Both ways to number days meet in one formula for the days before a year. It is an equation between
sums, so that nothing is taken away from a number that may be smaller. -/

theorem not_isLeapYear {year : Nat} (h : ¬ IsLeapYear year) :
    year % 4 ≠ 0 ∨ year % 100 = 0 ∧ year % 400 ≠ 0 := by
  unfold IsLeapYear at h
  omega

/-- A year has a day more every four years, except in three of four full centuries. -/
theorem daysBeforeYear_eq (year : Nat) :
    daysBeforeYear year + (year + 99) / 100 =
      365 * year + (year + 3) / 4 + (year + 399) / 400 := by
  induction year with
  | zero => rfl
  | succ year ih =>
    have length : daysBeforeMonth year 13 = if IsLeapYear year then 366 else 365 := by
      by_cases h : IsLeapYear year <;> simp [daysBeforeMonth, monthLength, h]
    rw [daysBeforeYear, length]
    by_cases h : IsLeapYear year
    · rw [if_pos h]
      unfold IsLeapYear at h
      omega
    · rw [if_neg h]
      rcases not_isLeapYear h with h | ⟨h, h'⟩ <;> omega

/-- The days from the beginning of the year 0, a leap year, to the first of March. -/
theorem daysBeforeYear_march (year : Nat) :
    daysBeforeYear year + (if IsLeapYear year then 60 else 59) + year / 100 =
      365 * year + year / 4 + year / 400 + 60 := by
  have years := daysBeforeYear_eq year
  by_cases h : IsLeapYear year
  · rw [if_pos h]
    unfold IsLeapYear at h
    omega
  · rw [if_neg h]
    rcases not_isLeapYear h with h | ⟨h, h'⟩ <;> omega

namespace CivilDate

/-- The day `s` of the year `j` of the four years `k` of the century `q`. -/
structure YearInEra (q k j s : Nat) : Prop where
  century : q ≤ 3
  fourYears : k ≤ 24
  year : j ≤ 3
  day : s ≤ 365
  /-- The last day of a leap year. -/
  leapDay : s = 365 → j = 3 ∧ (k = 24 → q = 3)

/-- Every day of an era is in one of its years. -/
theorem exists_yearInEra {n : Nat} (h : n < 146097) :
    ∃ q k j s, n = 36524 * q + 1461 * k + 365 * j + s ∧ YearInEra q k j s := by
  -- The last century and the last of four years are longer by a day than what divides them off.
  obtain ⟨q, r, hn, hq, hr⟩ :
      ∃ q r, n = 36524 * q + r ∧ q ≤ 3 ∧ (r < 36524 ∨ r = 36524 ∧ q = 3) := by
    refine ⟨min (n / 36524) 3, n - 36524 * min (n / 36524) 3, ?_, ?_, ?_⟩ <;> omega
  obtain ⟨j, s, hr', hj, hs, hlast⟩ :
      ∃ j s, r % 1461 = 365 * j + s ∧ j ≤ 3 ∧ s ≤ 365 ∧ (s = 365 → j = 3) := by
    refine ⟨min (r % 1461 / 365) 3, r % 1461 - 365 * min (r % 1461 / 365) 3, ?_, ?_, ?_, ?_⟩ <;>
      omega
  exact ⟨q, r / 1461, j, s, by omega, hq, by omega, hj, hs, by omega⟩

section YearInEra

variable {q k j s : Nat} (h : YearInEra q k j s)

include h

/-- There is a leap day every four years, except at the end of three centuries. -/
theorem daysBefore_eq : daysBefore (100 * q + 4 * k + j) = 36524 * q + 1461 * k + 365 * j := by
  have hq := h.century
  have hk := h.fourYears
  have hj := h.year
  unfold daysBefore
  omega

/-- What is taken from a day of an era for the leap days before it leaves 365 days for each
year. -/
theorem yearOfEra_eq :
    yearOfEra (36524 * q + 1461 * k + 365 * j + s) = 100 * q + 4 * k + j := by
  obtain ⟨hq, hk, hj, hs, hleap⟩ := h
  have century : (36524 * q + 1461 * k + 365 * j + s) / 36524 =
      q + (36524 * q + 1461 * k + 365 * j + s) / 146096 := by
    obtain ⟨r, hr⟩ : ∃ r, r = 1461 * k + 365 * j + s := ⟨_, rfl⟩
    have inCentury : r < 36524 ∨ r = 36524 ∧ q = 3 := by
      rcases Nat.lt_or_ge s 365 with hlt | hge <;> omega
    have split : 36524 * q + 1461 * k + 365 * j + s = r + 36524 * q := by omega
    rw [split]
    rcases inCentury with hlt | ⟨rfl, rfl⟩
    · have first : (r + 36524 * q) / 146096 = 0 := Nat.div_eq_of_lt (by omega)
      rw [first, Nat.add_mul_div_left _ _ (by decide), Nat.div_eq_of_lt hlt, Nat.zero_add,
        Nat.add_zero]
    · rfl
  have fourYears : (36524 * q + 1461 * k + 365 * j + s) / 1460 =
      25 * q + k + (24 * q + k + 365 * j + s) / 1460 := by
    have split : 36524 * q + 1461 * k + 365 * j + s =
        24 * q + k + 365 * j + s + 1460 * (25 * q + k) := by omega
    rw [split, Nat.add_mul_div_left _ _ (by decide), Nat.add_comm]
  -- The day is taken off once more at the end of four years, and before their last day.
  obtain ⟨e, he⟩ : ∃ e, e = (24 * q + k + 365 * j + s) / 1460 := ⟨_, rfl⟩
  have once : e ≤ s ∧ s - e < 365 := by
    rcases Nat.lt_or_ge s 365 with hlt | hge
    · omega
    · obtain ⟨rfl, -⟩ := hleap (by omega)
      omega
  unfold yearOfEra
  rw [century, fourYears, ← he]
  generalize (36524 * q + 1461 * k + 365 * j + s) / 146096 = last
  clear he century fourYears hleap
  omega

end YearInEra

/-! ## Months

With the leap day at its end, a year from March on has its months at the same places, whatever the
year. They are given by a formula which is checked here month by month. -/

/-- The date of a day in the year that begins in March of a given year. -/
def ofMarch (year dayOfYear : Nat) : CivilDate :=
  let month := (5 * dayOfYear + 2) / 153
  let day := dayOfYear - (153 * month + 2) / 5 + 1
  if month < 10 then ⟨year, month + 3, day⟩ else ⟨year + 1, month - 9, day⟩

variable {year month dayOfYear : Nat}

/-- The days from March to a month of the same year. -/
theorem daysBeforeMonth_march (h : month < 10) :
    daysBeforeMonth year (month + 3) =
      (153 * month + 2) / 5 + if IsLeapYear year then 60 else 59 := by
  by_cases hl : IsLeapYear year <;> interval_cases month <;>
    simp [daysBeforeMonth, monthLength, hl]

theorem monthLength_march (h : month < 10) :
    monthLength year (month + 3) = (153 * (month + 1) + 2) / 5 - (153 * month + 2) / 5 := by
  interval_cases month <;> rfl

/-- The month and the day in it. -/
theorem exists_month (year : Nat) (h : dayOfYear ≤ 365) : ∃ month day, month < 12 ∧
    dayOfYear = (153 * month + 2) / 5 + day ∧ dayOfYear < (153 * (month + 1) + 2) / 5 ∧
    ofMarch year dayOfYear =
      if month < 10 then ⟨year, month + 3, day + 1⟩ else ⟨year + 1, month - 9, day + 1⟩ := by
  refine ⟨(5 * dayOfYear + 2) / 153, dayOfYear - (153 * ((5 * dayOfYear + 2) / 153) + 2) / 5,
    ?_, ?_, ?_, rfl⟩ <;> omega

theorem number_ofMarch (year : Nat) (h : dayOfYear ≤ 365) :
    (ofMarch year dayOfYear).number + year / 100 =
      365 * year + year / 4 + year / 400 + 60 + dayOfYear := by
  obtain ⟨month, day, hm, rfl, -, heq⟩ := exists_month year h
  rw [heq]
  by_cases hmonth : month < 10
  · have years := daysBeforeYear_march year
    rw [if_pos hmonth]
    simp only [number, daysBeforeMonth_march hmonth]
    omega
  · -- January and February are those of the next year.
    have years := daysBeforeYear_eq (year + 1)
    rw [if_neg hmonth]
    obtain rfl | rfl : month = 10 ∨ month = 11 := by omega
    · simp only [number, daysBeforeMonth, monthLength]
      omega
    · simp only [number, daysBeforeMonth, monthLength]
      omega

/-- The last day of February is in a leap year, or is not the last of 366 days. -/
theorem isDay_ofMarch (h : dayOfYear ≤ 365) (hl : dayOfYear = 365 → IsLeapYear (year + 1)) :
    (ofMarch year dayOfYear).IsDay := by
  obtain ⟨month, day, hm, rfl, hlt, heq⟩ := exists_month year h
  rw [heq]
  by_cases hmonth : month < 10
  · rw [if_pos hmonth]
    simp only [IsDay, monthLength_march hmonth]
    omega
  · rw [if_neg hmonth]
    obtain rfl | rfl : month = 10 ∨ month = 11 := by omega
    · simp only [IsDay, monthLength]
      omega
    · simp only [IsDay, monthLength]
      by_cases hleap : IsLeapYear (year + 1)
      · rw [if_pos hleap]
        omega
      · have notLast : (153 * 11 + 2) / 5 + day ≠ 365 := fun hlast => hleap (hl hlast)
        rw [if_neg hleap]
        omega

/-! ## Days -/

/-- The year that begins in March and the day of it. -/
theorem exists_ofMarch (n : Nat) : ∃ year dayOfYear, ofDays n = ofMarch year dayOfYear ∧
    dayOfYear ≤ 365 ∧ (dayOfYear = 365 → IsLeapYear (year + 1)) ∧
    n + epochDay + year / 100 = 365 * year + year / 4 + year / 400 + dayOfYear := by
  obtain ⟨q, k, j, s, hday, h⟩ := exists_yearInEra (Nat.mod_lt (n + epochDay) (by decide))
  have year : yearOfEra ((n + epochDay) % 146097) = 100 * q + 4 * k + j := by
    rw [hday, yearOfEra_eq h]
  have before : (n + epochDay) % 146097 - daysBefore (100 * q + 4 * k + j) = s := by
    rw [hday, daysBefore_eq h, Nat.add_sub_cancel_left]
  refine ⟨(n + epochDay) / 146097 * 400 + (100 * q + 4 * k + j), s, ?_, h.day, ?_, ?_⟩
  · rw [← before, ← year]
    rfl
  · intro hs
    obtain ⟨rfl, hcentury⟩ := h.leapDay hs
    have := h.fourYears
    unfold IsLeapYear
    omega
  · have days := Nat.div_add_mod (n + epochDay) 146097
    rw [hday] at days
    obtain ⟨hq, hk, hj, -, -⟩ := h
    omega

/-- The date of a day is in the calendar. -/
theorem isDay_ofDays (n : Nat) : (ofDays n).IsDay := by
  obtain ⟨year, dayOfYear, heq, h, hl, -⟩ := exists_ofMarch n
  rw [heq]
  exact isDay_ofMarch h hl

theorem number_first (year : Nat) : (CivilDate.mk year 1 1).number = daysBeforeYear year := rfl

theorem number_epoch : epoch.number = epochDay + 60 := by
  have years := daysBeforeYear_eq 1970
  rw [epoch, number_first, epochDay]
  omega

/-- The date of a day is as many days after the first of January 1970 as it should be. -/
theorem dayNumber_ofDays (n : Nat) : (ofDays n).dayNumber = n := by
  obtain ⟨year, dayOfYear, heq, h, -, hn⟩ := exists_ofMarch n
  have hnumber := number_ofMarch year h
  rw [dayNumber, heq, number_epoch]
  omega

end CivilDate

end RemoteRecorder
