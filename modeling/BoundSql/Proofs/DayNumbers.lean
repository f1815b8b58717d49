import Mathlib.Tactic.IntervalCases
import BoundSql.Calendar.Date

/-! # Numbers of days

The number of a day is counted the way a calendar is read: the days of the years
before, the days of the months before, and the day of the month.  A year starts in
January here, while the split of an era starts its years in March, so the two meet at
the first of March: that day comes 306 days before the next year.  Counting gives back
every number a day was found for, and no two days have one number. -/
set_option autoImplicit false
namespace BoundSql.Calendar

/-- Days from the first of January of the year zero to that of `year`.  Every fourth year
adds a day, less every hundredth, more every four hundredth; the year zero is one. -/
def daysBeforeYear (year : Int) : Int :=
  365 * year + (year + 3) / 4 - (year + 99) / 100 + (year + 399) / 400

def daysOfMonths (year : Int) : Nat → Nat
  | 0 => 0
  | months + 1 => daysOfMonths year months + daysInMonth year (months + 1)

def Date.dayOfYear (d : Date) : Nat := daysOfMonths d.year (d.month - 1) + d.day

/-- The number of a day, counted from the first of January 1970. -/
def Date.epochDay (d : Date) : Int := daysBeforeYear d.year + d.dayOfYear - 719529

theorem daysOfMonths_mono (year : Int) {m n : Nat} (le : m ≤ n) :
    daysOfMonths year m ≤ daysOfMonths year n := by
  induction le with
  | refl => exact Nat.le_refl _
  | step _ ih => exact Nat.le_trans ih (Nat.le_add_right _ _)

/-- From March on the months repeat every five: 153 days. -/
theorem daysInMonth_from_march (year : Int) {m : Nat} (inYear : m ≤ 9) :
    (153 * m + 2) / 5 + daysInMonth year (m + 3) = (153 * (m + 1) + 2) / 5 := by
  interval_cases m <;> rfl

theorem daysOfMonths_from_march (year : Int) (m : Nat) (inYear : m ≤ 10) :
    daysOfMonths year (m + 2) = 31 + daysInMonth year 2 + (153 * m + 2) / 5 := by
  induction m with
  | zero => simp [daysOfMonths, daysInMonth]
  | succ m ih =>
    have month := daysInMonth_from_march year (m := m) (by omega)
    have before := ih (by omega)
    rw [← month, show m + 1 + 2 = (m + 2) + 1 from rfl, daysOfMonths, before]
    omega

theorem daysOfMonths_twelve (year : Int) :
    daysOfMonths year 12 = 337 + daysInMonth year 2 := by
  rw [daysOfMonths_from_march year 10 (by omega)]
  omega

theorem daysBeforeYear_succ (year : Int) :
    daysBeforeYear (year + 1) = daysBeforeYear year + daysOfMonths year 12 := by
  have february : daysInMonth year 2 = if isLeapYear year then 29 else 28 := rfl
  rw [daysOfMonths_twelve, february]
  unfold daysBeforeYear
  by_cases leap : isLeapYear year
  · rw [if_pos leap]
    unfold isLeapYear at leap
    omega
  · rw [if_neg leap]
    unfold isLeapYear at leap
    omega

theorem daysBeforeYear_mono {y z : Int} (le : y ≤ z) : daysBeforeYear y ≤ daysBeforeYear z := by
  unfold daysBeforeYear
  omega

theorem EraDay.daysBefore_end (e : EraDay) (era : Int) :
    daysBeforeYear (400 * era + e.yearOfEra + 1) =
      146097 * era + 36524 * e.century + 1461 * e.cycle + 365 * e.year + 366 := by
  have := e.century_le
  have := e.cycle_le
  have := e.year_le
  unfold daysBeforeYear EraDay.yearOfEra
  omega

theorem EraDay.daysOfMonths_late (e : EraDay) (year : Int) (late : 10 ≤ e.month) :
    daysOfMonths year (e.month - 10) + e.dayOfMonth + 305 = e.day := by
  have bound := e.day_le
  have month : e.month = 10 ∨ e.month = 11 := by have := e.month_le; omega
  have start : daysOfMonths year 0 = 0 := rfl
  have january : daysOfMonths year 1 = 31 := rfl
  rcases month with month | month
  all_goals
    simp only [EraDay.dayOfMonth, month, Nat.sub_self, Nat.reduceSub, start, january]
    simp only [EraDay.month] at month
    omega

theorem EraDay.epochDay_toDate (e : EraDay) (era : Int) :
    (e.toDate era).epochDay =
      146097 * era + 36524 * e.century + 1461 * e.cycle + 365 * e.year + e.day - 719468 := by
  have bound := e.day_le
  have ended := e.daysBefore_end era
  unfold EraDay.toDate
  split
  case isTrue late =>
    have rest := e.daysOfMonths_late (400 * era + e.yearOfEra + 1) late
    simp only [Date.epochDay, Date.dayOfYear, ended]
    rw [show e.month - 9 - 1 = e.month - 10 by omega]
    omega
  case isFalse early =>
    have months := daysOfMonths_from_march (400 * era + e.yearOfEra) e.month (by omega)
    have year := daysBeforeYear_succ (400 * era + e.yearOfEra)
    rw [ended, daysOfMonths_twelve] at year
    have whole : (153 * e.month + 2) / 5 ≤ e.day := by simp only [EraDay.month]; omega
    simp only [Date.epochDay, Date.dayOfYear, EraDay.dayOfMonth]
    rw [show e.month + 3 - 1 = e.month + 2 by omega, months]
    omega

/-- The day found for a number has that number. -/
theorem Date.epochDay_ofEpochDay (days : Int) : (Date.ofEpochDay days).epochDay = days := by
  have inEra : ((days + 719468) % 146097).toNat < 146097 := by omega
  have sum := EraDay.of_sum _ inEra
  unfold Date.ofEpochDay
  rw [EraDay.epochDay_toDate]
  omega

theorem Date.dayOfYear_le (d : Date) :
    1 ≤ d.dayOfYear ∧ d.dayOfYear ≤ daysOfMonths d.year 12 := by
  obtain ⟨year, month, day, ⟨monthPos, monthLe⟩, dayPos, dayLe⟩ := d
  obtain ⟨before, rfl⟩ : ∃ before, month = before + 1 := ⟨month - 1, by omega⟩
  have later := daysOfMonths_mono year monthLe
  rw [daysOfMonths] at later
  simp only [Date.dayOfYear, Nat.add_sub_cancel]
  omega

theorem Date.epochDay_lt_of_year_lt {d e : Date} (lt : d.year < e.year) :
    d.epochDay < e.epochDay := by
  have ended := daysBeforeYear_mono (Int.add_one_le_iff.mpr lt)
  have dLast := d.dayOfYear_le.2
  have eFirst := e.dayOfYear_le.1
  rw [daysBeforeYear_succ] at ended
  unfold Date.epochDay
  omega

theorem Date.dayOfYear_lt_of_month_lt {d e : Date} (year : d.year = e.year)
    (lt : d.month < e.month) : d.dayOfYear < e.dayOfYear := by
  obtain ⟨before, isMonth⟩ : ∃ before, d.month = before + 1 :=
    ⟨d.month - 1, by have := d.month_valid; omega⟩
  have inMonth := d.day_valid.2
  have first := e.day_valid.1
  have later := daysOfMonths_mono e.year (Nat.le_sub_one_of_lt lt)
  rw [isMonth, daysOfMonths] at later
  rw [year, isMonth] at inMonth
  rw [Date.dayOfYear, Date.dayOfYear, year, isMonth, Nat.add_sub_cancel]
  omega

theorem Date.eq_of_epochDay_eq {d e : Date} (days : d.epochDay = e.epochDay) : d = e := by
  have year : d.year = e.year := by
    rcases lt_trichotomy d.year e.year with lt | eq | gt
    · exact absurd days (Int.ne_of_lt (Date.epochDay_lt_of_year_lt lt))
    · exact eq
    · exact absurd days.symm (Int.ne_of_lt (Date.epochDay_lt_of_year_lt gt))
  have inYear : d.dayOfYear = e.dayOfYear := by
    simp only [Date.epochDay, year] at days
    omega
  have month : d.month = e.month := by
    rcases lt_trichotomy d.month e.month with lt | eq | gt
    · exact absurd inYear (Nat.ne_of_lt (Date.dayOfYear_lt_of_month_lt year lt))
    · exact eq
    · exact absurd inYear.symm (Nat.ne_of_lt (Date.dayOfYear_lt_of_month_lt year.symm gt))
  have day : d.day = e.day := by
    simp only [Date.dayOfYear, year, month] at inYear
    omega
  cases d
  cases e
  simp_all

/-- The day found for the number of a day is that day. -/
theorem Date.ofEpochDay_epochDay (d : Date) : Date.ofEpochDay d.epochDay = d :=
  Date.eq_of_epochDay_eq (Date.epochDay_ofEpochDay d.epochDay)

end BoundSql.Calendar
