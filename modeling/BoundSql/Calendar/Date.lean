import BoundSql.Text.Padding

/-! # Calendar days

Days of the Gregorian calendar, extended without end in both directions; there
is a year zero.  `Date.ofEpochDay` counts from the first of January 1970.  Its
years begin in March, so that the day a leap year adds is the last of its year:
an era of four hundred years has three centuries of 36524 days and a last one
that is a day longer, a century has cycles of 1461 days, a cycle has three years
of 365 days and a last one that is a day longer. -/
set_option autoImplicit false
namespace BoundSql.Calendar

def isLeapYear (year : Int) : Prop := year % 4 = 0 ∧ (year % 100 ≠ 0 ∨ year % 400 = 0)

instance (year : Int) : Decidable (isLeapYear year) :=
  inferInstanceAs (Decidable (year % 4 = 0 ∧ (year % 100 ≠ 0 ∨ year % 400 = 0)))

def daysInMonth (year : Int) (month : Nat) : Nat :=
  if month = 2 then if isLeapYear year then 29 else 28
  else if month = 4 ∨ month = 6 ∨ month = 9 ∨ month = 11 then 30
  else 31

structure Date where
  year : Int
  month : Nat
  day : Nat
  month_valid : 1 ≤ month ∧ month ≤ 12
  day_valid : 1 ≤ day ∧ day ≤ daysInMonth year month
deriving DecidableEq

def Date.ofYearMonthDay? (year : Int) (month day : Nat) : Option Date :=
  if valid : (1 ≤ month ∧ month ≤ 12) ∧ (1 ≤ day ∧ day ≤ daysInMonth year month) then
    some ⟨year, month, day, valid.1, valid.2⟩
  else none

/-- The place of a day in its era: century, cycle, year of the cycle, and day of
the year, all counted from zero.  A year has a day 365 only at the end of a
cycle, and at the end of a century only at the end of the era. -/
structure EraDay where
  century : Nat
  cycle : Nat
  year : Nat
  day : Nat
  century_le : century ≤ 3
  cycle_le : cycle ≤ 24
  year_le : year ≤ 3
  day_le : day ≤ 365
  last_day : day = 365 → year = 3 ∧ (cycle = 24 → century = 3)

def EraDay.of (n : Nat) (inEra : n < 146097) : EraDay :=
  let century := min (n / 36524) 3
  let inCentury := n - 36524 * century
  let cycle := inCentury / 1461
  let inCycle := inCentury - 1461 * cycle
  let year := min (inCycle / 365) 3
  ⟨century, cycle, year, inCycle - 365 * year, by omega, by omega, by omega, by omega, by omega⟩

/-- Nothing is lost by the split. -/
theorem EraDay.of_sum (n : Nat) (inEra : n < 146097) :
    36524 * (EraDay.of n inEra).century + 1461 * (EraDay.of n inEra).cycle
      + 365 * (EraDay.of n inEra).year + (EraDay.of n inEra).day = n := by
  simp only [EraDay.of]
  omega

def EraDay.yearOfEra (e : EraDay) : Nat := 100 * e.century + 4 * e.cycle + e.year

/-- The month of the day, counted from March as zero. -/
def EraDay.month (e : EraDay) : Nat := (5 * e.day + 2) / 153

def EraDay.dayOfMonth (e : EraDay) : Nat := e.day - (153 * e.month + 2) / 5 + 1

theorem EraDay.month_le (e : EraDay) : e.month ≤ 11 := by
  have := e.day_le
  simp only [EraDay.month]
  omega

theorem EraDay.dayOfMonth_le (e : EraDay) : e.dayOfMonth ≤ 31 ∧
    (e.month = 1 ∨ e.month = 3 ∨ e.month = 6 ∨ e.month = 8 → e.dayOfMonth ≤ 30) ∧
    (e.month = 11 → e.dayOfMonth ≤ 29 ∧ (e.dayOfMonth = 29 → e.day = 365)) := by
  have := e.day_le
  simp only [EraDay.dayOfMonth, EraDay.month]
  omega

/-- A year that ends with a day 365 ends with the February of a leap year. -/
theorem EraDay.isLeapYear_of_last (e : EraDay) (era : Int) (last : e.day = 365) :
    isLeapYear (400 * era + e.yearOfEra + 1) := by
  have := e.last_day last
  have := e.century_le
  have := e.cycle_le
  simp only [isLeapYear, EraDay.yearOfEra]
  omega

theorem EraDay.valid_before_january (e : EraDay) (year : Int) (early : e.month < 10) :
    1 ≤ e.dayOfMonth ∧ e.dayOfMonth ≤ daysInMonth year (e.month + 3) := by
  have := e.dayOfMonth_le
  refine ⟨Nat.le_add_left 1 _, ?_⟩
  unfold daysInMonth
  rw [if_neg (by omega)]
  split <;> omega

theorem EraDay.valid_from_january (e : EraDay) (era : Int) (late : 10 ≤ e.month) :
    1 ≤ e.dayOfMonth ∧
      e.dayOfMonth ≤ daysInMonth (400 * era + e.yearOfEra + 1) (e.month - 9) := by
  have bounds := e.dayOfMonth_le
  have monthBound := e.month_le
  refine ⟨Nat.le_add_left 1 _, ?_⟩
  unfold daysInMonth
  split
  · split
    · omega
    · rename_i common
      have : e.day ≠ 365 := fun last => common (e.isLeapYear_of_last era last)
      omega
  · rw [if_neg (by omega)]
    omega

/-- The calendar day at a place of an era.  The last two months of a year that
begins in March carry the next number. -/
def EraDay.toDate (e : EraDay) (era : Int) : Date :=
  if late : 10 ≤ e.month then
    ⟨400 * era + e.yearOfEra + 1, e.month - 9, e.dayOfMonth,
      have := e.month_le; by omega, e.valid_from_january era late⟩
  else
    ⟨400 * era + e.yearOfEra, e.month + 3, e.dayOfMonth,
      by omega, e.valid_before_january _ (by omega)⟩

/-- The first of March of the year zero is 719468 days before the first of
January 1970. -/
def Date.ofEpochDay (days : Int) : Date :=
  (EraDay.of ((days + 719468) % 146097).toNat (by omega)).toDate ((days + 719468) / 146097)

/-- Years of the usual range have four digits; others carry a sign as well. -/
def yearText (year : Int) : String :=
  if 0 ≤ year ∧ year ≤ 9999 then Text.padded 4 year.toNat
  else (if year < 0 then "-" else "+") ++ Text.padded 4 year.natAbs

def Date.text (d : Date) : String :=
  yearText d.year ++ "-" ++ Text.padded 2 d.month ++ "-" ++ Text.padded 2 d.day

end BoundSql.Calendar
