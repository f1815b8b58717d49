import BoundSql.Calendar.Date

/-! # Points in time

A timestamp counts seconds from the start of 1970 in UTC, and nanoseconds.  In
the last second of a minute a full second of nanoseconds more may have passed:
that is a leap second, written as second 60. -/
set_option autoImplicit false
namespace BoundSql.Calendar

structure Timestamp where
  seconds : Int
  nanos : Nat
  nanos_lt : nanos < 2000000000
  leap_last : 1000000000 ≤ nanos → seconds % 60 = 59
deriving DecidableEq

def Timestamp.ofUnix? (seconds : Int) (nanos : Nat) : Option Timestamp :=
  if valid : nanos < 2000000000 ∧ (1000000000 ≤ nanos → seconds % 60 = 59) then
    some ⟨seconds, nanos, valid.1, valid.2⟩
  else none

/-- Microseconds from the start of 2000, rounded toward it.  A leap second counts like
the second after it. -/
def Timestamp.microseconds (t : Timestamp) : Int :=
  ((t.seconds - 946684800) * 1000000000 + t.nanos).tdiv 1000

def Timestamp.ofMicroseconds (n : Int) : Timestamp where
  seconds := 946684800 + n / 1000000
  nanos := (n % 1000000).toNat * 1000
  nanos_lt := by omega
  leap_last := by omega

def Timestamp.date (t : Timestamp) : Date := Date.ofEpochDay (t.seconds / 86400)

def Timestamp.secondOfDay (t : Timestamp) : Nat := (t.seconds % 86400).toNat

def Timestamp.hour (t : Timestamp) : Nat := t.secondOfDay / 3600

def Timestamp.minute (t : Timestamp) : Nat := t.secondOfDay / 60 % 60

/-- The second of the minute, 60 in a leap second. -/
def Timestamp.second (t : Timestamp) : Nat := t.secondOfDay % 60 + t.nanos / 1000000000

def Timestamp.fraction (t : Timestamp) : Nat := t.nanos % 1000000000

/-- No digits, or three, six or nine: the fewest that lose nothing. -/
def fractionText (nanos : Nat) : String :=
  if nanos = 0 then ""
  else if nanos % 1000000 = 0 then "." ++ Text.padded 3 (nanos / 1000000)
  else if nanos % 1000 = 0 then "." ++ Text.padded 6 (nanos / 1000)
  else "." ++ Text.padded 9 nanos

def Timestamp.timeText (t : Timestamp) : String :=
  Text.padded 2 t.hour ++ ":" ++ Text.padded 2 t.minute ++ ":" ++ Text.padded 2 t.second
    ++ fractionText t.fraction

/-- Date and time of day in UTC with `between` in the middle. -/
def Timestamp.text (between : String) (t : Timestamp) : String :=
  t.date.text ++ between ++ t.timeText ++ "Z"

end BoundSql.Calendar
