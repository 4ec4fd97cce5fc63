import FixBindings.Text.Numeral

/-!
# Dates

Days of the Gregorian calendar, extended to all years from 1 to 9999, with the day after and the day
before, and the day of the week.
-/

namespace FixBindings.Calendar

/-- A day of a month of a year. -/
structure Date where
  /-- The year. -/
  year : Nat
  /-- The month, from 1. -/
  month : Nat
  /-- The day of the month, from 1. -/
  day : Nat
  deriving DecidableEq, Repr

/-- The first year of the calendar. -/
def minYear : Nat := 1

/-- The last year of the calendar. -/
def maxYear : Nat := 9999

/-- Whether a year has a leap day: every fourth year, but of the full centuries every fourth. -/
def isLeapYear (year : Nat) : Bool :=
  year % 4 == 0 && (year % 100 != 0 || year % 400 == 0)

/-- How many days a month has. -/
def daysInMonth (year month : Nat) : Nat :=
  match month with
  | 2 => if isLeapYear year then 29 else 28
  | 4 | 6 | 9 | 11 => 30
  | _ => 31

/-- Why three numbers are not a day. -/
inductive DateFault where
  /-- The calendar has no such year. -/
  | year (year : Nat)
  /-- There is no such month. -/
  | month
  /-- The month has no such day. -/
  | day
  deriving DecidableEq, Repr

/-- The wording of a fault. -/
def DateFault.message : DateFault → String
  | .year y => "year " ++ toString y ++ " is out of range"
  | .month => "month must be in 1..12"
  | .day => "day is out of range for month"

namespace Date

/-- The first fault of a date: of its year, of its month or of its day. -/
def fault? (d : Date) : Option DateFault :=
  if d.year < minYear ∨ maxYear < d.year then some (.year d.year)
  else if d.month < 1 ∨ 12 < d.month then some .month
  else if d.day < 1 ∨ daysInMonth d.year d.month < d.day then some .day
  else none

/-- Whether the date is a day of the calendar. -/
def Valid (d : Date) : Prop :=
  d.fault? = none

instance (d : Date) : Decidable d.Valid :=
  inferInstanceAs (Decidable (d.fault? = none))

/-- The day after. -/
def next (d : Date) : Date :=
  if d.day < daysInMonth d.year d.month then { d with day := d.day + 1 }
  else if d.month < 12 then ⟨d.year, d.month + 1, 1⟩
  else ⟨d.year + 1, 1, 1⟩

/-- The day before. -/
def previous (d : Date) : Date :=
  if 1 < d.day then { d with day := d.day - 1 }
  else if 1 < d.month then ⟨d.year, d.month - 1, daysInMonth d.year (d.month - 1)⟩
  else ⟨d.year - 1, 12, 31⟩

/-- How many days of the year lie before the first of a month. -/
def daysBeforeMonth (year : Nat) : Nat → Nat
  | 0 => 0
  | 1 => 0
  | m + 1 => daysBeforeMonth year m + daysInMonth year m

/-- How many days of the calendar lie before the first day of a year. -/
def daysBeforeYear (year : Nat) : Nat :=
  let y := year - 1
  365 * y + y / 4 - y / 100 + y / 400

/-- The number of the day in the calendar, which starts with day one. -/
def ordinal (d : Date) : Nat :=
  daysBeforeYear d.year + daysBeforeMonth d.year d.month + d.day

/-- The day of the week, from Monday as zero. The calendar starts with a Monday. -/
def weekday (d : Date) : Nat :=
  (d.ordinal + 6) % 7

/-- The date as year, month and day with hyphens. -/
def text (d : Date) : String :=
  Text.padded 4 d.year ++ "-" ++ Text.padded 2 d.month ++ "-" ++ Text.padded 2 d.day

end Date

end FixBindings.Calendar
