import FixBindings.Calendar.Date

/-!
# Instants

A local date and time with its distance from UTC, and the UTC date and time of the same instant with
its text as mail headers write it. Times are told in whole seconds, as mail headers tell them.
-/

namespace FixBindings.Calendar

/-- A date and a time of day, in whole seconds. -/
structure DateTime where
  /-- The day. -/
  date : Date
  /-- The hour, below 24. -/
  hour : Nat
  /-- The minute, below 60. -/
  minute : Nat
  /-- The second, below 60. -/
  second : Nat
  deriving DecidableEq, Repr

/-- A local date and time, in whole seconds, at a place that is `offset` seconds ahead of UTC. -/
structure LocalTime where
  /-- What the clock shows. -/
  clock : DateTime
  /-- The seconds by which the clock is ahead of UTC, less than a day in either direction. -/
  offset : Int
  deriving DecidableEq, Repr

/-- The seconds of a day. -/
def secondsPerDay : Nat := 86400

namespace DateTime

/-- The seconds since midnight. -/
def secondOfDay (t : DateTime) : Nat :=
  t.hour * 3600 + t.minute * 60 + t.second

/-- The time on a day that lies `seconds` after midnight. -/
def ofSecondOfDay (date : Date) (seconds : Nat) : DateTime :=
  ⟨date, seconds / 3600, seconds / 60 % 60, seconds % 60⟩

/-- The names of the days of the week, from Monday. -/
def weekdayNames : List String :=
  ["Mon", "Tue", "Wed", "Thu", "Fri", "Sat", "Sun"]

/-- The names of the months. -/
def monthNames : List String :=
  ["Jan", "Feb", "Mar", "Apr", "May", "Jun", "Jul", "Aug", "Sep", "Oct", "Nov", "Dec"]

/-- A UTC date and time as a mail header writes it (RFC 2822). -/
def mailText (t : DateTime) : String :=
  weekdayNames.getD t.date.weekday "" ++ ", " ++ Text.padded 2 t.date.day ++ " " ++
    monthNames.getD (t.date.month - 1) "" ++ " " ++ Text.padded 4 t.date.year ++ " " ++
    Text.padded 2 t.hour ++ ":" ++ Text.padded 2 t.minute ++ ":" ++ Text.padded 2 t.second ++
    " +0000"

end DateTime

/-- The UTC date and time leaves the years of the calendar. -/
structure OutOfCalendar where
  deriving DecidableEq, Repr

/-- The wording of the fault. -/
def OutOfCalendar.message (_ : OutOfCalendar) : String :=
  "date value out of range"

/-- The UTC date and time of the same instant. An offset below a day moves the date by at most one
day. -/
def LocalTime.toUtc (t : LocalTime) : Except OutOfCalendar DateTime :=
  let seconds : Int := t.clock.secondOfDay - t.offset
  let date :=
    if seconds < 0 then t.clock.date.previous
    else if secondsPerDay ≤ seconds then t.clock.date.next
    else t.clock.date
  if date.year < minYear ∨ maxYear < date.year then .error ⟨⟩
  else .ok (.ofSecondOfDay date (seconds % secondsPerDay).toNat)

end FixBindings.Calendar
