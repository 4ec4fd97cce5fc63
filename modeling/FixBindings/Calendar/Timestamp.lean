import FixBindings.Calendar.Instant

/-!
# Timestamps

A date with a time of day, a fraction of a second and perhaps a distance from UTC, as documents
write it, and its two texts.
-/

namespace FixBindings.Calendar

/-- A date and a time of day, perhaps with its distance from UTC. -/
structure Timestamp where
  /-- The date and the time, but for the fraction of a second. -/
  clock : DateTime
  /-- The millionths of a second. -/
  micros : Nat
  /-- The minutes by which the clock is ahead of UTC, when they are known. -/
  offset : Option Int
  deriving DecidableEq, Repr

/-- Why numbers are not a timestamp. -/
inductive TimestampFault where
  /-- The date is not a day. -/
  | date (fault : DateFault)
  /-- There is no such hour. -/
  | hour
  /-- There is no such minute. -/
  | minute
  /-- There is no such second. -/
  | second
  /-- The distance from UTC, in minutes, is a day or more. -/
  | offset (minutes : Int)
  deriving DecidableEq, Repr

/-- A length of time of so many minutes, as whole days and the seconds after them. -/
def durationText (minutes : Int) : String :=
  let days := minutes.fdiv 1440
  let seconds := minutes.fmod 1440 * 60
  let parts :=
    (if days = 0 then [] else ["days=" ++ toString days]) ++
      (if seconds = 0 then [] else ["seconds=" ++ toString seconds])
  "datetime.timedelta(" ++ (if parts.isEmpty then "0" else ", ".intercalate parts) ++ ")"

/-- The wording of a fault. -/
def TimestampFault.message : TimestampFault → String
  | .date fault => fault.message
  | .hour => "hour must be in 0..23"
  | .minute => "minute must be in 0..59"
  | .second => "second must be in 0..59"
  | .offset minutes =>
    "offset must be a timedelta strictly between -timedelta(hours=24) and " ++
      "timedelta(hours=24), not " ++ durationText minutes ++ "."

namespace Timestamp

/-- The first fault of a timestamp. The offset is made before the date is looked at. -/
def fault? (t : Timestamp) : Option TimestampFault :=
  match t.offset.filter fun m ↦ decide (1440 ≤ m.natAbs) with
  | some m => some (.offset m)
  | none =>
    match t.clock.date.fault? with
    | some fault => some (.date fault)
    | none =>
      if 23 < t.clock.hour then some .hour
      else if 59 < t.clock.minute then some .minute
      else if 59 < t.clock.second then some .second
      else none

/-- The millionths of a second on the clock since the first day of the calendar. -/
def clockMicros (t : Timestamp) : Int :=
  (t.clock.date.ordinal * secondsPerDay + t.clock.secondOfDay) * 1000000 + t.micros

/-- Whether two timestamps are the same point in time. One with a known distance from UTC never is
the same as one without. -/
def isSame (t u : Timestamp) : Bool :=
  match t.offset, u.offset with
  | none, none => t.clockMicros == u.clockMicros
  | some m, some n => t.clockMicros - m * 60000000 == u.clockMicros - n * 60000000
  | _, _ => false

/-- The distance from UTC as hours and minutes with a sign. -/
def offsetText (minutes : Int) : String :=
  (if minutes < 0 then "-" else "+") ++ Text.padded 2 (minutes.natAbs / 60) ++ ":" ++
    Text.padded 2 (minutes.natAbs % 60)

/-- The date and the time, with the fraction and the distance from UTC when there are any. -/
def text (t : Timestamp) : String :=
  t.clock.date.text ++ " " ++ Text.padded 2 t.clock.hour ++ ":" ++ Text.padded 2 t.clock.minute ++
    ":" ++ Text.padded 2 t.clock.second ++
    (if t.micros = 0 then "" else "." ++ Text.padded 6 t.micros) ++
    (t.offset.map offsetText).getD ""

/-- The parts of a timestamp as a list of arguments: seconds and fraction stand only when they are
not zero. -/
def inspect (t : Timestamp) : String :=
  let clock := [t.clock.date.year, t.clock.date.month, t.clock.date.day, t.clock.hour,
    t.clock.minute]
  let rest :=
    if t.micros ≠ 0 then [t.clock.second, t.micros]
    else if t.clock.second ≠ 0 then [t.clock.second] else []
  let zone := match t.offset with
    | none => []
    | some 0 => ["tzinfo=datetime.timezone.utc"]
    | some m => ["tzinfo=datetime.timezone(" ++ durationText m ++ ")"]
  "datetime.datetime(" ++ ", ".intercalate ((clock ++ rest).map toString ++ zone) ++ ")"

end Timestamp

end FixBindings.Calendar
