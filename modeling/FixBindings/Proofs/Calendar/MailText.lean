import FixBindings.Proofs.Calendar.Instant
import FixBindings.Proofs.Text.Characters
import FixBindings.Proofs.Text.Numeral

/-!
# Dates and times of mail headers are read back

A reader of a UTC date and time in the form of mail headers (RFC 2822): the day of the week, the day in two
digits, the month, the year in four digits, the time in three times two digits and the distance from UTC. What
is written for a date and time of the calendar is read as the same date and time and as its day of the week.
-/

namespace FixBindings.Calendar

open Text

/-! ## Reading -/

/-- The number of a day of the week, from Monday as zero. -/
def readWeekday? (cs : List Char) : Option Nat :=
  ["Mon,", "Tue,", "Wed,", "Thu,", "Fri,", "Sat,", "Sun,"].idxOf? (String.ofList cs)

/-- The number of a month, from January as one. -/
def readMonth? (cs : List Char) : Option Nat :=
  (["Jan", "Feb", "Mar", "Apr", "May", "Jun", "Jul", "Aug", "Sep", "Oct", "Nov", "Dec"].idxOf?
    (String.ofList cs)).map (· + 1)

/-- The hour, the minute and the second of a time. -/
def readClock? (cs : List Char) : Option (Nat × Nat × Nat) :=
  match cs.splitOn ':' with
  | [hour, minute, second] => do
    some (← readPadded? 2 hour, ← readPadded? 2 minute, ← readPadded? 2 second)
  | _ => none

/-- The day of the week and the UTC date and time of a mail header. -/
def readMail? (s : String) : Option (Nat × DateTime) :=
  match s.toList.splitOn ' ' with
  | [weekday, day, month, year, clock, zone] => do
    let w ← readWeekday? weekday
    let date : Date := ⟨← readPadded? 4 year, ← readMonth? month, ← readPadded? 2 day⟩
    let (hour, minute, second) ← readClock? clock
    if zone = ['+', '0', '0', '0', '0'] then some (w, ⟨date, hour, minute, second⟩) else none
  | _ => none

/-! ## Reading what is written -/

/-- The texts of a date and time in a mail header, in order. -/
def DateTime.mailParts (t : DateTime) : List (List Char) :=
  [(weekdayNames.getD t.date.weekday "" ++ ",").toList, (padded 2 t.date.day).toList,
    (monthNames.getD (t.date.month - 1) "").toList, (padded 4 t.date.year).toList,
    [':'].intercalate [(padded 2 t.hour).toList, (padded 2 t.minute).toList, (padded 2 t.second).toList],
    "+0000".toList]

theorem DateTime.toList_mailText (t : DateTime) : t.mailText.toList = [' '].intercalate t.mailParts := by
  simp [mailText, mailParts, List.intercalate]

theorem readWeekday?_weekdayNames {i : Nat} (h : i < 7) :
    readWeekday? (DateTime.weekdayNames.getD i "" ++ ",").toList = some i := by
  have hall : ∀ i < 7, readWeekday? (DateTime.weekdayNames.getD i "" ++ ",").toList = some i := by decide
  exact hall i h

theorem readMonth?_monthNames {i : Nat} (h : i < 12) :
    readMonth? (DateTime.monthNames.getD i "").toList = some (i + 1) := by
  have hall : ∀ i < 12, readMonth? (DateTime.monthNames.getD i "").toList = some (i + 1) := by decide
  exact hall i h

theorem readClock?_intercalate {hour minute second : Nat} (hh : hour < 24) (hm : minute < 60)
    (hs : second < 60) :
    readClock? ([':'].intercalate
      [(padded 2 hour).toList, (padded 2 minute).toList, (padded 2 second).toList]) =
      some (hour, minute, second) := by
  have hcolon (n : Nat) : ':' ∉ (padded 2 n).toList := fun h ↦ absurd (isDigit_of_mem_padded h) (by decide)
  have hsplit : ([':'].intercalate
      [(padded 2 hour).toList, (padded 2 minute).toList, (padded 2 second).toList]).splitOn ':' =
      [(padded 2 hour).toList, (padded 2 minute).toList, (padded 2 second).toList] :=
    List.splitOn_intercalate ':' (by simp [hcolon]) (by simp)
  rw [readClock?, hsplit]
  simp only [readPadded?_padded (show 0 < 2 by decide) (show hour < 10 ^ 2 by omega),
    readPadded?_padded (show 0 < 2 by decide) (show minute < 10 ^ 2 by omega),
    readPadded?_padded (show 0 < 2 by decide) (show second < 10 ^ 2 by omega)]
  rfl

/-- Spaces part the texts of a date and time and are not in them. -/
theorem DateTime.space_notMem_mailParts (t : DateTime) : ∀ cs ∈ t.mailParts, ' ' ∉ cs := by
  have hnumber (width n : Nat) : ' ' ∉ (padded width n).toList := fun h ↦
    absurd (isDigit_of_mem_padded h) (by decide)
  have hweekday := notMem_toList_getD weekdayNames (c := ' ') (by decide) t.date.weekday
  have hmonth := notMem_toList_getD monthNames (c := ' ') (by decide) (t.date.month - 1)
  have hclock : ∀ cs ∈ [(padded 2 t.hour).toList, (padded 2 t.minute).toList, (padded 2 t.second).toList],
      ' ' ∉ cs := by
    simp only [List.forall_mem_cons]
    exact ⟨hnumber 2 _, hnumber 2 _, hnumber 2 _, List.forall_mem_nil _⟩
  simp only [mailParts, List.forall_mem_cons]
  refine ⟨?_, hnumber 2 _, hmonth, hnumber 4 _, fun h ↦ ?_, by decide, List.forall_mem_nil _⟩
  · rw [String.toList_append, List.mem_append, not_or]
    exact ⟨hweekday, by decide⟩
  · rcases mem_intercalate h with h | ⟨cs, hcs, h⟩
    · exact absurd h (by decide)
    · exact hclock cs hcs h

/-- A date and time of the calendar is read back with its day of the week. -/
theorem readMail?_mailText {t : DateTime} (h : t.Valid) :
    readMail? t.mailText = some (t.date.weekday, t) := by
  obtain ⟨⟨hmin, hmax⟩, hday⟩ := Date.valid_iff.mp h.date
  have hweekday : t.date.weekday < 7 := Nat.mod_lt _ (by decide)
  have hmonth : t.date.month - 1 < 12 := by
    have := hday.month_le
    omega
  have hdays : t.date.day < 10 ^ 2 :=
    Nat.lt_of_le_of_lt (Nat.le_trans hday.day_le (Date.daysInMonth_le _ _)) (by decide)
  have hyear : t.date.year < 10 ^ 4 := Nat.lt_of_le_of_lt hmax (by decide)
  rw [readMail?, DateTime.toList_mailText,
    List.splitOn_intercalate ' ' t.space_notMem_mailParts (by simp [DateTime.mailParts])]
  simp only [DateTime.mailParts, readWeekday?_weekdayNames hweekday, readMonth?_monthNames hmonth,
    readPadded?_padded (show 0 < 2 by decide) hdays, readPadded?_padded (show 0 < 4 by decide) hyear,
    readClock?_intercalate h.hour h.minute h.second]
  simp [Nat.sub_add_cancel hday.one_le_month]

/-- Different dates and times of the calendar have different texts. -/
theorem DateTime.mailText_inj {x y : DateTime} (hx : x.Valid) (hy : y.Valid) :
    x.mailText = y.mailText ↔ x = y := by
  refine ⟨fun h ↦ ?_, congrArg mailText⟩
  have hread := readMail?_mailText hy
  rw [← h, readMail?_mailText hx] at hread
  exact (Prod.mk.inj (Option.some.inj hread)).2

end FixBindings.Calendar
