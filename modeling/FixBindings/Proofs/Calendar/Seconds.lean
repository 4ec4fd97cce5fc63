import FixBindings.Proofs.Calendar.Instant
import Mathlib.Data.Set.Function

/-!
# The seconds of the calendar

The clocks of the calendar count its seconds one by one: each second from the first of the year 1 to the last
of the year 9999 is the count of just one date and time. The day of the week is counted from the first day,
which is a Monday. A local time has a UTC date and time if and only if its instant is one of these seconds.
-/

namespace FixBindings.Calendar

/-! ## Days -/

namespace Date

variable {d : Date}

/-- The first day of the calendar. -/
def first : Date := ⟨minYear, 1, 1⟩

/-- The last day of the calendar. -/
def last : Date := ⟨maxYear, 12, 31⟩

theorem inYear_first : first.InYear := ⟨by decide, by decide, by decide, by decide⟩

theorem inYear_last : last.InYear := ⟨by decide, by decide, by decide, by decide⟩

/-- The day before is in no later year. -/
theorem previous_year_le (d : Date) : d.previous.year ≤ d.year := by
  unfold previous
  split
  · exact Nat.le_refl _
  split
  · exact Nat.le_refl _
  · exact Nat.sub_le _ _

/-- The day after is in no earlier year. -/
theorem le_next_year (d : Date) : d.year ≤ d.next.year := by
  unfold next
  split
  · exact Nat.le_refl _
  split
  · exact Nat.le_refl _
  · exact Nat.le_succ _

/-- Every number from one on is that of a day. -/
theorem exists_ordinal_eq {n : Nat} (h : 1 ≤ n) : ∃ d : Date, d.InYear ∧ 1 ≤ d.year ∧ d.ordinal = n := by
  induction n, h using Nat.le_induction with
  | base => exact ⟨first, inYear_first, by decide, rfl⟩
  | succ n _ ih =>
    obtain ⟨d, hd, hyear, rfl⟩ := ih
    obtain ⟨hnext, hordinal⟩ := next_inYear_ordinal hd hyear
    exact ⟨d.next, hnext, Nat.le_trans hyear (le_next_year d), hordinal⟩

/-- The calendar ends with the day before the year 10000. -/
theorem ordinal_last : last.ordinal = daysBeforeYear (maxYear + 1) := rfl

/-- Of all days those with the numbers up to that of the last one are days of the calendar. -/
theorem valid_iff_ordinal_le (h : d.InYear) (hyear : 1 ≤ d.year) : d.Valid ↔ d.ordinal ≤ last.ordinal := by
  rw [valid_iff]
  constructor
  · rintro ⟨⟨-, hmax⟩, -⟩
    have hday := h.le_daysInYear
    have hyears := daysBeforeYear_add_le hyear (Nat.lt_add_one_of_le hmax)
    rw [ordinal_last, ordinal]
    omega
  · intro hordinal
    refine ⟨⟨hyear, ?_⟩, h⟩
    by_contra hmax
    exact absurd hordinal
      (Nat.not_le_of_lt (ordinal_lt_of_year_lt inYear_last h (by decide) (Nat.lt_of_not_le hmax)))

/-- The numbers of days start with one. -/
theorem one_le_ordinal (h : d.InYear) : 1 ≤ d.ordinal :=
  Nat.le_trans h.one_le_day (Nat.le_add_left _ _)

/-- Only the first day has no day before it in the calendar. -/
theorem eq_first_of_previous (h : d.InYear) (hyear : 1 ≤ d.year) (hprevious : d.previous.year < 1) :
    d = first := by
  obtain ⟨hm, hm', hd, hd'⟩ := h
  unfold previous at hprevious
  split at hprevious
  · exact absurd hyear (Nat.not_le_of_lt hprevious)
  split at hprevious
  · exact absurd hyear (Nat.not_le_of_lt hprevious)
  · obtain ⟨year, month, day⟩ := d
    dsimp only at *
    obtain rfl : year = 1 := by omega
    obtain rfl : month = 1 := by omega
    obtain rfl : day = 1 := by omega
    rfl

/-- Only the last day has no day after it in the calendar. -/
theorem ordinal_last_le_of_next (h : d.InYear) (hyear : 1 ≤ d.year) (hnext : maxYear < d.next.year) :
    last.ordinal ≤ d.ordinal := by
  obtain ⟨hday, hordinal⟩ := next_inYear_ordinal h hyear
  have hmin := Nat.le_trans hyear (le_next_year d)
  have hafter := mt (valid_iff_ordinal_le hday hmin).mpr fun hvalid ↦
    absurd (valid_iff.mp hvalid).1.2 (Nat.not_le_of_lt hnext)
  rw [hordinal] at hafter
  omega

/-- The day of the week is counted from the first day of the calendar, a Monday. -/
theorem weekday_eq (h : d.InYear) : d.weekday = (d.ordinal - first.ordinal) % 7 := by
  have hpos := one_le_ordinal h
  have hfirst : first.ordinal = 1 := rfl
  rw [weekday, hfirst]
  omega

end Date

/-! ## Seconds -/

/-- The first second of the calendar. -/
def firstSecond : Int :=
  DateTime.seconds ⟨Date.first, 0, 0, 0⟩

/-- The last second of the calendar. -/
def lastSecond : Int :=
  DateTime.seconds ⟨Date.last, 23, 59, 59⟩

/-- A second of the calendar. -/
def InCalendar (n : Int) : Prop :=
  firstSecond ≤ n ∧ n ≤ lastSecond

instance (n : Int) : Decidable (InCalendar n) :=
  inferInstanceAs (Decidable (_ ∧ _))

namespace DateTime

variable {t : DateTime}

/-- The day of a date and time, by the seconds that a clock has counted. -/
theorem Valid.ordinal_eq (h : t.Valid) : (t.date.ordinal : Int) = t.seconds / secondsPerDay := by
  have hlt := h.secondOfDay_lt
  unfold seconds
  unfold secondsPerDay at *
  omega

/-- The day of the week of a date and time, by the seconds that a clock has counted. -/
theorem Valid.weekday_eq (h : t.Valid) :
    (t.date.weekday : Int) = (t.seconds - firstSecond) / secondsPerDay % 7 := by
  obtain ⟨-, hday⟩ := Date.valid_iff.mp h.date
  have hpos := Date.one_le_ordinal hday
  have hordinal := h.ordinal_eq
  have hfirst : firstSecond = secondsPerDay := rfl
  have hone : Date.first.ordinal = 1 := rfl
  rw [Date.weekday_eq hday, hfirst, hone]
  unfold secondsPerDay at *
  omega

/-- Clocks count the seconds of the calendar. -/
theorem Valid.inCalendar (h : t.Valid) : InCalendar t.seconds := by
  obtain ⟨hyear, hday⟩ := Date.valid_iff.mp h.date
  have hpos := Date.one_le_ordinal hday
  have hle := (Date.valid_iff_ordinal_le hday hyear.1).mp h.date
  have hlt := h.secondOfDay_lt
  have hfirst : firstSecond = Date.first.ordinal * secondsPerDay := rfl
  have hlast : lastSecond = Date.last.ordinal * secondsPerDay + (secondsPerDay - 1) := rfl
  have hone : Date.first.ordinal = 1 := rfl
  rw [InCalendar, seconds, hfirst, hlast, hone]
  unfold secondsPerDay at *
  omega

/-- Each second of the calendar is the count of a date and time. -/
theorem exists_seconds_eq {n : Int} (h : InCalendar n) :
    ∃ t : DateTime, t.Valid ∧ t.seconds = n := by
  have hfirst : firstSecond = secondsPerDay := rfl
  have hlast : lastSecond = Date.last.ordinal * secondsPerDay + (secondsPerDay - 1) := rfl
  rw [InCalendar, hfirst, hlast] at h
  have hmod : n % secondsPerDay < secondsPerDay := Int.emod_lt_of_pos _ (by decide)
  have hnonneg : 0 ≤ n % secondsPerDay := Int.emod_nonneg _ (by decide)
  have hsplit := Int.mul_ediv_add_emod n secondsPerDay
  obtain ⟨d, hd, hyear, hordinal⟩ := Date.exists_ordinal_eq (n := (n / secondsPerDay).toNat) (by
    unfold secondsPerDay at *
    omega)
  have hvalid : d.Valid := (Date.valid_iff_ordinal_le hd hyear).mpr (by
    unfold secondsPerDay at *
    omega)
  obtain ⟨ht, hseconds⟩ := valid_seconds_ofSecondOfDay (s := (n % secondsPerDay).toNat) hvalid (by omega)
  refine ⟨_, ht, ?_⟩
  rw [hseconds, hordinal]
  unfold secondsPerDay at *
  omega

/-- Clocks count each second of the calendar once. -/
theorem bijOn_seconds : Set.BijOn seconds {t | t.Valid} {n | InCalendar n} :=
  ⟨fun _ ht ↦ ht.inCalendar, fun _ ht _ hu ↦ eq_of_seconds_eq ht hu, fun _ ↦ exists_seconds_eq⟩

end DateTime

namespace LocalTime

variable {t : LocalTime}

/-- Without a UTC date and time it is the day before on the first day or the day after on the last one. -/
theorem first_or_last_of_toUtc (h : t.Valid) (herror : t.toUtc = .error ⟨⟩) :
    (t.clock.secondOfDay : Int) - t.offset < 0 ∧ t.clock.date = Date.first ∨
      (secondsPerDay : Int) ≤ t.clock.secondOfDay - t.offset ∧
        Date.last.ordinal ≤ t.clock.date.ordinal := by
  obtain ⟨hyear, hday⟩ := Date.valid_iff.mp h.clock.date
  simp only [toUtc, ite_eq_left_iff, reduceCtorEq, imp_false, not_not] at herror
  split at herror
  · rename_i hbefore
    have hmax := Nat.le_trans (Date.previous_year_le t.clock.date) hyear.2
    have hprevious := herror.resolve_right (Nat.not_lt_of_le hmax)
    exact .inl ⟨hbefore, Date.eq_first_of_previous hday hyear.1 hprevious⟩
  split at herror
  · rename_i hafter
    have hmin := Nat.le_trans hyear.1 (Date.le_next_year t.clock.date)
    have hnext := herror.resolve_left (Nat.not_lt_of_le hmin)
    exact .inr ⟨hafter, Date.ordinal_last_le_of_next hday hyear.1 hnext⟩
  · rcases herror with herror | herror
    · exact absurd hyear.1 (Nat.not_le_of_lt herror)
    · exact absurd hyear.2 (Nat.not_le_of_lt herror)

/-- A local time has no UTC date and time just when its instant is no second of the calendar. -/
theorem toUtc_eq_error_iff (h : t.Valid) :
    t.toUtc = .error ⟨⟩ ↔ ¬InCalendar t.instant := by
  constructor
  · intro herror
    have hfirst : firstSecond = Date.first.ordinal * secondsPerDay := rfl
    have hlast : lastSecond = Date.last.ordinal * secondsPerDay + (secondsPerDay - 1) := rfl
    have hinstant : t.instant =
        t.clock.date.ordinal * secondsPerDay + (t.clock.secondOfDay - t.offset) := by
      rw [instant, DateTime.seconds]
      omega
    rw [InCalendar, hinstant, hfirst, hlast]
    rcases first_or_last_of_toUtc h herror with ⟨hbefore, hday⟩ | ⟨hafter, hday⟩
    · rw [hday]
      omega
    · unfold secondsPerDay at *
      omega
  · intro hout
    cases hx : t.toUtc with
    | error => rfl
    | ok x =>
      obtain ⟨hvalid, hseconds⟩ := valid_seconds_of_toUtc h hx
      exact absurd (hseconds ▸ hvalid.inCalendar) hout

end LocalTime

end FixBindings.Calendar
