import FixBindings.Calendar.Instant

/-!
# Instants and their UTC times

Days are counted: the day after has the next number, and no two days have the same. So a local time and
its UTC date and time are as many seconds after the start of the calendar, and the UTC times of one
instant are the same, whatever the clocks show.
-/

namespace FixBindings.Calendar

/-! ## Days of a year -/

/-- How many days a year has. -/
def daysInYear (year : Nat) : Nat :=
  if isLeapYear year then 366 else 365

namespace Date

variable {d e : Date}

/-- The month and the day are those of a day of the year. -/
structure InYear (d : Date) : Prop where
  /-- There is a month before the month, or it is the first. -/
  one_le_month : 1 ≤ d.month
  /-- The year has the month. -/
  month_le : d.month ≤ 12
  /-- There is a day before the day, or it is the first. -/
  one_le_day : 1 ≤ d.day
  /-- The month has the day. -/
  day_le : d.day ≤ daysInMonth d.year d.month

theorem valid_iff : d.Valid ↔ (minYear ≤ d.year ∧ d.year ≤ maxYear) ∧ d.InYear := by
  unfold Valid fault?
  constructor
  · intro h
    split at h
    · cases h
    split at h
    · cases h
    split at h
    · cases h
    exact ⟨by omega, by omega, by omega, by omega, by omega⟩
  · rintro ⟨hy, hm, hm', hd, hd'⟩
    rw [if_neg (by omega), if_neg (by omega), if_neg (by omega)]

theorem one_le_daysInMonth (year month : Nat) : 1 ≤ daysInMonth year month := by
  unfold daysInMonth
  split
  · split <;> decide
  all_goals decide

theorem daysInMonth_le (year month : Nat) : daysInMonth year month ≤ 31 := by
  unfold daysInMonth
  split
  · split <;> decide
  all_goals decide

theorem daysBeforeMonth_succ (year : Nat) {m : Nat} (h : 1 ≤ m) :
    daysBeforeMonth year (m + 1) = daysBeforeMonth year m + daysInMonth year m := by
  obtain ⟨m, rfl⟩ := Nat.exists_eq_add_of_le' h
  rfl

/-- The days of a month lie before every later month. -/
theorem daysBeforeMonth_add_le (year : Nat) {m n : Nat} (hm : 1 ≤ m) (h : m < n) :
    daysBeforeMonth year m + daysInMonth year m ≤ daysBeforeMonth year n := by
  induction h with
  | refl => exact Nat.le_of_eq (daysBeforeMonth_succ year hm).symm
  | step hn ih =>
    rw [daysBeforeMonth_succ year (Nat.le_trans hm (Nat.le_of_succ_le hn))]
    exact Nat.le_trans ih (Nat.le_add_right _ _)

/-- The months make up the year. -/
theorem daysBeforeMonth_december (year : Nat) :
    daysBeforeMonth year 12 + daysInMonth year 12 = daysInYear year := by
  cases h : isLeapYear year <;> simp [daysBeforeMonth, daysInMonth, daysInYear, h]

/-- The number of a day in its year is at most the number of days of the year. -/
theorem InYear.le_daysInYear (h : d.InYear) :
    daysBeforeMonth d.year d.month + d.day ≤ daysInYear d.year := by
  have hday := h.day_le
  have hyear := daysBeforeMonth_december d.year
  rcases Nat.lt_or_eq_of_le h.month_le with hm | hm
  · have := daysBeforeMonth_add_le d.year h.one_le_month hm
    omega
  · rw [hm] at hday ⊢
    omega

theorem isLeapYear_iff (year : Nat) :
    isLeapYear year ↔ 4 ∣ year ∧ (¬100 ∣ year ∨ 400 ∣ year) := by
  simp [isLeapYear, Nat.dvd_iff_mod_eq_zero]

/-- The days of a year lie before the next year. -/
theorem daysBeforeYear_succ {year : Nat} (h : 1 ≤ year) :
    daysBeforeYear (year + 1) = daysBeforeYear year + daysInYear year := by
  obtain ⟨y, rfl⟩ := Nat.exists_eq_add_of_le' h
  have hcentury : y / 100 ≤ 365 * y + y / 4 := by omega
  have hfour (h : 100 ∣ y + 1) : 4 ∣ y + 1 := Nat.dvd_trans (by decide) h
  have hhundred (h : 400 ∣ y + 1) : 100 ∣ y + 1 := Nat.dvd_trans (by decide) h
  simp only [daysBeforeYear, daysInYear, isLeapYear_iff, Nat.add_sub_cancel, Nat.succ_div]
  by_cases h400 : 400 ∣ y + 1
  · rw [if_pos (hfour (hhundred h400)), if_pos (hhundred h400), if_pos h400,
      if_pos ⟨hfour (hhundred h400), .inr h400⟩]
    omega
  by_cases h100 : 100 ∣ y + 1
  · rw [if_pos (hfour h100), if_pos h100, if_neg h400, if_neg fun h ↦ h.2.elim (· h100) h400]
    omega
  by_cases h4 : 4 ∣ y + 1
  · rw [if_pos h4, if_neg h100, if_neg h400, if_pos ⟨h4, .inl h100⟩]
    omega
  · rw [if_neg h4, if_neg h100, if_neg h400, if_neg fun h ↦ h4 h.1]
    omega

theorem daysBeforeYear_add_le {y z : Nat} (hy : 1 ≤ y) (h : y < z) :
    daysBeforeYear y + daysInYear y ≤ daysBeforeYear z := by
  induction h with
  | refl => exact Nat.le_of_eq (daysBeforeYear_succ hy).symm
  | step hz ih =>
    rw [daysBeforeYear_succ (Nat.le_trans hy (Nat.le_of_succ_le hz))]
    exact Nat.le_trans ih (Nat.le_add_right _ _)

/-! ## Numbers of days -/

/-- A day of an earlier year has a smaller number. -/
theorem ordinal_lt_of_year_lt (hd : d.InYear) (he : e.InYear) (hy : 1 ≤ d.year)
    (h : d.year < e.year) : d.ordinal < e.ordinal := by
  have hle := hd.le_daysInYear
  have hyears := daysBeforeYear_add_le hy h
  have hday := he.one_le_day
  unfold ordinal
  omega

/-- A day of an earlier month of the same year has a smaller number. -/
theorem ordinal_lt_of_month_lt (hd : d.InYear) (he : e.InYear) (hy : d.year = e.year)
    (h : d.month < e.month) : d.ordinal < e.ordinal := by
  have hle := hd.day_le
  have hmonths := daysBeforeMonth_add_le d.year hd.one_le_month h
  have hday := he.one_le_day
  unfold ordinal
  rw [← hy]
  omega

/-- No two days have the same number. -/
theorem eq_of_ordinal_eq (hd : d.InYear) (he : e.InYear) (hyd : 1 ≤ d.year) (hye : 1 ≤ e.year)
    (h : d.ordinal = e.ordinal) : d = e := by
  have hyear : d.year = e.year := by
    rcases Nat.lt_trichotomy d.year e.year with hlt | heq | hlt
    · exact absurd h (Nat.ne_of_lt (ordinal_lt_of_year_lt hd he hyd hlt))
    · exact heq
    · exact absurd h (Nat.ne_of_gt (ordinal_lt_of_year_lt he hd hye hlt))
  have hmonth : d.month = e.month := by
    rcases Nat.lt_trichotomy d.month e.month with hlt | heq | hlt
    · exact absurd h (Nat.ne_of_lt (ordinal_lt_of_month_lt hd he hyear hlt))
    · exact heq
    · exact absurd h (Nat.ne_of_gt (ordinal_lt_of_month_lt he hd hyear.symm hlt))
  have hday : d.day = e.day := by
    unfold ordinal at h
    rw [hyear, hmonth] at h
    exact Nat.add_left_cancel h
  cases d
  cases e
  simp_all

/-- The day after is a day and has the next number. -/
theorem next_inYear_ordinal (h : d.InYear) (hy : 1 ≤ d.year) :
    d.next.InYear ∧ d.next.ordinal = d.ordinal + 1 := by
  obtain ⟨hm, hm', hd, hd'⟩ := h
  unfold next
  split
  · rename_i hlt
    exact ⟨⟨hm, hm', Nat.le_add_left _ _, hlt⟩, rfl⟩
  split
  · rename_i hlast hlt
    refine ⟨⟨Nat.le_add_left _ _, hlt, Nat.le_refl _, one_le_daysInMonth _ _⟩, ?_⟩
    simp only [ordinal, daysBeforeMonth_succ d.year hm]
    omega
  · rename_i hlast hdecember
    have hmonth : d.month = 12 := by omega
    have hyear := daysBeforeMonth_december d.year
    refine ⟨⟨Nat.le_refl _, by simp, Nat.le_refl _, one_le_daysInMonth _ _⟩, ?_⟩
    rw [hmonth] at hd' hlast
    have hfirst : daysBeforeMonth (d.year + 1) 1 = 0 := rfl
    simp only [ordinal, daysBeforeYear_succ hy, hfirst, hmonth]
    omega

/-- The day before is a day and has the number before, unless the calendar starts with the day. -/
theorem previous_inYear_ordinal (h : d.InYear) (hy : 1 ≤ d.previous.year) :
    d.previous.InYear ∧ d.previous.ordinal + 1 = d.ordinal := by
  obtain ⟨hm, hm', hd, hd'⟩ := h
  unfold previous at hy ⊢
  split
  · rename_i hlt
    refine ⟨⟨hm, hm', by simp only; omega, by simp only; omega⟩, ?_⟩
    simp only [ordinal]
    omega
  split
  · rename_i hfirst hlt
    have hmonth := daysBeforeMonth_succ d.year (m := d.month - 1) (by omega)
    have hpos := one_le_daysInMonth d.year (d.month - 1)
    rw [Nat.sub_add_cancel hm] at hmonth
    refine ⟨⟨by simp only; omega, by simp only; omega, hpos, Nat.le_refl _⟩, ?_⟩
    simp only [ordinal, hmonth]
    omega
  · rename_i hfirst hjanuary
    rw [if_neg hfirst, if_neg hjanuary] at hy
    have hmonth : d.month = 1 := by omega
    have hyears := daysBeforeYear_succ hy
    have hyear := daysBeforeMonth_december (d.year - 1)
    have hdecember : daysInMonth (d.year - 1) 12 = 31 := rfl
    simp only at hy
    rw [Nat.sub_add_cancel (by omega)] at hyears
    have hfirst : daysBeforeMonth d.year 1 = 0 := rfl
    refine ⟨⟨Nat.le_add_left _ _, Nat.le_refl _, Nat.le_add_left _ _, Nat.le_of_eq hdecember.symm⟩, ?_⟩
    simp only [ordinal, hyears, hmonth, hfirst]
    omega

end Date

/-! ## Times -/

/-- A date and time of the calendar. -/
structure DateTime.Valid (t : DateTime) : Prop where
  /-- The day is one of the calendar. -/
  date : t.date.Valid
  /-- The day has the hour. -/
  hour : t.hour < 24
  /-- The hour has the minute. -/
  minute : t.minute < 60
  /-- The minute has the second. -/
  second : t.second < 60

/-- A local time of the calendar whose distance from UTC is less than a day. -/
structure LocalTime.Valid (t : LocalTime) : Prop where
  /-- The clock shows a date and time of the calendar. -/
  clock : t.clock.Valid
  /-- The clock is not a day or more behind UTC. -/
  neg_lt_offset : -(secondsPerDay : Int) < t.offset
  /-- The clock is not a day or more ahead of UTC. -/
  offset_lt : t.offset < secondsPerDay

/-- The seconds that a clock has counted since the day before the calendar. -/
def DateTime.seconds (t : DateTime) : Int :=
  t.date.ordinal * secondsPerDay + t.secondOfDay

/-- The seconds that a UTC clock has counted at the time. -/
def LocalTime.instant (t : LocalTime) : Int :=
  t.clock.seconds - t.offset

namespace DateTime

variable {t u : DateTime}

theorem Valid.secondOfDay_lt (h : t.Valid) : t.secondOfDay < secondsPerDay := by
  have := h.hour
  have := h.minute
  have := h.second
  unfold secondOfDay secondsPerDay
  omega

/-- A second of a day is a time of the day. -/
theorem valid_seconds_ofSecondOfDay {d : Date} {s : Nat} (h : d.Valid) (hs : s < secondsPerDay) :
    (ofSecondOfDay d s).Valid ∧ (ofSecondOfDay d s).seconds = d.ordinal * secondsPerDay + s := by
  unfold secondsPerDay at hs
  have hsecond : (ofSecondOfDay d s).secondOfDay = s := by
    simp only [ofSecondOfDay, secondOfDay]
    omega
  refine ⟨⟨h, ?_, ?_, ?_⟩, by rw [seconds, hsecond]; rfl⟩
  · exact Nat.div_lt_of_lt_mul hs
  · exact Nat.mod_lt _ (by decide)
  · exact Nat.mod_lt _ (by decide)

/-- Two clocks that have counted the same seconds show the same. -/
theorem eq_of_seconds_eq (ht : t.Valid) (hu : u.Valid) (h : t.seconds = u.seconds) : t = u := by
  have hlt := ht.secondOfDay_lt
  have hlu := hu.secondOfDay_lt
  obtain ⟨hyt, hdt⟩ := Date.valid_iff.mp ht.date
  obtain ⟨hyu, hdu⟩ := Date.valid_iff.mp hu.date
  unfold seconds secondsPerDay at h
  unfold secondsPerDay at hlt hlu
  have hdate : t.date = u.date := Date.eq_of_ordinal_eq hdt hdu hyt.1 hyu.1 (by omega)
  have hsecond : t.secondOfDay = u.secondOfDay := by omega
  have := ht.minute
  have := ht.second
  have := hu.minute
  have := hu.second
  unfold secondOfDay at hsecond
  have hhour : t.hour = u.hour := by omega
  have hminute : t.minute = u.minute := by omega
  have hrest : t.second = u.second := by omega
  cases t
  cases u
  simp_all

end DateTime

namespace LocalTime

variable {t u : LocalTime} {x y : DateTime}

/-- The UTC date and time of a local time is of the calendar, and UTC clocks that show it have counted
the seconds of the instant. -/
theorem valid_seconds_of_toUtc (h : t.Valid) (hx : t.toUtc = .ok x) :
    x.Valid ∧ x.seconds = t.instant := by
  obtain ⟨hclock, hlow, hhigh⟩ := h
  obtain ⟨hyear, hday⟩ := Date.valid_iff.mp hclock.date
  have hlt := hclock.secondOfDay_lt
  have hminYear : minYear = 1 := rfl
  have hnext := Date.next_inYear_ordinal hday hyear.1
  have hprevious := Date.previous_inYear_ordinal hday
  simp only [toUtc] at hx
  generalize hs : (t.clock.secondOfDay : Int) - t.offset = s at hx
  generalize hd : (if s < 0 then t.clock.date.previous
    else if secondsPerDay ≤ s then t.clock.date.next else t.clock.date) = date at hx
  split at hx
  · cases hx
  rename_i hrange
  obtain rfl := Except.ok.inj hx
  have hinstant : t.instant = t.clock.date.ordinal * secondsPerDay + s := by
    rw [instant, DateTime.seconds, ← hs]
    omega
  -- The day moves by as many days as the second of the day leaves it.
  have hmoved : date.InYear ∧ (date.ordinal : Int) = t.clock.date.ordinal + s / secondsPerDay := by
    unfold secondsPerDay at *
    split at hd
    · subst hd
      obtain ⟨hin, hord⟩ := hprevious (by omega)
      exact ⟨hin, by omega⟩
    split at hd
    · subst hd
      exact ⟨hnext.1, by omega⟩
    · subst hd
      exact ⟨hday, by omega⟩
  have hmod : s % secondsPerDay < secondsPerDay := Int.emod_lt_of_pos _ (by decide)
  have hnonneg : 0 ≤ s % secondsPerDay := Int.emod_nonneg _ (by decide)
  obtain ⟨hvalid, hseconds⟩ := DateTime.valid_seconds_ofSecondOfDay
    (s := (s % secondsPerDay).toNat) (Date.valid_iff.mpr ⟨by omega, hmoved.1⟩) (by omega)
  refine ⟨hvalid, ?_⟩
  rw [hseconds, hinstant, hmoved.2, Int.toNat_of_nonneg hnonneg, Int.add_mul, Int.add_assoc,
    Int.mul_comm (s / _), Int.mul_ediv_add_emod]

/-- The UTC times of one instant are the same. -/
theorem toUtc_eq_of_instant_eq (ht : t.Valid) (hu : u.Valid) (hx : t.toUtc = .ok x)
    (hy : u.toUtc = .ok y) (h : t.instant = u.instant) : x = y := by
  obtain ⟨hvx, hsx⟩ := valid_seconds_of_toUtc ht hx
  obtain ⟨hvy, hsy⟩ := valid_seconds_of_toUtc hu hy
  exact DateTime.eq_of_seconds_eq hvx hvy (hsx.trans (h.trans hsy.symm))

end LocalTime

end FixBindings.Calendar
