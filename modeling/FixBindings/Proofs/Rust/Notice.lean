import FixBindings.Proofs.Calendar.MailText
import FixBindings.Proofs.Calendar.Seconds
import FixBindings.Rust.Notice

/-!
# Notices tell instants

There is a notice at a local time if and only if its instant is a second of the calendar. The notice shows the
one date and time of the calendar at which a UTC clock has counted this second, with its day of the week, so
that notices at two local times are the same just when these are of one instant.
-/

namespace FixBindings.Rust

open Calendar

/-- The notice that shows the text of a date and time. -/
def noticeText (mail : String) : String :=
  unlines
    ["// Generated automatically by fix-codegen 0.1.0 on " ++ mail ++ ".",
     "//",
     "// DO NOT MODIFY MANUALLY.",
     "// DO NOT COMMIT TO VERSION CONTROL.",
     "// ALL CHANGES WILL BE OVERWRITTEN."]

/-- Notices that show different texts differ. -/
theorem noticeText_injective : Function.Injective noticeText := by
  intro a b h
  simp only [noticeText, unlines_cons, String.append_left_inj, String.append_right_inj] at h
  exact h

/-- A notice at a local time is that of its UTC date and time, if it has one. -/
theorem notice_of_toUtc {t : LocalTime} {x : DateTime} (h : t.toUtc = .ok x) :
    notice t = .ok (noticeText x.mailText) := by
  rw [notice, h]
  rfl

theorem notice_eq_error_iff {t : LocalTime} : notice t = .error ⟨⟩ ↔ t.toUtc = .error ⟨⟩ := by
  unfold notice
  cases t.toUtc with
  | error e => exact ⟨fun _ ↦ rfl, fun _ ↦ rfl⟩
  | ok x => exact ⟨nofun, nofun⟩

/-- A notice is that of the UTC date and time of its local time. -/
theorem exists_of_notice_eq_ok {t : LocalTime} {s : String} (h : notice t = .ok s) :
    ∃ x, t.toUtc = .ok x ∧ s = noticeText x.mailText := by
  cases hx : t.toUtc with
  | error e =>
    rw [notice_eq_error_iff.mpr hx] at h
    cases h
  | ok x =>
    rw [notice_of_toUtc hx] at h
    exact ⟨x, rfl, (Except.ok.inj h).symm⟩

/-- There is no notice at a local time whose instant is before the first second of the year 1 or behind the
last second of the year 9999. At every other local time there is one, and what is read from it is the date and
time of the calendar at which a UTC clock has counted the seconds of the instant, with the day of the week, as
counted from the first day of the calendar, a Monday. Notices at two local times are the same if and only if
the local times are of one instant. -/
theorem notice_tells_instant {t u : LocalTime} (ht : t.Valid) (hu : u.Valid) :
    (notice t = .error ⟨⟩ ↔ ¬InCalendar t.instant) ∧
    (InCalendar t.instant → ∃ mail weekday x,
      notice t = .ok (noticeText mail) ∧ readMail? mail = some (weekday, x) ∧
      x.Valid ∧ x.seconds = t.instant ∧
      (weekday : Int) = (t.instant - firstSecond) / secondsPerDay % 7) ∧
    ∀ r s, notice t = .ok r → notice u = .ok s → (r = s ↔ t.instant = u.instant) := by
  refine ⟨notice_eq_error_iff.trans (LocalTime.toUtc_eq_error_iff ht), fun hin ↦ ?_, fun r s hr hs ↦ ?_⟩
  · cases hx : t.toUtc with
    | error => exact absurd hin ((LocalTime.toUtc_eq_error_iff ht).mp hx)
    | ok x =>
      obtain ⟨hvalid, hseconds⟩ := LocalTime.valid_seconds_of_toUtc ht hx
      refine ⟨x.mailText, x.date.weekday, x, notice_of_toUtc hx, readMail?_mailText hvalid, hvalid, hseconds,
        ?_⟩
      rw [← hseconds, hvalid.weekday_eq]
  · obtain ⟨x, hx, rfl⟩ := exists_of_notice_eq_ok hr
    obtain ⟨y, hy, rfl⟩ := exists_of_notice_eq_ok hs
    obtain ⟨hvx, hsx⟩ := LocalTime.valid_seconds_of_toUtc ht hx
    obtain ⟨hvy, hsy⟩ := LocalTime.valid_seconds_of_toUtc hu hy
    rw [noticeText_injective.eq_iff, DateTime.mailText_inj hvx hvy, ← hsx, ← hsy]
    exact ⟨congrArg _, DateTime.eq_of_seconds_eq hvx hvy⟩

/-- A second before midnight on the last day of February of a full century, at a clock that is one second behind
UTC, is midnight on the day after, which is the first of March. At a clock that is one second ahead of UTC the
calendar starts too early. -/
theorem notice_tells_instant_century :
    let t : LocalTime := ⟨⟨⟨1900, 2, 28⟩, 23, 59, 59⟩, -1⟩
    let u : LocalTime := ⟨⟨⟨1900, 3, 1⟩, 14, 0, 0⟩, 50400⟩
    let v : LocalTime := ⟨⟨⟨1, 1, 1⟩, 0, 0, 0⟩, 1⟩
    (t.Valid ∧ u.Valid ∧ v.Valid) ∧
    notice t = .ok (noticeText "Thu, 01 Mar 1900 00:00:00 +0000") ∧ notice u = notice t ∧
    notice v = .error ⟨⟩ := by
  intro t u v
  have ht : t.Valid := ⟨⟨by decide, by decide, by decide, by decide⟩, by decide, by decide⟩
  have hu : u.Valid := ⟨⟨by decide, by decide, by decide, by decide⟩, by decide, by decide⟩
  have hv : v.Valid := ⟨⟨by decide, by decide, by decide, by decide⟩, by decide, by decide⟩
  have htext : DateTime.mailText ⟨⟨1900, 3, 1⟩, 0, 0, 0⟩ = "Thu, 01 Mar 1900 00:00:00 +0000" := by
    decide +kernel
  have hutc : LocalTime.toUtc ⟨⟨⟨1900, 2, 28⟩, 23, 59, 59⟩, -1⟩ = .ok ⟨⟨1900, 3, 1⟩, 0, 0, 0⟩ := rfl
  have hnotice : notice t = .ok (noticeText "Thu, 01 Mar 1900 00:00:00 +0000") := by
    rw [notice_of_toUtc hutc, htext]
  obtain ⟨-, hshown, -⟩ := notice_tells_instant hu ht
  obtain ⟨mail, -, -, hmail, -⟩ := hshown (by decide)
  have hsame := ((notice_tells_instant hu ht).2.2 _ _ hmail hnotice).mpr (by decide)
  refine ⟨⟨ht, hu, hv⟩, hnotice, ?_, (notice_tells_instant hv ht).1.mpr (by decide)⟩
  rw [hmail, hnotice, hsame]

end FixBindings.Rust
