import FixBindings.Proofs.Calendar.Instant
import FixBindings.Proofs.Rust.Lines
import FixBindings.Proofs.Rust.Version

/-!
# Modules at two times

The time is in one line of a module, the first of the notice, which is the fifth line whatever the
version of the dictionary holds. So the modules of one dictionary at two times differ in this line only,
and at two local times of one instant they do not differ at all.
-/

namespace FixBindings.Rust

open Dictionary Calendar

/-- Lists that differ in one element agree at all other places. -/
theorem getElem?_append_cons_of_ne {α : Type _} {before after : List α} (a b : α) {i : Nat}
    (hi : i ≠ before.length) : (before ++ a :: after)[i]? = (before ++ b :: after)[i]? := by
  rcases Nat.lt_or_gt_of_ne hi with hlt | hgt
  · rw [List.getElem?_append_left hlt, List.getElem?_append_left hlt]
  · obtain ⟨k, hk⟩ := Nat.exists_eq_add_of_lt hgt
    have hbehind : i - before.length = k + 1 := by omega
    rw [List.getElem?_append_right hgt.le, List.getElem?_append_right hgt.le, hbehind,
      List.getElem?_cons_succ, List.getElem?_cons_succ]

/-! ## The line with the time -/

/-- What the line with the time starts with. -/
def timeLineStart : String :=
  "// Generated automatically by fix-codegen "

/-- The line with the time. -/
def timeLine (now : DateTime) : String :=
  timeLineStart ++ generatorVersion ++ " on " ++ now.mailText ++ "."

/-- The lines in front of the line with the time. -/
def linesBeforeTime (version : String) : List String :=
  ["//! Field and message definitions for " ++ Text.singleLine version ++ ".", "",
    "#![allow(dead_code)]", ""]

theorem length_linesBeforeTime (version : String) : (linesBeforeTime version).length = 4 := rfl

theorem newline_notMem_linesBeforeTime {version l : String} (h : l ∈ linesBeforeTime version) :
    '\n' ∉ l.toList := by
  have hversion := Text.newline_notMem_singleLine version
  simp only [linesBeforeTime, List.mem_cons, List.not_mem_nil, or_false] at h
  rcases h with rfl | rfl | rfl | rfl
  · simp only [String.toList_append, List.mem_append, not_or]
    exact ⟨⟨by decide, hversion⟩, by decide⟩
  all_goals decide

theorem newline_notMem_timeLine (now : DateTime) : '\n' ∉ (timeLine now).toList := by
  have hmail := newline_notMem_mailText now
  simp only [timeLine, String.toList_append, List.mem_append, not_or]
  exact ⟨⟨⟨⟨by decide, by decide⟩, by decide⟩, hmail⟩, by decide⟩

/-- The lines of a module are the same for all times but for the one with the time. -/
theorem exists_moduleLines_eq (o : Options) (d : Dictionary) :
    ∃ after, ∀ now, moduleLines o now d = linesBeforeTime d.version ++ timeLine now :: after :=
  ⟨_, fun _ ↦ rfl⟩

/-- Four lines of a module stand in front of the one with the time, and those behind it are the same for
all times. -/
theorem exists_splitLines_eq (o : Options) (d : Dictionary) :
    ∃ after, ∀ now, splitLines (unlines (moduleLines o now d)) =
      linesBeforeTime d.version ++ timeLine now :: after := by
  obtain ⟨after, hafter⟩ := exists_moduleLines_eq o d
  refine ⟨splitLines (unlines after), fun now ↦ ?_⟩
  rw [hafter, unlines_append, unlines_cons,
    splitLines_unlines_append fun _ ↦ newline_notMem_linesBeforeTime,
    splitLines_line (newline_notMem_timeLine now)]

/-- Two modules of a dictionary with all tags in range and all types encodable, at times with a UTC date,
have equally many lines and agree on each but the fifth, which tells the time in both. At times of one
instant they are the same. -/
theorem generate_splitLines_eq (o : Options) {d : Dictionary} (h : ∀ f ∈ d.fields, TagInRange f.tag)
    (he : AreEncodable o d) {t u : LocalTime} {x y : DateTime} (hx : t.toUtc = .ok x) (hy : u.toUtc = .ok y) :
    ∃ r s, (generate o t d).result = .ok r ∧ (generate o u d).result = .ok s ∧
      (splitLines r).length = (splitLines s).length ∧
      (∀ i, i ≠ 4 → (splitLines r)[i]? = (splitLines s)[i]?) ∧
      (∀ text ∈ [r, s], ∃ l, (splitLines text)[4]? =
        some ("// Generated automatically by fix-codegen " ++ l)) ∧
      (t.Valid → u.Valid → t.instant = u.instant → r = s) := by
  obtain ⟨after, hafter⟩ := exists_splitLines_eq o d
  have hfifth (now : DateTime) :
      ∃ l, (splitLines (unlines (moduleLines o now d)))[4]? = some (timeLineStart ++ l) := by
    refine ⟨generatorVersion ++ " on " ++ now.mailText ++ ".", ?_⟩
    rw [hafter, ← length_linesBeforeTime d.version, List.getElem?_append_right le_rfl, Nat.sub_self,
      List.getElem?_cons_zero, timeLine]
    simp only [String.append_assoc]
  refine ⟨_, _, generate_eq_unlines o h he hx, generate_eq_unlines o h he hy, ?_, ?_, ?_, ?_⟩
  · rw [hafter, hafter, List.length_append, List.length_append, List.length_cons, List.length_cons]
  · intro i hi
    rw [hafter, hafter]
    exact getElem?_append_cons_of_ne _ _ hi
  · exact List.forall_mem_cons.mpr ⟨hfifth x, List.forall_mem_singleton.mpr (hfifth y)⟩
  · intro ht hu hinstant
    rw [LocalTime.toUtc_eq_of_instant_eq ht hu hx hy hinstant]

/-- Half an hour before midnight on a leap day, one hour behind UTC, is half an hour after midnight on the
day after. -/
theorem generate_splitLines_eq_leapDay :
    ((∀ f ∈ awkward.fields, TagInRange f.tag) ∧ AreEncodable { includeMessages := true } awkward ∧
      LocalTime.toUtc ⟨⟨⟨2024, 2, 29⟩, 23, 30, 0⟩, -3600⟩ = .ok ⟨⟨2024, 3, 1⟩, 0, 30, 0⟩ ∧
      LocalTime.toUtc ⟨⟨⟨2024, 3, 1⟩, 0, 30, 0⟩, 0⟩ = .ok ⟨⟨2024, 3, 1⟩, 0, 30, 0⟩ ∧
      LocalTime.Valid ⟨⟨⟨2024, 2, 29⟩, 23, 30, 0⟩, -3600⟩ ∧
      LocalTime.Valid ⟨⟨⟨2024, 3, 1⟩, 0, 30, 0⟩, 0⟩ ∧
      LocalTime.instant ⟨⟨⟨2024, 2, 29⟩, 23, 30, 0⟩, -3600⟩ =
        LocalTime.instant ⟨⟨⟨2024, 3, 1⟩, 0, 30, 0⟩, 0⟩) ∧
    ∃ r s,
      (generate { includeMessages := true } ⟨⟨⟨2024, 2, 29⟩, 23, 30, 0⟩, -3600⟩ awkward).result =
        .ok r ∧
      (generate { includeMessages := true } ⟨⟨⟨2024, 3, 1⟩, 0, 30, 0⟩, 0⟩ awkward).result = .ok s ∧
      r = s := by
  have ht : ∀ f ∈ awkward.fields, TagInRange f.tag := by decide
  have he := areEncodable_awkward
  have hv : LocalTime.Valid ⟨⟨⟨2024, 2, 29⟩, 23, 30, 0⟩, -3600⟩ :=
    ⟨⟨by decide, by decide, by decide, by decide⟩, by decide, by decide⟩
  have hw : LocalTime.Valid ⟨⟨⟨2024, 3, 1⟩, 0, 30, 0⟩, 0⟩ :=
    ⟨⟨by decide, by decide, by decide, by decide⟩, by decide, by decide⟩
  obtain ⟨r, s, hr, hs, -, -, -, heq⟩ := generate_splitLines_eq { includeMessages := true } ht he
    (t := ⟨⟨⟨2024, 2, 29⟩, 23, 30, 0⟩, -3600⟩) (u := ⟨⟨⟨2024, 3, 1⟩, 0, 30, 0⟩, 0⟩) rfl rfl
  exact ⟨⟨ht, he, rfl, rfl, hv, hw, rfl⟩, r, s, hr, hs, heq hv hw rfl⟩

end FixBindings.Rust
