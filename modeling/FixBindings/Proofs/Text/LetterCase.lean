import FixBindings.Proofs.Text.Characters

/-!
# The case of ASCII letters

Texts are compared without regard to letter case in two ways: by their full upper or lower case, and by the
case of ASCII letters alone. In ASCII texts both are the same (`upper_of_isAscii`, `lower_of_isAscii`), and
texts that differ in the case of ASCII letters only have one full upper case, whatever else is in them
(`upper_congr`).
-/

namespace FixBindings.Text

/-- The text is made of ASCII characters. -/
def IsAscii (s : String) : Prop :=
  ∀ c ∈ s.toList, c.toNat < 128

instance (s : String) : Decidable (IsAscii s) :=
  decidable_of_iff (s.toList.all fun c ↦ c.toNat < 128) (by simp [IsAscii])

/-- The upper case of ASCII characters, and of no others, is ASCII. -/
theorem toNat_toUpper_lt_iff {c : Char} : c.toUpper.toNat < 128 ↔ c.toNat < 128 := by
  by_cases h : c.toNat < 128
  · have hlt : c.toUpper.toNat < 128 := of_ascii (P := fun c ↦ c.toUpper.toNat < 128) (by decide) h
    exact iff_of_true hlt h
  · rw [toUpper_of_le_toNat (Nat.le_of_not_lt h)]

theorem isBlank_toUpper (c : Char) : isBlank c.toUpper = isBlank c := by
  by_cases h : c.toNat < 128
  · exact of_ascii (P := fun c ↦ isBlank c.toUpper = isBlank c) (by decide) h
  · rw [toUpper_of_le_toNat (Nat.le_of_not_lt h)]

theorem toList_toUpper (s : String) : s.toUpper.toList = s.toList.map Char.toUpper :=
  String.toList_map

theorem toList_toLower (s : String) : s.toLower.toList = s.toList.map Char.toLower :=
  String.toList_map

/-- Trimming takes away the same white space in another case. -/
theorem toUpper_trimmed (s : String) : (trimmed s).toUpper = trimmed s.toUpper := by
  rw [← String.toList_inj, toList_toUpper, trimmed, trimmed, String.toList_ofList, String.toList_ofList,
    toList_toUpper]
  exact (rdropWhile_dropWhile_map isBlank_toUpper s.toList).symm

/-- A text is made of ASCII characters when it is one in upper case. -/
theorem isAscii_of_toUpper_eq {s t : String} (h : s.toUpper = t.toUpper) (ht : IsAscii t) : IsAscii s := by
  intro c hc
  have hmem : c.toUpper ∈ t.toUpper.toList := by
    rw [← h, toList_toUpper]
    exact List.mem_map_of_mem hc
  rw [toList_toUpper, List.mem_map] at hmem
  obtain ⟨d, hd, heq⟩ := hmem
  rw [← toNat_toUpper_lt_iff, ← heq, toNat_toUpper_lt_iff]
  exact ht d hd

/-- A text has the upper case of its lower case. -/
@[simp] theorem toUpper_toLower (s : String) : s.toLower.toUpper = s.toUpper := by
  rw [← String.toList_inj, toList_toUpper, toList_toLower, toList_toUpper, List.map_map]
  exact List.map_congr_left fun c _ ↦ char_toUpper_toLower c

/-- Texts with one upper case have one lower case. -/
theorem toLower_eq_of_toUpper_eq {s t : String} (h : s.toUpper = t.toUpper) : s.toLower = t.toLower := by
  have hlower (u : String) : u.toUpper.toLower = u.toLower := by
    rw [← String.toList_inj, toList_toLower, toList_toUpper, toList_toLower, List.map_map]
    exact List.map_congr_left fun c _ ↦ char_toLower_toUpper c
  rw [← hlower, h, hlower]

/-- Characters other than small letters stay in upper case. -/
theorem map_toUpper_eq_self {cs : List Char} (h : ∀ c ∈ cs, ¬c.isLower) : cs.map Char.toUpper = cs :=
  (List.map_congr_left fun c hc ↦ toUpper_of_not_isLower (h c hc)).trans cs.map_id

/-- Characters other than capitals stay in lower case. -/
theorem map_toLower_eq_self {cs : List Char} (h : ∀ c ∈ cs, ¬c.isUpper) : cs.map Char.toLower = cs :=
  (List.map_congr_left fun c hc ↦ toLower_of_not_isUpper (h c hc)).trans cs.map_id

/-- What is no capital in upper case has been the same before. -/
theorem eq_of_map_toUpper_eq {cs ds : List Char} (h : cs.map Char.toUpper = ds) (hd : ∀ d ∈ ds, ¬d.isUpper) :
    cs = ds := by
  subst h
  refine (map_toUpper_eq_self fun c hc hlower ↦ ?_).symm
  refine hd c.toUpper (List.mem_map_of_mem hc) ?_
  have hascii := toNat_lt_of_isLower hlower
  revert hlower
  exact of_ascii (P := fun c ↦ c.isLower → c.toUpper.isUpper) (by decide) hascii

/-- Digits are no letters. -/
theorem not_isAlpha_of_isDigit {c : Char} (h : c.isDigit) : ¬c.isUpper ∧ ¬c.isLower := by
  have hlt := toNat_lt_of_isDigit h
  revert h
  exact of_ascii (P := fun c ↦ c.isDigit → ¬c.isUpper ∧ ¬c.isLower) (by decide) hlt

theorem IsAscii.trimmed {s : String} (h : IsAscii s) : IsAscii (trimmed s) := by
  intro c hc
  rw [Text.trimmed, String.toList_ofList] at hc
  exact h c ((trim_sublist s.toList).mem hc)

/-- Characters that differ in the case of an ASCII letter only have one upper case. -/
theorem upperChar_congr {c d : Char} (h : c.toUpper = d.toUpper) : upperChar c = upperChar d := by
  have hascii : c.toNat < 128 ↔ d.toNat < 128 := by
    rw [← toNat_toUpper_lt_iff, h, toNat_toUpper_lt_iff]
  by_cases hc : c.toNat < 128
  · rw [upperChar, if_pos hc, upperChar, if_pos (hascii.mp hc), h]
  · have hd : ¬d.toNat < 128 := fun hd ↦ hc (hascii.mpr hd)
    rw [toUpper_of_le_toNat (Nat.le_of_not_lt hc), toUpper_of_le_toNat (Nat.le_of_not_lt hd)] at h
    rw [h]

/-- Texts that differ in the case of ASCII letters only have one upper case. -/
theorem upper_congr {cs ds : List Char} (h : cs.map Char.toUpper = ds.map Char.toUpper) :
    upper cs = upper ds := by
  induction cs generalizing ds with
  | nil => rw [List.map_eq_nil_iff.mp h.symm]
  | cons c cs ih =>
    obtain ⟨d, ds, rfl, hd, hds⟩ := List.map_eq_cons_iff.mp h.symm
    rw [upper, upper, List.flatMap_cons, List.flatMap_cons, upperChar_congr hd.symm]
    exact congrArg _ (ih hds.symm)

section

variable {cs : List Char} (h : ∀ c ∈ cs, c.toNat < 128)
include h

/-- The upper case of an ASCII text. -/
theorem upper_of_isAscii : upper cs = cs.map Char.toUpper := by
  have hchar : ∀ c ∈ cs, upperChar c = [c.toUpper] := fun c hc ↦ if_pos (h c hc)
  rw [upper, List.flatMap_congr hchar, List.map_eq_flatMap]

/-- The lower case of an ASCII text. -/
theorem lower_of_isAscii : lower cs = cs.map Char.toLower := by
  suffices ∀ before, lowerFrom before cs = cs.map Char.toLower from this []
  induction cs with
  | nil => exact fun _ ↦ rfl
  | cons c cs ih =>
    rw [List.forall_mem_cons] at h
    intro before
    have hsigma : (c == 'Σ') = false := by
      rw [beq_eq_false_iff_ne]
      rintro rfl
      exact absurd h.1 (by decide)
    have hlower : lowerChar c = [c.toLower] := if_pos h.1
    rw [lowerFrom, hsigma, ih h.2, hlower]
    rfl

end

end FixBindings.Text
