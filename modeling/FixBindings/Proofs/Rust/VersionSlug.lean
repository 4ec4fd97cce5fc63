import FixBindings.Proofs.Rust.VersionNumbers
import FixBindings.Proofs.Text.LetterCase

/-!
# Short forms of versions

In an ASCII text the letters of a version are those of `FIX`, `FIXT` and `SP` in any case and its digits are
the ASCII ones, so its numbers depend on the upper case of the text alone
(`VersionNumbers.read?_eq_some_iff_isVersion`).

Short forms start with a digit. So none of them is read as a version again, and they are told apart by their
numbers. The other versions stay as they are, but for white space and case.
-/

namespace FixBindings.Rust

open Text

/-! ## ASCII versions -/

/-- The characters are ASCII digits, at least one. -/
def IsNumeral (ds : List Char) : Prop :=
  ds ≠ [] ∧ ∀ c ∈ ds, c.isDigit

/-- The text is a version with the numbers `v`, without regard to the case of letters: `FIX` or `FIXT` with
`.a.b` or `.a.bSPc` behind it. -/
inductive IsVersion (s : String) : VersionNumbers → Prop where
  | release {mark : String} {a b : List Char} (hm : mark = "FIX" ∨ mark = "FIXT") (ha : IsNumeral a)
    (hb : IsNumeral b) (hs : s.toUpper = mark ++ "." ++ .ofList a ++ "." ++ .ofList b) :
    IsVersion s ⟨a, b, none⟩
  | servicePack {mark : String} {a b c : List Char} (hm : mark = "FIX" ∨ mark = "FIXT")
    (ha : IsNumeral a) (hb : IsNumeral b) (hc : IsNumeral c)
    (hs : s.toUpper = mark ++ "." ++ .ofList a ++ "." ++ .ofList b ++ "SP" ++ .ofList c) :
    IsVersion s ⟨a, b, some c⟩

/-- A text in another case is a version with the same numbers. -/
theorem IsVersion.of_toUpper_eq {s t : String} {v : VersionNumbers} (h : IsVersion s v)
    (hst : s.toUpper = t.toUpper) : IsVersion t v := by
  cases h with
  | release hm ha hb hs => exact .release hm ha hb (hst ▸ hs)
  | servicePack hm ha hb hc hs => exact .servicePack hm ha hb hc (hst ▸ hs)

theorem spells_of_map_toUpper {ls cs : List Char} (h : cs.map Char.toUpper = ls) : Spells ls cs := by
  subst h
  exact List.forall₂_map_left_iff.mpr (List.forall₂_same.mpr fun c _ ↦ by simp [isLetter])

/-- Among ASCII characters a letter is itself in upper or lower case. -/
theorem Spells.map_toUpper {ls cs : List Char} (h : Spells ls cs) (hcs : ∀ c ∈ cs, c.toNat < 128) :
    cs.map Char.toUpper = ls := by
  induction h with
  | nil => rfl
  | @cons l c ls cs hl _ ih =>
    rw [List.forall_mem_cons] at hcs
    -- The other characters that count as letters are not ASCII.
    have hother (d : Char) (hd : 128 ≤ d.toNat) : c ≠ d := by
      rintro rfl
      exact absurd hcs.1 (Nat.not_lt.mpr hd)
    have hletter : c.toUpper = l := by
      simpa [isLetter, hother 'ı' (by decide), hother 'İ' (by decide), hother 'ſ' (by decide)] using hl
    rw [List.map_cons, hletter, ih hcs.2]

theorem isDecimalDigit_of_isAscii {c : Char} (h : c.toNat < 128) : isDecimalDigit c = c.isDigit :=
  of_ascii (P := fun c ↦ isDecimalDigit c = c.isDigit) (by decide) h

theorem IsNumeral.areDigits {ds : List Char} (h : IsNumeral ds) : AreDigits ds := by
  refine ⟨h.1, fun c hc ↦ ?_⟩
  rw [isDecimalDigit_of_isAscii (toNat_lt_of_isDigit (h.2 c hc))]
  exact h.2 c hc

theorem AreDigits.isNumeral {ds : List Char} (h : AreDigits ds) (hds : ∀ c ∈ ds, c.toNat < 128) :
    IsNumeral ds :=
  ⟨h.1, fun c hc ↦ by rw [← isDecimalDigit_of_isAscii (hds c hc)]; exact h.2 c hc⟩

theorem IsNumeral.map_toUpper {ds : List Char} (h : IsNumeral ds) : ds.map Char.toUpper = ds :=
  map_toUpper_eq_self fun c hc ↦ (not_isAlpha_of_isDigit (h.2 c hc)).2

/-- The numbers are made of ASCII digits, at least one in each. -/
structure VersionNumbers.AreNumerals (v : VersionNumbers) : Prop where
  major : IsNumeral v.major
  minor : IsNumeral v.minor
  servicePack : ∀ c ∈ v.servicePack, IsNumeral c

theorem IsVersion.areNumerals {s : String} {v : VersionNumbers} (h : IsVersion s v) : v.AreNumerals := by
  cases h with
  | release hm ha hb => exact ⟨ha, hb, by simp⟩
  | servicePack hm ha hb hc => exact ⟨ha, hb, by simpa using hc⟩

/-- A version starts with an `F`. -/
theorem IsVersion.head?_toUpper {s : String} {v : VersionNumbers} (h : IsVersion s v) :
    s.toUpper.toList.head? = some 'F' := by
  cases h with
  | release hm ha hb hs => rw [hs]; rcases hm with rfl | rfl <;> simp
  | servicePack hm ha hb hc hs => rw [hs]; rcases hm with rfl | rfl <;> simp

/-- The mark of a version is `FIX` or `FIXT` in any case. -/
theorem spells_mark {mark : String} {cs : List Char} (hm : mark = "FIX" ∨ mark = "FIXT")
    (h : cs.map Char.toUpper = mark.toList) :
    Spells ['F', 'I', 'X'] cs ∨ Spells ['F', 'I', 'X', 'T'] cs := by
  rcases hm with rfl | rfl
  · exact .inl (spells_of_map_toUpper h)
  · exact .inr (spells_of_map_toUpper h)

theorem exists_mark {cs : List Char} (h : Spells ['F', 'I', 'X'] cs ∨ Spells ['F', 'I', 'X', 'T'] cs)
    (hcs : ∀ c ∈ cs, c.toNat < 128) :
    ∃ mark : String, (mark = "FIX" ∨ mark = "FIXT") ∧ cs.map Char.toUpper = mark.toList := by
  rcases h with h | h
  · exact ⟨"FIX", .inl rfl, h.map_toUpper hcs⟩
  · exact ⟨"FIXT", .inr rfl, h.map_toUpper hcs⟩

/-- Numbers behind points have no capitals. -/
theorem not_isUpper_of_mem_numbers {a b : List Char} (ha : IsNumeral a) (hb : IsNumeral b) :
    ∀ c ∈ '.' :: (a ++ '.' :: b), ¬c.isUpper := by
  intro c hc
  rw [List.mem_cons, List.mem_append, List.mem_cons] at hc
  rcases hc with rfl | hc | rfl | hc
  · decide
  · exact (not_isAlpha_of_isDigit (ha.2 c hc)).1
  · decide
  · exact (not_isAlpha_of_isDigit (hb.2 c hc)).1

/-- The text of the numbers of a version is that version, when it is ASCII. -/
theorem VersionNumbers.IsText.isVersion {s : String} {v : VersionNumbers} (hv : v.IsText s.toList)
    (h : IsAscii s) : IsVersion s v := by
  unfold IsAscii at h
  generalize hs : s.toList = cs at h hv
  cases hv with
  | @release mark a b hm ha hb =>
    simp only [List.forall_mem_append, List.forall_mem_cons] at h
    obtain ⟨name, hname, hmark⟩ := exists_mark hm h.1
    have ha := ha.isNumeral h.2.2.1
    have hb := hb.isNumeral h.2.2.2.2
    refine .release hname ha hb ?_
    rw [← String.toList_inj, toList_toUpper, hs]
    simp [hmark, ha.map_toUpper, hb.map_toUpper]
  | @servicePack mark a b pack c hm ha hb hp hc =>
    simp only [List.forall_mem_append, List.forall_mem_cons] at h
    obtain ⟨name, hname, hmark⟩ := exists_mark hm h.1
    have ha := ha.isNumeral h.2.2.1
    have hb := hb.isNumeral h.2.2.2.2.1
    have hc := hc.isNumeral h.2.2.2.2.2.2
    refine .servicePack hname ha hb hc ?_
    rw [← String.toList_inj, toList_toUpper, hs]
    simp [hmark, ha.map_toUpper, hb.map_toUpper, hc.map_toUpper, hp.map_toUpper h.2.2.2.2.2.1]

/-- Every version is the text of its numbers. -/
theorem IsVersion.isText {s : String} {v : VersionNumbers} (h : IsVersion s v) : v.IsText s.toList := by
  cases h with
  | @release mark a b hm ha hb hs =>
    have hlist : s.toList.map Char.toUpper = mark.toList ++ '.' :: (a ++ '.' :: b) := by
      simpa [← String.toList_inj, toList_toUpper] using hs
    obtain ⟨name, numbers, hname, hmark, hnumbers⟩ := List.map_eq_append_iff.mp hlist
    rw [hname, eq_of_map_toUpper_eq hnumbers (not_isUpper_of_mem_numbers ha hb)]
    exact .release (spells_mark hm hmark) ha.areDigits hb.areDigits
  | @servicePack mark a b c hm ha hb hc hs =>
    have hlist : s.toList.map Char.toUpper =
        mark.toList ++ (('.' :: (a ++ '.' :: b)) ++ (['S', 'P'] ++ c)) := by
      simpa [← String.toList_inj, toList_toUpper] using hs
    obtain ⟨name, rest, hname, hmark, hrest⟩ := List.map_eq_append_iff.mp hlist
    obtain ⟨numbers, rest, rfl, hnumbers, hrest⟩ := List.map_eq_append_iff.mp hrest
    obtain ⟨pack, digits, rfl, hpack, hdigits⟩ := List.map_eq_append_iff.mp hrest
    rw [hname, eq_of_map_toUpper_eq hnumbers (not_isUpper_of_mem_numbers ha hb),
      eq_of_map_toUpper_eq hdigits fun d hd ↦ (not_isAlpha_of_isDigit (hc.2 d hd)).1]
    have htext := VersionNumbers.IsText.servicePack (spells_mark hm hmark) ha.areDigits hb.areDigits
      (spells_of_map_toUpper hpack) hc.areDigits
    simpa using htext

/-- The numbers of a version are read from an ASCII text without regard to the case of letters. -/
theorem VersionNumbers.read?_eq_some_iff_isVersion {s : String} (h : IsAscii s) {v : VersionNumbers} :
    read? s.toList = some v ↔ IsVersion s v := by
  rw [read?_eq_some_iff]
  exact ⟨fun hv ↦ hv.isVersion h, IsVersion.isText⟩

/-! ## Short forms -/

theorem versionSlug_eq (version : String) : versionSlug version =
    match VersionNumbers.read? (trimmed version).toList with
    | some v => .ofList v.slug
    | none => .ofList (lower (trimmed version).toList) := by
  rw [trimmed, String.toList_ofList, versionSlug]
  split <;> simp_all

/-- White space around a version does not change its short form. -/
theorem versionSlug_of_trimmed_eq {s t : String} (h : trimmed s = trimmed t) :
    versionSlug s = versionSlug t := by
  rw [versionSlug_eq, h, ← versionSlug_eq]

/-- The short form of an ASCII text that is a version. -/
theorem versionSlug_of_isVersion {version : String} (h : IsAscii version) {v : VersionNumbers}
    (hv : IsVersion (trimmed version) v) : versionSlug version = .ofList v.slug := by
  rw [versionSlug_eq, (VersionNumbers.read?_eq_some_iff_isVersion h.trimmed).mpr hv]

/-- The short form of another ASCII text. -/
theorem versionSlug_of_not_isVersion {version : String} (h : IsAscii version)
    (hv : ∀ v, ¬IsVersion (trimmed version) v) : versionSlug version = (trimmed version).toLower := by
  have hnone : VersionNumbers.read? (trimmed version).toList = none := by
    refine Option.eq_none_iff_forall_ne_some.mpr fun v hread ↦ hv v ?_
    exact (VersionNumbers.read?_eq_some_iff_isVersion h.trimmed).mp hread
  rw [versionSlug_eq, hnone, ← String.toList_inj]
  dsimp only
  rw [String.toList_ofList, lower_of_isAscii h.trimmed, toList_toLower]

/-- What a short form has behind its second number. -/
def packTail : Option (List Char) → List Char
  | none => []
  | some c => '.' :: 's' :: 'p' :: c

theorem VersionNumbers.slug_eq (v : VersionNumbers) :
    v.slug = v.major ++ '.' :: (v.minor ++ packTail v.servicePack) := by
  rw [slug, List.append_assoc, List.append_assoc]
  rcases v with ⟨a, b, _ | c⟩ <;> rfl

/-- A number ends where something other than a digit stands. -/
theorem IsNumeral.append_inj {a b as bs : List Char} (ha : IsNumeral a) (hb : IsNumeral b)
    (has : ∀ c ∈ as.head?, ¬c.isDigit) (hbs : ∀ c ∈ bs.head?, ¬c.isDigit) (h : a ++ as = b ++ bs) :
    a = b ∧ as = bs := by
  have hleft : IsMaximalRun Char.isDigit [] a as := ⟨ha.2, by simp, has⟩
  have hright : IsMaximalRun Char.isDigit [] b bs := ⟨hb.2, by simp, hbs⟩
  have hab : a = b := by rw [← hleft.takeWhile_eq, h, hright.takeWhile_eq]
  exact ⟨hab, List.append_cancel_left (hab ▸ h)⟩

theorem not_isDigit_of_packTail (pack : Option (List Char)) : ∀ c ∈ (packTail pack).head?, ¬c.isDigit := by
  cases pack with
  | none => simp [packTail]
  | some p =>
    rintro c ⟨⟩
    decide

/-- Numbers are told from their short form. -/
theorem VersionNumbers.AreNumerals.slug_inj {v w : VersionNumbers} (hv : v.AreNumerals) (hw : w.AreNumerals)
    (h : v.slug = w.slug) : v = w := by
  have hpoint : ∀ rest : List Char, ∀ c ∈ ('.' :: rest).head?, ¬c.isDigit := by
    rintro rest c ⟨⟩
    decide
  rw [slug_eq, slug_eq] at h
  obtain ⟨hmajor, hrest⟩ := hv.major.append_inj hw.major (hpoint _) (hpoint _) h
  obtain ⟨hminor, hpack⟩ := hv.minor.append_inj hw.minor (not_isDigit_of_packTail _)
    (not_isDigit_of_packTail _) (List.cons.inj hrest).2
  obtain ⟨a, b, pack⟩ := v
  obtain ⟨a', b', pack'⟩ := w
  obtain rfl : a = a' := hmajor
  obtain rfl : b = b' := hminor
  cases pack <;> cases pack' <;> simp_all [packTail]

/-- A short form starts with a digit. -/
theorem VersionNumbers.AreNumerals.isDigit_head {v : VersionNumbers} (h : v.AreNumerals) :
    ∃ d rest, v.slug = d :: rest ∧ d.isDigit := by
  obtain ⟨d, ds, hds⟩ := List.exists_cons_of_ne_nil h.major.1
  exact ⟨d, _, by rw [slug_eq, hds, List.cons_append], h.major.2 d (by simp [hds])⟩

/-- A short form ends with a number. -/
theorem VersionNumbers.AreNumerals.exists_last {v : VersionNumbers} (h : v.AreNumerals) :
    ∃ front ds, v.slug = front ++ ds ∧ IsNumeral ds := by
  obtain ⟨a, b, _ | c⟩ := v
  · exact ⟨a ++ ['.'], b, by simp [slug_eq, packTail], h.minor⟩
  · exact ⟨a ++ '.' :: b ++ ['.', 's', 'p'], c, by simp [slug_eq, packTail], h.servicePack c rfl⟩

/-- A short form holds digits, points and small letters. -/
theorem VersionNumbers.AreNumerals.of_mem_slug {v : VersionNumbers} (h : v.AreNumerals) {c : Char}
    (hc : c ∈ v.slug) : c.isDigit ∨ c ∈ ['.', 's', 'p'] := by
  rw [slug_eq, List.mem_append, List.mem_cons, List.mem_append] at hc
  rcases hc with hc | rfl | hc | hc
  · exact .inl (h.major.2 c hc)
  · exact .inr (by simp)
  · exact .inl (h.minor.2 c hc)
  · obtain ⟨a, b, _ | pack⟩ := v
    · cases hc
    · simp only [packTail, List.mem_cons] at hc
      rcases hc with rfl | rfl | rfl | hc
      iterate 3 exact .inr (by simp)
      exact .inl ((h.servicePack pack rfl).2 c hc)

theorem isBlank_of_isDigit {c : Char} (h : c.isDigit) : isBlank c = false := by
  have hlt := toNat_lt_of_isDigit h
  revert h
  exact of_ascii (P := fun c ↦ c.isDigit → isBlank c = false) (by decide) hlt

section

variable {v : VersionNumbers} (h : v.AreNumerals)
include h

theorem isAscii_slug : IsAscii (.ofList v.slug) := by
  intro c hc
  rw [String.toList_ofList] at hc
  have hplain : ∀ c ∈ ['.', 's', 'p'], c.toNat < 128 := by simp
  rcases h.of_mem_slug hc with hdigit | hother
  · exact toNat_lt_of_isDigit hdigit
  · exact hplain c hother

/-- A short form is in lower case. -/
theorem toLower_slug : (String.ofList v.slug).toLower = .ofList v.slug := by
  have hplain : ∀ c ∈ ['.', 's', 'p'], ¬c.isUpper := by simp
  rw [← String.toList_inj, toList_toLower, String.toList_ofList]
  refine map_toLower_eq_self fun c hc ↦ ?_
  rcases h.of_mem_slug hc with hdigit | hother
  · exact (not_isAlpha_of_isDigit hdigit).1
  · exact hplain c hother

/-- A short form has no white space around it. -/
theorem trimmed_slug : trimmed (.ofList v.slug) = .ofList v.slug := by
  refine trimmed_eq_self ?_ ?_ <;> rw [String.toList_ofList]
  · intro c hc
    obtain ⟨d, rest, hslug, hd⟩ := h.isDigit_head
    rw [hslug] at hc
    cases hc
    exact isBlank_of_isDigit hd
  · intro c hc
    obtain ⟨front, ds, hslug, hds⟩ := h.exists_last
    rw [hslug, List.getLast?_append, Option.or_eq_left_of_isSome (by simpa using hds.1)] at hc
    exact isBlank_of_isDigit (hds.2 c (List.mem_of_getLast? hc))

/-- A short form is not a version. -/
theorem not_isVersion_slug (w : VersionNumbers) : ¬IsVersion (.ofList v.slug) w := by
  intro hw
  obtain ⟨d, rest, hslug, hd⟩ := h.isDigit_head
  have hmark : d.toUpper = 'F' := by
    simpa [toList_toUpper, hslug] using hw.head?_toUpper
  rw [Text.toUpper_of_not_isLower (not_isAlpha_of_isDigit hd).2] at hmark
  exact absurd (hmark ▸ hd) (by decide)

end

/-- The text `slug` is the short form of the numbers `v`: `a.b`, or `a.b.spc` with a service pack. -/
inductive IsShort (slug : String) : VersionNumbers → Prop where
  | release {a b : List Char} (ha : IsNumeral a) (hb : IsNumeral b)
    (hs : slug = .ofList a ++ "." ++ .ofList b) : IsShort slug ⟨a, b, none⟩
  | servicePack {a b c : List Char} (ha : IsNumeral a) (hb : IsNumeral b) (hc : IsNumeral c)
    (hs : slug = .ofList a ++ "." ++ .ofList b ++ ".sp" ++ .ofList c) : IsShort slug ⟨a, b, some c⟩

theorem IsShort.areNumerals {slug : String} {v : VersionNumbers} (h : IsShort slug v) : v.AreNumerals := by
  cases h with
  | release ha hb => exact ⟨ha, hb, by simp⟩
  | servicePack ha hb hc => exact ⟨ha, hb, by simpa using hc⟩

theorem IsShort.eq_slug {slug : String} {v : VersionNumbers} (h : IsShort slug v) :
    slug = .ofList v.slug := by
  cases h with
  | release ha hb hs => rw [hs, ← String.toList_inj]; simp [VersionNumbers.slug_eq, packTail]
  | servicePack ha hb hc hs => rw [hs, ← String.toList_inj]; simp [VersionNumbers.slug_eq, packTail]

/-! ## Versions that have one short form -/

section

variable {version : String} (h : IsAscii version)
include h

/-- A text has the short form of numbers when it is a version with these numbers or that short form. -/
theorem versionSlug_eq_iff {slug : String} {v : VersionNumbers} (hslug : IsShort slug v) :
    versionSlug version = slug ↔ IsVersion (trimmed version) v ∨ (trimmed version).toLower = slug := by
  have hv := hslug.areNumerals
  obtain rfl := hslug.eq_slug
  constructor
  · intro heq
    by_cases hread : ∃ w, IsVersion (trimmed version) w
    · obtain ⟨w, hw⟩ := hread
      rw [versionSlug_of_isVersion h hw, String.ofList_inj] at heq
      exact .inl (hw.areNumerals.slug_inj hv heq ▸ hw)
    · rw [versionSlug_of_not_isVersion h (not_exists.mp hread)] at heq
      exact .inr heq
  · rintro (hread | hlower)
    · exact versionSlug_of_isVersion h hread
    · -- A version in lower case is a version, and its own short form is none.
      rw [versionSlug_of_not_isVersion h, hlower]
      intro w hw
      refine not_isVersion_slug hv w (hw.of_toUpper_eq ?_)
      rw [← hlower, toUpper_toLower]

/-- The case of letters does not change the short form. -/
theorem versionSlug_of_toUpper_eq {other : String} (hcase : other.toUpper = version.toUpper) :
    versionSlug other = versionSlug version := by
  have hother : IsAscii other := isAscii_of_toUpper_eq hcase h
  have hupper : (trimmed other).toUpper = (trimmed version).toUpper := by
    rw [toUpper_trimmed, hcase, toUpper_trimmed]
  by_cases hread : ∃ v, IsVersion (trimmed version) v
  · obtain ⟨v, hv⟩ := hread
    rw [versionSlug_of_isVersion h hv, versionSlug_of_isVersion hother (hv.of_toUpper_eq hupper.symm)]
  · have hnot : ∀ v, ¬IsVersion (trimmed other) v := fun v hv ↦ hread ⟨v, hv.of_toUpper_eq hupper⟩
    rw [versionSlug_of_not_isVersion h (not_exists.mp hread), versionSlug_of_not_isVersion hother hnot,
      toLower_eq_of_toUpper_eq hupper]

/-- A short form is its own short form. -/
theorem versionSlug_versionSlug : versionSlug (versionSlug version) = versionSlug version := by
  by_cases hread : ∃ v, IsVersion (trimmed version) v
  · obtain ⟨v, hv⟩ := hread
    have hnum := hv.areNumerals
    have hslug : trimmed (.ofList v.slug) = .ofList v.slug := trimmed_slug hnum
    have hnot : ∀ w, ¬IsVersion (trimmed (.ofList v.slug)) w := by
      rw [hslug]
      exact not_isVersion_slug hnum
    rw [versionSlug_of_isVersion h hv, versionSlug_of_not_isVersion (isAscii_slug hnum) hnot, hslug,
      toLower_slug hnum]
  · -- The lower case of what is left is what is left in another case.
    have hlower := versionSlug_of_not_isVersion h (not_exists.mp hread)
    rw [hlower, versionSlug_of_toUpper_eq h.trimmed (toUpper_toLower _),
      versionSlug_of_trimmed_eq (trimmed_trimmed version), hlower]

end

/-- The short form of an ASCII version is `a.b` or `a.b.spc` just when the version, without the white space
around it and without regard to the case of letters, is `FIX.a.b` or `FIX.a.bSPc`, the same with `FIXT`, or
that short form. Other versions are put into lower case. So neither the case of letters nor white space
around a version matters, a short form is its own short form, and two versions that are read have one short
form just when they have the same numbers. -/
theorem versionSlug_isVersion_and_isShort {version : String} (h : IsAscii version) :
    ∃ s, TrimsTo version s ∧
      (∀ slug v, IsShort slug v → (versionSlug version = slug ↔ IsVersion s v ∨ s.toLower = slug)) ∧
      ((∀ v, ¬IsVersion s v) → versionSlug version = s.toLower) ∧
      (∀ before other after, isBlankText before → isBlankText after → other.toUpper = version.toUpper →
        versionSlug (before ++ other ++ after) = versionSlug version) ∧
      versionSlug (versionSlug version) = versionSlug version ∧
      ∀ other t, IsAscii other → TrimsTo other t → ∀ v w, IsVersion s v → IsVersion t w →
        (versionSlug version = versionSlug other ↔ v = w) := by
  refine ⟨trimmed version, trimsTo_trimmed version, fun slug v ↦ versionSlug_eq_iff h,
    versionSlug_of_not_isVersion h, ?_, versionSlug_versionSlug h, ?_⟩
  · intro before other after hbefore hafter hcase
    rw [versionSlug_of_trimmed_eq (trimmed_append_append hbefore hafter other),
      versionSlug_of_toUpper_eq h hcase]
  · intro other t hother ht v w hv hw
    obtain rfl := ht.eq_trimmed
    rw [versionSlug_of_isVersion h hv, versionSlug_of_isVersion hother hw, String.ofList_inj]
    exact ⟨hv.areNumerals.slug_inj hw.areNumerals, congrArg VersionNumbers.slug⟩

/-- A service pack in mixed case, and the same version with white space around it. -/
theorem versionSlug_isVersion_and_isShort_spaced :
    IsAscii "Fix.5.0sp2" ∧ IsVersion "Fix.5.0sp2" ⟨['5'], ['0'], some ['2']⟩ ∧
      IsShort "5.0.sp2" ⟨['5'], ['0'], some ['2']⟩ ∧ versionSlug "Fix.5.0sp2" = "5.0.sp2" ∧
      versionSlug ("\u2003" ++ "FIX.5.0SP2" ++ "\n") = versionSlug "Fix.5.0sp2" := by
  have hascii : IsAscii "Fix.5.0sp2" := by decide
  have hnum : IsNumeral ['5'] ∧ IsNumeral ['0'] ∧ IsNumeral ['2'] := by simp [IsNumeral]
  obtain ⟨h5, h0, h2⟩ := hnum
  have hversion : IsVersion "Fix.5.0sp2" ⟨['5'], ['0'], some ['2']⟩ := by
    refine .servicePack (.inl rfl) h5 h0 h2 ?_
    rw [← String.toList_inj, toList_toUpper]
    decide
  have hshort : IsShort "5.0.sp2" ⟨['5'], ['0'], some ['2']⟩ := .servicePack h5 h0 h2 (by decide)
  have hcase : "FIX.5.0SP2".toUpper = "Fix.5.0sp2".toUpper := by
    rw [← String.toList_inj, toList_toUpper, toList_toUpper]
    decide
  obtain ⟨s, hs, hslug, -, hsame, -⟩ := versionSlug_isVersion_and_isShort hascii
  obtain rfl : s = "Fix.5.0sp2" := hs.eq_trimmed.trans (by decide)
  exact ⟨hascii, hversion, hshort, (hslug _ _ hshort).mpr (.inl hversion),
    hsame "\u2003" "FIX.5.0SP2" "\n" (by decide) (by decide) hcase⟩

example : versionSlug "FIX.4.4SP" = "fix.4.4sp" := by decide +kernel

end FixBindings.Rust
