import FixBindings.Proofs.Text.Characters
import FixBindings.Rust.Reference
import Mathlib.Data.List.Forall2

/-!
# The numbers of versions

The numbers of a version are read by a grammar (`VersionNumbers.read?_eq_some_iff`): a mark, two numbers
behind points, and perhaps a third one behind the letters of a service pack, with nothing around them. The
digits are those of any script, and the letters are in any case. So there is no line feed in the text
(`VersionNumbers.IsText.newline_notMem`).
-/

namespace FixBindings.Rust

open Text

/-- The characters are the letters `ls` in any case. -/
def Spells (ls cs : List Char) : Prop :=
  List.Forall₂ (fun l c ↦ isLetter l c) ls cs

/-- The characters are decimal digits, at least one. -/
def AreDigits (ds : List Char) : Prop :=
  ds ≠ [] ∧ ∀ c ∈ ds, isDecimalDigit c

/-- Letters in any case are no line feeds. -/
theorem Spells.newline_notMem {ls cs : List Char} (h : Spells ls cs)
    (hls : ls.all fun l ↦ !isLetter l '\n') : '\n' ∉ cs := by
  induction h with
  | nil => exact List.not_mem_nil
  | @cons l c ls cs hl _ ih =>
    rw [List.all_cons, Bool.and_eq_true, Bool.not_eq_true'] at hls
    rw [List.mem_cons, not_or]
    refine ⟨?_, ih hls.2⟩
    rintro rfl
    exact absurd hl (by simp [hls.1])

theorem AreDigits.newline_notMem {ds : List Char} (h : AreDigits ds) : '\n' ∉ ds := fun hm ↦
  absurd (h.2 _ hm) (by decide)

/-- The text of the numbers of a version, behind a mark that is `FIX` or `FIXT` in any case. -/
inductive VersionNumbers.IsText : VersionNumbers → List Char → Prop where
  | release {mark a b : List Char} (hm : Spells ['F', 'I', 'X'] mark ∨ Spells ['F', 'I', 'X', 'T'] mark)
    (ha : AreDigits a) (hb : AreDigits b) : IsText ⟨a, b, none⟩ (mark ++ '.' :: (a ++ '.' :: b))
  | servicePack {mark a b pack c : List Char}
    (hm : Spells ['F', 'I', 'X'] mark ∨ Spells ['F', 'I', 'X', 'T'] mark) (ha : AreDigits a)
    (hb : AreDigits b) (hp : Spells ['S', 'P'] pack) (hc : AreDigits c) :
    IsText ⟨a, b, some c⟩ (mark ++ '.' :: (a ++ '.' :: (b ++ (pack ++ c))))

theorem afterLetters?_eq_some_iff {ls cs rest : List Char} :
    afterLetters? ls cs = some rest ↔ ∃ front, Spells ls front ∧ cs = front ++ rest := by
  fun_induction afterLetters? ls cs with
  | case1 cs => simp [Spells]
  | case2 l ls => simp [Spells, List.forall₂_cons_left_iff]
  | case3 l ls c cs hc ih =>
    rw [ih]
    constructor
    · rintro ⟨front, hfront, rfl⟩
      exact ⟨c :: front, .cons hc hfront, rfl⟩
    · rintro ⟨front, hfront, heq⟩
      obtain ⟨d, front, hd, hrest, rfl⟩ := List.forall₂_cons_left_iff.mp hfront
      exact ⟨front, hrest, (List.cons.inj heq).2⟩
  | case4 l ls c cs hc =>
    refine iff_of_false (by simp) ?_
    rintro ⟨front, hfront, heq⟩
    obtain ⟨d, front, hd, -, rfl⟩ := List.forall₂_cons_left_iff.mp hfront
    rw [List.cons_append, List.cons.injEq] at heq
    exact hc (heq.1 ▸ hd)

theorem afterPoint?_eq_some_iff {cs rest : List Char} : afterPoint? cs = some rest ↔ cs = '.' :: rest := by
  unfold afterPoint?
  split <;> simp_all

/-- The digits in front of a text are all that there are. -/
theorem digitsInFront?_eq_some_iff {cs ds rest : List Char} : digitsInFront? cs = some (ds, rest) ↔
    AreDigits ds ∧ cs = ds ++ rest ∧ ∀ c ∈ rest.head?, ¬isDecimalDigit c := by
  simp only [digitsInFront?, Option.ite_none_left_eq_some, Option.some.injEq, Prod.mk.injEq]
  constructor
  · rintro ⟨hne, rfl, rfl⟩
    have hmax : IsMaximalRun isDecimalDigit [] _ _ := isMaximalRun_takeWhile (by simp) cs
    exact ⟨⟨by simpa using hne, hmax.all⟩, List.takeWhile_append_dropWhile.symm, hmax.right⟩
  · rintro ⟨⟨hne, hds⟩, rfl, hrest⟩
    have hmax : IsMaximalRun isDecimalDigit [] ds rest := ⟨hds, by simp, hrest⟩
    have htake := hmax.takeWhile_eq
    refine ⟨by simpa [htake] using hne, htake, ?_⟩
    have hsplit := List.takeWhile_append_dropWhile (p := isDecimalDigit) (l := ds ++ rest)
    rw [htake] at hsplit
    exact List.append_cancel_left hsplit

/-- The mark in front of the first point. A `T` is taken where there is one, and a point is none. -/
theorem exists_mark_iff {cs rest : List Char} :
    (∃ a, afterLetters? ['F', 'I', 'X'] cs = some a ∧
      afterPoint? ((afterLetters? ['T'] a).getD a) = some rest) ↔
    ∃ mark, (Spells ['F', 'I', 'X'] mark ∨ Spells ['F', 'I', 'X', 'T'] mark) ∧
      cs = mark ++ '.' :: rest := by
  constructor
  · rintro ⟨a, ha, hpoint⟩
    obtain ⟨fix, hfix, rfl⟩ := afterLetters?_eq_some_iff.mp ha
    cases ht : afterLetters? ['T'] a with
    | none =>
      rw [ht, Option.getD_none, afterPoint?_eq_some_iff] at hpoint
      exact ⟨fix, .inl hfix, by rw [hpoint]⟩
    | some b =>
      rw [ht, Option.getD_some, afterPoint?_eq_some_iff] at hpoint
      obtain ⟨t, hletter, rfl⟩ := afterLetters?_eq_some_iff.mp ht
      exact ⟨fix ++ t, .inr (List.rel_append hfix hletter), by rw [hpoint, List.append_assoc]⟩
  · rintro ⟨mark, hmark | hmark, rfl⟩
    · exact ⟨_, afterLetters?_eq_some_iff.mpr ⟨mark, hmark, rfl⟩, rfl⟩
    · obtain ⟨f, ixt, hf, hixt, rfl⟩ := List.forall₂_cons_left_iff.mp hmark
      obtain ⟨i, xt, hi, hxt, rfl⟩ := List.forall₂_cons_left_iff.mp hixt
      obtain ⟨x, t, hx, hletter, rfl⟩ := List.forall₂_cons_left_iff.mp hxt
      have hfix : Spells ['F', 'I', 'X'] [f, i, x] := .cons hf (.cons hi (.cons hx .nil))
      have ht : afterLetters? ['T'] (t ++ '.' :: rest) = some ('.' :: rest) :=
        afterLetters?_eq_some_iff.mpr ⟨t, hletter, rfl⟩
      refine ⟨t ++ '.' :: rest, afterLetters?_eq_some_iff.mpr ⟨[f, i, x], hfix, rfl⟩, ?_⟩
      rw [ht]
      rfl

/-- A letter is no digit, nor is a character that counts as one. -/
theorem not_isDecimalDigit_of_isLetter {l c : Char} (hl : l.isUpper) (h : isLetter l c) :
    ¬isDecimalDigit c := by
  simp only [isLetter, Bool.or_eq_true, Bool.and_eq_true, beq_iff_eq] at h
  rcases h with (rfl | ⟨-, rfl | rfl⟩) | ⟨-, rfl⟩
  · by_cases hc : c.toNat < 128
    · revert hl
      exact of_ascii (P := fun c ↦ c.toUpper.isUpper → ¬isDecimalDigit c) (by decide) hc
    · rw [toUpper_of_le_toNat (Nat.le_of_not_lt hc)] at hl
      exact absurd (toNat_lt_of_isUpper hl) hc
  all_goals decide

/-- The letters of a service pack end the digits in front of them. -/
theorem not_isDecimalDigit_of_spells {pack rest : List Char} (h : Spells ['S', 'P'] pack) :
    ∀ c ∈ (pack ++ rest).head?, ¬isDecimalDigit c := by
  obtain ⟨s, p, hs, -, rfl⟩ := List.forall₂_cons_left_iff.mp h
  rintro c ⟨⟩
  exact not_isDecimalDigit_of_isLetter rfl hs

/-- The numbers of a version are read from the texts of the grammar, and from no others. -/
theorem VersionNumbers.read?_eq_some_iff {cs : List Char} {v : VersionNumbers} :
    read? cs = some v ↔ v.IsText cs := by
  simp only [read?, Option.bind_eq_bind, Option.bind_eq_some_iff]
  constructor
  · rintro ⟨a, ha, b, hb, ⟨major, d⟩, hd, e, he, ⟨minor, f⟩, hf, h⟩
    obtain ⟨mark, hmark, rfl⟩ := exists_mark_iff.mp ⟨a, ha, hb⟩
    obtain ⟨hmajor, rfl, -⟩ := digitsInFront?_eq_some_iff.mp hd
    obtain rfl := afterPoint?_eq_some_iff.mp he
    obtain ⟨hminor, rfl, -⟩ := digitsInFront?_eq_some_iff.mp hf
    split at h
    · rename_i hempty
      obtain rfl := List.isEmpty_iff.mp hempty
      cases h
      rw [List.append_nil]
      exact .release hmark hmajor hminor
    · simp only [Option.bind_eq_some_iff] at h
      obtain ⟨g, hg, ⟨c, rest⟩, hrest, h⟩ := h
      obtain ⟨pack, hpack, rfl⟩ := afterLetters?_eq_some_iff.mp hg
      obtain ⟨hc, rfl, -⟩ := digitsInFront?_eq_some_iff.mp hrest
      split at h
      · rename_i hempty
        obtain rfl := List.isEmpty_iff.mp hempty
        cases h
        rw [List.append_nil]
        exact .servicePack hmark hmajor hminor hpack hc
      · contradiction
  · intro h
    cases h with
    | release hm ha hb =>
      obtain ⟨rest, hfix, hpoint⟩ := exists_mark_iff.mpr ⟨_, hm, rfl⟩
      refine ⟨rest, hfix, _, hpoint, (_, _), digitsInFront?_eq_some_iff.mpr ⟨ha, rfl, ?_⟩, _, rfl, (_, []),
        digitsInFront?_eq_some_iff.mpr ⟨hb, (List.append_nil _).symm, by simp⟩, rfl⟩
      rintro c ⟨⟩
      decide
    | @servicePack mark a b pack c hm ha hb hp hc =>
      obtain ⟨rest, hfix, hpoint⟩ := exists_mark_iff.mpr ⟨_, hm, rfl⟩
      have hpack : afterLetters? ['S', 'P'] (pack ++ c) = some c :=
        afterLetters?_eq_some_iff.mpr ⟨pack, hp, rfl⟩
      have hdigits : digitsInFront? c = some (c, []) :=
        digitsInFront?_eq_some_iff.mpr ⟨hc, (List.append_nil c).symm, by simp⟩
      have hne : (pack ++ c).isEmpty = false := by simp [hc.1]
      refine ⟨rest, hfix, _, hpoint, (_, _), digitsInFront?_eq_some_iff.mpr ⟨ha, rfl, ?_⟩, _, rfl, (_, _),
        digitsInFront?_eq_some_iff.mpr ⟨hb, rfl, not_isDecimalDigit_of_spells hp⟩, ?_⟩
      · rintro c ⟨⟩
        decide
      · dsimp only
        rw [hne, hpack, Option.bind_some, hdigits]
        rfl

namespace VersionNumbers.IsText

variable {v : VersionNumbers} {cs : List Char} (h : v.IsText cs)
include h

/-- The numbers of a version are digits. -/
theorem areDigits : AreDigits v.major ∧ AreDigits v.minor ∧ ∀ pack ∈ v.servicePack, AreDigits pack := by
  cases h with
  | release _ ha hb => exact ⟨ha, hb, by simp⟩
  | servicePack _ ha hb _ hc => exact ⟨ha, hb, by simpa using hc⟩

/-- The text of the numbers of a version has no line feed. -/
theorem newline_notMem : '\n' ∉ cs := by
  cases h with
  | release hm ha hb =>
    have hmark := hm.elim (Spells.newline_notMem · rfl) (Spells.newline_notMem · rfl)
    simp [hmark, ha.newline_notMem, hb.newline_notMem]
  | servicePack hm ha hb hp hc =>
    have hmark := hm.elim (Spells.newline_notMem · rfl) (Spells.newline_notMem · rfl)
    simp [hmark, ha.newline_notMem, hb.newline_notMem, hp.newline_notMem rfl, hc.newline_notMem]

end VersionNumbers.IsText

end FixBindings.Rust
