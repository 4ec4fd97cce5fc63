import FixBindings.Path
import FixBindings.Proofs.Text.Surrogate

/-!
# Texts that name nothing

A text names no file when it holds a NUL, or a surrogate that stands for no byte. The path that a text writes
has another text, without the empty parts and the points between the slashes, but the one names nothing if and
only if the other does. Both properties are such that a text has them just when one of the parts between its
slashes does.
-/

namespace FixBindings

namespace Text

/-- A slash belongs to no spelling, so that the code points of a text are those in front of it and those
behind it. -/
theorem pointsOf_append_slash (xs ys : List Char) :
    pointsOf (xs ++ '/' :: ys) = pointsOf xs ++ pointOf '/' :: pointsOf ys := by
  have hmark : '/' ≠ mark := by decide
  have hstands : standsFor? '/' = none := by decide
  fun_induction pointsOf xs with
  | case1 => exact pointsOf_cons_of_ne hmark ys
  | case2 c =>
    have hslash := pointsOf_cons_of_ne hmark ys
    rw [List.singleton_append, pointsOf, if_neg hmark, hstands, hslash]
    split
    · rename_i hc
      rw [hc, List.singleton_append]
    · rw [List.singleton_append]
  | case3 cs ih => rw [List.cons_append, List.cons_append, pointsOf_mark_mark, ih, List.cons_append]
  | case4 d cs hd p hp ih =>
    rw [List.cons_append, List.cons_append, pointsOf, if_pos rfl, if_neg hd, hp, List.cons_append]
    exact congrArg (p :: ·) ih
  | case5 d cs hd hp ih =>
    rw [List.cons_append, List.cons_append, pointsOf, if_pos rfl, if_neg hd, hp, List.cons_append]
    exact congrArg (pointOf mark :: ·) ih
  | case6 c d cs hc ih =>
    rw [List.cons_append, pointsOf_cons_of_ne hc, ih, List.cons_append]

end Text

namespace Path

/-- A property that a text has just when it has it in front of a slash or behind it. -/
structure IsOfParts (Q : List Char → Prop) : Prop where
  /-- No text has it for nothing. -/
  nil : ¬Q []
  /-- A point does not have it. -/
  point : ¬Q ['.']
  /-- A slash parts the text. -/
  slash : ∀ xs ys, Q (xs ++ '/' :: ys) ↔ Q xs ∨ Q ys

namespace IsOfParts

variable {Q : List Char → Prop} (h : IsOfParts Q)

include h

/-- Parts with slashes between them have the property when one of them does. -/
theorem intercalate_iff (parts : List (List Char)) :
    Q (['/'].intercalate parts) ↔ ∃ part ∈ parts, Q part := by
  induction parts with
  | nil => simp [h.nil]
  | cons part parts ih =>
    cases parts with
    | nil => simp
    | cons next parts =>
      rw [List.intercalate_cons_cons, List.append_assoc, List.singleton_append, h.slash, ih]
      simp only [List.mem_cons, exists_eq_or_imp]

/-- The slashes at the front do not have it. -/
theorem rootOf_append_iff (text cs : List Char) : Q ((rootOf text).toList ++ cs) ↔ Q cs := by
  have hslash (ys : List Char) : Q ('/' :: ys) ↔ Q ys := by
    simpa only [List.nil_append, h.nil, false_or] using h.slash [] ys
  unfold rootOf
  split
  · rfl
  · exact (hslash _).trans (hslash cs)
  · exact hslash cs

/-- The text of a path has the property if and only if the text that writes the path does. -/
theorem text_ofText_iff (path : String) : Q (ofText path).text.toList ↔ Q path.toList := by
  have hparts : ['/'].intercalate (parts path.toList) = path.toList := List.intercalate_splitOn '/'
  have hnames : Q (['/'].intercalate ((ofText path).names.map String.toList)) ↔ Q path.toList := by
    rw [← hparts, h.intercalate_iff, h.intercalate_iff]
    simp only [ofText, List.map_map, List.mem_map, List.mem_filter, Function.comp_apply,
      String.toList_ofList]
    constructor
    · rintro ⟨part, ⟨name, ⟨hname, -⟩, rfl⟩, hpart⟩
      exact ⟨name, hname, hpart⟩
    · rintro ⟨part, hmem, hpart⟩
      refine ⟨part, ⟨part, ⟨hmem, ?_⟩, rfl⟩, hpart⟩
      have hnil : part ≠ [] := fun heq ↦ h.nil (heq ▸ hpart)
      have hpoint : part ≠ ['.'] := fun heq ↦ h.point (heq ▸ hpart)
      simp [hnil, hpoint]
  rw [← hnames, text]
  split
  · rename_i hempty
    have hnone : (ofText path).names = [] := by
      simp only [Bool.and_eq_true, List.isEmpty_iff] at hempty
      exact hempty.2
    rw [hnone]
    exact iff_of_false h.point h.nil
  · rw [String.toList_append, String.toList_intercalate]
    exact h.rootOf_append_iff _ _

end IsOfParts

/-- A text names nothing: it holds a surrogate that no name can hold, or a NUL. -/
def NamesNothing (s : String) : Prop :=
  (∃ p ∈ Text.points s, Text.isNoName p) ∨ '\x00' ∈ s.toList

/-- A text of characters names a file unless it holds a NUL. -/
theorem namesNothing_of_notMem {s : String} (h : Text.mark ∉ s.toList) :
    NamesNothing s ↔ '\x00' ∈ s.toList := by
  unfold NamesNothing
  refine or_iff_right ?_
  rw [Text.points_of_notMem h]
  rintro ⟨p, hp, hno⟩
  obtain ⟨c, -, rfl⟩ := List.mem_map.mp hp
  rw [Text.isNoName, Bool.and_eq_true, Text.val_pointOf] at hno
  exact Text.not_isSurrogate_toNat c hno.1

theorem isOfParts_namesNothing : IsOfParts fun cs ↦
    (∃ p ∈ Text.pointsOf cs, Text.isNoName p) ∨ '\x00' ∈ cs where
  nil := by simp [Text.pointsOf]
  point := by
    have hpoint : Text.isNoName (Text.pointOf '.') = false := by decide
    have hnul : '\x00' ≠ '.' := by decide
    simp [Text.pointsOf, hpoint, hnul]
  slash xs ys := by
    have hslash : Text.isNoName (Text.pointOf '/') = false := by decide
    have hnul : '\x00' ≠ '/' := by decide
    simp only [Text.pointsOf_append_slash, List.mem_append, List.mem_cons, or_and_right, exists_or,
      exists_eq_left, hslash, hnul, Bool.false_eq_true, false_or]
    exact or_or_or_comm

/-- The path that a text writes is the path of no file if and only if the text names nothing. -/
theorem namesNothing_text_ofText {path : String} :
    NamesNothing (ofText path).text ↔ NamesNothing path :=
  isOfParts_namesNothing.text_ofText_iff path

end Path

end FixBindings
