import FixBindings.Identifier.Casing
import FixBindings.Options
import FixBindings.Proofs.Identifier.Characters
import FixBindings.Proofs.Rust.Literal
import FixBindings.Rust.Lines
import Mathlib.Data.List.Defs

/-!
# Lines of a text

The line feeds of a text part it into lines, and lines that hold no line feed are parted as they were put
together. What stands between two fixed texts on a line can be read off it, and so can an identifier in front
of a fixed text.
-/

namespace FixBindings.Rust

open Identifier

/-- The lines of a text, which are parted by its line feeds. -/
def splitLines (s : String) : List String :=
  (s.toList.splitOn '\n').map String.ofList

/-- A line in front of a text is a line. -/
theorem splitLines_line {l : String} (h : '\n' ∉ l.toList) (s : String) :
    splitLines (l ++ "\n" ++ s) = l :: splitLines s := by
  have hlist : (l ++ "\n" ++ s).toList = l.toList ++ '\n' :: s.toList := by simp
  rw [splitLines, hlist, List.splitOn_append_cons_self_of_not_mem h, List.map_cons,
    String.ofList_toList, splitLines]

/-- Lines in front of a text are lines. -/
theorem splitLines_unlines_append {ls : List String} (h : ∀ l ∈ ls, '\n' ∉ l.toList) (s : String) :
    splitLines (unlines ls ++ s) = ls ++ splitLines s := by
  induction ls with
  | nil => simp
  | cons l ls ih =>
    rw [List.forall_mem_cons] at h
    rw [unlines_cons, String.append_assoc, splitLines_line h.1, ih h.2, List.cons_append]

/-- Behind the last line feed of a text of lines there is nothing. -/
theorem splitLines_unlines {ls : List String} (h : ∀ l ∈ ls, '\n' ∉ l.toList) :
    splitLines (unlines ls) = ls ++ [""] := by
  have hempty : splitLines "" = [""] := by simp [splitLines]
  rw [← String.append_empty (s := unlines ls), splitLines_unlines_append h, hempty]

/-- Besides line feeds the text of lines holds only what the lines do. -/
theorem notMem_unlines {c : Char} (hc : c ≠ '\n') {ls : List String} (h : ∀ l ∈ ls, c ∉ l.toList) :
    c ∉ (unlines ls).toList := by
  induction ls with
  | nil => simp
  | cons l ls ih =>
    rw [List.forall_mem_cons] at h
    simp [hc, h.1, ih h.2]

/-! ## Parts of a line -/

/-- What stands on a line between the texts `front` and `back`. -/
def between? (front back line : String) : Option String :=
  ((line.toList.dropPrefix? front.toList).bind (·.dropSuffix? back.toList)).map String.ofList

theorem between?_eq_some_iff {front back line s : String} :
    between? front back line = some s ↔ line = front ++ s ++ back := by
  simp only [between?, Option.map_eq_some_iff, Option.bind_eq_some_iff, List.dropPrefix?_eq_some_iff,
    List.dropSuffix?_eq_some_iff, beq_iff_eq]
  constructor
  · rintro ⟨t, ⟨u, ⟨_, hline, rfl⟩, _, rfl, rfl⟩, rfl⟩
    apply String.toList_injective
    simp [hline]
  · rintro rfl
    exact ⟨s.toList, ⟨s.toList ++ back.toList, ⟨front.toList, by simp, rfl⟩, back.toList, rfl, rfl⟩,
      s.ofList_toList⟩

@[simp] theorem between?_append (front back s : String) :
    between? front back (front ++ s ++ back) = some s :=
  between?_eq_some_iff.mpr rfl

/-- The identifier in front of the text `mark`, and what stands behind. -/
def nameBefore? (mark line : String) : Option (String × String) :=
  ((line.toList.dropWhile isNameChar).dropPrefix? mark.toList).map fun rest ↦
    (String.ofList (line.toList.takeWhile isNameChar), String.ofList rest)

theorem nameBefore?_append {mark name : String} {c : Char} (hname : ∀ c ∈ name.toList, isNameChar c)
    (hmark : mark.toList.head? = some c) (hc : isNameChar c = false) (rest : String) :
    nameBefore? mark (name ++ mark ++ rest) = some (name, rest) := by
  obtain ⟨tail, hmark⟩ := List.head?_eq_some_iff.mp hmark
  have hline : (name ++ mark ++ rest).toList = name.toList ++ (c :: (tail ++ rest.toList)) := by
    simp [hmark]
  have hdrop : (c :: (tail ++ rest.toList)).dropPrefix? (c :: tail) = some rest.toList :=
    List.dropPrefix?_append_of_beq rest.toList (beq_self_eq_true (c :: tail))
  rw [nameBefore?, hline, List.dropWhile_append_of_pos hname, List.takeWhile_append_of_pos hname,
    List.dropWhile_cons_of_neg (by simp [hc]), List.takeWhile_cons_of_neg (by simp [hc]), hmark, hdrop]
  simp

/-- The text of the string literal between two quotes. -/
def readString (s : String) : Option String :=
  (decodeString s.toList).map String.ofList

@[simp] theorem readString_stringLiteral (s : String) : readString (stringLiteral s) = some s := by
  rw [readString, decodeString_stringLiteral, Option.map_some, String.ofList_toList]

/-! ## Options -/

/-- Options whose texts are on one line. -/
structure LineOptions (o : Options) : Prop where
  /-- The name of the runtime crate is on one line. -/
  runtimeCrate : '\n' ∉ o.runtimeCrate.toList
  /-- The name of the helper attribute is on one line. -/
  deriveAttribute : '\n' ∉ o.deriveAttribute.toList
  /-- The further attribute line is one line. -/
  customDeriveLine : '\n' ∉ o.customDeriveLine.toList

theorem LineOptions.cratePath {o : Options} (h : LineOptions o) : '\n' ∉ o.cratePath.toList := by
  unfold Options.cratePath
  split
  · decide
  · exact h.runtimeCrate

end FixBindings.Rust
