import FixBindings.Text.Numeral
import Mathlib.Data.Nat.Digits.Defs

/-!
# Numbers of a fixed width

A number that is filled up with zeros is made of digits, and its digits are those of the number. A number that
the width has room for is written in just this width, so that it can be read where it stands.
-/

namespace FixBindings.Text

/-- The number that is written in `width` digits. -/
def readPadded? (width : Nat) (cs : List Char) : Option Nat :=
  if cs.length = width ∧ cs.all Char.isDigit then some (Nat.ofDigitChars 10 cs 0) else none

theorem toList_padded (width n : Nat) : (padded width n).toList =
    List.replicate (width - (Nat.toDigits 10 n).length) '0' ++ Nat.toDigits 10 n := by
  rw [padded, String.toList_append, String.toList_ofList, Nat.toString_eq_repr, Nat.repr,
    String.toList_ofList, String.length_ofList]

/-- A number that is filled up with zeros is made of digits. -/
theorem isDigit_of_mem_padded {width n : Nat} {c : Char} (hc : c ∈ (padded width n).toList) : c.isDigit := by
  rw [toList_padded, List.mem_append] at hc
  rcases hc with hc | hc
  · obtain ⟨-, rfl⟩ := List.mem_replicate.mp hc
    rfl
  · exact Nat.isDigit_of_mem_toDigits (by decide) (by decide) hc

/-- A number is filled up to the width that has room for it. -/
theorem length_padded {width n : Nat} (hwidth : 0 < width) (hn : n < 10 ^ width) :
    (padded width n).toList.length = width := by
  have hle := Nat.toDigits_length 10 n width hwidth hn
  rw [toList_padded, List.length_append, List.length_replicate, Nat.sub_add_cancel hle]

/-- Zeros in front of digits do not count. -/
theorem ofDigitChars_replicate_append (k : Nat) (cs : List Char) :
    Nat.ofDigitChars 10 (List.replicate k '0' ++ cs) 0 = Nat.ofDigitChars 10 cs 0 := by
  induction k with
  | zero => rfl
  | succ k ih =>
    rw [List.replicate_succ, List.cons_append, Nat.ofDigitChars_cons]
    exact ih

/-- A number that is filled up to a width is read in this width. -/
theorem readPadded?_padded {width n : Nat} (hwidth : 0 < width) (hn : n < 10 ^ width) :
    readPadded? width (padded width n).toList = some n := by
  have hdigits : (padded width n).toList.all Char.isDigit :=
    List.all_eq_true.mpr fun _ ↦ isDigit_of_mem_padded
  rw [readPadded?, if_pos ⟨length_padded hwidth hn, hdigits⟩, toList_padded,
    ofDigitChars_replicate_append, Nat.ofDigitChars_toDigits (by decide) (by decide)]

end FixBindings.Text
