import FixBindings.Proofs.Identifier.Words
import Mathlib.Data.List.Forall2

/-!
# Member case

Member case keeps of a name just its words without their case. The words of a name in member case are the
words of the name in lower case (`words_memberCase`), so whatever is made of a name without a look at the case
of its letters can be made of its member case as well. Two names have one member case when they have the same
words but for case (`memberCase_eq_iff`), and constant case tells apart the same names.

The other two cases do not keep words. A letter behind a digit starts a word when it is a capital, and a word
of one letter does not end in front of another capital.
-/

namespace FixBindings.Identifier

open Text

/-! ## Words without capitals -/

/-- Letters and digits without a capital are one word. -/
theorem words_of_forall_not_isUpper {w : List Char} (hne : w ≠ [])
    (h : ∀ c ∈ w, c.isAlphanum ∧ ¬c.isUpper) : words w = [w] := by
  rw [words_of_forall fun c hc ↦ (h c hc).1]
  refine pieces_of_forall hne fun c hc previous after ↦ ?_
  have hupper : c.isUpper = false := by simpa using (h c hc).2
  rw [startsWord, hupper, Bool.false_and]

/-- Words without capitals that are joined by underscores are the words of the whole. -/
theorem words_intercalate {ws : List (List Char)}
    (h : ∀ w ∈ ws, w ≠ [] ∧ ∀ c ∈ w, c.isAlphanum ∧ ¬c.isUpper) :
    words (['_'].intercalate ws) = ws := by
  induction ws with
  | nil => rfl
  | cons w ws ih =>
    rw [List.forall_mem_cons] at h
    have hw : words w = [w] := words_of_forall_not_isUpper h.1.1 h.1.2
    cases ws with
    | nil => rw [List.intercalate_singleton, hw]
    | cons v ws =>
      rw [List.intercalate_cons_cons, List.append_assoc, List.singleton_append,
        words_append_cons (by decide), hw, ih h.2, List.singleton_append]

/-- The words of a name in member case are its words in lower case. -/
theorem words_memberCase (name : String) :
    words (memberCase name).toList = (words name.toList).map (List.map Char.toLower) := by
  rw [memberCase, String.toList_ofList]
  apply words_intercalate
  intro w hw
  exact of_mem_map_words (fun c hc ↦ ⟨isAlphanum_toLower hc, by simp⟩) hw

/-! ## What is made of words but for case -/

/-- What does not depend on the case of a word can be made of the word in lower case. -/
theorem map_map_toLower {β : Type _} {f : List Char → β} (hf : ∀ w, f (w.map Char.toLower) = f w)
    (ws : List (List Char)) : (ws.map (List.map Char.toLower)).map f = ws.map f := by
  rw [List.map_map]
  apply List.map_congr_left
  intro w _
  exact hf w

theorem capitalize_map_toLower (w : List Char) : capitalize (w.map Char.toLower) = capitalize w := by
  cases w with
  | nil => rfl
  | cons c w => simp [capitalize]

@[simp] theorem memberCase_memberCase (name : String) : memberCase (memberCase name) = memberCase name := by
  rw [memberCase, words_memberCase, map_map_toLower fun w ↦ by simp]
  rfl

@[simp] theorem constantCase_memberCase (name : String) :
    constantCase (memberCase name) = constantCase name := by
  rw [constantCase, words_memberCase, map_map_toLower fun w ↦ by simp]
  rfl

@[simp] theorem typeCase_memberCase (name : String) : typeCase (memberCase name) = typeCase name := by
  rw [typeCase, words_memberCase, List.flatMap_def, map_map_toLower capitalize_map_toLower]
  rfl

/-! ## Names that are the same but for case -/

/-- Two names have the same words but for the case of letters. -/
def SameWords (a b : String) : Prop :=
  List.Forall₂ (fun v w ↦ v.map Char.toLower = w.map Char.toLower) (words a.toList) (words b.toList)

theorem sameWords_iff_map_eq {a b : String} : SameWords a b ↔
    (words a.toList).map (List.map Char.toLower) = (words b.toList).map (List.map Char.toLower) := by
  rw [SameWords, ← List.forall₂_map_right_iff, ← List.forall₂_map_left_iff, List.forall₂_eq_eq_eq]

/-- Two names have one member case when they have the same words but for case. -/
theorem memberCase_eq_iff {a b : String} : memberCase a = memberCase b ↔ SameWords a b := by
  rw [sameWords_iff_map_eq]
  constructor
  · intro h
    rw [← words_memberCase, ← words_memberCase, h]
  · intro h
    rw [memberCase, memberCase, h]

/-- Constant case is member case in upper case. -/
theorem constantCase_eq_map_toUpper (name : String) :
    constantCase name = String.ofList ((memberCase name).toList.map Char.toUpper) := by
  have hunderscore : ['_'].map Char.toUpper = ['_'] := rfl
  rw [memberCase, String.toList_ofList, map_intercalate, hunderscore, map_map_toLower fun w ↦ by simp]
  rfl

/-- Member case is constant case in lower case. -/
theorem memberCase_eq_map_toLower (name : String) :
    memberCase name = String.ofList ((constantCase name).toList.map Char.toLower) := by
  have hunderscore : ['_'].map Char.toLower = ['_'] := rfl
  rw [constantCase, String.toList_ofList, map_intercalate, hunderscore, List.map_map, memberCase]
  congr 2
  apply List.map_congr_left
  intro w _
  simp

/-- Constant case tells apart the names that member case does. -/
theorem constantCase_eq_iff_memberCase_eq {a b : String} :
    constantCase a = constantCase b ↔ memberCase a = memberCase b := by
  constructor
  · intro h
    rw [memberCase_eq_map_toLower, h, ← memberCase_eq_map_toLower]
  · intro h
    rw [constantCase_eq_map_toUpper, h, ← constantCase_eq_map_toUpper]

/-- Member case is a canonical form of names: it keeps the words but for case, and so does not change what any
identifier is made of, and constant case tells apart the same names. -/
theorem memberCase_canonical (name : String) :
    words (memberCase name).toList = (words name.toList).map (List.map Char.toLower) ∧
      memberCase (memberCase name) = memberCase name ∧
      constantCase (memberCase name) = constantCase name ∧
      typeCase (memberCase name) = typeCase name ∧
      constantName (memberCase name) = constantName name ∧
      typeName (memberCase name) = typeName name ∧
      variantName (memberCase name) = variantName name ∧
      memberName (memberCase name) = memberName name ∧
      ∀ a b, constantCase a = constantCase b ↔ memberCase a = memberCase b := by
  have htype : typeName (memberCase name) = typeName name := by
    rw [typeName, typeCase_memberCase, ← typeName]
  refine ⟨words_memberCase name, memberCase_memberCase name, constantCase_memberCase name,
    typeCase_memberCase name, ?_, htype, htype, ?_, fun a b ↦ constantCase_eq_iff_memberCase_eq⟩
  · rw [constantName, constantCase_memberCase, ← constantName]
  · rw [memberName, memberCase_memberCase, ← memberName]

example : words "2nd".toList = ["2nd".toList] ∧
    words (constantCase "2nd").toList = ["2".toList, "ND".toList] := by decide

end FixBindings.Identifier
