import FixBindings.Proofs.Identifier.Capitals
import FixBindings.Proofs.Identifier.MemberCase
import FixBindings.Proofs.Identifier.Members
import FixBindings.Proofs.Rust.MemberOrder

/-!
# Names that collide

The words of a name but for their case can be read back from its member, whatever was put around them: the
marker in front of a digit and the underscore behind a keyword are separators, and the mark of raw identifiers
holds a character that no name does. So two names have one member when they have the same words but for case,
and only then, also where a member gives way to the one that every struct has.

Constants have a marker that is a letter. A name that takes the marker collides with the names that have it as
a part of their first word.
-/

namespace FixBindings.Identifier

open Text

/-! ## Members -/

/-- What stands behind the mark of raw identifiers, if a text carries it. -/
def withoutRawMark : List Char → List Char
  | 'r' :: '#' :: cs => cs
  | cs => cs

theorem withoutRawMark_of_notMem {cs : List Char} (h : '#' ∉ cs) : withoutRawMark cs = cs := by
  unfold withoutRawMark
  split
  · exact absurd (List.mem_cons_of_mem _ List.mem_cons_self) h
  · rfl

/-- The words that can be read from an identifier as it is written. -/
def wordsOf (identifier : String) : List (List Char) :=
  words (withoutRawMark identifier.toList)

theorem words_append_underscore (cs : List Char) : words (cs ++ ['_']) = words cs := by
  have hnil : words [] = [] := rfl
  rw [words_append_cons (by decide), hnil, List.append_nil]

/-- The marker of members is a separator. -/
theorem words_guardDigit (s : String) : words (guardDigit memberMarker s).toList = words s.toList := by
  have hmarker : memberMarker.toList = ['_'] := rfl
  unfold guardDigit
  split
  · rw [String.toList_append, hmarker]
    exact words_append_cons (by decide) [] s.toList
  · rfl

/-- The other ways to write a keyword do not change the words that are read. -/
theorem wordsOf_escapeKeyword {s : String} (h : '#' ∉ s.toList) :
    wordsOf (escapeKeyword s) = words s.toList := by
  unfold wordsOf escapeKeyword
  split
  · have hmark : '#' ∉ (s ++ "_").toList := by simpa using h
    rw [withoutRawMark_of_notMem hmark, String.toList_append]
    exact words_append_underscore s.toList
  · split
    · rw [String.toList_append]
      rfl
    · rw [withoutRawMark_of_notMem h]

/-- No name in member case holds the character of the mark of raw identifiers. -/
theorem hash_notMem_guardDigit (name : String) :
    '#' ∉ (guardDigit memberMarker (memberCase name)).toList := by
  have hcase : '#' ∉ (memberCase name).toList := fun hm ↦
    absurd (isPlainChar_of_mem_memberCase hm) (by decide)
  unfold guardDigit
  split
  · rw [String.toList_append, List.mem_append, not_or]
    exact ⟨by decide, hcase⟩
  · exact hcase

/-- The words of a name but for case are read back from its member. -/
theorem wordsOf_memberName (name : String) :
    wordsOf (memberName name) = (words name.toList).map (List.map Char.toLower) := by
  rw [memberName, wordsOf_escapeKeyword (hash_notMem_guardDigit name), words_guardDigit, words_memberCase]

/-- Two names have one member when they have the same words but for case. -/
theorem memberName_eq_iff {a b : String} : memberName a = memberName b ↔ SameWords a b := by
  rw [sameWords_iff_map_eq]
  constructor
  · intro h
    rw [← wordsOf_memberName, ← wordsOf_memberName, h]
  · intro h
    rw [memberName, memberName, memberCase_eq_iff.mpr (sameWords_iff_map_eq.mpr h)]

/-! ## Constants -/

/-- One text takes the marker of constants, and the other one is the text with the marker. -/
def IsMarked (s t : String) : Prop :=
  takesMarker s ∧ t = upperMarker ++ s

/-- A text with the marker of constants does not take it again. -/
theorem not_takesMarker_append (s : String) : ¬takesMarker (upperMarker ++ s) := by
  have hmarker : upperMarker.toList = ['N'] := rfl
  rw [takesMarker, String.toList_append, hmarker]
  exact Bool.false_ne_true

/-- Two texts that start with a letter or digit, or are empty, are one behind the digit guard when they are
one or when one of them is the other with the marker. -/
theorem guardDigit_eq_guardDigit_iff {s t : String} (hs : ∀ c ∈ s.toList.head?, c.isAlphanum)
    (ht : ∀ c ∈ t.toList.head?, c.isAlphanum) :
    guardDigit upperMarker s = guardDigit upperMarker t ↔ s = t ∨ IsMarked s t ∨ IsMarked t s := by
  rw [guardDigit_eq hs, guardDigit_eq ht]
  constructor
  · intro h
    by_cases hs' : takesMarker s
    · rw [if_pos hs'] at h
      by_cases ht' : takesMarker t
      · rw [if_pos ht'] at h
        exact .inl ((String.append_right_inj upperMarker).mp h)
      · rw [if_neg ht'] at h
        exact .inr (.inl ⟨hs', h.symm⟩)
    · rw [if_neg hs'] at h
      by_cases ht' : takesMarker t
      · rw [if_pos ht'] at h
        exact .inr (.inr ⟨ht', h⟩)
      · rw [if_neg ht'] at h
        exact .inl h
  · rintro (rfl | ⟨hmarker, rfl⟩ | ⟨hmarker, rfl⟩)
    · rfl
    · rw [if_pos hmarker, if_neg (not_takesMarker_append s)]
    · rw [if_pos hmarker, if_neg (not_takesMarker_append t)]

/-- Two names have one constant when they have the same words but for case, or when one of them takes the
marker and the other has it as part of its first word. -/
theorem constantName_eq_iff {a b : String} : constantName a = constantName b ↔
    SameWords a b ∨ IsMarked (constantCase a) (constantCase b) ∨
      IsMarked (constantCase b) (constantCase a) := by
  have halnum (name : String) : ∀ c ∈ (constantCase name).toList.head?, c.isAlphanum :=
    isAlphanum_of_isUpper_or_isDigit fun _ ↦ head?_constantCase
  rw [constantName, constantName, guardDigit_eq_guardDigit_iff (halnum a) (halnum b),
    constantCase_eq_iff_memberCase_eq, memberCase_eq_iff]

end FixBindings.Identifier

namespace FixBindings.Rust

open Dictionary Identifier

/-- The words of the name of a field but for case are read back from its member in a struct. -/
theorem wordsOf_memberIdentifier (f : Field) :
    wordsOf (memberIdentifier f) = (words f.name.toList).map (List.map Char.toLower) := by
  rw [← wordsOf_memberName]
  simp only [memberIdentifier]
  split
  · rename_i hlifetime
    rw [beq_iff_eq.mp hlifetime]
    decide
  · rfl

/-- Two fields have one member when their names have the same words but for case. -/
theorem memberIdentifier_eq_iff {f g : Field} :
    memberIdentifier f = memberIdentifier g ↔ SameWords f.name g.name := by
  constructor
  · intro h
    rw [sameWords_iff_map_eq, ← wordsOf_memberIdentifier, ← wordsOf_memberIdentifier, h]
  · intro h
    rw [memberIdentifier, memberIdentifier, memberName_eq_iff.mpr h]

/-- Names collide as members, with and without the one that every struct has, when they have the same words
but for case. They collide as constants in this case, or when one of them takes the marker and the other is
the same with the marker in constant case. -/
theorem memberName_memberIdentifier_constantName_eq_iff (a b : String) :
    (memberName a = memberName b ↔ SameWords a b) ∧
      (∀ f g : Field, memberIdentifier f = memberIdentifier g ↔ SameWords f.name g.name) ∧
      (constantName a = constantName b ↔
        SameWords a b ∨ IsMarked (constantCase a) (constantCase b) ∨
          IsMarked (constantCase b) (constantCase a)) := by
  refine ⟨memberName_eq_iff, ?_, constantName_eq_iff⟩
  intro f g
  exact memberIdentifier_eq_iff

end FixBindings.Rust
