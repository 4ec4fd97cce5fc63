import FixBindings.Identifier.Casing
import FixBindings.Proofs.Text.Characters

/-!
# Characters of identifiers

Whatever a name holds, the identifiers that it becomes hold ASCII letters, digits, underscores and the
mark of raw identifiers only.
-/

namespace FixBindings.Identifier

open Text

/-- Whether a character may stand in an identifier as it is written. -/
def isNameChar (c : Char) : Bool :=
  c.isAlphanum || c == '_' || c == '#'

/-- The words of a name hold ASCII letters and digits only. -/
theorem isAlphanum_of_mem_words {name w : List Char} (hw : w ∈ words name) {c : Char}
    (hc : c ∈ w) : c.isAlphanum := by
  obtain ⟨r, hr, hw⟩ := List.mem_flatMap.mp hw
  exact of_mem_runs hr (mem_of_mem_pieces hw hc)

theorem isNameChar_of_isAlphanum {c : Char} (h : c.isAlphanum) : isNameChar c := by
  simp [isNameChar, h]

/-- Capitals at the front of words keep the words free of other characters. -/
theorem isAlphanum_of_mem_capitalize {w : List Char} (hw : ∀ c ∈ w, c.isAlphanum) {c : Char}
    (hc : c ∈ capitalize w) : c.isAlphanum := by
  cases w with
  | nil => simp [capitalize] at hc
  | cons d w =>
    rcases List.mem_cons.mp hc with rfl | hc
    · exact isAlphanum_toUpper (hw d (by simp))
    · obtain ⟨e, he, rfl⟩ := List.mem_map.mp hc
      exact isAlphanum_toLower (hw e (by simp [he]))

theorem isAlphanum_of_mem_typeCase {name : String} {c : Char} (hc : c ∈ (typeCase name).toList) :
    c.isAlphanum := by
  rw [typeCase, String.toList_ofList] at hc
  obtain ⟨w, hw, hc⟩ := List.mem_flatMap.mp hc
  exact isAlphanum_of_mem_capitalize (fun _ h ↦ isAlphanum_of_mem_words hw h) hc

/-- What holds of the underscore and of the image of each letter and digit holds of all characters of words
that are mapped and joined by underscores. -/
theorem of_mem_joined {P : Char → Prop} {f : Char → Char} (hu : P '_') (hf : ∀ c, c.isAlphanum → P (f c))
    {name : List Char} {c : Char} (hc : c ∈ ['_'].intercalate ((words name).map fun w ↦ w.map f)) : P c := by
  rcases mem_intercalate hc with hc | ⟨l, hl, hc⟩
  · rw [List.mem_singleton.mp hc]
    exact hu
  · obtain ⟨w, hw, rfl⟩ := List.mem_map.mp hl
    obtain ⟨d, hd, rfl⟩ := List.mem_map.mp hc
    exact hf d (isAlphanum_of_mem_words hw hd)

/-- Among letters and digits the digits of every script are the ASCII ones. -/
theorem isDigit_eq_of_isAlphanum {c : Char} (h : c.isAlphanum) : Text.isDigit c = c.isDigit := by
  have hc := toNat_lt_of_isAlphanum h
  exact of_ascii (P := fun c ↦ Text.isDigit c = c.isDigit) (by decide) hc

/-! ## Guards -/

/-- The digit guard adds nothing but its marker. -/
theorem isNameChar_of_mem_guardDigit {marker s : String} (hm : ∀ c ∈ marker.toList, isNameChar c)
    (hs : ∀ c ∈ s.toList, isNameChar c) : ∀ c ∈ (guardDigit marker s).toList, isNameChar c := by
  intro c hc
  unfold guardDigit at hc
  split at hc
  · rw [String.toList_append, List.mem_append] at hc
    exact hc.elim (hm c) (hs c)
  · exact hs c hc

/-- The other ways to write a keyword add an underscore or the mark of raw identifiers. -/
theorem isNameChar_of_mem_escapeKeyword {s : String} (hs : ∀ c ∈ s.toList, isNameChar c) :
    ∀ c ∈ (escapeKeyword s).toList, isNameChar c := by
  intro c hc
  have hu : ∀ c ∈ "_".toList, isNameChar c := List.all_eq_true.mp rfl
  have hr : ∀ c ∈ "r#".toList, isNameChar c := List.all_eq_true.mp rfl
  unfold escapeKeyword at hc
  split at hc
  · rw [String.toList_append, List.mem_append] at hc
    exact hc.elim (hs c) (hu c)
  · split at hc
    · rw [String.toList_append, List.mem_append] at hc
      exact hc.elim (hr c) (hs c)
    · exact hs c hc

/-! ## Identifiers of names -/

theorem isNameChar_of_mem_typeName (name : String) : ∀ c ∈ (typeName name).toList, isNameChar c :=
  isNameChar_of_mem_escapeKeyword <| isNameChar_of_mem_guardDigit (List.all_eq_true.mp rfl) fun _ hc ↦
    isNameChar_of_isAlphanum (isAlphanum_of_mem_typeCase hc)

theorem isNameChar_of_mem_constantName (name : String) :
    ∀ c ∈ (constantName name).toList, isNameChar c := by
  refine isNameChar_of_mem_guardDigit (List.all_eq_true.mp rfl) fun c hc ↦ ?_
  rw [constantCase, String.toList_ofList] at hc
  refine of_mem_joined (P := fun c ↦ isNameChar c) rfl (fun d hd ↦ ?_) hc
  exact isNameChar_of_isAlphanum (isAlphanum_toUpper hd)

theorem isNameChar_of_mem_memberName (name : String) :
    ∀ c ∈ (memberName name).toList, isNameChar c := by
  refine isNameChar_of_mem_escapeKeyword <|
    isNameChar_of_mem_guardDigit (List.all_eq_true.mp rfl) fun c hc ↦ ?_
  rw [memberCase, String.toList_ofList] at hc
  refine of_mem_joined (P := fun c ↦ isNameChar c) rfl (fun d hd ↦ ?_) hc
  exact isNameChar_of_isAlphanum (isAlphanum_toLower hd)

/-! ## Lines -/

/-- An identifier has no line feed. -/
theorem newline_notMem_of_isNameChar {s : String} (h : ∀ c ∈ s.toList, isNameChar c) : '\n' ∉ s.toList :=
  fun hm ↦ absurd (h _ hm) (by decide)

theorem newline_notMem_typeName (name : String) : '\n' ∉ (typeName name).toList :=
  newline_notMem_of_isNameChar (isNameChar_of_mem_typeName name)

theorem newline_notMem_constantName (name : String) : '\n' ∉ (constantName name).toList :=
  newline_notMem_of_isNameChar (isNameChar_of_mem_constantName name)

end FixBindings.Identifier
