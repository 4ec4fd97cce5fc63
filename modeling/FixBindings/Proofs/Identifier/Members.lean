import FixBindings.Proofs.Identifier.Words

/-!
# Names of members

The member name of a name with a letter or a digit is a legal identifier: a plain name, or the raw form of
a keyword that has one. A name without letters and digits has no words. Its member name is the marker of
leading digits alone, and a lone underscore is no legal name.
-/

namespace FixBindings.Identifier

open Text

/-! ## Legal names -/

/-- Whether a plain name may start with a character: a small letter or an underscore. -/
def isPlainFirst (c : Char) : Bool :=
  c.isLower || c == '_'

/-- Whether a plain name may hold a character: a small letter, an underscore or a digit. -/
def isPlainChar (c : Char) : Bool :=
  isPlainFirst c || c.isDigit

/-- Whether a text is a plain name, which is of the form `[a-z_][a-z0-9_]*`. -/
def isPlain (s : String) : Bool :=
  s.toList.head?.any isPlainFirst && s.toList.all isPlainChar

/-- A member may have the name: it is plain, neither a keyword nor a lone underscore, or it is the raw form
of a keyword that has one. -/
inductive IsLegalMember : String → Prop where
  | plain {s : String} : isPlain s → s ∉ keywords → s ≠ "_" → IsLegalMember s
  | raw {k : String} : k ∈ keywords → k ∉ pathKeywords → IsLegalMember ("r#" ++ k)

theorem not_isLegalMember_underscore : ¬IsLegalMember "_" := by
  intro h
  generalize hs : "_" = s at h
  cases h with
  | plain _ _ hne => exact hne hs.symm
  | raw =>
    have hlist := congrArg String.toList hs
    rw [String.toList_append] at hlist
    cases hlist

/-! ## Member case -/

/-- The lower case of a letter or digit is a small letter or a digit. -/
theorem isLower_or_isDigit_toLower {c : Char} (h : c.isAlphanum) :
    c.toLower.isLower ∨ c.toLower.isDigit := by
  have hc := toNat_lt_of_isAlphanum h
  revert h
  exact of_ascii (P := fun c ↦ c.isAlphanum → c.toLower.isLower ∨ c.toLower.isDigit) (by decide) hc

/-- A name in member case holds small letters, digits and underscores. -/
theorem isPlainChar_of_mem_memberCase {name : String} {c : Char} (hc : c ∈ (memberCase name).toList) :
    isPlainChar c := by
  rw [memberCase, String.toList_ofList] at hc
  refine of_mem_joined (P := fun c ↦ isPlainChar c) rfl (fun d hd ↦ ?_) hc
  simp only [isPlainChar, isPlainFirst, Bool.or_eq_true]
  exact (isLower_or_isDigit_toLower hd).imp_left .inl

/-- A name with a letter or digit starts with a small letter or a digit in member case. -/
theorem exists_head?_memberCase {name : String} (h : ∃ c ∈ name.toList, c.isAlphanum) :
    ∃ c, (memberCase name).toList.head? = some c ∧ (c.isLower ∨ c.isDigit) := by
  cases hwords : words name.toList with
  | nil =>
    obtain ⟨c, hc, halnum⟩ := h
    exact absurd halnum (words_eq_nil_iff.mp hwords c hc)
  | cons w ws =>
    have hw : w ∈ words name.toList := hwords ▸ List.mem_cons_self
    obtain ⟨c, w, rfl⟩ := List.exists_cons_of_ne_nil (ne_nil_of_mem_words hw)
    refine ⟨c.toLower, ?_, isLower_or_isDigit_toLower (isAlphanum_of_mem_words hw List.mem_cons_self)⟩
    rw [memberCase, String.toList_ofList, hwords, List.map_cons, List.map_cons,
      head?_intercalate _ (List.cons_ne_nil _ _)]
    rfl

/-- A name without letters and digits is empty in member case. -/
theorem memberCase_eq_empty {name : String} (h : ∀ c ∈ name.toList, ¬c.isAlphanum) :
    memberCase name = "" := by
  rw [memberCase, words_eq_nil_iff.mpr h]
  rfl

/-! ## Guards -/

/-- The digit guard makes a plain name, and no lone underscore, of what starts with a letter or digit. -/
theorem isPlain_guardDigit {s : String} {c : Char} (hs : ∀ d ∈ s.toList, isPlainChar d)
    (hhead : s.toList.head? = some c) (hc : c.isLower ∨ c.isDigit) :
    isPlain (guardDigit memberMarker s) ∧ guardDigit memberMarker s ≠ "_" := by
  have hall : s.toList.all isPlainChar := List.all_eq_true.mpr hs
  have hmarker : memberMarker.toList = ['_'] := rfl
  unfold guardDigit
  split
  · refine ⟨?_, fun heq ↦ ?_⟩
    · rw [isPlain, String.toList_append, hmarker, List.all_append, hall]
      rfl
    · have hlist := congrArg String.toList heq
      rw [String.toList_append, hmarker] at hlist
      obtain hnil : s.toList = [] := (List.cons.inj hlist).2
      rw [hnil] at hhead
      cases hhead
  · rename_i hdigit
    rw [hhead] at hdigit
    have hlower : c.isLower := hc.resolve_right fun h ↦
      hdigit ((isDigit_eq_of_isAlphanum (isAlphanum_of_isDigit h)).trans h)
    refine ⟨?_, ?_⟩
    · rw [isPlain, hhead, hall]
      simp [isPlainFirst, hlower]
    · rintro rfl
      cases hhead
      exact absurd hlower (by decide)

/-- The other way to write a keyword makes a legal name of every plain one but a lone underscore. -/
theorem isLegalMember_escapeKeyword {s : String} (hs : isPlain s) (hne : s ≠ "_") :
    IsLegalMember (escapeKeyword s) := by
  unfold escapeKeyword
  split
  · have hpath : ∀ k ∈ pathKeywords, isPlain k →
        isPlain (k ++ "_") ∧ k ++ "_" ∉ keywords ∧ k ++ "_" ≠ "_" := by decide
    obtain ⟨hplain, hkeyword, hne⟩ := hpath s (List.contains_iff_mem.mp ‹_›) hs
    exact .plain hplain hkeyword hne
  · rename_i hpath
    rw [List.contains_iff_mem] at hpath
    split
    · exact .raw (List.contains_iff_mem.mp ‹_›) hpath
    · rename_i hkeyword
      exact .plain hs (fun hm ↦ hkeyword (List.contains_iff_mem.mpr hm)) hne

/-! ## Names of members -/

/-- The member name of a name with a letter or digit is legal. -/
theorem isLegalMember_of_exists {name : String} (h : ∃ c ∈ name.toList, c.isAlphanum) :
    IsLegalMember (memberName name) := by
  obtain ⟨c, hhead, hc⟩ := exists_head?_memberCase h
  obtain ⟨hplain, hne⟩ := isPlain_guardDigit (fun _ ↦ isPlainChar_of_mem_memberCase) hhead hc
  exact isLegalMember_escapeKeyword hplain hne

/-- The member name of a name without letters and digits is the marker alone. -/
theorem memberName_eq_underscore {name : String} (h : ∀ c ∈ name.toList, ¬c.isAlphanum) :
    memberName name = "_" := by
  rw [memberName, memberCase_eq_empty h]
  rfl

/-- The member name of a name is legal just when the name has a letter or a digit. Otherwise it is a lone
underscore. -/
theorem isLegalMember_memberName_iff (name : String) :
    (IsLegalMember (memberName name) ↔ ∃ c ∈ name.toList, c.isAlphanum) ∧
      (memberName name = "_" ↔ ∀ c ∈ name.toList, ¬c.isAlphanum) := by
  by_cases h : ∃ c ∈ name.toList, c.isAlphanum
  · have hlegal := isLegalMember_of_exists h
    obtain ⟨c, hc, halnum⟩ := h
    refine ⟨⟨fun _ ↦ ⟨c, hc, halnum⟩, fun _ ↦ hlegal⟩, fun hlone ↦ ?_, fun hnone ↦ ?_⟩
    · exact absurd (hlone ▸ hlegal) not_isLegalMember_underscore
    · exact absurd halnum (hnone c hc)
  · have hnone : ∀ c ∈ name.toList, ¬c.isAlphanum := fun c hc halnum ↦ h ⟨c, hc, halnum⟩
    have hlone := memberName_eq_underscore hnone
    refine ⟨⟨fun hlegal ↦ ?_, fun hexists ↦ absurd hexists h⟩, fun _ ↦ hnone, fun _ ↦ hlone⟩
    exact absurd (hlone ▸ hlegal) not_isLegalMember_underscore

/-- A name of separators only has no legal member name. -/
theorem not_isLegalMember_memberName_separators : ¬IsLegalMember (memberName "--") :=
  not_isLegalMember_underscore

end FixBindings.Identifier
