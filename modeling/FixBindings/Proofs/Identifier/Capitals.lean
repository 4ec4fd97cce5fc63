import FixBindings.Proofs.Identifier.Words

/-!
# Names of types, variants and constants

The names that start with a capital are legal identifiers whatever a text holds, a text without letters and
digits included: the marker in front of them is a letter. A constant is made of words of capitals and digits
with single underscores between them. A type or variant holds letters and digits only, but for `Self_`, which
stands for the one keyword that starts with a capital.
-/

namespace FixBindings.Identifier

open Text

/-! ## Forms of names -/

/-- Whether a text starts with a capital. -/
def startsWithCapital (s : String) : Bool :=
  s.toList.head?.any Char.isUpper

/-- Whether a text is of the form `[A-Z][A-Za-z0-9]*`. -/
def isTypeForm (s : String) : Bool :=
  startsWithCapital s && s.toList.all Char.isAlphanum

/-- A text is made of words of the form `[A-Z0-9]+` with single underscores between them, and starts with
a capital. -/
structure IsConstantForm (s : String) : Prop where
  /-- It is made of words that are joined by underscores. -/
  joined : ∃ ws, ws ≠ [] ∧ s.toList = ['_'].intercalate ws ∧
    ∀ w ∈ ws, w ≠ [] ∧ ∀ c ∈ w, c.isUpper ∨ c.isDigit
  /-- The first character is a capital. -/
  first : startsWithCapital s

/-- `Self` is the only keyword that starts with a capital. -/
theorem eq_self_of_mem_keywords {k : String} (hk : k ∈ keywords) (h : startsWithCapital k) : k = "Self" := by
  have hall : ∀ k ∈ keywords, startsWithCapital k → k = "Self" := by decide
  exact hall k hk h

/-- What starts with a capital does not carry the mark of raw identifiers. -/
theorem not_raw_of_startsWithCapital {s : String} (h : startsWithCapital s) : ¬"r#".toList <+: s.toList := by
  rintro ⟨rest, hrest⟩
  rw [startsWithCapital, ← hrest] at h
  contradiction

/-! ## Characters -/

/-- The upper case of a letter or digit is a capital or a digit. -/
theorem isUpper_or_isDigit_toUpper {c : Char} (h : c.isAlphanum) : c.toUpper.isUpper ∨ c.toUpper.isDigit := by
  have hc := toNat_lt_of_isAlphanum h
  revert h
  exact of_ascii (P := fun c ↦ c.isAlphanum → c.toUpper.isUpper ∨ c.toUpper.isDigit) (by decide) hc

/-- Capitals and digits are letters and digits. -/
theorem isAlphanum_of_isUpper_or_isDigit {o : Option Char} (h : ∀ c ∈ o, c.isUpper ∨ c.isDigit) :
    ∀ c ∈ o, c.isAlphanum := by
  intro c hc
  rcases h c hc with hupper | hdigit
  · exact isAlphanum_of_isUpper hupper
  · exact isAlphanum_of_isDigit hdigit

/-- A character in front of joined words belongs to the first of them. -/
theorem cons_intercalate {α : Type _} (a : α) (sep w : List α) (ws : List (List α)) :
    a :: sep.intercalate (w :: ws) = sep.intercalate ((a :: w) :: ws) := by
  cases ws with
  | nil => rw [List.intercalate_singleton, List.intercalate_singleton]
  | cons v ws =>
    rw [List.intercalate_cons_cons, List.intercalate_cons_cons]
    rfl

/-! ## Markers -/

/-- Whether a text is empty or starts with a digit, so that it is no name without a marker. -/
def takesMarker (s : String) : Bool :=
  s.toList.head?.all Char.isDigit

/-- The digit guard puts the marker in front of what takes one. -/
theorem guardDigit_eq {s : String} (h : ∀ c ∈ s.toList.head?, c.isAlphanum) (marker : String) :
    guardDigit marker s = if takesMarker s then marker ++ s else s := by
  have hall : s.toList.head?.all Text.isDigit = takesMarker s := by
    unfold takesMarker
    cases hhead : s.toList.head? with
    | none => rfl
    | some c => exact isDigit_eq_of_isAlphanum (h c hhead)
  rw [guardDigit, hall]

/-- What starts with a capital or a digit, or is empty, starts with a capital behind the digit guard. -/
theorem startsWithCapital_guardDigit {s : String} (h : ∀ c ∈ s.toList.head?, c.isUpper ∨ c.isDigit) :
    startsWithCapital (guardDigit upperMarker s) := by
  rw [guardDigit_eq (isAlphanum_of_isUpper_or_isDigit h)]
  split
  · have hmarker : upperMarker.toList = ['N'] := rfl
    rw [startsWithCapital, String.toList_append, hmarker]
    rfl
  · rename_i hmarker
    unfold takesMarker at hmarker
    unfold startsWithCapital
    cases hhead : s.toList.head? with
    | none =>
      rw [hhead] at hmarker
      contradiction
    | some c =>
      rw [hhead] at hmarker
      exact (h c hhead).resolve_right hmarker

/-! ## Constants -/

/-- The words of a name in capitals hold capitals and digits. -/
theorem isWord_of_mem_map_toUpper {name w : List Char} (hw : w ∈ (words name).map (List.map Char.toUpper)) :
    w ≠ [] ∧ ∀ c ∈ w, c.isUpper ∨ c.isDigit :=
  of_mem_map_words (fun _ ↦ isUpper_or_isDigit_toUpper) hw

theorem toList_constantCase (name : String) : (constantCase name).toList =
    ['_'].intercalate ((words name.toList).map (List.map Char.toUpper)) := by
  rw [constantCase, String.toList_ofList]

/-- A name with words starts with a capital or a digit in constant case. -/
theorem head?_constantCase {name : String} {c : Char} (h : c ∈ (constantCase name).toList.head?) :
    c.isUpper ∨ c.isDigit := by
  rw [toList_constantCase] at h
  cases hwords : (words name.toList).map (List.map Char.toUpper) with
  | nil =>
    rw [hwords] at h
    contradiction
  | cons w ws =>
    obtain ⟨hne, hw⟩ := isWord_of_mem_map_toUpper (hwords ▸ List.mem_cons_self)
    rw [hwords, head?_intercalate _ hne] at h
    exact hw c (List.mem_of_head? h)

/-- A constant is made of words of capitals and digits. -/
theorem isConstantForm_constantName (name : String) : IsConstantForm (constantName name) := by
  refine ⟨?_, startsWithCapital_guardDigit fun _ ↦ head?_constantCase⟩
  have hword : ∀ w ∈ (words name.toList).map (List.map Char.toUpper),
      w ≠ [] ∧ ∀ c ∈ w, c.isUpper ∨ c.isDigit := fun _ ↦ isWord_of_mem_map_toUpper
  have hmarker : upperMarker.toList = ['N'] := rfl
  have hN : 'N'.isUpper := rfl
  rw [constantName, guardDigit_eq (isAlphanum_of_isUpper_or_isDigit fun _ ↦ head?_constantCase)]
  split
  · -- The marker belongs to the first word, or is the only one.
    rw [String.toList_append, hmarker, List.singleton_append, toList_constantCase]
    generalize (words name.toList).map (List.map Char.toUpper) = ws at hword
    cases ws with
    | nil => exact ⟨[['N']], by simp, rfl, by simp [hN]⟩
    | cons w ws =>
      rw [List.forall_mem_cons] at hword
      refine ⟨('N' :: w) :: ws, List.cons_ne_nil _ _, cons_intercalate .., ?_⟩
      rw [List.forall_mem_cons, List.forall_mem_cons]
      exact ⟨⟨List.cons_ne_nil _ _, .inl hN, hword.1.2⟩, hword.2⟩
  · rename_i hnone
    refine ⟨_, ?_, toList_constantCase name, hword⟩
    intro hnil
    rw [takesMarker, toList_constantCase, hnil] at hnone
    contradiction

/-- A text of the form of constants is no keyword, since keywords hold small letters. -/
theorem IsConstantForm.not_mem_keywords {s : String} (h : IsConstantForm s) : s ∉ keywords := by
  intro hk
  obtain rfl := eq_self_of_mem_keywords hk h.first
  obtain ⟨ws, -, hws, hw⟩ := h.joined
  have hmem : 'e' ∈ ['_'].intercalate ws := hws ▸ by decide
  rcases mem_intercalate hmem with hmem | ⟨w, hw', hmem⟩
  · contradiction
  · exact absurd ((hw w hw').2 'e' hmem) (by decide)

/-! ## Types and variants -/

/-- A name with words starts with a capital or a digit in type case. -/
theorem head?_typeCase {name : String} {c : Char} (h : c ∈ (typeCase name).toList.head?) :
    c.isUpper ∨ c.isDigit := by
  rw [typeCase, String.toList_ofList] at h
  cases hwords : words name.toList with
  | nil =>
    rw [hwords] at h
    contradiction
  | cons w ws =>
    have hw : w ∈ words name.toList := hwords ▸ List.mem_cons_self
    obtain ⟨d, w, rfl⟩ := List.exists_cons_of_ne_nil (ne_nil_of_mem_words hw)
    rw [hwords] at h
    obtain rfl : d.toUpper = c := by simpa [capitalize] using h
    exact isUpper_or_isDigit_toUpper (isAlphanum_of_mem_words hw List.mem_cons_self)

/-- A name in type case has the form of a type behind the digit guard. -/
theorem isTypeForm_guardDigit (name : String) : isTypeForm (guardDigit upperMarker (typeCase name)) := by
  rw [isTypeForm, startsWithCapital_guardDigit fun _ ↦ head?_typeCase, Bool.true_and, List.all_eq_true]
  intro c hc
  unfold guardDigit at hc
  split at hc
  · rw [String.toList_append, List.mem_append] at hc
    rcases hc with hc | hc
    · obtain rfl : c = 'N' := List.mem_singleton.mp hc
      rfl
    · exact isAlphanum_of_mem_typeCase hc
  · exact isAlphanum_of_mem_typeCase hc

/-- A marker does not make the keyword `Self`. -/
theorem guardDigit_ne_self {name : String} (h : typeCase name ≠ "Self") :
    guardDigit upperMarker (typeCase name) ≠ "Self" := by
  rw [guardDigit_eq (isAlphanum_of_isUpper_or_isDigit fun _ ↦ head?_typeCase)]
  split
  · intro heq
    have hlist := congrArg String.toList heq
    rw [String.toList_append] at hlist
    cases hlist
  · exact h

/-- What is no keyword is written as it is. -/
theorem escapeKeyword_of_not_mem {s : String} (h : s ∉ keywords) : escapeKeyword s = s := by
  have hpath : ∀ k ∈ pathKeywords, k ∈ keywords := by decide
  rw [escapeKeyword, if_neg fun hk ↦ h (hpath s (List.contains_iff_mem.mp hk)),
    if_neg fun hk ↦ h (List.contains_iff_mem.mp hk)]

/-- The name of a type is of its form and no keyword, but for the keyword `Self` with an underscore. -/
theorem typeName_cases (name : String) :
    typeCase name = "Self" ∧ typeName name = "Self_" ∨
      typeCase name ≠ "Self" ∧ isTypeForm (typeName name) ∧ typeName name ∉ keywords := by
  by_cases hself : typeCase name = "Self"
  · refine .inl ⟨hself, ?_⟩
    rw [typeName, hself]
    rfl
  · have hform := isTypeForm_guardDigit name
    have hkeyword : guardDigit upperMarker (typeCase name) ∉ keywords := by
      intro hk
      have hfirst : startsWithCapital (guardDigit upperMarker (typeCase name)) :=
        startsWithCapital_guardDigit fun _ ↦ head?_typeCase
      exact guardDigit_ne_self hself (eq_self_of_mem_keywords hk hfirst)
    rw [typeName, escapeKeyword_of_not_mem hkeyword]
    exact .inr ⟨hself, hform, hkeyword⟩

/-- The name of a type is no keyword and not written as a raw identifier. -/
theorem typeName_not_keyword (name : String) :
    typeName name ∉ keywords ∧ ¬"r#".toList <+: (typeName name).toList := by
  obtain ⟨-, hself⟩ | ⟨-, hform, hkeyword⟩ := typeName_cases name
  · rw [hself]
    exact ⟨by decide, not_raw_of_startsWithCapital rfl⟩
  · rw [isTypeForm, Bool.and_eq_true] at hform
    exact ⟨hkeyword, not_raw_of_startsWithCapital hform.1⟩

/-- The names of constants, types and variants are of their forms for every text, no keywords, and not
written as raw identifiers. The underscore of `Self_` stands behind a text that is `Self` in type case. -/
theorem isLegal_constantName_typeName_variantName (name : String) :
    IsConstantForm (constantName name) ∧
      (isTypeForm (typeName name) ∨ typeName name = "Self_") ∧
      (isTypeForm (variantName name) ∨ variantName name = "Self_") ∧
      (typeName name = "Self_" ↔ typeCase name = "Self") ∧
      ∀ s ∈ [constantName name, typeName name, variantName name],
        s ∉ keywords ∧ ¬"r#".toList <+: s.toList := by
  have hconstant := isConstantForm_constantName name
  have htype : isTypeForm (typeName name) ∨ typeName name = "Self_" := by
    obtain ⟨-, hself⟩ | ⟨-, hform, -⟩ := typeName_cases name
    · exact .inr hself
    · exact .inl hform
  refine ⟨hconstant, htype, htype, ?_, ?_⟩
  · obtain ⟨hcase, hself⟩ | ⟨hcase, hform, -⟩ := typeName_cases name
    · exact iff_of_true hself hcase
    · refine iff_of_false (fun hself ↦ ?_) hcase
      -- The form of types has no underscore.
      have hunderscore : ¬isTypeForm "Self_" := by decide
      exact hunderscore (hself ▸ hform)
  · rw [List.forall_mem_cons, List.forall_mem_cons, List.forall_mem_singleton]
    have hkeyword := typeName_not_keyword name
    exact ⟨⟨hconstant.not_mem_keywords, not_raw_of_startsWithCapital hconstant.first⟩, hkeyword, hkeyword⟩

end FixBindings.Identifier
