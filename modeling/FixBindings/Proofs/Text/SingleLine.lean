import FixBindings.Proofs.Text.Characters

/-!
# Texts on one line

A text on one line is its words with one space between two of them. So white space is left between two
characters of words only (`isSingleSpaced_singleLine`), the words are those of the text
(`words_singleLine`), and a text that is on one line already stays as it is. How much white space stands
between two words, and of which kind, does not matter (`words_append_append`).

The words are found without a look at runs when the text is cut at every white space character and the
empty parts are left out (`words_eq_parts`).
-/

namespace FixBindings.Text

/-! ## Words -/

/-- The parts of a text between its white space characters, without the empty ones. -/
def parts (s : String) : List (List Char) :=
  (s.toList.splitOnP isBlank).filter fun w ↦ !w.isEmpty

/-- The words of a text are its parts between white space. -/
theorem words_eq_parts (s : String) : words s.toList = parts s := by
  rw [words, runs_eq_filter_splitOnP, parts]
  simp only [Bool.not_not]

/-- The words of a text that is put on one line stay the same. -/
@[simp] theorem words_singleLine (s : String) : words (singleLine s).toList = words s.toList := by
  rw [singleLine, String.toList_ofList]
  refine runs_intercalate rfl fun w hw ↦ ⟨ne_nil_of_mem_runs hw, fun c hc ↦ ?_⟩
  rw [isBlank_of_mem_words hw hc]
  rfl

/-- Texts with the same words are the same on one line. -/
theorem singleLine_congr {s t : String} (h : words s.toList = words t.toList) :
    singleLine s = singleLine t := by
  rw [singleLine, singleLine, h]

/-- White space has no effect on the words around it. -/
theorem words_append_append {gap : String} (hne : gap ≠ "") (h : isBlankText gap) (s t : String) :
    words (s ++ gap ++ t).toList = words s.toList ++ words t.toList := by
  have hblank : ∀ c ∈ gap.toList, (!isBlank c) = false := fun c hc ↦ by
    rw [List.all_eq_true.mp h c hc]
    rfl
  have hgap : gap.toList ≠ [] := by simpa using hne
  rw [String.toList_append, String.toList_append, words, runs_append_append hgap hblank]
  rfl

/-! ## White space -/

/-- White space stands in a text only as single spaces between characters that are not white space. -/
def IsSingleSpaced (cs : List Char) : Prop :=
  ∀ before c after, cs = before ++ c :: after → isBlank c →
    c = ' ' ∧ (∃ a ∈ before.getLast?, isBlank a = false) ∧ ∃ b ∈ after.head?, isBlank b = false

/-- A text without white space. -/
theorem IsSingleSpaced.of_forall {cs : List Char} (h : ∀ c ∈ cs, isBlank c = false) :
    IsSingleSpaced cs := by
  rintro before c after rfl hc
  rw [h c (by simp)] at hc
  contradiction

/-- A word, a space and a text that does not start with white space. -/
theorem IsSingleSpaced.append_cons {w cs : List Char} (hne : w ≠ []) (hw : ∀ c ∈ w, isBlank c = false)
    (hcs : ∃ b ∈ cs.head?, isBlank b = false) (h : IsSingleSpaced cs) : IsSingleSpaced (w ++ ' ' :: cs) := by
  intro before c after heq hc
  -- The word holds no white space, so `c` comes behind it.
  obtain ⟨gap, rfl, hrest⟩ : ∃ gap, before = w ++ gap ∧ ' ' :: cs = gap ++ c :: after := by
    rcases List.append_eq_append_iff.mp heq with h | ⟨gap, hword, hrest⟩
    · exact h
    · rcases List.cons_eq_append_iff.mp hrest with ⟨rfl, -⟩ | ⟨back, rfl, -⟩
      · exact ⟨[], by simpa using hword.symm, hrest.symm⟩
      · rw [hw c (by simp [hword])] at hc
        contradiction
  rcases List.cons_eq_append_iff.mp hrest with ⟨rfl, hrest⟩ | ⟨front, rfl, rfl⟩
  · obtain ⟨rfl, rfl⟩ := List.cons_eq_cons.mp hrest
    refine ⟨rfl, ⟨w.getLast hne, ?_, hw _ (List.getLast_mem hne)⟩, hcs⟩
    rw [List.append_nil, List.getLast?_eq_some_getLast hne, Option.mem_def]
  · obtain ⟨hspace, ⟨a, ha, hblank⟩, hafter⟩ := h front c after rfl hc
    refine ⟨hspace, ⟨a, ?_, hblank⟩, hafter⟩
    simp [List.getLast?_append, List.getLast?_cons, Option.mem_def.mp ha]

/-- Words that are joined by spaces. -/
theorem isSingleSpaced_intercalate {ws : List (List Char)}
    (h : ∀ w ∈ ws, w ≠ [] ∧ ∀ c ∈ w, isBlank c = false) : IsSingleSpaced ([' '].intercalate ws) := by
  induction ws with
  | nil => exact .of_forall fun c hc ↦ absurd hc List.not_mem_nil
  | cons w ws ih =>
    rw [List.forall_mem_cons] at h
    cases ws with
    | nil =>
      rw [List.intercalate_singleton]
      exact .of_forall h.1.2
    | cons v ws =>
      obtain ⟨hv, hletters⟩ := h.2 v List.mem_cons_self
      have hhead : ∃ b ∈ ([' '].intercalate (v :: ws)).head?, isBlank b = false := by
        rw [head?_intercalate [' '] hv ws]
        exact ⟨v.head hv, List.head?_eq_some_head hv, hletters _ (List.head_mem hv)⟩
      rw [List.intercalate_cons_cons, List.append_assoc, List.singleton_append]
      exact .append_cons h.1.1 h.1.2 hhead (ih h.2)

/-- White space stands in a text on one line only between two words. -/
theorem isSingleSpaced_singleLine (s : String) : IsSingleSpaced (singleLine s).toList := by
  rw [singleLine, String.toList_ofList]
  exact isSingleSpaced_intercalate fun w hw ↦ ⟨ne_nil_of_mem_runs hw, fun _ ↦ isBlank_of_mem_words hw⟩

/-- The characters that break lines. -/
def lineBreaks : List Char :=
  ['\n', '\x0b', '\x0c', '\r', '\x1c', '\x1d', '\x1e', '\u0085', '\u2028', '\u2029']

/-- Line breaks are white space other than the space. -/
theorem isBlank_of_mem_lineBreaks {c : Char} (h : c ∈ lineBreaks) : isBlank c ∧ c ≠ ' ' := by
  have hall : lineBreaks.all fun c ↦ isBlank c && c != ' ' := by decide
  simpa using List.all_eq_true.mp hall c h

/-! ## Texts on one line -/

/-- A text on one line has single spaces between two words, no other white space and so no line breaks. It
has the words of the text, and it stays as it is when it is put on one line again. Which white space there
is between two parts of a text makes no difference, if only there is some. -/
theorem singleLine_keeps_words (text : String) :
    IsSingleSpaced (singleLine text).toList ∧ (∀ c ∈ lineBreaks, c ∉ (singleLine text).toList) ∧
      parts (singleLine text) = parts text ∧ singleLine (singleLine text) = singleLine text ∧
      ∀ before after gap gap' : String, gap ≠ "" → isBlankText gap → gap' ≠ "" → isBlankText gap' →
        singleLine (before ++ gap ++ after) = singleLine (before ++ gap' ++ after) := by
  refine ⟨isSingleSpaced_singleLine text, fun c hc hmem ↦ ?_, ?_, singleLine_congr (words_singleLine text), ?_⟩
  · obtain ⟨hblank, hspace⟩ := isBlank_of_mem_lineBreaks hc
    exact hspace (eq_space_of_mem_singleLine hmem hblank)
  · rw [← words_eq_parts, ← words_eq_parts, words_singleLine]
  · intro before after gap gap' hne hgap hne' hgap'
    apply singleLine_congr
    rw [words_append_append hne hgap, words_append_append hne' hgap']

/-- An ideographic space and a line separator are no less a gap than a space. -/
theorem singleLine_keeps_words_gaps :
    (("\u3000\u2028" : String) ≠ "" ∧ isBlankText "\u3000\u2028" ∧ (" " : String) ≠ "" ∧ isBlankText " ") ∧
      singleLine ("FIX" ++ "\u3000\u2028" ++ "4.4") = singleLine ("FIX" ++ " " ++ "4.4") := by
  have hgap : ("\u3000\u2028" : String) ≠ "" ∧ isBlankText "\u3000\u2028" ∧ (" " : String) ≠ "" ∧
      isBlankText " " := by decide
  obtain ⟨h₁, h₂, h₃, h₄⟩ := hgap
  obtain ⟨-, -, -, -, h⟩ := singleLine_keeps_words "FIX"
  exact ⟨⟨h₁, h₂, h₃, h₄⟩, h "FIX" "4.4" _ _ h₁ h₂ h₃ h₄⟩

example : singleLine "\u3000 FIX.4.4\t\u2028beta\n" = "FIX.4.4 beta" := by decide

end FixBindings.Text
