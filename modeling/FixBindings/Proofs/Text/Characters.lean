import FixBindings.Proofs.Text.Runs
import FixBindings.Text.Blank
import FixBindings.Text.Case
import FixBindings.Text.Digit
import Mathlib.Data.List.DropRight
import Mathlib.Data.List.TakeWhile

/-!
# Characters of texts

What characters can stand in a text that has been put on one line, trimmed or put into lower case.
None of the three brings a line feed in, and the words of a text are free of white space.
-/

namespace FixBindings.Text

/-! ## ASCII characters -/

/-- What holds of the first 128 code points holds of every ASCII character. -/
theorem of_ascii {P : Char → Prop} (h : ∀ n < 128, P (Char.ofNat n)) {c : Char}
    (hc : c.toNat < 128) : P c := by
  have := h c.toNat hc
  rwa [Char.ofNat_toNat] at this

/-- A code point is that of the character that is made from it. -/
theorem toNat_ofNat {n : Nat} (h : n.isValidChar) : (Char.ofNat n).toNat = n := by
  rw [Char.ofNat, dif_pos h]
  rfl

/-- The code point of a character that is made from a number is that number, or zero when the number
is no code point. -/
theorem toNat_ofNat_or (n : Nat) : (Char.ofNat n).toNat = n ∨ (Char.ofNat n).toNat = 0 := by
  by_cases h : n.isValidChar
  · exact .inl (toNat_ofNat h)
  · rw [Char.ofNat, dif_neg h]
    exact .inr rfl

/-- A character other than NUL is made from its own code point only. -/
theorem eq_toNat_of_ofNat {n : Nat} {c : Char} (h : Char.ofNat n = c) (hc : c.toNat ≠ 0) :
    n = c.toNat := by
  subst h
  exact ((toNat_ofNat_or n).resolve_right hc).symm

/-- ASCII letters and digits are ASCII characters. -/
theorem toNat_lt_of_isAlphanum {c : Char} (h : c.isAlphanum) : c.toNat < 128 := by
  delta Char.isAlphanum Char.isAlpha Char.isUpper Char.isLower Char.isDigit at h
  simp only [Bool.or_eq_true, Bool.and_eq_true, decide_eq_true_eq, ge_iff_le,
    UInt32.le_iff_toNat_le] at h
  have hz : 'Z'.val.toNat < 128 ∧ 'z'.val.toNat < 128 ∧ '9'.val.toNat < 128 := by decide
  simp only [Char.toNat]
  omega

theorem isAlphanum_of_isUpper {c : Char} (h : c.isUpper) : c.isAlphanum := by
  show (c.isUpper || c.isLower || c.isDigit) = true
  rw [h, Bool.true_or, Bool.true_or]

theorem isAlphanum_of_isLower {c : Char} (h : c.isLower) : c.isAlphanum := by
  show (c.isUpper || c.isLower || c.isDigit) = true
  rw [h, Bool.or_true, Bool.true_or]

theorem isAlphanum_of_isDigit {c : Char} (h : c.isDigit) : c.isAlphanum := by
  show (c.isUpper || c.isLower || c.isDigit) = true
  rw [h, Bool.or_true]

theorem toNat_lt_of_isDigit {c : Char} (h : c.isDigit) : c.toNat < 128 :=
  toNat_lt_of_isAlphanum (isAlphanum_of_isDigit h)

theorem toNat_lt_of_isUpper {c : Char} (h : c.isUpper) : c.toNat < 128 :=
  toNat_lt_of_isAlphanum (isAlphanum_of_isUpper h)

theorem toNat_lt_of_isLower {c : Char} (h : c.isLower) : c.toNat < 128 :=
  toNat_lt_of_isAlphanum (isAlphanum_of_isLower h)

/-- Only small letters have another upper case. -/
theorem toUpper_of_not_isLower {c : Char} (h : ¬c.isLower) : c.toUpper = c :=
  dif_neg fun hlower ↦ h (Bool.and_eq_true_iff.mpr ⟨decide_eq_true hlower.1, decide_eq_true hlower.2⟩)

/-- Only capitals have another lower case. -/
theorem toLower_of_not_isUpper {c : Char} (h : ¬c.isUpper) : c.toLower = c :=
  dif_neg fun hupper ↦ h (decide_eq_true hupper)

theorem not_isLower_of_isUpper {c : Char} (h : c.isUpper) : ¬c.isLower := by
  have hc := toNat_lt_of_isUpper h
  revert h
  exact of_ascii (P := fun c ↦ c.isUpper → ¬c.isLower) (by decide) hc

/-- Only ASCII letters have another upper case. -/
theorem toUpper_of_le_toNat {c : Char} (h : 128 ≤ c.toNat) : c.toUpper = c :=
  toUpper_of_not_isLower fun hlower ↦ Nat.not_lt_of_le h (toNat_lt_of_isLower hlower)

/-- Only ASCII letters have another lower case. -/
theorem toLower_of_le_toNat {c : Char} (h : 128 ≤ c.toNat) : c.toLower = c :=
  toLower_of_not_isUpper fun hupper ↦ Nat.not_lt_of_le h (toNat_lt_of_isUpper hupper)

/-- What holds of ASCII characters, and of all that have no other case, holds of every character. -/
theorem of_case {P : Char → Prop} (hascii : ∀ n < 128, P (Char.ofNat n))
    (hother : ∀ c : Char, c.toUpper = c → c.toLower = c → ¬c.isUpper → P c) (c : Char) : P c := by
  by_cases h : c.toNat < 128
  · exact of_ascii hascii h
  · have hle := Nat.le_of_not_lt h
    exact hother c (toUpper_of_le_toNat hle) (toLower_of_le_toNat hle) fun hupper ↦
      h (toNat_lt_of_isUpper hupper)

@[simp] theorem char_isUpper_toLower (c : Char) : c.toLower.isUpper = false := by
  refine of_case (P := fun c ↦ c.toLower.isUpper = false) (by decide) (fun c _ hlower h ↦ ?_) c
  rw [hlower, Bool.eq_false_iff]
  exact h

@[simp] theorem char_toUpper_toLower (c : Char) : c.toLower.toUpper = c.toUpper :=
  of_case (P := fun c ↦ c.toLower.toUpper = c.toUpper) (by decide)
    (fun c _ hlower _ ↦ by rw [hlower]) c

@[simp] theorem char_toLower_toUpper (c : Char) : c.toUpper.toLower = c.toLower :=
  of_case (P := fun c ↦ c.toUpper.toLower = c.toLower) (by decide)
    (fun c hupper _ _ ↦ by rw [hupper]) c

@[simp] theorem char_toLower_toLower (c : Char) : c.toLower.toLower = c.toLower :=
  of_case (P := fun c ↦ c.toLower.toLower = c.toLower) (by decide)
    (fun c _ hlower _ ↦ by rw [hlower, hlower]) c

theorem isAlphanum_toLower {c : Char} (h : c.isAlphanum) : c.toLower.isAlphanum := by
  have hc := toNat_lt_of_isAlphanum h
  revert h
  exact of_ascii (P := fun c ↦ c.isAlphanum → c.toLower.isAlphanum) (by decide) hc

theorem isAlphanum_toUpper {c : Char} (h : c.isAlphanum) : c.toUpper.isAlphanum := by
  have hc := toNat_lt_of_isAlphanum h
  revert h
  exact of_ascii (P := fun c ↦ c.isAlphanum → c.toUpper.isAlphanum) (by decide) hc

/-! ## Intercalation -/

/-- An element of lists that are joined is an element of the separator or of one of the lists. -/
theorem mem_intercalate {α : Type _} {sep : List α} {ls : List (List α)} {x : α}
    (hx : x ∈ sep.intercalate ls) : x ∈ sep ∨ ∃ l ∈ ls, x ∈ l := by
  induction ls with
  | nil => simp at hx
  | cons l ls ih =>
    cases ls with
    | nil => exact .inr ⟨l, by simp, by simpa using hx⟩
    | cons m ls =>
      rw [List.intercalate_cons_cons, List.mem_append, List.mem_append] at hx
      rcases hx with (hx | hx) | hx
      · exact .inr ⟨l, by simp, hx⟩
      · exact .inl hx
      · rcases ih hx with h | ⟨n, hn, hx⟩
        · exact .inl h
        · exact .inr ⟨n, List.mem_cons_of_mem _ hn, hx⟩

/-- Lists that are joined start as the first of them does, unless it is empty. -/
theorem head?_intercalate {α : Type _} (sep : List α) {l : List α} (h : l ≠ []) (ls : List (List α)) :
    (sep.intercalate (l :: ls)).head? = l.head? := by
  cases ls with
  | nil => rw [List.intercalate_singleton]
  | cons m ls =>
    obtain ⟨x, l, rfl⟩ := List.exists_cons_of_ne_nil h
    rw [List.intercalate_cons_cons, List.append_assoc]
    rfl

/-- A function of the elements goes into lists that are joined. -/
theorem map_intercalate {α β : Type _} (f : α → β) (sep : List α) (ls : List (List α)) :
    (sep.intercalate ls).map f = (sep.map f).intercalate (ls.map (List.map f)) := by
  induction ls with
  | nil => rfl
  | cons l ls ih =>
    cases ls with
    | nil => rw [List.intercalate_singleton, List.map_singleton, List.intercalate_singleton]
    | cons m ls =>
      rw [List.intercalate_cons_cons, List.map_append, List.map_append, ih]
      exact List.intercalate_cons_cons.symm

/-- A character that is in no text of a list is not in the text at a place of the list. -/
theorem notMem_toList_getD (texts : List String) {c : Char} (h : ∀ s ∈ texts, c ∉ s.toList) (i : Nat) :
    c ∉ (texts.getD i "").toList := by
  rw [List.getD_eq_getElem?_getD]
  cases hi : texts[i]? with
  | none => exact List.not_mem_nil
  | some s => exact h s (List.mem_of_getElem? hi)

/-! ## Both ends of a list -/

section

variable {α : Type _} {p : α → Bool} {as : List α}

/-- Nothing is left when all elements are taken away from both ends. -/
theorem rdropWhile_dropWhile_eq_nil_iff :
    (as.dropWhile p).rdropWhile p = [] ↔ ∀ a ∈ as, p a := by
  rw [List.rdropWhile_eq_nil_iff]
  constructor
  · intro h
    rw [← List.dropWhile_eq_nil_iff]
    rcases has : as.dropWhile p with _ | ⟨a, rest⟩
    · rfl
    · -- The first element of the rest satisfies the predicate and does not.
      have hpos : p a := h a (by simp [has])
      have hnot := List.head?_dropWhile_not p as
      simp [has, hpos] at hnot
  · exact fun h a ha ↦ h a ((List.dropWhile_sublist p).mem ha)

/-- What is left does not start with an element that is taken away. -/
theorem of_head?_rdropWhile_dropWhile {a : α} (h : ((as.dropWhile p).rdropWhile p).head? = some a) :
    p a = false := by
  obtain ⟨rest, hrest⟩ : (as.dropWhile p).rdropWhile p <+: as.dropWhile p := List.rdropWhile_prefix ..
  have hhead : (as.dropWhile p).head? = some a := by
    rw [← hrest, List.head?_append, h, Option.some_or]
  simpa [hhead] using List.head?_dropWhile_not p as

/-- Nor does it end with one. -/
theorem of_getLast?_rdropWhile {a : α} (h : (as.rdropWhile p).getLast? = some a) : p a = false := by
  have hne : as.rdropWhile p ≠ [] := fun hnil ↦ by simp [hnil] at h
  rw [List.getLast?_eq_some_getLast hne, Option.some_inj] at h
  rw [← h]
  simpa using List.rdropWhile_last_not p as hne

/-- A list is what is left of it, and around that what is taken away. -/
theorem exists_eq_append_rdropWhile_dropWhile (p : α → Bool) (as : List α) :
    ∃ before after, as = before ++ (as.dropWhile p).rdropWhile p ++ after ∧ (∀ a ∈ before, p a) ∧
      ∀ a ∈ after, p a := by
  refine ⟨as.takeWhile p, (as.dropWhile p).rtakeWhile p, ?_, fun _ ↦ List.mem_takeWhile_imp,
    fun _ ↦ List.mem_rtakeWhile_imp⟩
  rw [List.append_assoc, List.rdropWhile_append_rtakeWhile, List.takeWhile_append_dropWhile]

/-- Nothing is taken away from a list with other elements at both ends. -/
theorem rdropWhile_dropWhile_eq_self (hs : ∀ a ∈ as.head?, p a = false)
    (he : ∀ a ∈ as.getLast?, p a = false) : (as.dropWhile p).rdropWhile p = as := by
  have hdrop : as.dropWhile p = as := by
    cases as with
    | nil => rfl
    | cons a as => exact List.dropWhile_cons_of_neg (by simp [hs a rfl])
  rw [hdrop, List.rdropWhile_eq_self_iff]
  intro hne
  simp [he _ (List.getLast?_eq_some_getLast hne)]

/-- Elements can be mapped before others are taken away, when the same ones are taken away. -/
theorem rdropWhile_dropWhile_map {f : α → α} (hf : ∀ a, p (f a) = p a) (as : List α) :
    ((as.map f).dropWhile p).rdropWhile p = ((as.dropWhile p).rdropWhile p).map f := by
  have hcomp : p ∘ f = p := funext hf
  rw [List.dropWhile_map, hcomp, List.rdropWhile, ← List.map_reverse, List.dropWhile_map, hcomp,
    ← List.map_reverse]
  rfl

/-- Elements that are taken away can stand at the end. -/
theorem rdropWhile_append_of_forall {after : List α} (h : ∀ a ∈ after, p a) (as : List α) :
    (as ++ after).rdropWhile p = as.rdropWhile p := by
  rw [List.rdropWhile, List.reverse_append, List.dropWhile_append_of_pos (by simpa using h)]
  rfl

/-- Elements that are taken away can stand at both ends. -/
theorem rdropWhile_dropWhile_append {before after : List α} (hb : ∀ a ∈ before, p a)
    (ha : ∀ a ∈ after, p a) (as : List α) :
    ((before ++ as ++ after).dropWhile p).rdropWhile p = (as.dropWhile p).rdropWhile p := by
  rw [List.append_assoc, List.dropWhile_append_of_pos hb]
  by_cases has : as.dropWhile p = []
  · have hall : ∀ a ∈ as, p a := List.dropWhile_eq_nil_iff.mp has
    rw [rdropWhile_dropWhile_eq_nil_iff.mpr hall, rdropWhile_dropWhile_eq_nil_iff, List.forall_mem_append]
    exact ⟨hall, ha⟩
  · rw [List.dropWhile_append, if_neg (by simpa using has), rdropWhile_append_of_forall ha]

end

/-! ## White space -/

/-- The words of a text hold no white space. -/
theorem isBlank_of_mem_words {cs w : List Char} (hw : w ∈ words cs) {c : Char} (hc : c ∈ w) :
    isBlank c = false := by
  simpa using of_mem_runs hw hc

/-- The only white space of a text on one line is the space. -/
theorem eq_space_of_mem_singleLine {s : String} {c : Char} (hc : c ∈ (singleLine s).toList)
    (hb : isBlank c) : c = ' ' := by
  rw [singleLine, String.toList_ofList] at hc
  rcases mem_intercalate hc with h | ⟨w, hw, hc⟩
  · simpa using h
  · rw [isBlank_of_mem_words hw hc] at hb
    contradiction

/-- A text on one line has no line feed. -/
theorem newline_notMem_singleLine (s : String) : '\n' ∉ (singleLine s).toList := fun h ↦
  absurd (eq_space_of_mem_singleLine h rfl) (by decide)

/-- Trimming takes characters away only. -/
theorem trim_sublist (cs : List Char) : (trim cs).Sublist cs := by
  have h := ((cs.dropWhile isBlank).reverse.dropWhile_sublist isBlank).reverse
  rw [List.reverse_reverse] at h
  exact h.trans (cs.dropWhile_sublist isBlank)

theorem notMem_trim {cs : List Char} {c : Char} (h : c ∉ cs) : c ∉ trim cs := fun hm ↦
  h ((trim_sublist cs).mem hm)

/-- A text that has been trimmed does not start with white space. -/
theorem isBlank_of_head?_trim {cs : List Char} {c : Char} (h : (trim cs).head? = some c) :
    isBlank c = false :=
  of_head?_rdropWhile_dropWhile h

/-- Nothing is left of white space. -/
theorem trim_eq_nil_iff {cs : List Char} : trim cs = [] ↔ ∀ c ∈ cs, isBlank c :=
  rdropWhile_dropWhile_eq_nil_iff

/-- Nothing is left of a text just when it holds white space only. -/
theorem isEmpty_trimmed (s : String) : (trimmed s).isEmpty = isBlankText s := by
  rw [Bool.eq_iff_iff, isBlankText, List.all_eq_true, ← trim_eq_nil_iff, trimmed, String.isEmpty_iff,
    ← String.toList_inj, String.toList_ofList, String.toList_empty]

/-- The text `t` is the text `s` without the white space around it. -/
structure TrimsTo (s t : String) : Prop where
  /-- Only white space is around it. -/
  around : ∃ before after, s = before ++ t ++ after ∧ isBlankText before ∧ isBlankText after
  /-- It does not start with white space. -/
  starts : ∀ c ∈ t.toList.head?, isBlank c = false
  /-- It does not end with white space. -/
  ends : ∀ c ∈ t.toList.getLast?, isBlank c = false

/-- White space around a text does not change what is left of it. -/
theorem trimmed_append_append {before after : String} (hb : isBlankText before) (ha : isBlankText after)
    (s : String) : trimmed (before ++ s ++ after) = trimmed s := by
  rw [trimmed, String.toList_append, String.toList_append]
  exact congrArg String.ofList
    (rdropWhile_dropWhile_append (List.all_eq_true.mp hb) (List.all_eq_true.mp ha) s.toList)

/-- Trimming leaves a text as it is when it has other characters at both ends. -/
theorem trimmed_eq_self {s : String} (hs : ∀ c ∈ s.toList.head?, isBlank c = false)
    (he : ∀ c ∈ s.toList.getLast?, isBlank c = false) : trimmed s = s := by
  rw [trimmed, trim, ← List.rdropWhile, rdropWhile_dropWhile_eq_self hs he, String.ofList_toList]

/-- Trimming takes the white space around a text away. -/
theorem trimsTo_trimmed (s : String) : TrimsTo s (trimmed s) where
  around := by
    obtain ⟨before, after, hs, hbefore, hafter⟩ := exists_eq_append_rdropWhile_dropWhile isBlank s.toList
    refine ⟨.ofList before, .ofList after, ?_, ?_, ?_⟩
    · rw [← String.toList_inj, String.toList_append, String.toList_append, String.toList_ofList,
        String.toList_ofList, trimmed, String.toList_ofList]
      exact hs
    · simpa [isBlankText] using hbefore
    · simpa [isBlankText] using hafter
  starts c hc := by
    rw [trimmed, String.toList_ofList] at hc
    exact isBlank_of_head?_trim hc
  ends c hc := by
    rw [trimmed, String.toList_ofList] at hc
    exact of_getLast?_rdropWhile hc

/-- There is one way to take the white space around a text away. -/
theorem TrimsTo.eq_trimmed {s t : String} (h : TrimsTo s t) : t = trimmed s := by
  obtain ⟨before, after, rfl, hbefore, hafter⟩ := h.around
  rw [trimmed_append_append hbefore hafter, trimmed_eq_self h.starts h.ends]

/-- Nothing more is taken away from a text that has been trimmed. -/
theorem trimmed_trimmed (s : String) : trimmed (trimmed s) = trimmed s :=
  trimmed_eq_self (trimsTo_trimmed s).starts (trimsTo_trimmed s).ends

/-- Two texts in a row are blank when both are. -/
theorem isBlankText_append (s t : String) : isBlankText (s ++ t) = (isBlankText s && isBlankText t) := by
  rw [isBlankText, String.toList_append, List.all_append]
  rfl

/-! ## Outer line feeds -/

/-- The text `t` is the text `s` without the line feeds around it, and not empty. -/
structure StripsTo (s t : String) : Prop where
  /-- Only line feeds are around it. -/
  around : ∃ before after, s = before ++ t ++ after ∧ (∀ c ∈ before.toList, c = '\n') ∧
    ∀ c ∈ after.toList, c = '\n'
  /-- Something is left. -/
  ne_empty : t ≠ ""
  /-- It does not start with a line feed. -/
  starts : t.toList.head? ≠ some '\n'
  /-- It does not end with a line feed. -/
  ends : t.toList.getLast? ≠ some '\n'

theorem toList_trimLineFeeds (s : String) :
    (trimLineFeeds s).toList = (s.toList.dropWhile (· == '\n')).rdropWhile (· == '\n') := by
  rw [trimLineFeeds, String.toList_ofList]
  rfl

/-- Line feeds around a text do not change what is left of it. -/
theorem trimLineFeeds_append_append {front back : String} (hf : ∀ c ∈ front.toList, c = '\n')
    (hb : ∀ c ∈ back.toList, c = '\n') (s : String) :
    trimLineFeeds (front ++ s ++ back) = trimLineFeeds s := by
  have hfront : ∀ c ∈ front.toList, (c == '\n') = true := fun c hc ↦ beq_iff_eq.mpr (hf c hc)
  have hback : ∀ c ∈ back.toList, (c == '\n') = true := fun c hc ↦ beq_iff_eq.mpr (hb c hc)
  rw [← String.toList_inj, toList_trimLineFeeds, toList_trimLineFeeds, String.toList_append,
    String.toList_append]
  exact rdropWhile_dropWhile_append hfront hback s.toList

/-- Trimming takes the line feeds around a text away, and more than line feeds is left of a text that is
not blank. -/
theorem stripsTo_trimLineFeeds {s : String} (h : isBlankText s = false) :
    StripsTo s (trimLineFeeds s) where
  around := by
    obtain ⟨before, after, hs, hbefore, hafter⟩ :=
      exists_eq_append_rdropWhile_dropWhile (· == '\n') s.toList
    refine ⟨.ofList before, .ofList after, ?_, by simpa using hbefore, by simpa using hafter⟩
    rw [← String.toList_inj, String.toList_append, String.toList_append, String.toList_ofList,
      String.toList_ofList, toList_trimLineFeeds, ← hs]
  ne_empty := by
    rw [ne_eq, ← String.toList_inj, toList_trimLineFeeds, String.toList_empty,
      rdropWhile_dropWhile_eq_nil_iff]
    intro hall
    -- A text of line feeds is blank.
    have hblank : isBlankText s = true := List.all_eq_true.mpr fun c hc ↦ by
      rw [eq_of_beq (hall c hc)]
      rfl
    rw [hblank] at h
    contradiction
  starts hstart := by
    rw [toList_trimLineFeeds] at hstart
    exact absurd (of_head?_rdropWhile_dropWhile hstart) (by decide)
  ends hend := by
    rw [toList_trimLineFeeds] at hend
    exact absurd (of_getLast?_rdropWhile hend) (by decide)

/-! ## Lower case -/

/-- No character that the table of lower case moves becomes an ASCII control character. -/
theorem lowerRuns_image {r : CaseRun} (hr : r ∈ lowerRuns) : 0x1F < (r.first : Int) + r.shift := by
  have h : ∀ r ∈ lowerRuns, 0x1F < (r.first : Int) + r.shift := by decide +kernel
  exact h r hr

/-- The lower case of a character other than the line feed has no line feed. -/
theorem newline_notMem_lowerChar {c : Char} (hc : c ≠ '\n') : '\n' ∉ lowerChar c := by
  unfold lowerChar
  split
  · have : c.toLower ≠ '\n' := by
      revert hc
      exact of_ascii (P := fun c ↦ c ≠ '\n' → c.toLower ≠ '\n') (by decide) ‹_›
    simpa using this.symm
  · unfold mapCase
    split
    · rename_i ns h
      have he : ∀ p ∈ lowerExpansions, '\n' ∉ p.2.map Char.ofNat := by decide
      obtain ⟨l, m, hl, -⟩ := List.lookup_eq_some_iff.mp h
      exact he (c.toNat, ns) (by simp [hl])
    · cases h : lowerRuns.findSome? fun r ↦ r.map? c.toNat with
      | none => simpa using hc.symm
      | some m =>
        obtain ⟨r, hr, hm⟩ := List.exists_of_findSome?_eq_some h
        have hi := lowerRuns_image hr
        have hlt : 0x1F < m := by
          simp only [CaseRun.map?, Bool.and_eq_true, decide_eq_true_eq, Option.ite_none_right_eq_some,
            Option.some.injEq] at hm
          omega
        have hne : '\n' ≠ Char.ofNat m := by
          intro he
          have : m = 10 := eq_toNat_of_ofNat he.symm (by decide)
          omega
        simpa using hne

/-- Lower case brings no line feed in. -/
theorem newline_notMem_lower {cs : List Char} (h : '\n' ∉ cs) : '\n' ∉ lower cs := by
  suffices ∀ before, '\n' ∉ lowerFrom before cs from this []
  induction cs with
  | nil => simp [lowerFrom]
  | cons c cs ih =>
    intro before
    have hc : c ≠ '\n' := by rintro rfl; simp at h
    rw [lowerFrom, List.mem_append, not_or]
    refine ⟨?_, ih (fun hm ↦ h (List.mem_cons_of_mem _ hm)) _⟩
    split
    · decide
    · exact newline_notMem_lowerChar hc

/-- Lower case keeps line feeds. -/
theorem newline_mem_lower {cs : List Char} (h : '\n' ∈ cs) : '\n' ∈ lower cs := by
  suffices ∀ before, '\n' ∈ lowerFrom before cs from this []
  induction cs with
  | nil => simp at h
  | cons c cs ih =>
    intro before
    rw [lowerFrom, List.mem_append]
    rcases List.mem_cons.mp h with rfl | h
    · have hlower : lowerChar '\n' = ['\n'] := rfl
      left
      rw [if_neg (by simp), hlower]
      exact List.mem_singleton_self _
    · exact .inr (ih h _)

end FixBindings.Text
