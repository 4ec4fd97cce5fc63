import FixBindings.Proofs.Rust.Source
import FixBindings.Rust.Lines

/-!
# Texts without comments

A text without its comments, each of which goes from `//` outside of a literal to the end of its line.
A literal ends with its line at the latest, so a line feed always leads back to code, and a text is
without its comments when each of its lines is.
-/

namespace FixBindings.Rust

/-- The characters of a text that are not in comments, where the reader stands in front of it. A
literal ends with its line at the latest, so that a quote without its match hides no comment on the
lines behind it. -/
def uncommented : Context → List Char → List Char
  | .code, [] => []
  | .comment, [] => []
  | .literal, [] => []
  | .escape, [] => []
  | .code, '/' :: '/' :: cs => uncommented .comment cs
  | .code, c :: cs => c :: uncommented (if c = '"' then .literal else .code) cs
  | .comment, c :: cs => if c = '\n' then c :: uncommented .code cs else uncommented .comment cs
  | .literal, c :: cs =>
    c :: uncommented (if c = '\n' ∨ c = '"' then .code else if c = '\\' then .escape else .literal) cs
  | .escape, c :: cs => c :: uncommented (if c = '\n' then .code else .literal) cs

theorem uncommented_slashes (cs : List Char) :
    uncommented .code ('/' :: '/' :: cs) = uncommented .comment cs := rfl

theorem uncommented_code_cons {c : Char} {cs : List Char} (h : ∀ ds, c = '/' → cs ≠ '/' :: ds) :
    uncommented .code (c :: cs) = c :: uncommented (if c = '"' then .literal else .code) cs :=
  uncommented.eq_6 c cs h

theorem uncommented_comment_cons (c : Char) (cs : List Char) : uncommented .comment (c :: cs) =
    if c = '\n' then c :: uncommented .code cs else uncommented .comment cs := rfl

theorem uncommented_literal_cons (c : Char) (cs : List Char) : uncommented .literal (c :: cs) =
    c :: uncommented (if c = '\n' ∨ c = '"' then .code else if c = '\\' then .escape else .literal)
      cs := rfl

theorem uncommented_escape_cons (c : Char) (cs : List Char) : uncommented .escape (c :: cs) =
    c :: uncommented (if c = '\n' then .code else .literal) cs := rfl

/-- The character that a mark stands for. -/
def Mark.char : Mark → Char
  | code c | literal c => c

/-- Where every literal ends on its line, nothing but the comments is left out. -/
theorem uncommented_of_marks {x : Context} {s : List Char} {ms : List Mark} (h : marks x s = some ms) :
    uncommented x s = ms.map Mark.char := by
  fun_induction marks x s generalizing ms with
  | case1 => cases h; rfl
  | case2 => cases h; rfl
  | case3 | case4 => contradiction
  | case5 cs ih => exact ih h
  | case6 c cs hc ih =>
    obtain ⟨ns, hns, rfl⟩ := Option.map_eq_some_iff.mp h
    rw [uncommented_code_cons hc, ih hns]
    rfl
  | case7 cs ih =>
    obtain ⟨ns, hns, rfl⟩ := Option.map_eq_some_iff.mp h
    rw [uncommented_comment_cons, if_pos rfl, ih hns]
    rfl
  | case8 c cs hc ih =>
    rw [uncommented_comment_cons, if_neg hc]
    exact ih h
  | case9 => contradiction
  | case10 cs _ ih =>
    obtain ⟨ns, hns, rfl⟩ := Option.map_eq_some_iff.mp h
    rw [uncommented_literal_cons, if_pos (.inr rfl), ih hns]
    rfl
  | case11 c cs hn hq ih =>
    obtain ⟨ns, hns, rfl⟩ := Option.map_eq_some_iff.mp h
    rw [uncommented_literal_cons, if_neg (by simp [hn, hq]), ih hns]
    rfl
  | case12 => contradiction
  | case13 c cs hn ih =>
    obtain ⟨ns, hns, rfl⟩ := Option.map_eq_some_iff.mp h
    rw [uncommented_escape_cons, if_neg hn, ih hns]
    rfl

/-! ## Lines -/

/-- A line feed leads back to code from everywhere. -/
theorem uncommented_append_newline (x : Context) (l rest : List Char) :
    uncommented x (l ++ '\n' :: rest) = uncommented x l ++ '\n' :: uncommented .code rest := by
  fun_induction uncommented x l with
  | case1 => rfl
  | case2 => rfl
  | case3 => rfl
  | case4 => rfl
  | case5 cs ih => exact ih
  | case6 c cs hc ih =>
    -- A single slash at the end of a line starts no comment with what is on the next line.
    have hline (ds : List Char) (hs : c = '/') : cs ++ '\n' :: rest ≠ '/' :: ds := by
      cases cs with
      | nil => simp
      | cons d cs =>
        rintro ⟨⟩
        exact hc cs hs rfl
    rw [List.cons_append, uncommented_code_cons hline, ih]
    rfl
  | case7 cs ih =>
    rw [List.cons_append, uncommented_comment_cons, if_pos rfl, ih]
    rfl
  | case8 c cs hc ih => rw [List.cons_append, uncommented_comment_cons, if_neg hc, ih]
  | case9 c cs ih =>
    rw [List.cons_append, uncommented_literal_cons, ih]
    rfl
  | case10 c cs ih =>
    rw [List.cons_append, uncommented_escape_cons, ih]
    rfl

/-- A comment without a line feed is left out as a whole. -/
theorem uncommented_comment {s : List Char} (h : '\n' ∉ s) : uncommented .comment s = [] := by
  induction s with
  | nil => rfl
  | cons c s ih =>
    rw [List.mem_cons, not_or] at h
    rw [uncommented_comment_cons, if_neg (Ne.symm h.1), ih h.2]

/-- Characters of code in front, none of which starts a comment or a literal, are kept. -/
theorem uncommented_code_append {s : List Char} (h : ∀ c ∈ s, c ≠ '/' ∧ c ≠ '"') (t : List Char) :
    uncommented .code (s ++ t) = s ++ uncommented .code t := by
  induction s with
  | nil => rfl
  | cons c s ih =>
    rw [List.forall_mem_cons] at h
    rw [List.cons_append, uncommented_code_cons fun _ hc ↦ absurd hc h.1.1, if_neg h.1.2, ih h.2]
    rfl

/-- Line feeds end comments and are not part of them. -/
theorem count_newline_uncommented (x : Context) (s : List Char) :
    (uncommented x s).count '\n' = s.count '\n' := by
  fun_induction uncommented x s with
  | case1 | case2 | case3 | case4 => rfl
  | case5 cs ih => simpa using ih
  | case6 c cs _ ih => rw [List.count_cons, List.count_cons, ih]
  | case7 cs ih => rw [List.count_cons, List.count_cons, ih]
  | case8 c cs hc ih => rw [ih, List.count_cons_of_ne hc]
  | case9 c cs ih => rw [List.count_cons, List.count_cons, ih]
  | case10 c cs ih => rw [List.count_cons, List.count_cons, ih]

/-! ## Texts -/

/-- A text without its comments. -/
def withoutComments (s : String) : String :=
  String.ofList (uncommented .code s.toList)

@[simp] theorem withoutComments_empty : withoutComments "" = "" := rfl

/-- A line is without its comments whatever stands on the other lines. -/
theorem withoutComments_line (l s : String) :
    withoutComments (l ++ "\n" ++ s) = withoutComments l ++ "\n" ++ withoutComments s := by
  have h : (l ++ "\n" ++ s).toList = l.toList ++ '\n' :: s.toList := by simp
  rw [withoutComments, h, uncommented_append_newline]
  apply String.toList_injective
  simp [withoutComments]

/-- The text of lines is without its comments when each line is. -/
theorem withoutComments_unlines (ls : List String) :
    withoutComments (unlines ls) = unlines (ls.map withoutComments) := by
  induction ls with
  | nil => rfl
  | cons l ls ih => rw [unlines_cons, withoutComments_line, ih, List.map_cons, unlines_cons]

/-- Of a line that is a comment behind an indent, the indent is left, whatever the comment ends with. -/
theorem withoutComments_comment {front rest : String} (indent : List Char) {text : List Char}
    (hf : front.toList = indent ++ '/' :: '/' :: text) (hi : ∀ c ∈ indent, c ≠ '/' ∧ c ≠ '"')
    (ht : '\n' ∉ text) (hr : '\n' ∉ rest.toList) :
    withoutComments (front ++ rest) = String.ofList indent := by
  have h : (front ++ rest).toList = indent ++ '/' :: '/' :: (text ++ rest.toList) := by simp [hf]
  have hn : '\n' ∉ text ++ rest.toList := by simp [ht, hr]
  rw [withoutComments, h, uncommented_code_append hi, uncommented_slashes, uncommented_comment hn,
    List.append_nil]

/-! ## Counting lines -/

/-- How many line feeds a text has. -/
def lineFeeds (s : String) : Nat :=
  s.toList.count '\n'

@[simp] theorem lineFeeds_append (s t : String) :
    lineFeeds (s ++ t) = lineFeeds s + lineFeeds t := by
  rw [lineFeeds, String.toList_append, List.count_append, lineFeeds, lineFeeds]

theorem lineFeeds_eq_zero {s : String} : lineFeeds s = 0 ↔ '\n' ∉ s.toList :=
  List.count_eq_zero

theorem lineFeeds_pos {s : String} : 0 < lineFeeds s ↔ '\n' ∈ s.toList :=
  List.count_pos_iff

/-- A text has as many lines without its comments. -/
theorem lineFeeds_withoutComments (s : String) : lineFeeds (withoutComments s) = lineFeeds s := by
  rw [lineFeeds, withoutComments, String.toList_ofList, count_newline_uncommented, lineFeeds]

end FixBindings.Rust
