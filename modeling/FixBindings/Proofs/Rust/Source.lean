import FixBindings.Proofs.Rust.Literal

/-!
# Comments and literals of source text

A reader of Rust text from left to right: a comment goes from `//` to the line feed and is dropped, a
string literal goes from one quote to the next that no backslash stands in front of. Reading fails in
a literal that does not end or that holds a line feed. `Reads` says what the reader makes of a part of
a text whatever follows; the insides of the literals of any text are read as insides of literals.
-/

namespace FixBindings.Rust

/-- Where the reader stands. -/
inductive Context where
  | code
  | comment
  | literal
  /-- Behind a backslash in a literal. -/
  | escape
  deriving DecidableEq, Repr

/-- A character that is not part of a comment. -/
inductive Mark where
  /-- A character of code; the quotes of literals count as code. -/
  | code (c : Char)
  /-- A character between the quotes of a literal. -/
  | literal (c : Char)
  deriving DecidableEq, Repr

/-- The character of code that a mark is. -/
def Mark.code? : Mark → Option Char
  | code c => some c
  | literal _ => none

/-- The characters of a text without its comments, where the reader stands in front of it. -/
def marks : Context → List Char → Option (List Mark)
  | .code, [] => some []
  | .comment, [] => some []
  | .literal, [] => none
  | .escape, [] => none
  | .code, '/' :: '/' :: cs => marks .comment cs
  | .code, c :: cs => (marks (if c = '"' then .literal else .code) cs).map (.code c :: ·)
  | .comment, c :: cs =>
    if c = '\n' then (marks .code cs).map (.code c :: ·) else marks .comment cs
  | .literal, c :: cs =>
    if c = '\n' then none
    else if c = '"' then (marks .code cs).map (.code c :: ·)
    else (marks (if c = '\\' then .escape else .literal) cs).map (.literal c :: ·)
  | .escape, c :: cs =>
    if c = '\n' then none else (marks .literal cs).map (.literal c :: ·)

theorem marks_slashes (cs : List Char) : marks .code ('/' :: '/' :: cs) = marks .comment cs := rfl

theorem marks_code_cons {c : Char} (h : c ≠ '/') (cs : List Char) :
    marks .code (c :: cs) = (marks (if c = '"' then .literal else .code) cs).map (.code c :: ·) :=
  marks.eq_6 c cs fun _ hc _ ↦ h hc

theorem marks_comment_cons (c : Char) (cs : List Char) : marks .comment (c :: cs) =
    if c = '\n' then (marks .code cs).map (.code c :: ·) else marks .comment cs := rfl

theorem marks_literal_cons (c : Char) (cs : List Char) : marks .literal (c :: cs) =
    if c = '\n' then none
    else if c = '"' then (marks .code cs).map (.code c :: ·)
    else (marks (if c = '\\' then .escape else .literal) cs).map (.literal c :: ·) := rfl

theorem marks_escape_cons (c : Char) (cs : List Char) : marks .escape (c :: cs) =
    if c = '\n' then none else (marks .literal cs).map (.literal c :: ·) := rfl

/-- The code of marks: the literals are emptied. -/
def codeOf (ms : List Mark) : List Char :=
  ms.filterMap Mark.code?

@[simp] theorem codeOf_append (ms ns : List Mark) : codeOf (ms ++ ns) = codeOf ms ++ codeOf ns :=
  List.filterMap_append

@[simp] theorem codeOf_map_code (s : List Char) : codeOf (s.map Mark.code) = s := by
  simp [codeOf, List.filterMap_map, Function.comp_def, Mark.code?]

@[simp] theorem codeOf_map_literal (s : List Char) : codeOf (s.map Mark.literal) = [] := by
  simp [codeOf, List.filterMap_map, Function.comp_def, Mark.code?]

/-- The code of a text, without comments and with empty literals; none for a text that ends in a
literal or has a line feed in one. -/
def strippedCode (s : List Char) : Option (List Char) :=
  (marks .code s).map codeOf

/-! ## Reading a part of a text -/

/-- The reader goes from `x` through `s` to `y` and marks `ms` on the way, whatever follows. -/
def Reads (x : Context) (s : List Char) (y : Context) (ms : List Mark) : Prop :=
  ∀ rest, marks x (s ++ rest) = (marks y rest).map (ms ++ ·)

namespace Reads

variable {x y z : Context} {s t : List Char} {ms ns : List Mark} {c : Char}

theorem nil (x : Context) : Reads x [] x [] := fun rest ↦ by simp

/-- One part after another. -/
theorem append (h : Reads x s y ms) (k : Reads y t z ns) : Reads x (s ++ t) z (ms ++ ns) := by
  intro rest
  rw [List.append_assoc, h, k]
  simp [Function.comp_def]

/-- A single character of code. -/
theorem code_char (hs : c ≠ '/') (hq : c ≠ '"') : Reads .code [c] .code [.code c] := by
  intro rest
  rw [List.singleton_append, marks_code_cons hs, if_neg hq]
  rfl

/-- Code without slashes and quotes is kept as it is. -/
theorem code (h : ∀ c ∈ s, c ≠ '/' ∧ c ≠ '"') : Reads .code s .code (s.map .code) := by
  induction s with
  | nil => exact nil _
  | cons c s ih =>
    obtain ⟨hs, hq⟩ := h c (by simp)
    exact (code_char hs hq).append (ih fun c hc ↦ h c (List.mem_cons_of_mem _ hc))

/-- Two slashes start a comment. -/
theorem slashes : Reads .code ['/', '/'] .comment [] := by
  intro rest
  rw [List.cons_append, List.singleton_append, marks_slashes]
  simp

/-- What stands in a comment is dropped. -/
theorem comment (h : '\n' ∉ s) : Reads .comment s .comment [] := by
  induction s with
  | nil => exact nil _
  | cons c s ih =>
    intro rest
    have hc : c ≠ '\n' := by rintro rfl; simp at h
    rw [List.cons_append, marks_comment_cons, if_neg hc]
    exact ih (fun hm ↦ h (List.mem_cons_of_mem _ hm)) rest

/-- A line feed ends a comment. -/
theorem newline : Reads .comment ['\n'] .code [.code '\n'] := fun _ ↦ rfl

/-- A quote starts a literal. -/
theorem opening : Reads .code ['"'] .literal [.code '"'] := by
  intro rest
  rw [List.singleton_append, marks_code_cons (by decide)]
  rfl

/-- A quote ends a literal. -/
theorem closing : Reads .literal ['"'] .code [.code '"'] := fun _ ↦ rfl

/-! ## Literals -/

/-- An ordinary character of a literal. -/
theorem literal_char (hn : c ≠ '\n') (hq : c ≠ '"') (hb : c ≠ '\\') :
    Reads .literal [c] .literal [.literal c] := by
  intro rest
  rw [List.singleton_append, marks_literal_cons, if_neg hn, if_neg hq, if_neg hb]
  rfl

/-- A backslash takes the next character with it. -/
theorem escaped (hn : c ≠ '\n') :
    Reads .literal ['\\', c] .literal [.literal '\\', .literal c] := by
  intro rest
  have hback : marks .literal ('\\' :: c :: rest) =
      (marks .escape (c :: rest)).map (.literal '\\' :: ·) := rfl
  rw [List.cons_append, List.singleton_append, hback, marks_escape_cons, if_neg hn, Option.map_map]
  rfl

/-- What may stand between quotes is read as the inside of a literal, when it is on one line. -/
theorem inside (h : IsInside s) (hn : '\n' ∉ s) : Reads .literal s .literal (s.map .literal) := by
  induction h with
  | nil => exact nil _
  | plain hq hb _ ih =>
    rw [List.mem_cons, not_or] at hn
    exact (literal_char (Ne.symm hn.1) hq hb).append (ih hn.2)
  | escape c _ ih =>
    rw [List.mem_cons, List.mem_cons, not_or, not_or] at hn
    exact (escaped (Ne.symm hn.2.1)).append (ih hn.2.2)

end Reads

/-- The string literal of any text ends where its closing quote stands. -/
theorem reads_stringLiteral (s : String) :
    Reads .literal (stringLiteral s).toList .literal ((stringLiteral s).toList.map .literal) :=
  .inside (isInside_stringLiteral s) (newline_notMem_stringLiteral s)

/-- The byte string literal of any bytes ends where its closing quote stands. -/
theorem reads_bytesLiteral (bs : List UInt8) :
    Reads .literal (bytesLiteral bs).toList .literal ((bytesLiteral bs).toList.map .literal) :=
  .inside (isInside_bytesLiteral bs) (newline_notMem_bytesLiteral bs)

end FixBindings.Rust
