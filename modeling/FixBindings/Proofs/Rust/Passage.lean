import FixBindings.Proofs.Rust.Delimiters
import FixBindings.Proofs.Rust.Source
import FixBindings.Rust.Lines
import Mathlib.Data.List.TakeWhile

/-!
# Passages of source text

A passage is a part of source text with what it does to a reader: where the reader stands before and
behind it and which closing delimiters are owed before and behind it. Lines are put together from
passages, and texts from lines.
-/

namespace FixBindings.Rust

/-- A character that starts neither a comment nor a literal. -/
def isPlain (c : Char) : Bool :=
  c != '/' && c != '"'

/-- A character that a reader takes as it is, in code and in comments, and that is no delimiter. -/
def isInert (c : Char) : Bool :=
  isPlain c && c != '\n' && !isDelimiter c

/-- The reader goes through `s` from `x` to `y`, and `q` is owed behind `s` where `p` is owed before
it. -/
def Passes (s : String) (x : Context) (p : List Char) (y : Context) (q : List Char) : Prop :=
  ∃ ms, Reads x s.toList y ms ∧ owedAfter p (codeOf ms) = some q

namespace Passes

variable {s t : String} {x y z : Context} {p q r : List Char}

/-- One part after another. -/
theorem append (h : Passes s x p y q) (k : Passes t y q z r) : Passes (s ++ t) x p z r := by
  obtain ⟨ms, hr, ho⟩ := h
  obtain ⟨ns, kr, ko⟩ := k
  refine ⟨ms ++ ns, ?_, ?_⟩
  · rw [String.toList_append]
    exact hr.append kr
  · rw [codeOf_append, owedAfter_append, ho, Option.bind_some, ko]

/-- Plain characters are code. -/
theorem reads_of_isPlain {a : List Char} (h : a.all isPlain) : Reads .code a .code (a.map .code) := by
  refine .code fun c hc ↦ ?_
  have := List.all_eq_true.mp h c hc
  simpa only [isPlain, Bool.and_eq_true, bne_iff_ne] using this

/-- Code without comments and literals. -/
theorem code (h : s.toList.all isPlain) (ho : owedAfter p s.toList = some q) :
    Passes s .code p .code q :=
  ⟨_, reads_of_isPlain h, by rw [codeOf_map_code, ho]⟩

/-- Inert text. -/
theorem inert (h : s.toList.all isInert) : Passes s .code p .code p := by
  have hinert {c : Char} (hc : c ∈ s.toList) :
      (isPlain c = true ∧ c ≠ '\n') ∧ isDelimiter c = false := by
    have := List.all_eq_true.mp h c hc
    simpa only [isInert, Bool.and_eq_true, bne_iff_ne, Bool.not_eq_true'] using this
  refine code (List.all_eq_true.mpr fun c hc ↦ ?_) (owedAfter_of_forall fun c hc ↦ ?_)
  · exact (hinert hc).1.1
  · exact (hinert hc).2

/-- Code up to the opening quote of a literal. -/
theorem toLiteral {a : List Char} (hs : s.toList = a ++ ['"']) (h : a.all isPlain)
    (ho : owedAfter p a = some q) : Passes s .code p .literal q := by
  refine ⟨a.map .code ++ [.code '"'], ?_, ?_⟩
  · rw [hs]
    exact (reads_of_isPlain h).append .opening
  · rw [codeOf_append, codeOf_map_code, owedAfter_append, ho]
    rfl

/-- Code behind the closing quote of a literal. -/
theorem fromLiteral {a : List Char} (hs : s.toList = '"' :: a) (h : a.all isPlain)
    (ho : owedAfter p a = some q) : Passes s .literal p .code q := by
  refine ⟨[.code '"'] ++ a.map .code, ?_, ?_⟩
  · rw [hs]
    exact Reads.closing.append (reads_of_isPlain h)
  · rw [codeOf_append, codeOf_map_code]
    exact ho

/-- The inside of a string literal. -/
theorem stringLiteral (s : String) : Passes (stringLiteral s) .literal p .literal p :=
  ⟨_, reads_stringLiteral s, by rw [codeOf_map_literal]; rfl⟩

/-- The inside of a byte string literal. -/
theorem bytesLiteral (bs : List UInt8) : Passes (bytesLiteral bs) .literal p .literal p :=
  ⟨_, reads_bytesLiteral bs, by rw [codeOf_map_literal]; rfl⟩

end Passes

/-! ## Lines -/

/-- The reader goes through lines of code, and `q` is owed behind them where `p` is owed before. -/
def PassesLines (ls : List String) (p q : List Char) : Prop :=
  Passes (unlines ls) .code p .code q

namespace PassesLines

variable {l : String} {ls ms : List String} {p q r : List Char}

theorem nil : PassesLines [] p p := .code rfl rfl

/-- A line of code in front. -/
theorem cons (h : Passes l .code p .code q) (k : PassesLines ls q r) : PassesLines (l :: ls) p r :=
  (h.append (.code rfl rfl)).append k

/-- A line of code in front that leaves what is owed as it is. -/
theorem keep (h : Passes l .code p .code p) (k : PassesLines ls p r) : PassesLines (l :: ls) p r :=
  cons h k

/-- A line in front that holds nothing but a comment. -/
theorem comment (h : ['/', '/'] <+: l.toList.dropWhile (· == ' ')) (hn : '\n' ∉ l.toList)
    (k : PassesLines ls p r) : PassesLines (l :: ls) p r := by
  obtain ⟨i, c, hl, hi⟩ : ∃ i c, l.toList = i ++ (['/', '/'] ++ c) ∧ ∀ d ∈ i, d = ' ' := by
    obtain ⟨c, hc⟩ := h
    refine ⟨l.toList.takeWhile (· == ' '), c, ?_, fun d hd ↦ ?_⟩
    · rw [hc, List.takeWhile_append_dropWhile]
    · simpa using List.mem_takeWhile_imp hd
  have hcn : '\n' ∉ c := fun hm ↦ hn (by rw [hl]; simp [hm])
  refine Passes.append ⟨i.map .code ++ [.code '\n'], ?_, ?_⟩ k
  · rw [String.toList_append, hl]
    have hc := Reads.slashes.append (.comment hcn)
    simpa using ((Reads.code fun d hd ↦ by rw [hi d hd]; decide).append hc).append .newline
  · rw [codeOf_append, codeOf_map_code, owedAfter_append,
      owedAfter_of_forall fun d hd ↦ by rw [hi d hd]; rfl]
    rfl

/-- An empty line in front. -/
theorem blank (k : PassesLines ls p r) : PassesLines ("" :: ls) p r :=
  keep (.code rfl rfl) k

theorem append (h : PassesLines ls p q) (k : PassesLines ms q r) : PassesLines (ls ++ ms) p r := by
  rw [PassesLines, unlines_append]
  exact Passes.append h k

/-- Parts that leave what is owed as it is leave it so together. -/
theorem flatMap {α : Type _} {f : α → List String} {as : List α}
    (h : ∀ a ∈ as, PassesLines (f a) p p) : PassesLines (as.flatMap f) p p := by
  induction as with
  | nil => exact nil
  | cons a as ih =>
    rw [List.flatMap_cons]
    exact (h a (by simp)).append (ih fun b hb ↦ h b (List.mem_cons_of_mem _ hb))

end PassesLines

/-- A text through which the reader goes with nothing owed at either end is stripped to code whose
delimiters are balanced and nested. -/
theorem Passes.nested {s : String} (h : Passes s .code [] .code []) :
    ∃ code, strippedCode s.toList = some code ∧ Nested code := by
  obtain ⟨ms, hr, ho⟩ := h
  refine ⟨codeOf ms, ?_, nested_iff.mpr ho⟩
  have := hr []
  rw [List.append_nil] at this
  simp [strippedCode, this, marks]

end FixBindings.Rust
