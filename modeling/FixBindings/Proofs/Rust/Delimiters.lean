/-!
# Delimiters

When the delimiters of a text are balanced and nested: as a grammar, and as a reader that keeps the
closing delimiters it still waits for. The two agree, so the grammar can be decided.
-/

namespace FixBindings.Rust

/-- The delimiter that closes what a character opens. -/
def closer? : Char → Option Char
  | '(' => some ')'
  | '[' => some ']'
  | '\x7b' => some '\x7d'
  | _ => none

/-- Whether a character closes something. -/
def isCloser (c : Char) : Bool :=
  c == ')' || c == ']' || c == '\x7d'

/-- Whether a character is a delimiter. -/
def isDelimiter (c : Char) : Bool :=
  (closer? c).isSome || isCloser c

/-- The texts whose delimiters are balanced and properly nested. -/
inductive Nested : List Char → Prop where
  /-- No text at all. -/
  | nil : Nested []
  /-- A character that is no delimiter in front. -/
  | plain {c : Char} {s : List Char} : isDelimiter c = false → Nested s → Nested (c :: s)
  /-- A pair of delimiters around a text in front. -/
  | pair {o c : Char} {s t : List Char} :
    closer? o = some c → Nested s → Nested t → Nested (o :: (s ++ c :: t))

/-- The closing delimiters that are owed behind a text, the next one first, where `owed` are owed in
front of it; none when a delimiter closes something else than the last one opened. -/
def owedAfter (owed : List Char) : List Char → Option (List Char)
  | [] => some owed
  | c :: s =>
    match closer? c with
    | some d => owedAfter (d :: owed) s
    | none =>
      if isCloser c then
        match owed with
        | [] => none
        | d :: owed => if c = d then owedAfter owed s else none
      else owedAfter owed s

/-- A text may be read in two parts. -/
theorem owedAfter_append (owed s t : List Char) :
    owedAfter owed (s ++ t) = (owedAfter owed s).bind fun o ↦ owedAfter o t := by
  fun_induction owedAfter owed s with
  | case1 => rfl
  | case2 owed c s d hd ih => simp [owedAfter, hd, ih]
  | case3 c s hc hcl => simp [owedAfter, hc, hcl]
  | case4 s d owed hd hcl ih => simp [owedAfter, hd, hcl, ih]
  | case5 c s hc hcl d owed hne => simp [owedAfter, hc, hcl, hne]
  | case6 owed c s hc hcl ih => simp [owedAfter, hc, hcl, ih]

/-- What is no delimiter changes nothing. -/
theorem owedAfter_of_forall {owed s : List Char} (h : ∀ c ∈ s, isDelimiter c = false) :
    owedAfter owed s = some owed := by
  induction s with
  | nil => rfl
  | cons c s ih =>
    have hc := h c (by simp)
    simp only [isDelimiter, Bool.or_eq_false_iff, Option.isSome_eq_false_iff,
      Option.isNone_iff_eq_none] at hc
    simp [owedAfter, hc.1, hc.2, ih fun c hc ↦ h c (List.mem_cons_of_mem _ hc)]

/-! ## The reader and the grammar -/

/-- What closes something is owed and opens nothing. -/
theorem closer?_of_isCloser {c : Char} (h : isCloser c) : closer? c = none := by
  simp only [isCloser, Bool.or_eq_true, beq_iff_eq] at h
  rcases h with (rfl | rfl) | rfl <;> rfl

theorem isCloser_of_closer? {o c : Char} (h : closer? o = some c) : isCloser c := by
  unfold closer? at h
  split at h <;> simp_all <;> subst h <;> rfl

/-- A nested text leaves what is owed as it is. -/
theorem Nested.owedAfter_eq {s : List Char} (h : Nested s) (owed : List Char) :
    owedAfter owed s = some owed := by
  induction h generalizing owed with
  | nil => rfl
  | plain hc _ ih =>
    simp only [isDelimiter, Bool.or_eq_false_iff, Option.isSome_eq_false_iff,
      Option.isNone_iff_eq_none] at hc
    simp [owedAfter, hc.1, hc.2, ih]
  | pair ho _ _ ihs iht =>
    have hc := isCloser_of_closer? ho
    simp [owedAfter, ho, owedAfter_append, ihs, iht, closer?_of_isCloser hc, hc]

/-- A text that pays what is owed: nested texts with the owed delimiters between them. -/
def Pays : List Char → List Char → Prop
  | [], s => Nested s
  | d :: owed, s => ∃ a b, s = a ++ d :: b ∧ Nested a ∧ Pays owed b

/-- What may stand in front of every nested text may stand in front of a text that pays. -/
theorem Pays.extend (front : List Char) (hf : ∀ s, Nested s → Nested (front ++ s))
    {owed s : List Char} (h : Pays owed s) : Pays owed (front ++ s) := by
  cases owed with
  | nil => exact hf s h
  | cons d owed =>
    obtain ⟨a, b, rfl, ha, hb⟩ := h
    exact ⟨front ++ a, b, by simp, hf a ha, hb⟩

/-- A text behind which nothing is owed pays what is owed in front of it. -/
theorem pays_of_owedAfter {owed s : List Char} (h : owedAfter owed s = some []) : Pays owed s := by
  fun_induction owedAfter owed s with
  | case1 owed =>
    obtain rfl : owed = [] := by simpa using h
    exact .nil
  | case2 owed c s d hd ih =>
    -- What pays `d` first closes the pair that `c` opens, and this pair stands in front of the rest.
    obtain ⟨a, b, rfl, ha, hb⟩ := ih h
    have := hb.extend (c :: (a ++ [d])) fun t ht ↦ by simpa using Nested.pair hd ha ht
    simpa using this
  | case3 => simp at h
  | case4 s d owed hd hcl ih => exact ⟨[], s, rfl, .nil, ih h⟩
  | case5 => simp at h
  | case6 owed c s hc hcl ih =>
    have hd : isDelimiter c = false := by simp [isDelimiter, hc, hcl]
    exact (ih h).extend [c] fun t ht ↦ .plain hd ht

/-- The delimiters of a text are balanced and nested if and only if the reader, who owes nothing in
front of it, owes nothing behind it. -/
theorem nested_iff {s : List Char} : Nested s ↔ owedAfter [] s = some [] :=
  ⟨fun h ↦ h.owedAfter_eq [], pays_of_owedAfter⟩

instance (s : List Char) : Decidable (Nested s) :=
  decidable_of_iff' _ nested_iff

end FixBindings.Rust
