import FixBindings.Number.Integer
import FixBindings.Proofs.Text.Characters
import Mathlib.Data.List.TakeWhile
import Mathlib.Data.Nat.Digits.Defs

/-!
# The texts of integers

Which texts are read as integers, as a grammar: white space, an optional sign, digits of any script
where a single underscore may stand in front of each but the first, and white space again. The reader
accepts exactly these texts, up to its bound on the number of digits, with the value of their digits.
-/

namespace FixBindings.Number

open Text

/-- Digits with perhaps an underscore in front of each, and their values. -/
inductive DigitTail : List Char → List Nat → Prop where
  /-- No digits. -/
  | nil : DigitTail [] []
  /-- A digit in front. -/
  | digit {c : Char} {d : Nat} {cs : List Char} {ds : List Nat} :
    decimalDigit? c = some d → DigitTail cs ds → DigitTail (c :: cs) (d :: ds)
  /-- An underscore and a digit in front. -/
  | underscore {c : Char} {d : Nat} {cs : List Char} {ds : List Nat} :
    decimalDigit? c = some d → DigitTail cs ds → DigitTail ('_' :: c :: cs) (d :: ds)

/-- A numeral and the values of its digits: a digit, and digits with underscores between them. -/
inductive DigitText : List Char → List Nat → Prop where
  | intro {c : Char} {d : Nat} {cs : List Char} {ds : List Nat} :
    decimalDigit? c = some d → DigitTail cs ds → DigitText (c :: cs) (d :: ds)

/-- An optional sign, and whether it is a minus. -/
inductive SignText : List Char → Bool → Prop where
  | none : SignText [] false
  | plus : SignText ['+'] false
  | minus : SignText ['-'] true

/-- A text of an integer, and the integer: a numeral with an optional sign and with white space on
both sides. -/
inductive IntegerText : List Char → Int → Prop where
  | intro {front sign numeral back : List Char} {negative : Bool} {ds : List Nat} :
    (∀ c ∈ front, isIntegerMargin c) → SignText sign negative → DigitText numeral ds →
    (∀ c ∈ back, isIntegerMargin c) → ds.length ≤ maxIntegerDigits →
    IntegerText (front ++ (sign ++ numeral) ++ back) (signed negative (Nat.ofDigits 10 ds.reverse))

/-! ## Digits -/

/-- A decimal digit stands for a number below ten. -/
theorem lt_ten_of_decimalDigit? {c : Char} {d : Nat} (h : decimalDigit? c = some d) : d < 10 := by
  by_cases hc : c.toNat < 0x80
  · revert h
    exact of_ascii (P := fun c ↦ decimalDigit? c = some d → d < 10) (by
      intro n hn h
      have hall : ∀ n < 0x80, ∀ d ∈ decimalDigit? (Char.ofNat n), d < 10 := by decide
      exact hall n hn d h) hc
  · simp only [decimalDigit?, if_neg hc, Option.map_eq_some_iff] at h
    obtain ⟨r, -, rfl⟩ := h
    exact Nat.mod_lt _ (by decide)

/-- Beyond ASCII there are no hexadecimal digits. -/
theorem hexDigit?_eq_none {c : Char} (h : ¬c.toNat < 0x80) : hexDigit? c = none := by
  have hd : c.isDigit = false := by
    rw [Bool.eq_false_iff]
    intro hd
    exact h (toNat_lt_of_isDigit hd)
  have hle (d : Char) (hd : d.toNat < 0x80) : ¬c ≤ d := fun hle ↦ by
    have : c.toNat ≤ d.toNat := hle
    omega
  simp [hexDigit?, hd, hle 'f' (by decide), hle 'F' (by decide)]

/-- The digits to the base ten are the decimal digits. -/
theorem digitValue?_ten (c : Char) : digitValue? 10 c = decimalDigit? c := by
  by_cases hc : c.toNat < 0x80
  · exact of_ascii (P := fun c ↦ digitValue? 10 c = decimalDigit? c) (by decide) hc
  · rw [digitValue?, hexDigit?_eq_none hc]
    cases hd : decimalDigit? c with
    | none => rfl
    | some d => simpa using lt_ten_of_decimalDigit? hd

/-- The code points of white space. -/
def blankCodes : List Nat :=
  [0x09, 0x0A, 0x0B, 0x0C, 0x0D, 0x1C, 0x1D, 0x1E, 0x1F, 0x20, 0x85, 0xA0, 0x1680, 0x2000, 0x2001,
   0x2002, 0x2003, 0x2004, 0x2005, 0x2006, 0x2007, 0x2008, 0x2009, 0x200A, 0x2028, 0x2029, 0x202F,
   0x205F, 0x3000]

theorem mem_blankCodes_of_isBlank {c : Char} (h : isBlank c) : c.toNat ∈ blankCodes := by
  simp only [isBlank, Bool.or_eq_true, Bool.and_eq_true, decide_eq_true_eq, beq_iff_eq] at h
  simp only [blankCodes, List.mem_cons, List.not_mem_nil]
  omega

/-- A decimal digit is not white space. -/
theorem not_isIntegerMargin_of_decimalDigit? {c : Char} {d : Nat} (h : decimalDigit? c = some d) :
    ¬isIntegerMargin c := by
  intro hm
  have hb : isBlank c := by
    rw [isIntegerMargin, Bool.and_eq_true] at hm
    exact hm.1
  have hnone : ∀ n ∈ blankCodes, decimalDigit? (Char.ofNat n) = none := by decide +kernel
  have := hnone _ (mem_blankCodes_of_isBlank hb)
  rw [Char.ofNat_toNat, h] at this
  cases this

theorem decimalDigit?_underscore : decimalDigit? '_' = none := rfl

/-- The reader takes the rest of a numeral up to its end. -/
theorem digitsAfter?_eq_some_iff {cs : List Char} {ds : List Nat} :
    digitsAfter? 10 cs = some (ds, []) ↔ DigitTail cs ds := by
  constructor
  · intro h
    fun_induction digitsAfter? 10 cs generalizing ds with
    | case1 =>
      obtain rfl : [] = ds := by simpa using h
      exact .nil
    | case2 => cases h
    | case3 c cs ih =>
      simp only [Option.bind_eq_bind, Option.bind_eq_some_iff, Prod.exists, Option.pure_def,
        Option.some.injEq, Prod.mk.injEq, digitValue?_ten] at h
      obtain ⟨d, hd, es, rest, hes, rfl, rfl⟩ := h
      exact .underscore hd (ih hes)
    | case4 c cs _ _ d hd ih =>
      simp only [Option.bind_eq_bind, Option.bind_eq_some_iff, Prod.exists, Option.pure_def,
        Option.some.injEq, Prod.mk.injEq] at h
      obtain ⟨es, rest, hes, rfl, rfl⟩ := h
      exact .digit (digitValue?_ten c ▸ hd) (ih hes)
    | case5 => cases h
  · intro h
    induction h with
    | nil => rfl
    | @digit c d cs ds hd _ ih =>
      have hc : c ≠ '_' := by
        rintro rfl
        cases decimalDigit?_underscore.symm.trans hd
      rw [digitsAfter?.eq_4 _ _ _ (fun he _ ↦ hc he) (fun _ _ he _ ↦ hc he), digitValue?_ten, hd]
      simp [ih]
    | @underscore c d cs ds hd _ ih =>
      simp [digitsAfter?, digitValue?_ten, hd, ih]

/-- The reader takes a numeral up to its end, and finds no digits in the empty text only. -/
theorem digits?_eq_some_iff {cs : List Char} {ds : List Nat} :
    digits? 10 cs = some (ds, []) ↔ DigitText cs ds ∨ cs = [] ∧ ds = [] := by
  constructor
  · intro h
    unfold digits? at h
    split at h
    · exact .inr ⟨rfl, by simpa using h.symm⟩
    · split at h
      · rename_i c cs _ d hd
        simp only [Option.bind_eq_bind, Option.bind_eq_some_iff, Prod.exists, Option.pure_def,
          Option.some.injEq, Prod.mk.injEq] at h
        obtain ⟨es, rest, hes, rfl, rfl⟩ := h
        exact .inl (.intro (digitValue?_ten c ▸ hd) (digitsAfter?_eq_some_iff.mp hes))
      · split at h <;> cases h
  · rintro (⟨hd, htail⟩ | ⟨rfl, rfl⟩)
    · simp [digits?, digitValue?_ten, hd, digitsAfter?_eq_some_iff.mpr htail]
    · rfl

/-- A numeral ends in a digit. -/
theorem DigitTail.exists_last {cs : List Char} {ds : List Nat} (h : DigitTail cs ds) :
    cs = [] ∨ ∃ init c d, cs = init ++ [c] ∧ decimalDigit? c = some d := by
  induction h with
  | nil => exact .inl rfl
  | @digit c d cs ds hd _ ih =>
    rcases ih with rfl | ⟨init, e, d, rfl, he⟩
    · exact .inr ⟨[], c, d, rfl, hd⟩
    · exact .inr ⟨c :: init, e, d, rfl, he⟩
  | @underscore c d cs ds hd _ ih =>
    rcases ih with rfl | ⟨init, e, d, rfl, he⟩
    · exact .inr ⟨['_'], c, d, rfl, hd⟩
    · exact .inr ⟨'_' :: c :: init, e, d, rfl, he⟩

theorem DigitText.exists_last {cs : List Char} {ds : List Nat} (h : DigitText cs ds) :
    ∃ init c d, cs = init ++ [c] ∧ decimalDigit? c = some d := by
  obtain ⟨hd, htail⟩ := h
  exact (DigitTail.digit hd htail).exists_last.resolve_left (List.cons_ne_nil _ _)

/-- The digits of a numeral are below ten. -/
theorem DigitTail.lt_ten {cs : List Char} {ds : List Nat} (h : DigitTail cs ds) :
    ∀ d ∈ ds, d < 10 := by
  induction h with
  | nil => simp
  | digit hd _ ih => exact List.forall_mem_cons.mpr ⟨lt_ten_of_decimalDigit? hd, ih⟩
  | underscore hd _ ih => exact List.forall_mem_cons.mpr ⟨lt_ten_of_decimalDigit? hd, ih⟩

theorem DigitText.lt_ten {cs : List Char} {ds : List Nat} (h : DigitText cs ds) :
    ∀ d ∈ ds, d < 10 := by
  obtain ⟨hd, htail⟩ := h
  exact (DigitTail.digit hd htail).lt_ten

theorem DigitText.ne_nil {cs : List Char} {ds : List Nat} (h : DigitText cs ds) : ds ≠ [] := by
  cases h
  exact List.cons_ne_nil _ _

/-! ## Signs and margins -/

/-- What is split off in front of a numeral is a sign. -/
theorem exists_signText (cs : List Char) :
    ∃ sign, cs = sign ++ (splitSign cs).2 ∧ SignText sign (splitSign cs).1 := by
  unfold splitSign
  split
  · exact ⟨['-'], rfl, .minus⟩
  · exact ⟨['+'], rfl, .plus⟩
  · exact ⟨[], rfl, .none⟩

/-- A sign is split off where a numeral stands behind it. -/
theorem splitSign_append {sign numeral : List Char} {negative : Bool} {ds : List Nat}
    (hs : SignText sign negative) (hn : DigitText numeral ds) :
    splitSign (sign ++ numeral) = (negative, numeral) := by
  cases hs with
  | none =>
    obtain @⟨c, d, cs, ds, hd, -⟩ := hn
    refine splitSign.eq_3 _ (fun _ he ↦ ?_) (fun _ he ↦ ?_) <;>
    · obtain ⟨rfl, -⟩ := List.cons.inj he
      cases hd
  | plus => rfl
  | minus => rfl

/-- Trimming takes margins away. -/
theorem exists_margins (p : Char → Bool) (cs : List Char) :
    ∃ front back, cs = front ++ trimBy p cs ++ back ∧ (∀ c ∈ front, p c) ∧ ∀ c ∈ back, p c :=
  exists_eq_append_rdropWhile_dropWhile p cs

/-- Trimming takes no more away than the margins of what neither starts nor ends with a character
that may stand in a margin. -/
theorem trimBy_append {p : Char → Bool} {front mid back : List Char} {a b : Char}
    (hf : ∀ c ∈ front, p c) (hb : ∀ c ∈ back, p c) (ha : mid.head? = some a)
    (hz : mid.getLast? = some b) (hna : ¬p a) (hnb : ¬p b) :
    trimBy p (front ++ mid ++ back) = mid := by
  have hstart : ∀ c ∈ mid.head?, p c = false := by simpa [ha] using hna
  have hend : ∀ c ∈ mid.getLast?, p c = false := by simpa [hz] using hnb
  calc trimBy p (front ++ mid ++ back)
    _ = trimBy p mid := rdropWhile_dropWhile_append hf hb mid
    _ = mid := rdropWhile_dropWhile_eq_self hstart hend

/-! ## The reader -/

/-- To the base ten no mark stands in front of the digits. -/
theorem afterMark_ten (cs : List Char) : afterMark 10 cs = cs := by
  unfold afterMark
  split
  · exact if_neg fun h ↦ by cases h.2
  · rfl

/-- The number of digits, the highest first, is that of the reversed digits, the lowest first. -/
theorem ofDigits_eq (base : Nat) (ds : List Nat) :
    ofDigits base ds = Nat.ofDigits base ds.reverse := by
  rw [Nat.ofDigits_eq_foldr, List.foldr_reverse, ofDigits]
  congr 1
  funext n d
  simp [Nat.add_comm]

/-- What the reader accepts, in terms of the parts of the text. -/
theorem readInteger_eq_ok_iff_parts {cs : List Char} {n : Int} :
    readInteger cs = .ok n ↔ ∃ ds,
      DigitText (splitSign (trimBy isIntegerMargin cs)).2 ds ∧ ds.length ≤ maxIntegerDigits ∧
      n = signed (splitSign (trimBy isIntegerMargin cs)).1 (Nat.ofDigits 10 ds.reverse) := by
  rcases hsplit : splitSign (trimBy isIntegerMargin cs) with ⟨negative, numeral⟩
  rw [readInteger, readIntegerTo, hsplit]
  simp only [afterMark_ten]
  constructor
  · intro h
    split at h
    · cases h
    · rename_i ds rest hds
      split at h
      · cases h
      · rename_i hlen
        split at h
        · cases h
        · rename_i hne
          simp only [Bool.or_eq_true, List.isEmpty_iff, Bool.not_eq_true', not_or,
            Bool.not_eq_false] at hne
          obtain ⟨hne, rfl⟩ := hne
          refine ⟨ds, ?_, by simpa using hlen, ?_⟩
          · exact (digits?_eq_some_iff.mp hds).resolve_right fun h ↦ hne h.2
          · rw [← ofDigits_eq]
            exact (Except.ok.inj h).symm
  · rintro ⟨ds, hds, hlen, rfl⟩
    rw [digits?_eq_some_iff.mpr (.inl hds)]
    simp [Nat.not_lt.mpr hlen, hds.ne_nil, ofDigits_eq]

/-- The reader accepts exactly the texts of integers, each with its integer. -/
theorem readInteger_eq_ok_iff {cs : List Char} {n : Int} :
    readInteger cs = .ok n ↔ IntegerText cs n := by
  rw [readInteger_eq_ok_iff_parts]
  constructor
  · rintro ⟨ds, hds, hlen, rfl⟩
    obtain ⟨front, back, hcs, hfront, hback⟩ := exists_margins isIntegerMargin cs
    obtain ⟨sign, htrim, hsign⟩ := exists_signText (trimBy isIntegerMargin cs)
    have := IntegerText.intro hfront hsign hds hback hlen
    rwa [← htrim, ← hcs] at this
  · rintro @⟨front, sign, numeral, back, negative, ds, hfront, hsign, hds, hback, hlen⟩
    have htrim : trimBy isIntegerMargin (front ++ (sign ++ numeral) ++ back) = sign ++ numeral := by
      obtain ⟨init, b, e, hlast, hb⟩ := hds.exists_last
      have hz : (sign ++ numeral).getLast? = some b := by simp [hlast]
      have hnb := not_isIntegerMargin_of_decimalDigit? hb
      cases hsign with
      | none =>
        obtain @⟨c, d, cs, ds, hd, -⟩ := hds
        exact trimBy_append hfront hback rfl hz (not_isIntegerMargin_of_decimalDigit? hd) hnb
      | plus => exact trimBy_append hfront hback rfl hz (by decide) hnb
      | minus => exact trimBy_append hfront hback rfl hz (by decide) hnb
    rw [htrim, splitSign_append hsign hds]
    exact ⟨ds, hds, hlen, rfl⟩

theorem isPrintableInt_iff {n : Int} : isPrintableInt n ↔ n.natAbs < 10 ^ maxIntegerDigits := by
  simp only [isPrintableInt, decide_eq_true_eq, Nat.pow_eq]

/-- An integer of few enough digits can be written. -/
theorem isPrintableInt_signed (negative : Bool) {ds : List Nat} (hlt : ∀ d ∈ ds, d < 10)
    (hlen : ds.length ≤ maxIntegerDigits) : isPrintableInt (signed negative (ofDigits 10 ds)) := by
  have hpow : ofDigits 10 ds < 10 ^ maxIntegerDigits :=
    calc
      ofDigits 10 ds = Nat.ofDigits 10 ds.reverse := ofDigits_eq 10 ds
      _ < 10 ^ ds.reverse.length := Nat.ofDigits_lt_base_pow_length (by decide) (by simpa using hlt)
      _ ≤ 10 ^ maxIntegerDigits := Nat.pow_le_pow_right (by decide) (by simpa using hlen)
  rw [isPrintableInt_iff]
  cases negative with
  | false => exact hpow
  | true =>
    rw [signed, if_pos rfl, Int.natAbs_neg]
    exact hpow

/-- The integer of a text that is read can be written. -/
theorem isPrintableInt_of_integerText {cs : List Char} {n : Int} (h : IntegerText cs n) :
    isPrintableInt n := by
  obtain @⟨_, _, _, _, negative, ds, -, -, hds, -, hlen⟩ := h
  rw [← ofDigits_eq]
  exact isPrintableInt_signed negative hds.lt_ten hlen

end FixBindings.Number
