import FixBindings.Proofs.Text.Surrogate
import FixBindings.Rust.Literal
import Mathlib.Algebra.Group.Nat.Defs
import Mathlib.Data.List.Basic

/-!
# Literals are read back

What a literal writes for a text can stand between quotes, and reading it gives the text back: as characters
from a string literal, as the bytes of UTF-8 from a byte string literal. So each text has a literal of its own.
A text with a surrogate has no UTF-8 and so no byte string literal.

Each character and each byte is written by itself, and what is written for it is read by itself, whatever
follows: a hexadecimal escape takes its two digits and no more, and a backslash that is escaped escapes
nothing. In a string literal the escapes may as well be put in one after the other, the backslash first.
-/

namespace FixBindings.Rust

open Text

/-! ## The inside of a literal -/

/-- What may stand between the quotes of a literal: ordinary characters, and pairs of a backslash and the
character that it escapes. So each quote is escaped, and no escape is cut off at the end. -/
inductive IsInside : List Char → Prop where
  | nil : IsInside []
  | plain {c : Char} {s : List Char} : c ≠ '"' → c ≠ '\\' → IsInside s → IsInside (c :: s)
  | escape (c : Char) {s : List Char} : IsInside s → IsInside ('\\' :: c :: s)

namespace IsInside

variable {s t : List Char}

theorem append (hs : IsInside s) (ht : IsInside t) : IsInside (s ++ t) := by
  induction hs with
  | nil => exact ht
  | plain hq hb _ ih => exact .plain hq hb ih
  | escape c _ ih => exact .escape c ih

theorem flatMap {α : Type _} {f : α → List Char} (h : ∀ a, IsInside (f a)) (as : List α) :
    IsInside (as.flatMap f) := by
  induction as with
  | nil => exact .nil
  | cons a as ih =>
    rw [List.flatMap_cons]
    exact (h a).append ih

/-- Ordinary characters may stand in a literal. -/
theorem of_forall (h : ∀ c ∈ s, c ≠ '"' ∧ c ≠ '\\') : IsInside s := by
  induction s with
  | nil => exact .nil
  | cons c s ih =>
    rw [List.forall_mem_cons] at h
    exact .plain h.1.1 h.1.2 (ih h.2)

end IsInside

/-- A reader that reads what is written for one element by itself reads what is written for a list. -/
theorem decode_flatMap {α : Type _} (decode : List Char → Option (List α)) {f : α → List Char}
    (hnil : decode [] = some []) (h : ∀ a s, decode (f a ++ s) = (decode s).map (a :: ·)) (as : List α) :
    decode (as.flatMap f) = some as := by
  induction as with
  | nil => exact hnil
  | cons a as ih => rw [List.flatMap_cons, h, ih, Option.map_some]

/-- There is one text for each literal when what is read back tells texts apart. -/
theorem eq_iff_of_decode {α : Type _} {write : String → String} {decode : List Char → Option α}
    {value : String → α} (hread : ∀ s, decode (write s).toList = some (value s))
    (hvalue : value.Injective) (s t : String) : write s = write t ↔ s = t := by
  constructor
  · intro h
    have hs := hread s
    rw [h, hread t] at hs
    exact (hvalue (Option.some.inj hs)).symm
  · intro h
    rw [h]

/-! ## String literals -/

/-- The character that an escape stands for in a string literal, by what stands behind the backslash. -/
def escapedChar? : Char → Option Char
  | '\\' => some '\\'
  | '"' => some '"'
  | 'n' => some '\n'
  | 'r' => some '\r'
  | 't' => some '\t'
  | _ => none

/-- The text of a string literal, from what stands between its quotes. -/
def decodeString : List Char → Option (List Char)
  | [] => some []
  | '\\' :: c :: s => (escapedChar? c).bind fun d ↦ (decodeString s).map (d :: ·)
  | c :: s => if c = '"' ∨ c = '\\' then none else (decodeString s).map (c :: ·)

theorem decodeString_escape {c d : Char} (h : escapedChar? c = some d) (s : List Char) :
    decodeString ('\\' :: c :: s) = (decodeString s).map (d :: ·) := by
  rw [decodeString, h, Option.bind_some]

theorem decodeString_plain {c : Char} (hq : c ≠ '"') (hb : c ≠ '\\') (s : List Char) :
    decodeString (c :: s) = (decodeString s).map (c :: ·) := by
  rw [decodeString.eq_3 c s fun _ _ hc _ ↦ hb hc, if_neg]
  exact not_or.mpr ⟨hq, hb⟩

/-- The characters that are escaped in a string literal, each with what stands behind the backslash. The
backslash is the first, so that the backslashes of other escapes are not escaped again when the escapes are
put in one after the other. -/
def stringEscapes : List (Char × Char) :=
  [('\\', '\\'), ('"', '"'), ('\n', 'n'), ('\r', 'r'), ('\t', 't')]

/-- An escape stands for the character that is escaped. -/
theorem escapedChar?_of_mem {c d : Char} (h : (c, d) ∈ stringEscapes) : escapedChar? d = some c := by
  have htable : ∀ e ∈ stringEscapes, escapedChar? e.2 = some e.1 := by decide
  exact htable (c, d) h

/-- A character is written as its escape, or as itself when it has none. -/
theorem stringEscape_cases (c : Char) :
    (∃ d, (c, d) ∈ stringEscapes ∧ stringEscape c = ['\\', d]) ∨
      (∀ e ∈ stringEscapes, c ≠ e.1) ∧ stringEscape c = [c] := by
  by_cases h : ∃ e ∈ stringEscapes, c = e.1
  · obtain ⟨e, he, rfl⟩ := h
    have htable : ∀ e ∈ stringEscapes, stringEscape e.1 = ['\\', e.2] := by decide
    exact .inl ⟨e.2, he, htable e he⟩
  · have hnot : ∀ e ∈ stringEscapes, c ≠ e.1 := fun e he heq ↦ h ⟨e, he, heq⟩
    refine .inr ⟨hnot, ?_⟩
    simp only [stringEscapes, List.forall_mem_cons] at hnot
    obtain ⟨hb, hq, hn, hr, ht, -⟩ := hnot
    simp only [stringEscape, Bool.or_eq_true, beq_iff_eq, hb, hq, hn, hr, ht, or_self, if_false]

@[simp] theorem toList_stringLiteral (s : String) :
    (stringLiteral s).toList = s.toList.flatMap stringEscape :=
  String.toList_ofList

/-- No line ending stands in a string literal. -/
theorem notMem_stringLiteral (s : String) : ∀ c ∈ (stringLiteral s).toList, c ≠ '\n' ∧ c ≠ '\r' := by
  rw [toList_stringLiteral, List.forall_mem_flatMap]
  intro c _
  rcases stringEscape_cases c with ⟨d, hd, he⟩ | ⟨h, he⟩
  · have htable : ∀ e ∈ stringEscapes, e.2 ≠ '\n' ∧ e.2 ≠ '\r' := by decide
    rw [he, List.forall_mem_cons, List.forall_mem_singleton]
    exact ⟨by decide, htable (c, d) hd⟩
  · rw [he, List.forall_mem_singleton]
    exact ⟨h ('\n', 'n') (by decide), h ('\r', 'r') (by decide)⟩

theorem newline_notMem_stringLiteral (s : String) : '\n' ∉ (stringLiteral s).toList := fun h ↦
  (notMem_stringLiteral s _ h).1 rfl

theorem isInside_stringEscape (c : Char) : IsInside (stringEscape c) := by
  rcases stringEscape_cases c with ⟨d, -, he⟩ | ⟨h, he⟩
  · rw [he]
    exact .escape d .nil
  · rw [he]
    exact .plain (h ('"', '"') (by decide)) (h ('\\', '\\') (by decide)) .nil

theorem isInside_stringLiteral (s : String) : IsInside (stringLiteral s).toList := by
  rw [toList_stringLiteral]
  exact .flatMap isInside_stringEscape s.toList

/-- A character is read by itself. -/
theorem decodeString_stringEscape (c : Char) (s : List Char) :
    decodeString (stringEscape c ++ s) = (decodeString s).map (c :: ·) := by
  rcases stringEscape_cases c with ⟨d, hd, he⟩ | ⟨h, he⟩
  · rw [he]
    exact decodeString_escape (escapedChar?_of_mem hd) s
  · rw [he]
    exact decodeString_plain (h ('"', '"') (by decide)) (h ('\\', '\\') (by decide)) s

/-- A string literal is read back. -/
theorem decodeString_stringLiteral (s : String) : decodeString (stringLiteral s).toList = some s.toList := by
  rw [toList_stringLiteral]
  exact decode_flatMap decodeString rfl decodeString_stringEscape s.toList

/-! ## Escapes that are put in one after the other -/

/-- A text with `t` in the place of each `c`. -/
def replaceChar (c : Char) (t s : List Char) : List Char :=
  s.flatMap fun d ↦ if d = c then t else [d]

/-- A text in which the characters are replaced by their escapes one after the other, each in the whole of
what the ones before have left. -/
def escapedInTurn (s : List Char) : List Char :=
  stringEscapes.foldl (fun t e ↦ replaceChar e.1 ['\\', e.2] t) s

/-- Replacing characters in a text, one after the other, replaces each character of the text by itself. -/
theorem foldl_replaceChar {α : Type _} (c : α → Char) (t : α → List Char) (as : List α) (s : List Char) :
    as.foldl (fun s a ↦ replaceChar (c a) (t a) s) s =
      s.flatMap fun d ↦ as.foldl (fun s a ↦ replaceChar (c a) (t a) s) [d] := by
  induction as generalizing s with
  | nil => simp
  | cons a as ih =>
    rw [List.foldl_cons, ih, replaceChar, List.flatMap_assoc]
    apply List.flatMap_congr
    intro d _
    rw [List.foldl_cons, ih (replaceChar (c a) (t a) [d]), replaceChar, List.flatMap_singleton]

/-- Escapes that are put in one after the other do not meet. -/
theorem escapedInTurn_eq_flatMap (s : List Char) : escapedInTurn s = s.flatMap stringEscape := by
  rw [escapedInTurn, foldl_replaceChar]
  apply List.flatMap_congr
  intro c _
  rcases stringEscape_cases c with ⟨d, hd, he⟩ | ⟨h, he⟩
  · have htable : ∀ e ∈ stringEscapes, escapedInTurn [e.1] = ['\\', e.2] := by decide
    rw [he]
    exact htable (c, d) hd
  · simp only [stringEscapes, List.forall_mem_cons] at h
    obtain ⟨hb, hq, hn, hr, ht, -⟩ := h
    simp only [stringEscapes, List.foldl_cons, List.foldl_nil, replaceChar, List.flatMap_singleton, if_neg hb,
      if_neg hq, if_neg hn, if_neg hr, if_neg ht, he]

/-- The string literal of a text stands on one line, its quotes are escaped and its escapes complete. It is
read back as the text, so that there is one text for each literal. Its escapes may be put in one after the
other. -/
theorem isInside_and_decodeString_stringLiteral (s : String) :
    (∀ c ∈ (stringLiteral s).toList, c ≠ '\n' ∧ c ≠ '\r') ∧
      IsInside (stringLiteral s).toList ∧
      decodeString (stringLiteral s).toList = some s.toList ∧
      (stringLiteral s).toList = escapedInTurn s.toList ∧
      ∀ t, stringLiteral s = stringLiteral t ↔ s = t := by
  refine ⟨notMem_stringLiteral s, isInside_stringLiteral s, decodeString_stringLiteral s, ?_, ?_⟩
  · rw [toList_stringLiteral, escapedInTurn_eq_flatMap]
  · exact eq_iff_of_decode decodeString_stringLiteral (fun _ _ ↦ String.toList_injective) s

/-! ## Byte string literals -/

/-- The digits of a hexadecimal numeral are digits of the numbers below sixteen. -/
theorem hexDigit?_digitChar {n : Nat} (h : n < 16) : hexDigit? (digitChar n) = some n := by
  have htable : ∀ n < 16, hexDigit? (digitChar n) = some n := by decide
  exact htable n h

/-- A hexadecimal numeral of a fixed width is read back as far as its digits go. -/
theorem hexValue?_hex (width n : Nat) : hexValue? (hex width n) = some (n % 16 ^ width) := by
  induction width generalizing n with
  | zero =>
    rw [Nat.pow_zero, Nat.mod_one]
    rfl
  | succ width ih =>
    have hdigit := hexDigit?_digitChar (Nat.mod_lt n (by decide : 0 < 16))
    rw [hexValue?, hex, numeral, List.foldl_append, ← hexValue?, ← hex, ih, Nat.pow_succ', Nat.mod_mul]
    simp [hdigit, Nat.add_comm]

/-- The bytes of a byte string literal, from what stands between its quotes. -/
def decodeBytes : List Char → Option (List UInt8)
  | [] => some []
  | '\\' :: 'x' :: a :: b :: s =>
    (hexValue? [a, b]).bind fun n ↦ (decodeBytes s).map (UInt8.ofNat n :: ·)
  | '\\' :: c :: s =>
    if c = '"' ∨ c = '\\' then (decodeBytes s).map (UInt8.ofNat c.toNat :: ·) else none
  | c :: s =>
    if c = '"' ∨ c = '\\' ∨ 0x7F < c.toNat then none else (decodeBytes s).map (UInt8.ofNat c.toNat :: ·)

theorem decodeBytes_hex (b : UInt8) (s : List Char) :
    decodeBytes ('\\' :: 'x' :: hex 2 b.toNat ++ s) = (decodeBytes s).map (b :: ·) := by
  have hlt : b.toNat < 16 ^ 2 := b.toNat_lt
  have hvalue := hexValue?_hex 2 b.toNat
  rw [Nat.mod_eq_of_lt hlt] at hvalue
  have hdigits : hex 2 b.toNat = [digitChar (b.toNat / 16 % 16), digitChar (b.toNat % 16)] := rfl
  rw [hdigits] at hvalue ⊢
  simp only [List.cons_append, List.nil_append]
  rw [decodeBytes, hvalue, Option.bind_some, UInt8.ofNat_toNat]

/-- A printable ASCII character. -/
def IsPrintable (c : Char) : Prop :=
  0x20 ≤ c.toNat ∧ c.toNat ≤ 0x7E

instance (c : Char) : Decidable (IsPrintable c) :=
  inferInstanceAs (Decidable (_ ∧ _))

theorem decodeBytes_escape {c : Char} (hc : c = '"' ∨ c = '\\') (s : List Char) :
    decodeBytes ('\\' :: c :: s) = (decodeBytes s).map (UInt8.ofNat c.toNat :: ·) := by
  rcases hc with rfl | rfl
  · rfl
  · rfl

theorem decodeBytes_plain {c : Char} (hc : IsPrintable c) (hq : c ≠ '"') (hb : c ≠ '\\') (s : List Char) :
    decodeBytes (c :: s) = (decodeBytes s).map (UInt8.ofNat c.toNat :: ·) := by
  have hascii : ¬0x7F < c.toNat := Nat.not_lt.mpr (Nat.le_succ_of_le hc.2)
  rw [decodeBytes.eq_4 c s (fun _ _ _ hc _ ↦ hb hc) (fun _ _ hc _ ↦ hb hc), if_neg]
  exact not_or.mpr ⟨hq, not_or.mpr ⟨hb, hascii⟩⟩

/-- A hexadecimal digit is printable and neither a quote nor a backslash. -/
theorem isPrintable_of_mem_hex {width n : Nat} {c : Char} (h : c ∈ hex width n) :
    IsPrintable c ∧ c ≠ '"' ∧ c ≠ '\\' := by
  have htable : ∀ n < 16, IsPrintable (digitChar n) ∧ digitChar n ≠ '"' ∧ digitChar n ≠ '\\' := by decide
  induction width generalizing n with
  | zero => cases h
  | succ width ih =>
    rw [hex, numeral, List.mem_append, List.mem_singleton] at h
    rcases h with h | rfl
    · exact ih h
    · exact htable (n % 16) (Nat.mod_lt n (by decide))

/-- A byte is written as a quote or backslash that is escaped, as a printable character, or in hexadecimal
digits. -/
theorem byteEscape_cases (b : UInt8) :
    (∃ c, (c = '"' ∨ c = '\\') ∧ byteEscape b = ['\\', c] ∧ UInt8.ofNat c.toNat = b) ∨
      (∃ c, (IsPrintable c ∧ c ≠ '"' ∧ c ≠ '\\') ∧ byteEscape b = [c] ∧ UInt8.ofNat c.toNat = b) ∨
      byteEscape b = '\\' :: 'x' :: hex 2 b.toNat := by
  by_cases hq : b = 0x22
  · subst hq
    exact .inl ⟨'"', .inl rfl, rfl, rfl⟩
  by_cases hb : b = 0x5C
  · subst hb
    exact .inl ⟨'\\', .inr rfl, rfl, rfl⟩
  have hescape : byteEscape b =
      if 0x20 ≤ b ∧ b < 0x7F then [Char.ofNat b.toNat] else '\\' :: 'x' :: hex 2 b.toNat := by
    simp [byteEscape, hq, hb]
  by_cases hr : 0x20 ≤ b ∧ b < 0x7F
  · rw [if_pos hr] at hescape
    simp only [UInt8.le_iff_toNat_le, UInt8.lt_iff_toNat_lt, UInt8.reduceToNat] at hr
    have hcode : (Char.ofNat b.toNat).toNat = b.toNat := toNat_ofNat (.inl (by omega))
    refine .inr (.inl ⟨Char.ofNat b.toNat, ⟨?_, ?_, ?_⟩, hescape, ?_⟩)
    · rw [IsPrintable, hcode]
      omega
    · intro hc
      apply hq
      rw [← UInt8.toNat_inj, ← hcode, hc]
      rfl
    · intro hc
      apply hb
      rw [← UInt8.toNat_inj, ← hcode, hc]
      rfl
    · rw [hcode, UInt8.ofNat_toNat]
  · rw [if_neg hr] at hescape
    exact .inr (.inr hescape)

@[simp] theorem toList_bytesLiteral (bs : List UInt8) :
    (bytesLiteral bs).toList = bs.flatMap byteEscape :=
  String.toList_ofList

theorem toByteArray_utf8Bytes (s : String) : (utf8Bytes s).toByteArray = s.toByteArray :=
  String.utf8Encode_toList

/-- The bytes of a text are those that it is stored as. -/
theorem utf8Bytes_eq_toUTF8 (s : String) : utf8Bytes s = s.toUTF8.data.toList := by
  rw [String.toUTF8_eq_toByteArray, ← toByteArray_utf8Bytes, List.data_toByteArray]

theorem utf8Bytes_injective : utf8Bytes.Injective := by
  intro s t h
  rw [← String.toByteArray_inj, ← toByteArray_utf8Bytes, h, toByteArray_utf8Bytes]

/-- Only printable characters stand in a byte string literal. -/
theorem isPrintable_of_mem_bytesLiteral (bs : List UInt8) :
    ∀ c ∈ (bytesLiteral bs).toList, IsPrintable c := by
  rw [toList_bytesLiteral, List.forall_mem_flatMap]
  intro b _
  rcases byteEscape_cases b with ⟨c, hc, he, -⟩ | ⟨c, ⟨hc, -⟩, he, -⟩ | he
  · rw [he, List.forall_mem_cons, List.forall_mem_singleton]
    refine ⟨by decide, ?_⟩
    rcases hc with rfl | rfl
    · decide
    · decide
  · rw [he, List.forall_mem_singleton]
    exact hc
  · rw [he, List.forall_mem_cons, List.forall_mem_cons]
    exact ⟨by decide, by decide, fun d hd ↦ (isPrintable_of_mem_hex hd).1⟩

theorem newline_notMem_bytesLiteral (bs : List UInt8) : '\n' ∉ (bytesLiteral bs).toList := fun h ↦
  absurd (isPrintable_of_mem_bytesLiteral bs _ h) (by decide)

theorem isInside_byteEscape (b : UInt8) : IsInside (byteEscape b) := by
  rcases byteEscape_cases b with ⟨c, -, he, -⟩ | ⟨c, ⟨-, hq, hb⟩, he, -⟩ | he
  · rw [he]
    exact .escape c .nil
  · rw [he]
    exact .plain hq hb .nil
  · rw [he]
    exact .escape 'x' (.of_forall fun c hc ↦ (isPrintable_of_mem_hex hc).2)

theorem isInside_bytesLiteral (bs : List UInt8) : IsInside (bytesLiteral bs).toList := by
  rw [toList_bytesLiteral]
  exact .flatMap isInside_byteEscape bs

/-- A byte is read by itself. -/
theorem decodeBytes_byteEscape (b : UInt8) (s : List Char) :
    decodeBytes (byteEscape b ++ s) = (decodeBytes s).map (b :: ·) := by
  rcases byteEscape_cases b with ⟨c, hc, he, hb⟩ | ⟨c, ⟨hc, hq, hs⟩, he, hb⟩ | he
  · rw [he, ← hb]
    exact decodeBytes_escape hc s
  · rw [he, ← hb]
    exact decodeBytes_plain hc hq hs s
  · rw [he]
    exact decodeBytes_hex b s

/-- A byte string literal is read back. -/
theorem decodeBytes_bytesLiteral (bs : List UInt8) : decodeBytes (bytesLiteral bs).toList = some bs := by
  rw [toList_bytesLiteral]
  exact decode_flatMap decodeBytes rfl decodeBytes_byteEscape bs

/-- A text has a byte string literal if and only if it is one of characters, whose bytes are written. -/
theorem byteLiteral_eq_ok {s l : String} :
    byteLiteral s = .ok l ↔ ∃ t, unspelled s = .ok t ∧ bytesLiteral (utf8Bytes t) = l := by
  unfold byteLiteral
  cases unspelled s <;> simp [Except.map]

theorem byteLiteral_eq_error {s : String} {e : EncodeError} :
    byteLiteral s = .error e ↔ unspelled s = .error e := by
  unfold byteLiteral
  cases unspelled s <;> simp [Except.map]

/-- A text has a byte string literal if and only if it can be encoded. -/
theorem exists_byteLiteral_iff {s : String} : (∃ l, byteLiteral s = .ok l) ↔ IsEncodable s := by
  simp only [isEncodable_iff, byteLiteral_eq_ok]
  constructor
  · rintro ⟨-, t, ht, -⟩
    exact ⟨t, ht⟩
  · rintro ⟨t, ht⟩
    exact ⟨_, t, ht, rfl⟩

/-- The bytes of a text, from its byte string literal. -/
theorem decodeBytes_of_byteLiteral {s l : String} (h : byteLiteral s = .ok l) :
    ∃ t, unspelled s = .ok t ∧ decodeBytes l.toList = some (utf8Bytes t) := by
  obtain ⟨t, ht, rfl⟩ := byteLiteral_eq_ok.mp h
  exact ⟨t, ht, decodeBytes_bytesLiteral _⟩

/-- Different texts have different byte string literals. -/
theorem eq_of_byteLiteral {ps qs : List CodePoint} {l : String} (hps : byteLiteral (spell ps) = .ok l)
    (hqs : byteLiteral (spell qs) = .ok l) : ps = qs := by
  obtain ⟨t, ht, hread⟩ := decodeBytes_of_byteLiteral hps
  obtain ⟨u, hu, hread'⟩ := decodeBytes_of_byteLiteral hqs
  obtain rfl := utf8Bytes_injective (Option.some.inj (hread.symm.trans hread'))
  rw [unspelled_eq_ok, points_spell] at ht hu
  exact ht.trans hu.symm

/-- A sequence of code points has a byte string literal unless it holds a surrogate; then the error tells
the first run of surrogates. The literal consists of printable ASCII characters, its quotes are escaped and
its escapes complete. It is read back as the bytes in UTF-8 of the characters of the sequence, so that there
is one sequence for each literal. -/
theorem isInside_and_decodeBytes_byteLiteral (ps : List CodePoint) :
    ((∃ l, byteLiteral (spell ps) = .ok l) ↔ ∀ p ∈ ps, ¬isSurrogate p.val) ∧
      (∀ e, byteLiteral (spell ps) = .error e ↔ e.Tells (fun p ↦ isSurrogate p.val) ps) ∧
      ∀ l, byteLiteral (spell ps) = .ok l →
        (∀ c ∈ l.toList, 0x20 ≤ c.toNat ∧ c.toNat ≤ 0x7E) ∧
          IsInside l.toList ∧
          (∃ t : String, ps = t.toList.map pointOf ∧
            decodeBytes l.toList = some t.toUTF8.data.toList) ∧
          ∀ qs, byteLiteral (spell qs) = .ok l ↔ ps = qs := by
  refine ⟨?_, fun e ↦ ?_, fun l hl ↦ ?_⟩
  · rw [exists_byteLiteral_iff, IsEncodable, points_spell]
  · rw [byteLiteral_eq_error, unspelled_eq_error, points_spell]
  obtain ⟨t, ht, rfl⟩ := byteLiteral_eq_ok.mp hl
  refine ⟨isPrintable_of_mem_bytesLiteral _, isInside_bytesLiteral _, ⟨t, ?_, ?_⟩, fun qs ↦ ?_⟩
  · rw [← unspelled_eq_ok.mp ht, points_spell]
  · rw [decodeBytes_bytesLiteral, utf8Bytes_eq_toUTF8]
  · refine ⟨eq_of_byteLiteral hl, ?_⟩
    rintro rfl
    exact hl

/-- A surrogate has no byte string literal. -/
theorem byteLiteral_surrogate :
    byteLiteral (spell [0xD800]) = .error ⟨0, 0, 0xD800⟩ ∧ ¬∃ l, byteLiteral (spell [0xD800]) = .ok l := by
  have h : byteLiteral (spell [0xD800]) = .error ⟨0, 0, 0xD800⟩ := by decide +kernel
  rw [h]
  exact ⟨rfl, by simp⟩

/-- An acute letter, a backslash and a quote as code points. -/
theorem isInside_and_decodeBytes_byteLiteral_acute :
    ∃ l, byteLiteral (spell [0xE9, 0x5C, 0x22]) = .ok l ∧ IsInside l.toList ∧
      decodeBytes l.toList = some [0xC3, 0xA9, 0x5C, 0x22] := by
  have h : byteLiteral (spell [0xE9, 0x5C, 0x22]) = .ok "\\xc3\\xa9\\\\\\\"" := by decide +kernel
  refine ⟨_, h, ((isInside_and_decodeBytes_byteLiteral _).2.2 _ h).2.1, by decide⟩

end FixBindings.Rust
