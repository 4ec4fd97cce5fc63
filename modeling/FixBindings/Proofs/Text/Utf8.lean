import FixBindings.Proofs.Text.Characters
import FixBindings.Proofs.Traced
import FixBindings.Rust.Literal
import FixBindings.Text.Utf8

/-!
# Texts as bytes

The reader of UTF-8 undoes the writer of UTF-8 and accepts nothing else: bytes are read as a text if and
only if they are the bytes of that text. So there is one text for the bytes that are read, and bytes are
refused if and only if they are those of no text.
-/

namespace FixBindings.Text

open Rust

variable {b x y z : UInt8} {n position : Nat}

/-! ## Characters of several bytes -/

/-- A byte that goes on with a character. -/
def IsTail (b : UInt8) : Prop :=
  0x80 ≤ b.toNat ∧ b.toNat ≤ 0xBF

theorem isTail_iff : IsTail b ↔ 0x80 ≤ b ∧ b ≤ 0xBF := by
  simp [IsTail, UInt8.le_iff_toNat_le]

/-- A number in the range of characters is that of its character. -/
theorem val_ofNat (h : n < 0xD800 ∨ 0xDFFF < n ∧ n < 0x110000) : (Char.ofNat n).val.toNat = n :=
  toNat_ofNat h

/-- A byte below 0x80 is a character on its own. -/
theorem encode_one (hb : b.toNat < 0x80) : String.utf8EncodeChar (Char.ofNat b.toNat) = [b] := by
  have hval := val_ofNat (n := b.toNat) (by omega)
  rw [String.utf8EncodeChar]
  simp only [hval]
  rw [if_pos (by omega), UInt8.ofNat_toNat]

/-- A character of two bytes. -/
theorem encode_two (hb : 0xC2 ≤ b.toNat ∧ b.toNat ≤ 0xDF) (hx : IsTail x) :
    String.utf8EncodeChar (Char.ofNat (b.toNat % 0x20 * 64 + x.toNat % 64)) = [b, x] := by
  unfold IsTail at hx
  have hval := val_ofNat (n := b.toNat % 0x20 * 64 + x.toNat % 64) (by omega)
  rw [String.utf8EncodeChar]
  simp only [hval]
  rw [if_neg (by omega), if_pos (by omega)]
  simp only [List.cons.injEq, ← UInt8.toNat_inj, UInt8.toNat_ofNat', and_true]
  omega

/-- A character of three bytes: not one that two bytes would do for, and not half of a pair. -/
theorem encode_three (hb : 0xE0 ≤ b.toNat ∧ b.toNat ≤ 0xEF) (hx : IsTail x) (hy : IsTail y)
    (hlow : b.toNat = 0xE0 → 0xA0 ≤ x.toNat) (hhigh : b.toNat = 0xED → x.toNat ≤ 0x9F) :
    String.utf8EncodeChar
      (Char.ofNat ((b.toNat % 0x10 * 64 + x.toNat % 64) * 64 + y.toNat % 64)) = [b, x, y] := by
  unfold IsTail at hx hy
  have hval := val_ofNat (n := (b.toNat % 0x10 * 64 + x.toNat % 64) * 64 + y.toNat % 64) (by omega)
  rw [String.utf8EncodeChar]
  simp only [hval]
  rw [if_neg (by omega), if_neg (by omega), if_pos (by omega)]
  simp only [List.cons.injEq, ← UInt8.toNat_inj, UInt8.toNat_ofNat', and_true]
  omega

/-- A character of four bytes: not one that three bytes would do for, and not beyond the last one. -/
theorem encode_four (hb : 0xF0 ≤ b.toNat ∧ b.toNat ≤ 0xF4) (hx : IsTail x) (hy : IsTail y)
    (hz : IsTail z) (hlow : b.toNat = 0xF0 → 0x90 ≤ x.toNat)
    (hhigh : b.toNat = 0xF4 → x.toNat ≤ 0x8F) :
    String.utf8EncodeChar (Char.ofNat
      (((b.toNat % 0x08 * 64 + x.toNat % 64) * 64 + y.toNat % 64) * 64 + z.toNat % 64)) =
        [b, x, y, z] := by
  unfold IsTail at hx hy hz
  have hval := val_ofNat
    (n := ((b.toNat % 0x08 * 64 + x.toNat % 64) * 64 + y.toNat % 64) * 64 + z.toNat % 64) (by omega)
  rw [String.utf8EncodeChar]
  simp only [hval]
  rw [if_neg (by omega), if_neg (by omega), if_neg (by omega)]
  simp only [List.cons.injEq, ← UInt8.toNat_inj, UInt8.toNat_ofNat', and_true]
  omega

/-! ## First bytes -/

/-- The byte `x` may come second in a character of several bytes that starts with `b`. -/
def MayBeSecond (b x : UInt8) : Prop :=
  IsTail x ∧ (b.toNat = 0xE0 → 0xA0 ≤ x.toNat) ∧ (b.toNat = 0xED → x.toNat ≤ 0x9F) ∧
    (b.toNat = 0xF0 → 0x90 ≤ x.toNat) ∧ (b.toNat = 0xF4 → x.toNat ≤ 0x8F)

/-- How many bytes stand behind the second one of a character that starts with `b`. -/
def owedAfter (b : UInt8) : Nat :=
  if b.toNat < 0xE0 then 0 else if b.toNat < 0xF0 then 1 else 2

/-- How many values the bits of a first byte have that count, by the number of the bytes behind the
second one. -/
def leadSpan : Nat → Nat
  | 0 => 0x20
  | 1 => 0x10
  | _ + 2 => 0x08

/-- What the first byte of a character of several bytes says of the bytes behind it. -/
theorem start?_eq_some {p : Utf8Pending} (h : Utf8Pending.start? position b = some p) :
    (0xC2 ≤ b.toNat ∧ b.toNat ≤ 0xF4) ∧ p.owed = owedAfter b ∧
      p.value = b.toNat % leadSpan p.owed ∧ ∀ x, p.low ≤ x ∧ x ≤ p.high ↔ MayBeSecond b x := by
  unfold Utf8Pending.start? at h
  simp only [Bool.and_eq_true, decide_eq_true_eq, UInt8.le_iff_toNat_le, beq_iff_eq,
    ← UInt8.toNat_inj, UInt8.reduceToNat] at h
  -- one case for each range of first bytes, with other bounds for the second byte
  repeat' split at h
  all_goals cases h
  all_goals
    refine ⟨by omega, by grind [owedAfter], rfl, fun x ↦ ?_⟩
    simp only [MayBeSecond, IsTail, UInt8.le_iff_toNat_le, UInt8.reduceToNat]
    omega

/-- A character of several bytes starts with any byte from 0xC2 to 0xF4. -/
theorem exists_start? (position : Nat) (h : 0xC2 ≤ b.toNat ∧ b.toNat ≤ 0xF4) :
    ∃ p, Utf8Pending.start? position b = some p := by
  cases hp : Utf8Pending.start? position b with
  | some p => exact ⟨p, rfl⟩
  | none =>
    exfalso
    unfold Utf8Pending.start? at hp
    simp only [Bool.and_eq_true, decide_eq_true_eq, UInt8.le_iff_toNat_le, beq_iff_eq,
      ← UInt8.toNat_inj, UInt8.reduceToNat] at hp
    repeat' split at hp
    all_goals cases hp
    omega

/-! ## Characters that are read byte by byte -/

/-- The bytes `bs` complete a character of which `value` has been read so far, which needs `owed` bytes
behind the next one, and whose next byte is from `low` to `high`; the character has the number `n`. -/
inductive Completes : (owed : Nat) → (low high : UInt8) → (value : Nat) → (bs : List UInt8) →
    (n : Nat) → Prop where
  /-- The last byte. -/
  | last {low high b : UInt8} {value : Nat} (h : low ≤ b ∧ b ≤ high) :
    Completes 0 low high value [b] (value * 64 + b.toNat % 64)
  /-- A byte and those behind it. -/
  | next {owed value n : Nat} {low high b : UInt8} {bs : List UInt8} (h : low ≤ b ∧ b ≤ high)
    (rest : Completes owed 0x80 0xBF (value * 64 + b.toNat % 64) bs n) :
    Completes (owed + 1) low high value (b :: bs) n

section

variable {p : Utf8Pending} (hp : Utf8Pending.start? position b = some p)

include hp

/-- The byte that completes a character of two bytes. -/
theorem completes_two (hb : 0xC2 ≤ b.toNat ∧ b.toNat ≤ 0xDF) (hx : IsTail x)
    (hn : n = b.toNat % 0x20 * 64 + x.toNat % 64) :
    Completes p.owed p.low p.high p.value [x] n := by
  obtain ⟨-, howed, hvalue, hsecond⟩ := start?_eq_some hp
  have hmay : MayBeSecond b x := ⟨hx, by omega⟩
  rw [hvalue, howed, owedAfter, if_pos (by omega), hn]
  exact .last ((hsecond x).mpr hmay)

/-- The bytes that complete a character of three bytes. -/
theorem completes_three (hb : 0xE0 ≤ b.toNat ∧ b.toNat ≤ 0xEF) (hx : IsTail x) (hy : IsTail y)
    (hlow : b.toNat = 0xE0 → 0xA0 ≤ x.toNat) (hhigh : b.toNat = 0xED → x.toNat ≤ 0x9F)
    (hn : n = (b.toNat % 0x10 * 64 + x.toNat % 64) * 64 + y.toNat % 64) :
    Completes p.owed p.low p.high p.value [x, y] n := by
  obtain ⟨-, howed, hvalue, hsecond⟩ := start?_eq_some hp
  have hmay : MayBeSecond b x := ⟨hx, hlow, hhigh, by omega⟩
  rw [hvalue, howed, owedAfter, if_neg (by omega), if_pos (by omega), hn]
  exact .next ((hsecond x).mpr hmay) (.last (isTail_iff.mp hy))

/-- The bytes that complete a character of four bytes. -/
theorem completes_four (hb : 0xF0 ≤ b.toNat ∧ b.toNat ≤ 0xF4) (hx : IsTail x) (hy : IsTail y)
    (hz : IsTail z) (hlow : b.toNat = 0xF0 → 0x90 ≤ x.toNat)
    (hhigh : b.toNat = 0xF4 → x.toNat ≤ 0x8F)
    (hn : n = ((b.toNat % 0x08 * 64 + x.toNat % 64) * 64 + y.toNat % 64) * 64 + z.toNat % 64) :
    Completes p.owed p.low p.high p.value [x, y, z] n := by
  obtain ⟨-, howed, hvalue, hsecond⟩ := start?_eq_some hp
  have hmay : MayBeSecond b x := ⟨hx, by omega, by omega, hlow, hhigh⟩
  rw [hvalue, howed, owedAfter, if_neg (by omega), if_neg (by omega), hn]
  exact .next ((hsecond x).mpr hmay) (.next (isTail_iff.mp hy) (.last (isTail_iff.mp hz)))

/-- A character that the bytes behind its first byte complete has these bytes. -/
theorem encode_of_completes {bs : List UInt8} (h : Completes p.owed p.low p.high p.value bs n) :
    String.utf8EncodeChar (Char.ofNat n) = b :: bs := by
  obtain ⟨hb, howed, hvalue, hsecond⟩ := start?_eq_some hp
  rw [hvalue, howed] at h
  unfold owedAfter at h
  split at h
  · cases h with
    | last hx => exact encode_two (by omega) ((hsecond _).mp hx).1
  split at h
  · cases h with
    | next hx h =>
    cases h with
    | last hy =>
      obtain ⟨hx, he0, hed, -⟩ := (hsecond _).mp hx
      exact encode_three (by omega) hx (isTail_iff.mpr hy) he0 hed
  · cases h with
    | next hx h =>
    cases h with
    | next hy h =>
    cases h with
    | last hz =>
      obtain ⟨hx, -, -, hf0, hf4⟩ := (hsecond _).mp hx
      exact encode_four (by omega) hx (isTail_iff.mpr hy) (isTail_iff.mpr hz) hf0 hf4

end

/-- A character of several bytes starts with a byte from 0xC2 to 0xF4, and the bytes behind this one
complete it. -/
theorem exists_encode_eq_cons {c : Char} (h : ¬c.val.toNat ≤ 0x7f) :
    ∃ b bs, String.utf8EncodeChar c = b :: bs ∧ (0xC2 ≤ b.toNat ∧ b.toNat ≤ 0xF4) ∧
      ∀ position p, Utf8Pending.start? position b = some p →
        Completes p.owed p.low p.high p.value bs c.val.toNat := by
  have hvalid : c.val.toNat < 0xD800 ∨ 0xDFFF < c.val.toNat ∧ c.val.toNat < 0x110000 := c.valid
  rw [String.utf8EncodeChar]
  simp only [if_neg h]
  split
  · refine ⟨_, _, rfl, ?_, fun position p hp ↦ completes_two hp ?_ ?_ ?_⟩
    all_goals
      simp only [IsTail, UInt8.toNat_ofNat']
      omega
  split
  · refine ⟨_, _, rfl, ?_, fun position p hp ↦ completes_three hp ?_ ?_ ?_ ?_ ?_ ?_⟩
    all_goals
      simp only [IsTail, UInt8.toNat_ofNat']
      omega
  · refine ⟨_, _, rfl, ?_, fun position p hp ↦ completes_four hp ?_ ?_ ?_ ?_ ?_ ?_ ?_⟩
    all_goals
      simp only [IsTail, UInt8.toNat_ofNat']
      omega

/-! ## Texts -/

/-- Bytes that complete a pending character are read as this character. -/
theorem decodeUtf8From_of_completes {p : Utf8Pending} {bs rest : List UInt8} {cs : List Char}
    (h : Completes p.owed p.low p.high p.value bs n)
    (hrest : ∀ position, decodeUtf8From position none rest = .ok cs) :
    decodeUtf8From position (some p) (bs ++ rest) = .ok (Char.ofNat n :: cs) := by
  obtain ⟨start, byte, length, owed, low, high, value⟩ := p
  dsimp only at h
  induction h generalizing position length with
  | last hrange => simp [decodeUtf8From, hrange, hrest, bind, Except.bind, pure, Except.pure]
  | next hrange _ ih => simp [decodeUtf8From, hrange, ih]

/-- What is read from a pending character on starts with bytes that complete it. -/
theorem exists_completes_of_decodeUtf8From {p : Utf8Pending} {bs : List UInt8} {cs : List Char}
    (h : decodeUtf8From position (some p) bs = .ok cs) :
    ∃ front rest n position' cs', bs = front ++ rest ∧
      Completes p.owed p.low p.high p.value front n ∧
      decodeUtf8From position' none rest = .ok cs' ∧ cs = Char.ofNat n :: cs' := by
  induction bs generalizing p position with
  | nil =>
    rw [decodeUtf8From] at h
    cases h
  | cons b bs ih =>
    obtain ⟨start, byte, length, owed, low, high, value⟩ := p
    rw [decodeUtf8From] at h
    simp only [Bool.and_eq_true, decide_eq_true_eq] at h
    split at h
    · rename_i hrange
      cases owed with
      | zero =>
        obtain ⟨cs', hcs', hcs⟩ := bind_eq_ok.mp h
        exact ⟨[b], bs, _, _, cs', rfl, .last hrange, hcs', (pure_eq_ok.mp hcs).symm⟩
      | succ owed =>
        obtain ⟨front, rest, n, position', cs', rfl, hfront, hcs', rfl⟩ := ih h
        exact ⟨b :: front, rest, n, position', cs', rfl, .next hrange hfront, hcs', rfl⟩
    · cases h

/-- The characters of a text are read back from their bytes. -/
theorem decodeUtf8From_flatMap (position : Nat) (cs : List Char) :
    decodeUtf8From position none (cs.flatMap String.utf8EncodeChar) = .ok cs := by
  induction cs generalizing position with
  | nil => rfl
  | cons c cs ih =>
    rw [List.flatMap_cons]
    have hc : Char.ofNat c.val.toNat = c := Char.ofNat_toNat c
    by_cases hone : c.val.toNat ≤ 0x7f
    · have hb : (UInt8.ofNat c.val.toNat).toNat = c.val.toNat := by
        rw [UInt8.toNat_ofNat']
        omega
      have hlt : UInt8.ofNat c.val.toNat < 0x80 := by
        rw [UInt8.lt_iff_toNat_lt, hb]
        exact Nat.lt_succ_of_le hone
      rw [String.utf8EncodeChar, if_pos hone, List.singleton_append, decodeUtf8From]
      simp only [if_pos hlt, ih, hb, hc]
      rfl
    · obtain ⟨b, bs, hencode, hb, hcompletes⟩ := exists_encode_eq_cons hone
      obtain ⟨p, hp⟩ := exists_start? position hb
      have hnot : ¬b < 0x80 := by
        simp only [UInt8.lt_iff_toNat_lt, UInt8.reduceToNat]
        omega
      rw [hencode, List.cons_append, decodeUtf8From]
      simp only [if_neg hnot, hp]
      rw [decodeUtf8From_of_completes (hcompletes _ p hp) ih, hc]

/-- Bytes that are read start with the bytes of the first character that is read. -/
theorem exists_append_of_decodeUtf8From {bs : List UInt8} {cs : List Char}
    (h : decodeUtf8From position none (b :: bs) = .ok cs) :
    ∃ c rest position' cs', b :: bs = String.utf8EncodeChar c ++ rest ∧
      decodeUtf8From position' none rest = .ok cs' ∧ cs = c :: cs' := by
  rw [decodeUtf8From] at h
  split at h
  · rename_i hlt
    obtain ⟨cs', hcs', hcs⟩ := bind_eq_ok.mp h
    refine ⟨_, bs, _, cs', ?_, hcs', (pure_eq_ok.mp hcs).symm⟩
    rw [encode_one (UInt8.lt_iff_toNat_lt.mp hlt), List.singleton_append]
  split at h
  · cases h
  rename_i p hp
  obtain ⟨front, rest, n, position', cs', rfl, hfront, hcs', rfl⟩ :=
    exists_completes_of_decodeUtf8From h
  refine ⟨_, rest, _, cs', ?_, hcs', rfl⟩
  rw [encode_of_completes hp hfront, List.cons_append]

/-- Bytes that are read are those of the characters that are read. -/
theorem flatMap_of_decodeUtf8From {bs : List UInt8} {cs : List Char}
    (h : decodeUtf8From position none bs = .ok cs) : cs.flatMap String.utf8EncodeChar = bs := by
  induction cs generalizing bs position with
  | nil =>
    cases bs with
    | nil => rfl
    | cons b bs =>
      obtain ⟨_, _, _, _, -, -, hcs⟩ := exists_append_of_decodeUtf8From h
      cases hcs
  | cons c cs ih =>
    cases bs with
    | nil => cases h
    | cons b bs =>
      obtain ⟨c', rest, position', cs', hbs, hrest, hcs⟩ := exists_append_of_decodeUtf8From h
      obtain ⟨rfl, rfl⟩ := List.cons.inj hcs
      rw [hbs, List.flatMap_cons, ih hrest]

/-- Bytes are read as a text if and only if they are the bytes of the text. -/
theorem decodeUtf8_eq_ok {bytes : List UInt8} {s : String} :
    decodeUtf8 bytes = .ok s ↔ utf8Bytes s = bytes := by
  unfold decodeUtf8 utf8Bytes
  constructor
  · intro h
    cases hcs : decodeUtf8From 0 none bytes with
    | error e =>
      rw [hcs] at h
      cases h
    | ok cs =>
      rw [hcs] at h
      obtain rfl := Except.ok.inj h
      rw [String.toList_ofList, flatMap_of_decodeUtf8From hcs]
  · rintro rfl
    rw [decodeUtf8From_flatMap]
    exact congrArg Except.ok s.ofList_toList

end FixBindings.Text
