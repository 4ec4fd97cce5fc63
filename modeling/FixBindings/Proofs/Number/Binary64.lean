import FixBindings.Number.Binary64
import FixBindings.Proofs.Number.Numeral
import Mathlib.Algebra.Order.Field.Rat
import Mathlib.Tactic.FieldSimp
import Mathlib.Tactic.NormNum
import Mathlib.Tactic.Positivity
import Mathlib.Tactic.Ring

/-!
# The values of double-precision numbers

A finite double-precision number as a rational number. It is read as an integer if and only if that
rational number is the integer, and every such integer can be written.
-/

namespace FixBindings.Number.Binary64

/-- The value of a finite number. -/
def toRat? : Binary64 → Option ℚ
  | .finite s m e _ => some (signedMantissa s m * 2 ^ e)
  | _ => none

/-- The fraction of a mantissa and an exponent has their value. -/
theorem scaleDown_div (m : Nat) (e : Int) :
    0 < (scaleDown 2 m 1 (-e)).2 ∧
      ((scaleDown 2 m 1 (-e)).1 : ℚ) / (scaleDown 2 m 1 (-e)).2 = m * 2 ^ e := by
  unfold scaleDown
  split
  · rename_i h
    obtain ⟨k, rfl⟩ : ∃ k : Nat, e = -k := ⟨(-e).toNat, by omega⟩
    refine ⟨by simp, ?_⟩
    simp [div_eq_mul_inv]
  · rename_i h
    obtain ⟨k, rfl⟩ : ∃ k : Nat, e = k := ⟨e.toNat, by omega⟩
    simp

/-- A whole number of parts, with a sign. -/
theorem signedMantissa_eq_mul_iff {s : Bool} {num den : Nat} (hden : 0 < den) {n : Int} :
    signedMantissa s num = n * den ↔ num % den = 0 ∧ signedMantissa s (num / den) = n := by
  constructor
  · intro h
    have hdvd : den ∣ num := by
      have : (den : Int) ∣ signedMantissa s num := ⟨n, by rw [h, Int.mul_comm]⟩
      cases s <;> simpa [signedMantissa, Int.natCast_dvd_natCast] using this
    obtain ⟨q, rfl⟩ := hdvd
    refine ⟨Nat.mul_mod_right den q, ?_⟩
    rw [Nat.mul_div_cancel_left q hden]
    have hden' : (den : Int) ≠ 0 := by omega
    apply Int.eq_of_mul_eq_mul_right hden'
    rw [← h]
    cases s <;> simp [signedMantissa, Int.mul_comm]
  · rintro ⟨hmod, rfl⟩
    obtain ⟨q, rfl⟩ := Nat.dvd_of_mod_eq_zero hmod
    rw [Nat.mul_div_cancel_left q hden]
    cases s <;> simp [signedMantissa, Int.mul_comm]

theorem signedMantissa_cast (s : Bool) (m : Nat) :
    (signedMantissa s m : ℚ) = (if s then -1 else 1) * m := by
  cases s <;> simp [signedMantissa]

/-- A number is read as the integer that it is. -/
theorem toInt?_eq_some_iff {x : Binary64} {n : Int} : x.toInt? = some n ↔ x.toRat? = some (n : ℚ) := by
  rcases x with ⟨s, m, e, fits⟩ | _ | _
  · obtain ⟨hden, hdiv⟩ := scaleDown_div m e
    rcases hfrac : scaleDown 2 m 1 (-e) with ⟨num, den⟩
    rw [hfrac] at hden hdiv
    have hden' : (den : ℚ) ≠ 0 := by positivity
    have hrat : (signedMantissa s m * 2 ^ e : ℚ) = signedMantissa s num / den := by
      rw [signedMantissa_cast, signedMantissa_cast, mul_assoc, ← hdiv, mul_div_assoc]
    simp only [toInt?, hfrac, Option.ite_none_right_eq_some, Option.some.injEq,
      ← signedMantissa_eq_mul_iff hden, toRat?, hrat, div_eq_iff hden']
    norm_cast
  · simp [toInt?, toRat?]
  · simp [toInt?, toRat?]

theorem natAbs_signedMantissa (s : Bool) (m : Nat) : (signedMantissa s m).natAbs = m := by
  cases s
  · exact Int.natAbs_natCast m
  · exact Int.natAbs_neg (m : Int) |>.trans (Int.natAbs_natCast m)

/-- The bits of the numerator of a number are those of the mantissa and of the power of two. -/
theorem scaleDown_fst_lt {m k l : Nat} {e : Int} (hm : m < 2 ^ k) (he : e ≤ l) :
    (scaleDown 2 m 1 (-e)).1 < 2 ^ (k + l) := by
  unfold scaleDown
  split
  · exact hm.trans_le (Nat.pow_le_pow_right (by decide) (Nat.le_add_right k l))
  · calc
      m * 2 ^ (- -e).toNat ≤ m * 2 ^ l :=
        Nat.mul_le_mul_left m (Nat.pow_le_pow_right (by decide) (by omega))
      _ < 2 ^ k * 2 ^ l := Nat.mul_lt_mul_of_pos_right hm (Nat.two_pow_pos l)
      _ = 2 ^ (k + l) := (Nat.pow_add 2 k l).symm

/-- A number of so many bits has no more digits. -/
theorem two_pow_le {k : Nat} (h : k ≤ maxIntegerDigits) : 2 ^ k ≤ 10 ^ maxIntegerDigits :=
  (Nat.pow_le_pow_left (by decide) k).trans (Nat.pow_le_pow_right (by decide) h)

/-- An integer that a number is can be written. -/
theorem isPrintableInt_of_toInt? {x : Binary64} {n : Int} (h : x.toInt? = some n) :
    isPrintableInt n := by
  rcases x with ⟨s, m, e, fits⟩ | _ | _
  · have hlt := scaleDown_fst_lt (l := 971) fits.1 fits.2
    rcases hfrac : scaleDown 2 m 1 (-e) with ⟨num, den⟩
    rw [hfrac] at hlt
    simp only [toInt?, hfrac, Option.ite_none_right_eq_some, Option.some.injEq] at h
    obtain ⟨-, rfl⟩ := h
    rw [isPrintableInt_iff, natAbs_signedMantissa]
    exact (Nat.div_le_self num den).trans_lt (hlt.trans_le (two_pow_le (by decide)))
  · cases h
  · cases h

end FixBindings.Number.Binary64
