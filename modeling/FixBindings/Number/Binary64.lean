/-!
# Double-precision numbers

The finite double-precision numbers as exact dyadic numbers `± mantissa · 2 ^ exponent`, with the
infinities and one not-a-number. Every operation takes the exact result and rounds it once, to the
nearest number and from the middle to the even one.
-/

namespace FixBindings.Number

/-- Whether a mantissa and an exponent are small enough for a finite number. -/
def FitsBinary64 (mantissa : Nat) (exponent : Int) : Prop :=
  mantissa < Nat.pow 2 53 ∧ exponent ≤ 971

/-- A double-precision number. A finite one is in normal form: its exponent is at least `-1074`, and
its mantissa at least `2 ^ 52` unless the exponent is `-1074`. -/
inductive Binary64 where
  /-- The number `mantissa · 2 ^ exponent`, with a minus when `negative`. -/
  | finite (negative : Bool) (mantissa : Nat) (exponent : Int) (fits : FitsBinary64 mantissa exponent)
  /-- An infinity. -/
  | infinite (negative : Bool)
  /-- The result of an operation that has none. -/
  | nan
  deriving DecidableEq, Repr

/-- The quotient of two natural numbers rounded to the nearest, from the middle to the even one. -/
def roundDiv (num den : Nat) : Nat :=
  let q := num / den
  let r := num % den
  if 2 * r < den then q else if den < 2 * r then q + 1 else q + q % 2

/-- The fraction `num / den` multiplied by `base ^ (-e)`, as a fraction. -/
def scaleDown (base num den : Nat) (e : Int) : Nat × Nat :=
  if 0 ≤ e then (num, den * Nat.pow base e.toNat) else (num * Nat.pow base (-e).toNat, den)

namespace Binary64

/-- The least exponent of a finite number. -/
def minExponent : Int := -1074

/-- The greatest exponent of a finite number. -/
def maxExponent : Int := 971

/-- Zero, of either sign. -/
def zero (negative : Bool) : Binary64 :=
  .finite negative 0 minExponent ⟨by decide, by decide⟩

/-- The exponent `e` with `2 ^ e ≤ num / den < 2 ^ (e + 1)`, for a positive fraction. -/
def leadingExponent (num den : Nat) : Int :=
  let e : Int := num.log2 - den.log2
  let (n, d) := scaleDown 2 num den e
  if d ≤ n then e else e - 1

/-- The number `m · 2 ^ e`, or an infinity when the exponent is too great. A mantissa to which
rounding has added a bit is `2 ^ 53`. -/
def ofParts (negative : Bool) (m : Nat) (e : Int) : Binary64 :=
  if hm : m < Nat.pow 2 53 then
    if he : e ≤ maxExponent then .finite negative m e ⟨hm, he⟩ else .infinite negative
  else
    if he : e + 1 ≤ maxExponent then .finite negative (Nat.pow 2 52) (e + 1) ⟨by decide, he⟩
    else .infinite negative

/-- The number nearest to `num / den`, for a positive `den`. -/
def ofRatio (negative : Bool) (num den : Nat) : Binary64 :=
  if num = 0 then zero negative
  else
    let e := max (leadingExponent num den - 52) minExponent
    let (n, d) := scaleDown 2 num den e
    ofParts negative (roundDiv n d) e

/-- How many decimal digits `n` has; zero has one. -/
def decimalLength (n : Nat) : Nat :=
  (Nat.toDigits 10 n).length

/-- The number nearest to `digits · 10 ^ exponent`. Beyond `10 ^ 309` all are infinite and below
`10 ^ -324` all are zero, so that no power of a larger exponent is computed. -/
def ofDecimal (negative : Bool) (digits : Nat) (exponent : Int) : Binary64 :=
  let top : Int := exponent + decimalLength digits
  if digits = 0 ∨ top ≤ -324 then zero negative
  else if 310 ≤ top then .infinite negative
  else if 0 ≤ exponent then ofRatio negative (digits * Nat.pow 10 exponent.toNat) 1
  else ofRatio negative digits (Nat.pow 10 (-exponent).toNat)

/-- The number nearest to `n · 2 ^ e`; an exact zero is negative when `negativeZero`. -/
def ofDyadic (negativeZero : Bool) (n : Int) (e : Int) : Binary64 :=
  if n = 0 then zero negativeZero
  else
    let (num, den) := scaleDown 2 n.natAbs 1 (-e)
    ofRatio (n < 0) num den

/-- The nearest number to an integer. -/
def ofInt (n : Int) : Binary64 :=
  ofRatio (n < 0) n.natAbs 1

/-- The number with the other sign. -/
def neg : Binary64 → Binary64
  | .finite s m e fits => .finite (!s) m e fits
  | .infinite s => .infinite (!s)
  | .nan => .nan

/-- The mantissa with its sign. -/
def signedMantissa (negative : Bool) (m : Nat) : Int :=
  if negative then -m else m

/-- The sum. -/
def add : Binary64 → Binary64 → Binary64
  | .nan, _ | _, .nan => .nan
  | .infinite s, .infinite t => if s = t then .infinite s else .nan
  | .infinite s, .finite .. | .finite .., .infinite s => .infinite s
  | .finite s m e _, .finite t n f _ =>
    let g := min e f
    ofDyadic (s && t)
      (signedMantissa s (m * Nat.pow 2 (e - g).toNat) + signedMantissa t (n * Nat.pow 2 (f - g).toNat)) g

/-- The product. -/
def mul : Binary64 → Binary64 → Binary64
  | .nan, _ | _, .nan => .nan
  | .infinite s, .infinite t => .infinite (s != t)
  | .infinite s, .finite t n _ _ | .finite t n _ _, .infinite s =>
    if n = 0 then .nan else .infinite (s != t)
  | .finite s m e _, .finite t n f _ => ofDyadic (s != t) (signedMantissa s m * signedMantissa t n) (e + f)

/-- The integer that a whole number is. -/
def toInt? : Binary64 → Option Int
  | .finite s m e _ =>
    let (num, den) := scaleDown 2 m 1 (-e)
    if num % den = 0 then some (signedMantissa s (num / den)) else none
  | _ => none

/-- Whether the number is zero, of either sign. -/
def isZero : Binary64 → Bool
  | .finite _ m _ _ => m == 0
  | _ => false

end Binary64

end FixBindings.Number
