import FixBindings.Number.Binary64
import FixBindings.Text.Numeral

/-!
# Shortest decimal text

The text of a double-precision number: the fewest decimal digits that read back as the number, and
of those the nearest to it.
-/

namespace FixBindings.Number

/-- A positive decimal number `digits · 10 ^ exponent`. -/
structure Decimal where
  /-- The digits, as one number. -/
  digits : Nat
  /-- The power of ten of the last digit. -/
  exponent : Int
  deriving DecidableEq, Repr

namespace Decimal

/-- The same number without zeros at the end of its digits. The first argument bounds how many are
taken off. -/
def stripZeros : Nat → Decimal → Decimal
  | 0, d => d
  | fuel + 1, d =>
    if d.digits ≠ 0 ∧ d.digits % 10 = 0 then stripZeros fuel ⟨d.digits / 10, d.exponent + 1⟩ else d

/-- The exponent `e` with `10 ^ (e - 1) ≤ num / den < 10 ^ e`, for a positive fraction. -/
def topExponent (num den : Nat) : Int :=
  let e : Int := Binary64.decimalLength num - Binary64.decimalLength den
  let (n, d) := scaleDown 10 num den e
  if d ≤ n then e + 1 else e

/-- The neighbours of `num / den` on the grid of the multiples of `10 ^ e`, the nearer first and of
two equally near ones the even. -/
def neighbours (num den : Nat) (e : Int) : List Decimal :=
  let (n, d) := scaleDown 10 num den e
  let q := n / d
  let r := n % d
  if 2 * r < d ∨ (2 * r = d ∧ q % 2 = 0) then [⟨q, e⟩, ⟨q + 1, e⟩] else [⟨q + 1, e⟩, ⟨q, e⟩]

/-- The first neighbour, on the grids of `count`, `count + 1`, … digits, that reads back as `x`,
where `x` is `num / den` and `fuel` bounds the number of grids. -/
def search (x : Binary64) (num den : Nat) (top : Int) : Nat → Nat → Option Decimal
  | 0, _ => none
  | fuel + 1, count =>
    let grid := neighbours num den (top - count)
    match grid.find? fun d ↦ Binary64.ofDecimal false d.digits d.exponent = x with
    | some d => some d
    | none => search x num den top fuel (count + 1)

/-- The shortest decimal number that reads back as the positive number `m · 2 ^ e`. Seventeen digits
always do. -/
def shortest (m : Nat) (e : Int) (fits : FitsBinary64 m e) : Decimal :=
  let (num, den) := scaleDown 2 m 1 (-e)
  match search (.finite false m e fits) num den (topExponent num den) 17 1 with
  | some d => d.stripZeros 20
  | none => ⟨m, e⟩

/-- The number of zeros, as a text. -/
def zeros (n : Nat) : List Char :=
  List.replicate n '0'

/-- The exponent of the scientific form: a sign and at least two digits. -/
def exponentText (e : Int) : String :=
  "e" ++ (if e < 0 then "-" else "+") ++ Text.padded 2 e.natAbs

/-- The text of a decimal number: positional with a point when the first digit stands for a power of
ten from -4 to 15, and scientific otherwise. -/
def text (d : Decimal) : String :=
  let digits := (toString d.digits).toList
  let point : Int := d.exponent + digits.length
  if -4 < point ∧ point ≤ 16 then
    String.ofList <|
      if point ≤ 0 then ['0', '.'] ++ zeros (-point).toNat ++ digits
      else if digits.length ≤ point.toNat then
        digits ++ zeros (point.toNat - digits.length) ++ ['.', '0']
      else digits.take point.toNat ++ ['.'] ++ digits.drop point.toNat
  else
    let fraction := if digits.length ≤ 1 then [] else '.' :: digits.drop 1
    String.ofList (digits.take 1 ++ fraction) ++ exponentText (point - 1)

end Decimal

/-- The text of a double-precision number. -/
def Binary64.text : Binary64 → String
  | .finite s m e fits =>
    (if s then "-" else "") ++ (if m = 0 then "0.0" else (Decimal.shortest m e fits).text)
  | .infinite s => if s then "-inf" else "inf"
  | .nan => "nan"

end FixBindings.Number
