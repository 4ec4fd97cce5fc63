/-!
# Numerals of a fixed width

Hexadecimal and decimal numerals that are filled up with zeros, and the values of hexadecimal
digits.
-/

namespace FixBindings.Text

/-- The digit of value `n` in lower case, for `n` below 36. -/
def digitChar (n : Nat) : Char :=
  if n < 10 then Char.ofNat (0x30 + n) else Char.ofNat (0x57 + n)

/-- The last `width` digits of `n` to the base `base`. -/
def numeral (base width n : Nat) : List Char :=
  match width with
  | 0 => []
  | w + 1 => numeral base w (n / base) ++ [digitChar (n % base)]

/-- The last `width` hexadecimal digits of `n`. -/
def hex (width n : Nat) : List Char :=
  numeral 16 width n

/-- The number `n` with at least `width` decimal digits, filled up with zeros. -/
def padded (width n : Nat) : String :=
  let s := toString n
  String.ofList (List.replicate (width - s.length) '0') ++ s

/-- The value of a hexadecimal digit of either case. -/
def hexDigit? (c : Char) : Option Nat :=
  let n := c.toNat
  if c.isDigit then some (n - 0x30)
  else if 'a' ≤ c ∧ c ≤ 'f' then some (n - 0x57)
  else if 'A' ≤ c ∧ c ≤ 'F' then some (n - 0x37)
  else none

/-- The value of a sequence of hexadecimal digits. -/
def hexValue? (cs : List Char) : Option Nat :=
  cs.foldl (fun acc c ↦ acc.bind fun v ↦ (hexDigit? c).map (16 * v + ·)) (some 0)

@[simp] theorem length_numeral (base width n : Nat) : (numeral base width n).length = width := by
  induction width generalizing n with
  | zero => rfl
  | succ w ih => simp [numeral, ih]

end FixBindings.Text
