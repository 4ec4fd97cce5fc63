import FixBindings.Text.DigitTable

/-!
# Digits

The decimal digits of every script with their values, and the wider class of all digits.
-/

namespace FixBindings.Text

/-- The value of a decimal digit of any script. -/
def decimalDigit? (c : Char) : Option Nat :=
  let n := c.toNat
  if n < 0x80 then if c.isDigit then some (n - 0x30) else none
  else (decimalDigitRanges.find? fun r ↦ r.contains n).map fun r ↦ (n - r.first) % 10

/-- Whether a character is a decimal digit of any script. -/
def isDecimalDigit (c : Char) : Bool :=
  (decimalDigit? c).isSome

/-- Whether a character is a digit: a decimal digit, or a superscript, subscript or circled one. -/
def isDigit (c : Char) : Bool :=
  isDecimalDigit c || (0x80 ≤ c.toNat && inRanges nonDecimalDigitRanges c)

end FixBindings.Text
