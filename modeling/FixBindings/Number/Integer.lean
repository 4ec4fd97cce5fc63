import FixBindings.Text.Blank
import FixBindings.Text.Digit
import FixBindings.Text.Numeral

/-!
# Reading integers

An integer is written with an optional sign and digits, where a single underscore may stand between
two digits and white space around the whole. Decimal digits may be of any script, and letters stand
for the digits from ten on. The base of a numeral that is not decimal may be marked in front of the
digits.
-/

namespace FixBindings.Number

open Text

/-- The most digits that a decimal numeral may have to be read, or to be written. -/
def maxIntegerDigits : Nat := 4300

/-- Why a text is not read as an integer. -/
inductive IntegerFault where
  /-- It is not the form of an integer. -/
  | malformed
  /-- It has more digits than are read. -/
  | tooLong (digits : Nat)
  deriving DecidableEq, Repr

/-- The wording of the limit for decimal numerals. -/
def limitMessage : String :=
  "Exceeds the limit (" ++ toString maxIntegerDigits ++ " digits) for integer string conversion"

/-- The advice behind the limit. -/
def limitAdvice : String :=
  "; use sys.set_int_max_str_digits() to increase the limit"

/-- The wording of the refusal to read an integer of so many digits. -/
def tooLongMessage (digits : Nat) : String :=
  limitMessage ++ ": value has " ++ toString digits ++ " digits" ++ limitAdvice

/-- The wording of the refusal to write an integer of too many digits. -/
def unprintableMessage : String :=
  limitMessage ++ limitAdvice

/-- Whether an integer has few enough digits to be written. -/
def isPrintableInt (n : Int) : Bool :=
  n.natAbs < Nat.pow 10 maxIntegerDigits

/-- The number that a list of digits stands for, the highest first. -/
def ofDigits (base : Nat) (ds : List Nat) : Nat :=
  ds.foldl (fun n d ↦ base * n + d) 0

/-- The sign of a numeral, `true` for a minus, and the rest. -/
def splitSign : List Char → Bool × List Char
  | '-' :: cs => (true, cs)
  | '+' :: cs => (false, cs)
  | cs => (false, cs)

/-- A natural number with a sign. -/
def signed (negative : Bool) (n : Nat) : Int :=
  if negative then -n else n

/-- Whether a character may stand around an integer: white space other than the four information
separators. -/
def isIntegerMargin (c : Char) : Bool :=
  isBlank c && !(0x1C ≤ c.toNat && c.toNat ≤ 0x1F)

/-- The text without the characters that satisfy `p` at both ends. -/
def trimBy (p : Char → Bool) (cs : List Char) : List Char :=
  ((cs.dropWhile p).reverse.dropWhile p).reverse

/-- The value of a digit to a base up to sixteen. -/
def digitValue? (base : Nat) (c : Char) : Option Nat :=
  (decimalDigit? c <|> hexDigit? c).filter (· < base)

/-- The digits behind the first digit of a numeral, and what follows them. An underscore must stand
between two digits. -/
def digitsAfter? (base : Nat) : List Char → Option (List Nat × List Char)
  | [] => some ([], [])
  | ['_'] => none
  | '_' :: c :: cs => do
    let d ← digitValue? base c
    let (ds, rest) ← digitsAfter? base cs
    return (d :: ds, rest)
  | c :: cs =>
    match digitValue? base c with
    | some d => do
      let (ds, rest) ← digitsAfter? base cs
      return (d :: ds, rest)
    | none => some ([], c :: cs)

/-- The digits in front of a text, and what follows them. -/
def digits? (base : Nat) : List Char → Option (List Nat × List Char)
  | [] => some ([], [])
  | c :: cs =>
    match digitValue? base c with
    | some d => do
      let (ds, rest) ← digitsAfter? base cs
      return (d :: ds, rest)
    | none => if c == '_' then none else some ([], c :: cs)

/-- The letter that marks a base. -/
def baseMark? : Nat → Option Char
  | 2 => some 'b'
  | 8 => some 'o'
  | 16 => some 'x'
  | _ => none

/-- The numeral behind the mark of its base, when there is one: a zero and a letter of either case,
and perhaps an underscore. -/
def afterMark (base : Nat) (cs : List Char) : List Char :=
  match cs with
  | zero :: letter :: rest =>
    if decimalDigit? zero = some 0 ∧ baseMark? base = some letter.toLower then
      match rest with
      | '_' :: rest => rest
      | rest => rest
    else cs
  | _ => cs

/-- The integer that a text writes to a base. The length of decimal numerals is bounded, also of one
that something follows. -/
def readIntegerTo (base : Nat) (cs : List Char) : Except IntegerFault Int :=
  let (negative, numeral) := splitSign (trimBy isIntegerMargin cs)
  match digits? base (afterMark base numeral) with
  | none => .error .malformed
  | some (ds, rest) =>
    if base = 10 ∧ maxIntegerDigits < ds.length then .error (.tooLong ds.length)
    else if ds.isEmpty || !rest.isEmpty then .error .malformed
    else .ok (signed negative (ofDigits base ds))

/-- The integer that a text writes to the base ten. -/
def readInteger (cs : List Char) : Except IntegerFault Int :=
  readIntegerTo 10 cs

end FixBindings.Number
