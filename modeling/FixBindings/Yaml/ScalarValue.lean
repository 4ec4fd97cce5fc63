import FixBindings.Document.Value
import FixBindings.Text.Base64
import FixBindings.Text.Case
import FixBindings.Yaml.Error
import FixBindings.Yaml.Tag

/-!
# Values of scalars

What the text of a scalar stands for, given its type. The forms are wider than those that tell the
type of a scalar without a tag.
-/

namespace FixBindings.Yaml

open Document Number Calendar

/-! ## Integers -/

/-- The integer that a text writes to a base. -/
def readNumeral (base : Nat) (cs : List Char) : Except Error Int :=
  (readIntegerTo base cs).mapError fun
    | .malformed => .notInteger (String.ofList cs) base
    | .tooLong digits => .integerTooLong digits

/-- The parts between the colons of a text. -/
def colonParts (cs : List Char) : List (List Char) :=
  cs.splitOn ':'

/-- The integer that a numeral without a sign writes. A zero in front tells the base eight, unless a
letter behind it tells another, and colons part the digits of a number to the base sixty. -/
def readUnsigned (body : List Char) : Except Error Int :=
  match body with
  | [] => .error .emptyNumber
  | ['0'] => .ok 0
  | '0' :: 'b' :: ds => readNumeral 2 ds
  | '0' :: 'x' :: ds => readNumeral 16 ds
  | '0' :: _ => readNumeral 8 body
  | _ =>
    if body.contains ':' then do
      let parts ← (colonParts body).mapM (readNumeral 10)
      return parts.foldl (fun n d ↦ 60 * n + d) 0
    else readNumeral 10 body

/-- The integer that a scalar writes. -/
def readInt (text : List Char) : Except Error Int := do
  let cs := text.filter (· != '_')
  if cs.isEmpty then throw .emptyNumber
  let (negative, body) := splitSign cs
  let n ← readUnsigned body
  return if negative then -n else n

/-! ## Numbers with a fraction -/

/-- The digits before a point, the digits after it, and the exponent, of a number without a sign. -/
def floatParts? (cs : List Char) : Option (List Char × List Char × Int) :=
  let whole := cs.takeWhile Char.isDigit
  let rest := cs.dropWhile Char.isDigit
  let (fraction, rest) := match rest with
    | '.' :: rest => (rest.takeWhile Char.isDigit, rest.dropWhile Char.isDigit)
    | rest => ([], rest)
  if whole.isEmpty && fraction.isEmpty then none
  else
    match rest with
    | [] => some (whole, fraction, 0)
    | 'e' :: rest =>
      let (negative, ds) := splitSign rest
      if ds.isEmpty || !ds.all Char.isDigit then none
      else some (whole, fraction, signed negative (ofDigits 10 (ds.map fun d ↦ d.toNat - 0x30)))
    | _ => none

/-- The number that a text in lower case writes to the base ten. -/
def readFloatDecimal (cs : List Char) : Except Error Binary64 :=
  let trimmed := trimBy isIntegerMargin cs
  let (negative, body) := splitSign trimmed
  if ["inf", "infinity"].any (·.toList == body) then .ok (.infinite negative)
  else if "nan".toList == body then .ok .nan
  else
    match floatParts? (body.map fun c ↦
      ((Text.decimalDigit? c).map fun d ↦ Char.ofNat (0x30 + d)).getD c) with
    | some (whole, fraction, e) =>
      .ok (.ofDecimal negative
        (ofDigits 10 ((whole ++ fraction).map fun d ↦ d.toNat - 0x30)) (e - fraction.length))
    | none => .error (.notFloat (String.ofList cs))

/-- The number whose digits to the base sixty are given, the lowest first, where the first of them
counts `unit` and the digits below it make up `sum`. -/
def sixtiethsSum (unit : Nat) (sum : Binary64) : List Binary64 → Except Error Binary64
  | [] => .ok sum
  | d :: ds =>
    match Binary64.ofInt unit with
    | .infinite _ => .error .tooManySixtieths
    | u => sixtiethsSum (60 * unit) (sum.add (d.mul u)) ds

/-- A text that writes a number with a fraction: without underscores and in lower case, and its sign
apart. -/
def floatBody (text : List Char) : Bool × List Char :=
  splitSign (Text.lower (text.filter (· != '_')))

/-- Whether a scalar is written as what is not a number. -/
def isPlainNan (text : List Char) : Bool :=
  (floatBody text).2 == ".nan".toList

/-- The number with a fraction that a scalar writes. -/
def readFloat (text : List Char) : Except Error Binary64 := do
  if text.all (· == '_') then throw .emptyNumber
  let (negative, body) := floatBody text
  let x ←
    if body == ".inf".toList then pure (.infinite false)
    else if isPlainNan text then pure .nan
    else if body.contains ':' then do
      let parts ← (colonParts body).mapM readFloatDecimal
      sixtiethsSum 1 (.zero false) parts.reverse
    else readFloatDecimal body
  return if negative then x.neg else x

/-! ## Other scalars -/

/-- The truth value that a scalar writes. -/
def readBool (text : List Char) : Except Error Bool :=
  let word := String.ofList (Text.lower text)
  match boolWords.lookup word with
  | some b => .ok b
  | none => .error (.notBool word)

/-- The bytes that a scalar writes. -/
def readBytes (text : List Char) : Except Error (List UInt8) :=
  match Text.decodeBase64 text with
  | some bs => .ok bs
  | none => .error .malformed

/-- The day or the time that a scalar writes. -/
def readMoment (text : List Char) : Except Error Scalar :=
  match moment? false (withoutLineEnd text) with
  | some (.day d) =>
    match d.fault? with
    | some fault => .error (.timestamp (.date fault))
    | none => .ok (.date d)
  | some (.time t) =>
    match t.fault? with
    | some fault => .error (.timestamp fault)
    | none => .ok (.timestamp t)
  | none => .error .notTimestamp

/-- The value of a scalar of a type. -/
def readScalar (tag : Tag) (text : List Char) : Except Error Scalar :=
  match tag with
  | .null => .ok .null
  | .bool => (readBool text).map .bool
  | .int => (readInt text).map .int
  | .float => (readFloat text).map .float
  | .text => .ok (.text (String.ofList text))
  | .bytes => (readBytes text).map .bytes
  | .timestamp => readMoment text
  | .sequence | .mapping | .set | .pairs | .merge | .main | .unknown => .error .malformed

end FixBindings.Yaml
