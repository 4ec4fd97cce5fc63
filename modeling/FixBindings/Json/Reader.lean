import FixBindings.Document.Value
import FixBindings.Json.Error
import FixBindings.Text.Surrogate

/-!
# Reading JSON

The value of a JSON text. Integers are unbounded in value, numbers with a fraction or an exponent
are double-precision, and `NaN`, `Infinity` and `-Infinity` are numbers too. Half of a surrogate pair may
stand alone in a string. Values may be nested to any depth.
-/

namespace FixBindings.Json

open Document Number

/-- The rest of a text and the offset where it starts. -/
structure Cursor where
  /-- The number of characters before. -/
  offset : Nat
  /-- The characters that are left. -/
  rest : List Char

/-- Whether a character may stand between two tokens. -/
def isSpace (c : Char) : Bool :=
  c == ' ' || c == '\t' || c == '\n' || c == '\r'

namespace Cursor

/-- The cursor behind the spaces. -/
def skipSpaces (c : Cursor) : Cursor :=
  let spaces := c.rest.takeWhile isSpace
  ⟨c.offset + spaces.length, c.rest.drop spaces.length⟩

/-- The cursor behind `n` more characters. -/
def advance (c : Cursor) (n : Nat) : Cursor :=
  ⟨c.offset + n, c.rest.drop n⟩

/-- The error of a fault at the cursor. -/
def fail {α : Type _} (c : Cursor) (fault : Fault) : Except Error α :=
  .error (.malformed fault c.offset)

end Cursor

/-- The character of a one-letter escape. -/
def escapedChar? : Char → Option Char
  | '"' => some '"'
  | '\\' => some '\\'
  | '/' => some '/'
  | 'b' => some '\x08'
  | 'f' => some '\x0c'
  | 'n' => some '\n'
  | 'r' => some '\r'
  | 't' => some '\t'
  | _ => none

/-- Whether a number is the first half of a pair that stands for a character beyond `0xFFFF`. -/
def isHighHalf (n : Nat) : Bool :=
  0xD800 ≤ n && n ≤ 0xDBFF

/-- Whether a number is the second half of such a pair. -/
def isLowHalf (n : Nat) : Bool :=
  0xDC00 ≤ n && n ≤ 0xDFFF

/-- The code point that a pair of halves stands for. -/
def joinHalves (high low : Nat) : Nat :=
  0x10000 + (high - 0xD800) * 0x400 + (low - 0xDC00)

/-- The spelling of the rest of a string whose opening quote stands at `start`, read from `offset` on,
and the cursor behind its closing quote. The number of an escape is never the last thing of a text. -/
def stringFrom (start offset : Nat) : List Char → Except Error (List Char × Cursor)
  | [] => .error (.malformed .unterminated start)
  | '"' :: cs => .ok ([], ⟨offset + 1, cs⟩)
  | '\\' :: [] => .error (.malformed .unterminated start)
  | '\\' :: 'u' :: a :: b :: c :: d :: '\\' :: 'u' :: e :: f :: g :: h :: i :: cs =>
    match Text.hexValue? [a, b, c, d] with
    | none => .error (.malformed .unicodeEscape (offset + 1))
    | some high =>
      if isHighHalf high then
        match Text.hexValue? [e, f, g, h] with
        | none => .error (.malformed .unicodeEscape (offset + 7))
        | some low =>
          if isLowHalf low then do
            let (s, k) ← stringFrom start (offset + 12) (i :: cs)
            return (Text.spellNumber (joinHalves high low) ++ s, k)
          else do
            let (s, k) ← stringFrom start (offset + 6) ('\\' :: 'u' :: e :: f :: g :: h :: i :: cs)
            return (Text.spellNumber high ++ s, k)
      else do
        let (s, k) ← stringFrom start (offset + 6) ('\\' :: 'u' :: e :: f :: g :: h :: i :: cs)
        return (Text.spellNumber high ++ s, k)
  | '\\' :: 'u' :: a :: b :: c :: d :: e :: cs =>
    match Text.hexValue? [a, b, c, d] with
    | none => .error (.malformed .unicodeEscape (offset + 1))
    | some n => do
      let (s, k) ← stringFrom start (offset + 6) (e :: cs)
      return (Text.spellNumber n ++ s, k)
  | '\\' :: 'u' :: _ => .error (.malformed .unicodeEscape (offset + 1))
  | '\\' :: c :: cs =>
    match escapedChar? c with
    | none => .error (.malformed .escape offset)
    | some e => do
      let (s, k) ← stringFrom start (offset + 2) cs
      return (e :: s, k)
  | c :: cs =>
    if c.toNat < 0x20 then .error (.malformed .control offset)
    else do
      let (s, k) ← stringFrom start (offset + 1) cs
      return (Text.spellChar c ++ s, k)

/-- The parts of a number: its sign, the digits before and after the point, and the exponent. -/
structure NumberParts where
  /-- Whether a minus stands in front. -/
  negative : Bool
  /-- The digits before the point. -/
  whole : List Char
  /-- The digits after the point. -/
  fraction : List Char
  /-- The sign and the digits of the exponent. -/
  exponent : Option (Bool × List Char)

/-- The number that digits stand for. -/
def digitsValue (cs : List Char) : Nat :=
  Number.ofDigits 10 (cs.map fun c ↦ c.toNat - 0x30)

/-- The double-precision number of the parts. -/
def NumberParts.toBinary64 (p : NumberParts) : Binary64 :=
  let e : Int := match p.exponent with
    | none => 0
    | some (negative, ds) => signed negative (digitsValue ds)
  .ofDecimal p.negative (digitsValue (p.whole ++ p.fraction)) (e - p.fraction.length)

/-- The value of the parts: an integer when there is neither a point nor an exponent. -/
def NumberParts.toScalar (p : NumberParts) : Except Error Scalar :=
  if p.fraction.isEmpty && p.exponent.isNone then
    if maxIntegerDigits < p.whole.length then .error (.integerTooLong p.whole.length)
    else .ok (.int (signed p.negative (digitsValue p.whole)))
  else .ok (.float p.toBinary64)

/-- The digits before the point: a zero alone, or digits that start with another one. -/
def wholeDigits (cs : List Char) : List Char :=
  match cs with
  | '0' :: _ => ['0']
  | _ => cs.takeWhile Char.isDigit

/-- The digits after a point, when a point with digits comes next. -/
def fractionDigits (cs : List Char) : List Char :=
  match cs with
  | '.' :: cs => cs.takeWhile Char.isDigit
  | _ => []

/-- The sign of an exponent, the digits behind it and their number of characters with the sign. -/
def exponentDigits? (cs : List Char) : Option ((Bool × List Char) × Nat) :=
  let (negative, ds, signs) := match cs with
    | '-' :: cs => (true, cs.takeWhile Char.isDigit, 1)
    | '+' :: cs => (false, cs.takeWhile Char.isDigit, 1)
    | cs => (false, cs.takeWhile Char.isDigit, 0)
  if ds.isEmpty then none else some ((negative, ds), signs + ds.length)

/-- The number at the front of a text and how many characters it takes. It stops where no more of
the text fits. -/
def number? (cs : List Char) : Option (NumberParts × Nat) :=
  let (negative, body, n) := match cs with
    | '-' :: cs => (true, cs, 1)
    | cs => (false, cs, 0)
  let whole := wholeDigits body
  if whole.isEmpty then none
  else
    let body := body.drop whole.length
    let fraction := fractionDigits body
    let n := n + whole.length
    let (body, n) :=
      if fraction.isEmpty then (body, n)
      else (body.drop (fraction.length + 1), n + fraction.length + 1)
    let exponent := match body with
      | 'e' :: cs | 'E' :: cs => exponentDigits? cs
      | _ => none
    some (⟨negative, whole, fraction, exponent.map (·.1)⟩, n + (exponent.map (·.2 + 1)).getD 0)

/-- The words that stand for a value. -/
def literals : List (String × Scalar) :=
  [("null", .null), ("true", .bool true), ("false", .bool false), ("NaN", .float .nan),
   ("Infinity", .float (.infinite false)), ("-Infinity", .float (.infinite true))]

/-- The word or the number at the cursor. -/
def scalarAt (c : Cursor) : Except Error (Scalar × Cursor) :=
  match literals.find? fun l ↦ l.1.toList.isPrefixOf c.rest with
  | some (word, s) => .ok (s, c.advance word.length)
  | none =>
    match number? c.rest with
    | some (parts, n) => do return (← parts.toScalar, c.advance n)
    | none => c.fail .value

mutual

/-- The value at the cursor. The first argument bounds the number of steps. -/
def valueAt : Nat → Cursor → Except Error (Value × Cursor)
  | 0, c => c.fail .value
  | fuel + 1, c =>
    match c.rest with
    | '"' :: cs => do
      let (s, k) ← stringFrom c.offset (c.offset + 1) cs
      return (.text (String.ofList s), k)
    | '[' :: _ =>
      let c := (c.advance 1).skipSpaces
      match c.rest with
      | ']' :: _ => .ok (.list [], c.advance 1)
      | _ => do
        let (vs, k) ← itemsAt fuel c
        return (.list vs, k)
    | '\x7b' :: _ =>
      let c := (c.advance 1).skipSpaces
      match c.rest with
      | '\x7d' :: _ => .ok (.mapping [], c.advance 1)
      | _ => do
        let (es, k) ← entriesAt fuel c
        return (.mapping (Entries.ofList es), k)
    | _ => do
      let (s, k) ← scalarAt c
      return (.scalar s, k)

/-- The items of a list up to its closing bracket. -/
def itemsAt : Nat → Cursor → Except Error (List Value × Cursor)
  | 0, c => c.fail .value
  | fuel + 1, c => do
    let (v, k) ← valueAt fuel c
    let k := k.skipSpaces
    match k.rest with
    | ']' :: _ => return ([v], k.advance 1)
    | ',' :: _ =>
      let (vs, k) ← itemsAt fuel (k.advance 1).skipSpaces
      return (v :: vs, k)
    | _ => k.fail .comma

/-- The entries of a mapping up to its closing brace. -/
def entriesAt : Nat → Cursor → Except Error (List (Scalar × Value) × Cursor)
  | 0, c => c.fail .value
  | fuel + 1, c =>
    match c.rest with
    | '"' :: cs => do
      let (key, k) ← stringFrom c.offset (c.offset + 1) cs
      let k := k.skipSpaces
      match k.rest with
      | ':' :: _ =>
        let (v, k) ← valueAt fuel (k.advance 1).skipSpaces
        let entry : Scalar × Value := (.text (String.ofList key), v)
        let k := k.skipSpaces
        match k.rest with
        | '\x7d' :: _ => return ([entry], k.advance 1)
        | ',' :: _ =>
          let (es, k) ← entriesAt fuel (k.advance 1).skipSpaces
          return (entry :: es, k)
        | _ => k.fail .comma
      | _ => k.fail .colon
    | _ => c.fail .key

end

/-- The value of a text. -/
def read (text : List Char) : Except Error Value := do
  let start : Cursor := ⟨0, text⟩
  if text.head? == some '\uFEFF' then start.fail .byteOrderMark
  else
    let (v, k) ← valueAt (2 * text.length + 2) start.skipSpaces
    let k := k.skipSpaces
    if k.rest.isEmpty then return v else k.fail .extraData

end FixBindings.Json
