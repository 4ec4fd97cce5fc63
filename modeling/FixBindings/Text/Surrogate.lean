import FixBindings.Text.Numeral

/-!
# Texts with surrogates

A text is a sequence of code points. Escapes in documents may name surrogates, which are code points
but no characters and have no UTF-8. Here a surrogate in a text is spelled with two characters: the
mark `U+10FFFF`, and a character of the private use areas that stands in for the surrogate. A
`U+10FFFF` of the text itself is the mark twice, so that every sequence of code points has a spelling
of its own.
-/

namespace FixBindings.Text

/-- A code point, which may be a surrogate. -/
abbrev CodePoint := Fin 0x110000

/-- Whether a number is that of a surrogate. -/
def isSurrogate (n : Nat) : Bool :=
  0xD800 ≤ n && n ≤ 0xDFFF

/-! ## Spelling -/

/-- The character in front of one that stands in for a surrogate. -/
def mark : Char := Char.ofNat 0x10FFFF

/-- The character that stands in for the surrogate of number `n`. -/
def standIn (n : Nat) : Char := Char.ofNat (0xF0000 + (n - 0xD800))

/-- The surrogate that a character stands in for. -/
def standsFor? (c : Char) : Option CodePoint :=
  let n := c.toNat
  if 0xF0000 ≤ n ∧ n < 0xF0800 then some (Fin.ofNat 0x110000 (n - 0xF0000 + 0xD800)) else none

/-- The characters that spell the code point of number `n`. -/
def spellNumber (n : Nat) : List Char :=
  if isSurrogate n then [mark, standIn n]
  else if n = 0x10FFFF then [mark, mark]
  else [Char.ofNat n]

/-- The text of a sequence of code points. -/
def spell (ps : List CodePoint) : String :=
  String.ofList (ps.flatMap fun p ↦ spellNumber p.val)

/-- The characters that spell a character. -/
def spellChar (c : Char) : List Char :=
  if c = mark then [mark, mark] else [c]

/-- The text of characters that are to be read as they are. -/
def spellText (s : String) : String :=
  String.ofList (s.toList.flatMap spellChar)

/-- The code point of a character. -/
def pointOf (c : Char) : CodePoint := Fin.ofNat 0x110000 c.toNat

/-- The code points that characters spell. A mark that belongs to no spelling stands for itself. -/
def pointsOf : List Char → List CodePoint
  | [] => []
  | [c] => [pointOf c]
  | c :: d :: cs =>
    if c = mark then
      if d = mark then pointOf mark :: pointsOf cs
      else
        match standsFor? d with
        | some p => p :: pointsOf cs
        | none => pointOf mark :: pointsOf (d :: cs)
    else pointOf c :: pointsOf (d :: cs)

/-- The code points of a text. -/
def points (s : String) : List CodePoint :=
  pointsOf s.toList

/-! ## Encoding -/

/-- A run of surrogates that cannot be encoded. -/
structure EncodeError where
  /-- The number of code points before the run. -/
  first : Nat
  /-- How many more surrogates follow the first one. -/
  more : Nat
  /-- The first surrogate of the run. -/
  point : CodePoint
  deriving DecidableEq, Repr

/-- The escape of a surrogate. -/
def surrogateEscape (p : CodePoint) : List Char :=
  '\\' :: 'u' :: hex 4 p.val

/-- The wording of an error. -/
def EncodeError.message (e : EncodeError) : String :=
  let place :=
    if e.more == 0 then
      "character '" ++ String.ofList (surrogateEscape e.point) ++ "' in position " ++
        toString e.first
    else "characters in position " ++ toString e.first ++ "-" ++ toString (e.first + e.more)
  "'utf-8' codec can't encode " ++ place ++ ": surrogates not allowed"

/-- The error of the first code point that is refused. The surrogates behind it belong to its run. -/
def encodeError? (isRefused : CodePoint → Bool) (ps : List CodePoint) : Option EncodeError :=
  match ps.dropWhile fun p ↦ !isRefused p with
  | [] => none
  | p :: rest =>
    some ⟨(ps.takeWhile fun p ↦ !isRefused p).length,
      (rest.takeWhile fun p ↦ isSurrogate p.val).length, p⟩

/-- The characters of a text, or the error of its first surrogate. -/
def unspelled (s : String) : Except EncodeError String :=
  match encodeError? (fun p ↦ isSurrogate p.val) (points s) with
  | some e => .error e
  | none => .ok (String.ofList ((points s).map fun p ↦ Char.ofNat p.val))

/-- A text that UTF-8 can encode: none of its code points is a surrogate. -/
def IsEncodable (s : String) : Prop :=
  ∀ p ∈ points s, ¬isSurrogate p.val

instance (s : String) : Decidable (IsEncodable s) :=
  inferInstanceAs (Decidable (∀ p ∈ points s, ¬isSurrogate p.val))

/-- The text with each surrogate written as its escape. -/
def backslashed (s : String) : String :=
  String.ofList ((points s).flatMap fun p ↦
    if isSurrogate p.val then surrogateEscape p else [Char.ofNat p.val])

/-! ## Names of files -/

/-- Whether a code point stands for a byte of a name that is not UTF-8. -/
def isEscapedByte (n : Nat) : Bool :=
  0xDC80 ≤ n && n ≤ 0xDCFF

/-- The bytes of a code point in the name of a file. -/
def nameBytes (p : CodePoint) : List UInt8 :=
  if isEscapedByte p.val then [UInt8.ofNat (p.val - 0xDC00)]
  else String.utf8EncodeChar (Char.ofNat p.val)

/-- Whether a code point has no place in the name of a file. -/
def isNoName (p : CodePoint) : Bool :=
  isSurrogate p.val && !isEscapedByte p.val

/-- The bytes of the name of a file: UTF-8, but for the surrogates that stand for a byte each. -/
def fileBytes (s : String) : List UInt8 :=
  (points s).flatMap nameBytes

/-- The error of a text that is to name a file. -/
def nameError? (s : String) : Option EncodeError :=
  encodeError? isNoName (points s)

end FixBindings.Text
