import FixBindings.Text.PrintableTable
import FixBindings.Text.Surrogate

/-!
# Quoted texts

A text between quotes as messages show it: single quotes, or double quotes around a text that holds
a single quote and no double one. Characters without a visible form and surrogates appear as escapes. A
sequence of bytes is shown in the same way.
-/

namespace FixBindings.Text

/-- Whether a character has a visible form. -/
def isPrintable (c : Char) : Bool :=
  let n := c.toNat
  if n < 0x80 then 0x20 ≤ n && n < 0x7F else !inRanges unprintableRanges c

/-- The escape of a code point that is shown by its number. -/
def numberEscape (n : Nat) : List Char :=
  if n < 0x100 then '\\' :: 'x' :: hex 2 n
  else if n < 0x10000 then '\\' :: 'u' :: hex 4 n
  else '\\' :: 'U' :: hex 8 n

/-- A character as it stands between the quotes `quote`. -/
def quotedChar (quote c : Char) : List Char :=
  if c == quote || c == '\\' then ['\\', c]
  else if c == '\n' then ['\\', 'n']
  else if c == '\r' then ['\\', 'r']
  else if c == '\t' then ['\\', 't']
  else if isPrintable c then [c]
  else numberEscape c.toNat

/-- A code point as it stands between the quotes `quote`. -/
def quotedPoint (quote : Char) (p : CodePoint) : List Char :=
  if isSurrogate p.val then surrogateEscape p else quotedChar quote (Char.ofNat p.val)

/-- The quotes around a text. -/
def quoteOf (cs : List Char) : Char :=
  if cs.contains '\'' && !cs.contains '"' then '"' else '\''

/-- The text between quotes. -/
def quoted (s : String) : String :=
  let quote := quoteOf s.toList
  String.ofList ([quote] ++ (points s).flatMap (quotedPoint quote) ++ [quote])

/-- A byte as it stands between the quotes `quote`: one below 128 as its character, any other by its
number. -/
def quotedByte (quote : Char) (b : UInt8) : List Char :=
  let c := Char.ofNat b.toNat
  if b < 0x80 then quotedChar quote c else numberEscape b.toNat

/-- A sequence of bytes between quotes, behind the letter that tells it from a text. -/
def quotedBytes (bs : List UInt8) : String :=
  let quote := quoteOf (bs.map fun b ↦ Char.ofNat b.toNat)
  String.ofList (['b', quote] ++ bs.flatMap (quotedByte quote) ++ [quote])

end FixBindings.Text
