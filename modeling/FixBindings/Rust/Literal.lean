import FixBindings.Text.Surrogate

/-!
# Literals of Rust

What stands between the quotes of a string literal, for any text, and of a byte string literal, for a
text that UTF-8 can encode.
-/

namespace FixBindings.Rust

open Text

/-- A character between the quotes of a string literal. -/
def stringEscape (c : Char) : List Char :=
  if c == '\\' || c == '"' then ['\\', c]
  else if c == '\n' then ['\\', 'n']
  else if c == '\r' then ['\\', 'r']
  else if c == '\t' then ['\\', 't']
  else [c]

/-- The inside of the string literal of a text. -/
def stringLiteral (s : String) : String :=
  String.ofList (s.toList.flatMap stringEscape)

/-- The bytes of a text in UTF-8. -/
def utf8Bytes (s : String) : List UInt8 :=
  s.toList.flatMap String.utf8EncodeChar

/-- A byte between the quotes of a byte string literal. -/
def byteEscape (b : UInt8) : List Char :=
  if b == 0x22 || b == 0x5C then ['\\', Char.ofNat b.toNat]
  else if 0x20 ≤ b && b < 0x7F then [Char.ofNat b.toNat]
  else '\\' :: 'x' :: hex 2 b.toNat

/-- The inside of the byte string literal of a sequence of bytes. -/
def bytesLiteral (bs : List UInt8) : String :=
  String.ofList (bs.flatMap byteEscape)

/-- The inside of the byte string literal of a text, or the error of its first surrogate. -/
def byteLiteral (s : String) : Except EncodeError String :=
  (unspelled s).map fun t ↦ bytesLiteral (utf8Bytes t)

end FixBindings.Rust
