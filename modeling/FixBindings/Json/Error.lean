import FixBindings.Number.Integer

/-!
# Errors of JSON texts

What may be wrong with a JSON text, where, and how it is worded.
-/

namespace FixBindings.Json

/-- What is wrong at a place of a JSON text. -/
inductive Fault where
  /-- The text starts with a byte order mark. -/
  | byteOrderMark
  /-- No value starts here. -/
  | value
  /-- No key starts here. -/
  | key
  /-- No colon stands after a key. -/
  | colon
  /-- Neither a comma nor the closing bracket stands after a value. -/
  | comma
  /-- Something follows the value. -/
  | extraData
  /-- A string that starts here does not end. -/
  | unterminated
  /-- A control character stands in a string. -/
  | control
  /-- A backslash starts no escape. -/
  | escape
  /-- The number of an escape is not four hexadecimal digits. -/
  | unicodeEscape
  deriving DecidableEq, Repr

/-- The wording of a fault. -/
def Fault.message : Fault → String
  | .byteOrderMark => "Unexpected UTF-8 BOM (decode using utf-8-sig)"
  | .value => "Expecting value"
  | .key => "Expecting property name enclosed in double quotes"
  | .colon => "Expecting ':' delimiter"
  | .comma => "Expecting ',' delimiter"
  | .extraData => "Extra data"
  | .unterminated => "Unterminated string starting at"
  | .control => "Invalid control character at"
  | .escape => "Invalid \\escape"
  | .unicodeEscape => "Invalid \\uXXXX escape"

/-- A place in a text: its line and its column, both from one, and its offset from zero. -/
structure Place where
  /-- The line. -/
  line : Nat
  /-- The column. -/
  column : Nat
  /-- The number of characters before the place. -/
  offset : Nat
  deriving DecidableEq, Repr

/-- The place of an offset of a text. -/
def Place.ofOffset (text : List Char) (offset : Nat) : Place :=
  let before := text.take offset
  ⟨before.count '\n' + 1, (before.reverse.takeWhile (· != '\n')).length + 1, offset⟩

/-- The wording of a place. -/
def Place.message (p : Place) : String :=
  "line " ++ toString p.line ++ " column " ++ toString p.column ++ " (char " ++
    toString p.offset ++ ")"

/-- Why a text is not read as JSON. -/
inductive Error where
  /-- It is malformed at an offset. -/
  | malformed (fault : Fault) (offset : Nat)
  /-- It holds an integer of too many digits. -/
  | integerTooLong (digits : Nat)
  deriving DecidableEq, Repr

end FixBindings.Json
