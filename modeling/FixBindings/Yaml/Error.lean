import FixBindings.Calendar.Timestamp
import FixBindings.Number.Integer
import FixBindings.Text.Quoted

/-!
# Errors of YAML texts

Why a YAML text has no value. A text that breaks the rules of the notation is malformed, without a
further account; a number that is out of bounds and a scalar that is not what its type promises have
their own errors. A document in which a node is part of itself is read but has no value that is a tree.
-/

namespace FixBindings.Yaml

open Calendar

/-- Why a text is not read as YAML. -/
inductive Error where
  /-- It breaks the rules of the notation or uses a type that is not known. -/
  | malformed
  /-- An escape names a number that no character has. -/
  | characterNumber
  /-- An escape names a number that does not fit into 31 bits. -/
  | characterNumberTooLarge
  /-- A scalar in the form of a day or a time is none. -/
  | timestamp (fault : TimestampFault)
  /-- A scalar that is to be a day or a time does not have the form of one. -/
  | notTimestamp
  /-- A mapping stands for a scalar that is to be a day or a time. -/
  | mappingForTimestamp
  /-- An integer has too many digits. -/
  | integerTooLong (digits : Nat)
  /-- A scalar that is to be an integer is none to this base. -/
  | notInteger (text : String) (base : Nat)
  /-- A scalar that is to be a number with a fraction is none. -/
  | notFloat (text : String)
  /-- A number to the base 60 has more places than a number with a fraction can count. -/
  | tooManySixtieths
  /-- A scalar that is to be a truth value is none. -/
  | notBool (text : String)
  /-- A scalar that is to be a number is empty. -/
  | emptyNumber
  /-- A node of the document is part of itself. -/
  | looped
  deriving DecidableEq, Repr

/-- The most characters of a scalar that an error about an integer shows, with the quotes. -/
def shownLength : Nat := 200

/-- The wording of an error. -/
def Error.message : Error → String
  | .malformed => "malformed document"
  | .characterNumber => "chr() arg not in range(0x110000)"
  | .characterNumberTooLarge => "Python int too large to convert to C int"
  | .timestamp fault => fault.message
  | .notTimestamp => "'NoneType' object has no attribute 'groupdict'"
  | .mappingForTimestamp => "expected string or bytes-like object, got 'list'"
  | .integerTooLong digits => Number.tooLongMessage digits
  | .notInteger text base =>
    "invalid literal for int() with base " ++ toString base ++ ": " ++
      String.ofList ((Text.quoted text).toList.take shownLength)
  | .notFloat text => "could not convert string to float: " ++ Text.quoted text
  | .tooManySixtieths => "int too large to convert to float"
  | .notBool text => Text.quoted text
  | .emptyNumber => "string index out of range"
  | .looped => "a node is part of itself"

/-- The class of an error. -/
def Error.kind : Error → String
  | .malformed => "YAMLError"
  | .notBool _ => "KeyError"
  | .emptyNumber => "IndexError"
  | .characterNumberTooLarge | .tooManySixtieths => "OverflowError"
  | .notTimestamp => "AttributeError"
  | .mappingForTimestamp => "TypeError"
  | .characterNumber | .timestamp _ | .integerTooLong _ | .notInteger .. | .notFloat _ => "ValueError"
  | .looped => "RecursionError"

end FixBindings.Yaml
