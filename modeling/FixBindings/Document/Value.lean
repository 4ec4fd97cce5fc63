import FixBindings.Calendar.Timestamp
import FixBindings.Number.Decimal
import FixBindings.Number.Integer
import FixBindings.Text.Quoted

/-!
# Document values

What a parsed document holds: scalars, lists and mappings. A mapping keeps its entries in order and
each key once; two numbers of the same value are one key, whatever their kinds, and so are two
timestamps of one instant.
-/

namespace FixBindings.Document

open Calendar Number

/-- A value of a type of its own, known by what is asked of it. -/
structure Foreign where
  /-- Its text. -/
  text : String
  /-- Whether it counts as true. -/
  isTruthy : Bool
  /-- Whether it can be written. -/
  isPrintable : Bool
  deriving DecidableEq, Repr

/-- A value that is neither a list nor a mapping; only such values are keys. -/
inductive Scalar where
  | null
  | bool (b : Bool)
  | int (n : Int)
  | float (x : Binary64)
  | text (s : String)
  | bytes (bs : List UInt8)
  | date (d : Date)
  | timestamp (t : Timestamp)
  /-- A set, a pair or any other value. -/
  | other (x : Foreign)
  deriving DecidableEq, Repr

/-- A parsed document or a part of it. -/
inductive Value where
  | scalar (s : Scalar)
  | list (items : List Value)
  | mapping (entries : List (Scalar × Value))
  deriving Repr

/-- The entries of a mapping, in order. -/
abbrev Entries := List (Scalar × Value)

namespace Scalar

/-- The integer that a scalar equals as a number. -/
def whole? : Scalar → Option Int
  | bool b => some (if b then 1 else 0)
  | int n => some n
  | float x => x.toInt?
  | _ => none

/-- Whether two scalars are the same key: numbers by their value, timestamps by their instant, and
everything else as it is. What is not a number is not the same as anything. -/
def sameKey : Scalar → Scalar → Bool
  | float .nan, _ => false
  | timestamp t, timestamp u => t.isSame u
  | a, b =>
    a == b || (match a.whole?, b.whole? with
      | some m, some n => m == n
      | _, _ => false)

/-- Whether a scalar counts as true: not null, false, a zero, the empty text or no bytes. -/
def isTruthy : Scalar → Bool
  | null => false
  | bool b => b
  | int n => n != 0
  | float x => !x.isZero
  | text s => !s.isEmpty
  | bytes bs => !bs.isEmpty
  | date _ | timestamp _ => true
  | other x => x.isTruthy

/-- Whether the scalar can be written: it is not an integer of too many digits. -/
def isPrintable : Scalar → Bool
  | int n => isPrintableInt n
  | other x => x.isPrintable
  | _ => true

/-- The scalar as part of a larger text, where a text stands between quotes. -/
def inspect : Scalar → String
  | null => "None"
  | bool b => if b then "True" else "False"
  | int n => toString n
  | float x => x.text
  | text s => Text.quoted s
  | bytes bs => Text.quotedBytes bs
  | date d =>
    "datetime.date(" ++ toString d.year ++ ", " ++ toString d.month ++ ", " ++ toString d.day ++ ")"
  | timestamp t => t.inspect
  | other x => x.text

/-- The text of the scalar on its own. -/
def toText : Scalar → String
  | text s => s
  | date d => d.text
  | timestamp t => t.text
  | s => s.inspect

end Scalar

namespace Entries

/-- The value of the first entry whose key is the text `key`. -/
def get? (key : String) : Entries → Option Value
  | [] => none
  | (k, v) :: entries => if k = .text key then some v else get? key entries

/-- The pairs with `key` set to `v`, where `same` tells which keys are one: at the end for a new key,
in place for one that is there. -/
def setKey {κ ν : Type} (same : κ → κ → Bool) (key : κ) (v : ν) : List (κ × ν) → List (κ × ν)
  | [] => [(key, v)]
  | (k, w) :: pairs =>
    if same k key then (k, v) :: pairs else (k, w) :: setKey same key v pairs

/-- The entries with `key` set to `v`. -/
def insert (key : Scalar) (v : Value) (entries : Entries) : Entries :=
  setKey Scalar.sameKey key v entries

/-- The entries of a mapping that is written as a list of pairs, where the last value of a key wins
and stands at the place of the first. -/
def ofList (pairs : List (Scalar × Value)) : Entries :=
  pairs.foldl (fun entries p ↦ insert p.1 p.2 entries) []

end Entries

namespace Value

/-- The null value. -/
def null : Value := .scalar .null

/-- A text. -/
def text (s : String) : Value := .scalar (.text s)

/-- Whether the value is null. -/
def isNull : Value → Bool
  | .scalar .null => true
  | _ => false

/-- Whether the value counts as true; an empty list and an empty mapping do not. -/
def isTruthy : Value → Bool
  | .scalar s => s.isTruthy
  | .list items => !items.isEmpty
  | .mapping entries => !entries.isEmpty

mutual

/-- The value as part of a larger text: lists in brackets, mappings in braces. -/
def inspect : Value → String
  | .scalar s => s.inspect
  | .list items => "[" ++ ", ".intercalate (inspectItems items) ++ "]"
  | .mapping entries => "\x7b" ++ ", ".intercalate (inspectEntries entries) ++ "\x7d"

/-- The items of a list as parts of a larger text. -/
def inspectItems : List Value → List String
  | [] => []
  | v :: vs => inspect v :: inspectItems vs

/-- The entries of a mapping as parts of a larger text. -/
def inspectEntries : List (Scalar × Value) → List String
  | [] => []
  | (k, v) :: entries => (k.inspect ++ ": " ++ inspect v) :: inspectEntries entries

end

mutual

/-- Whether the value can be written: it holds no integer of too many digits. -/
def isPrintable : Value → Bool
  | .scalar s => s.isPrintable
  | .list items => arePrintable items
  | .mapping entries => areEntriesPrintable entries

/-- Whether the items of a list can be written. -/
def arePrintable : List Value → Bool
  | [] => true
  | v :: vs => isPrintable v && arePrintable vs

/-- Whether the entries of a mapping can be written. -/
def areEntriesPrintable : List (Scalar × Value) → Bool
  | [] => true
  | (k, v) :: entries => k.isPrintable && isPrintable v && areEntriesPrintable entries

end

/-- The text of the value on its own. -/
def toText : Value → String
  | .scalar s => s.toText
  | v => v.inspect

end Value

end FixBindings.Document
