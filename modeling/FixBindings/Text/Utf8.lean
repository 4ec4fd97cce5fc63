import FixBindings.Text.Numeral

/-!
# Reading UTF-8

The characters of a sequence of bytes, or the first place where the bytes are not the shortest
UTF-8 form of a character.
-/

namespace FixBindings.Text

/-- What is wrong with a sequence of bytes. -/
inductive Utf8Fault where
  /-- No character starts with this byte. -/
  | startByte
  /-- The character that starts here cannot go on with the byte that follows. -/
  | continuationByte
  /-- The bytes end inside of a character. -/
  | truncated
  deriving DecidableEq, Repr

/-- The first fault of a sequence of bytes. -/
structure Utf8Error where
  /-- What is wrong. -/
  fault : Utf8Fault
  /-- Where the character with the fault starts. -/
  position : Nat
  /-- How many bytes of that character are well formed, and at least one. -/
  length : Nat
  /-- The byte at `position`. -/
  byte : UInt8
  deriving DecidableEq, Repr

/-- A character of which some bytes have been read. -/
structure Utf8Pending where
  /-- Where it starts. -/
  position : Nat
  /-- Its first byte. -/
  byte : UInt8
  /-- How many of its bytes have been read. -/
  length : Nat
  /-- How many more bytes it needs after the next one. -/
  owed : Nat
  /-- The least byte that may come next. -/
  low : UInt8
  /-- The greatest byte that may come next. -/
  high : UInt8
  /-- The value of the bits read so far. -/
  value : Nat

/-- What the first byte of a character, at `position`, makes of the bytes that follow. -/
def Utf8Pending.start? (position : Nat) (b : UInt8) : Option Utf8Pending :=
  let pending (owed : Nat) (low high : UInt8) (mask : Nat) : Option Utf8Pending :=
    some ⟨position, b, 1, owed, low, high, b.toNat % mask⟩
  if 0xC2 ≤ b && b ≤ 0xDF then pending 0 0x80 0xBF 0x20
  else if b == 0xE0 then pending 1 0xA0 0xBF 0x10
  else if b == 0xED then pending 1 0x80 0x9F 0x10
  else if 0xE1 ≤ b && b ≤ 0xEF then pending 1 0x80 0xBF 0x10
  else if b == 0xF0 then pending 2 0x90 0xBF 0x08
  else if 0xF1 ≤ b && b ≤ 0xF3 then pending 2 0x80 0xBF 0x08
  else if b == 0xF4 then pending 2 0x80 0x8F 0x08
  else none

/-- The error that a pending character ends with. -/
def Utf8Pending.error (p : Utf8Pending) (fault : Utf8Fault) : Utf8Error :=
  ⟨fault, p.position, p.length, p.byte⟩

/-- The characters of the bytes from `position` on, in the middle of the character `pending?` when
there is one. -/
def decodeUtf8From (position : Nat) (pending? : Option Utf8Pending) :
    List UInt8 → Except Utf8Error (List Char)
  | [] =>
    match pending? with
    | none => .ok []
    | some p => .error (p.error .truncated)
  | b :: bs =>
    match pending? with
    | none =>
      if b < 0x80 then do
        return Char.ofNat b.toNat :: (← decodeUtf8From (position + 1) none bs)
      else
        match Utf8Pending.start? position b with
        | none => .error ⟨.startByte, position, 1, b⟩
        | some p => decodeUtf8From (position + 1) (some p) bs
    | some p =>
      if p.low ≤ b && b ≤ p.high then
        let value := p.value * 64 + b.toNat % 64
        match p.owed with
        | 0 => do return Char.ofNat value :: (← decodeUtf8From (position + 1) none bs)
        | owed + 1 =>
          let p := { p with length := p.length + 1, owed, low := 0x80, high := 0xBF, value }
          decodeUtf8From (position + 1) (some p) bs
      else .error (p.error .continuationByte)

/-- The text that the bytes encode. -/
def decodeUtf8 (bytes : List UInt8) : Except Utf8Error String :=
  (decodeUtf8From 0 none bytes).map String.ofList

/-- The wording of a fault. -/
def Utf8Fault.message : Utf8Fault → String
  | .startByte => "invalid start byte"
  | .continuationByte => "invalid continuation byte"
  | .truncated => "unexpected end of data"

/-- The wording of an error: the byte when one is at fault, and the positions when several are. -/
def Utf8Error.message (e : Utf8Error) : String :=
  let place :=
    if e.length == 1 then
      "byte 0x" ++ String.ofList (hex 2 e.byte.toNat) ++ " in position " ++ toString e.position
    else
      "bytes in position " ++ toString e.position ++ "-" ++
        toString (e.position + e.length - 1)
  "'utf-8' codec can't decode " ++ place ++ ": " ++ e.fault.message

/-- The text with every line ending (a carriage return and a line feed, or either alone) written as
a line feed. -/
def unifyLineEndings : List Char → List Char
  | [] => []
  | '\r' :: '\n' :: cs => '\n' :: unifyLineEndings cs
  | '\r' :: cs => '\n' :: unifyLineEndings cs
  | c :: cs => c :: unifyLineEndings cs

end FixBindings.Text
