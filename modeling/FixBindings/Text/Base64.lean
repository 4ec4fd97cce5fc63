/-!
# Base 64

Bytes written as characters of six bits each. What is not such a character is passed over, and equals
signs fill up the last group of four.
-/

namespace FixBindings.Text

/-- The six bits of a character. -/
def base64Value? (c : Char) : Option Nat :=
  let n := c.toNat
  if c.isUpper then some (n - 0x41)
  else if c.isLower then some (n - 0x61 + 26)
  else if c.isDigit then some (n - 0x30 + 52)
  else if c == '+' then some 62
  else if c == '/' then some 63
  else none

/-- The bytes that a text writes, where `position` characters of a group of four have been read,
`left` holds the bits of them that no byte has taken, and `pads` equals signs have followed. The text
ends where a group is filled up; a group that stays open makes it no text of bytes. -/
def decodeBase64From (position left pads : Nat) : List Char → Option (List UInt8)
  | [] => if position = 0 then some [] else none
  | c :: cs =>
    if c = '=' then
      if position < 2 then decodeBase64From position left pads cs
      else if 4 ≤ position + pads + 1 then some []
      else decodeBase64From position left (pads + 1) cs
    else
      match base64Value? c with
      | none => decodeBase64From position left pads cs
      | some v =>
        match position with
        | 0 => decodeBase64From 1 v 0 cs
        | 1 => (decodeBase64From 2 (v % 16) 0 cs).map (UInt8.ofNat (4 * left + v / 16) :: ·)
        | 2 => (decodeBase64From 3 (v % 4) 0 cs).map (UInt8.ofNat (16 * left + v / 4) :: ·)
        | _ => (decodeBase64From 0 0 0 cs).map (UInt8.ofNat (64 * left + v) :: ·)

/-- The bytes that an ASCII text writes. -/
def decodeBase64 (cs : List Char) : Option (List UInt8) :=
  if cs.all fun c ↦ c.toNat < 0x80 then decodeBase64From 0 0 0 cs else none

end FixBindings.Text
