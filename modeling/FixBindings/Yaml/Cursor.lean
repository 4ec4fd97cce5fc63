/-!
# Places in a YAML text

The rest of a text with the line and the column where it starts, and the classes of characters that
the notation tells apart. The character after the last one is NUL, which no text may hold.
-/

namespace FixBindings.Yaml

/-- Whether a character ends a line. -/
def isBreak (c : Char) : Bool :=
  c == '\n' || c == '\x85' || c == '\u2028' || c == '\u2029'

/-- Whether a character ends a line or the text. -/
def isBreakOrEnd (c : Char) : Bool :=
  c == '\x00' || isBreak c

/-- Whether a character is a space, ends a line or ends the text. -/
def isSpaceOrEnd (c : Char) : Bool :=
  c == ' ' || isBreakOrEnd c

/-- Whether a character is a space or a tab, ends a line or ends the text. -/
def isBlankOrEnd (c : Char) : Bool :=
  c == '\t' || isSpaceOrEnd c

/-- Whether a character may stand in a name: an ASCII letter or digit, a hyphen or an underscore. -/
def isNameChar (c : Char) : Bool :=
  c.isAlphanum || c == '-' || c == '_'

/-- The rest of a text and where it starts. -/
structure Cursor where
  /-- The characters that are left. -/
  rest : List Char
  /-- The number of characters before. -/
  offset : Nat
  /-- The number of line ends before. -/
  line : Nat
  /-- The number of characters before on this line; byte order marks do not count. -/
  column : Nat

namespace Cursor

/-- The character that comes `k` places later. -/
def peek (c : Cursor) (k : Nat) : Char :=
  c.rest.getD k '\x00'

/-- Whether nothing is left. -/
def atEnd (c : Cursor) : Bool :=
  c.rest.isEmpty

/-- The cursor behind the next character. -/
def next (c : Cursor) : Cursor :=
  match c.rest with
  | [] => c
  | ch :: cs =>
    if isBreak ch then ⟨cs, c.offset + 1, c.line + 1, 0⟩
    else if ch == '\uFEFF' then ⟨cs, c.offset + 1, c.line, c.column⟩
    else ⟨cs, c.offset + 1, c.line, c.column + 1⟩

/-- The cursor behind `n` more characters. -/
def advance : Nat → Cursor → Cursor
  | 0, c => c
  | n + 1, c => advance n c.next

/-- The characters in front that satisfy `p`, and the cursor behind them. -/
def span (p : Char → Bool) (c : Cursor) : List Char × Cursor :=
  let cs := c.rest.takeWhile p
  (cs, advance cs.length c)

/-- The cursor behind the characters in front that satisfy `p`. -/
def skip (p : Char → Bool) (c : Cursor) : Cursor :=
  (c.span p).2

/-- The cursor behind the spaces in front. -/
def skipSpaces (c : Cursor) : Cursor :=
  c.skip (· == ' ')

/-- The cursor behind a comment, when one stands in front. -/
def skipComment (c : Cursor) : Cursor :=
  if c.peek 0 == '#' then c.skip fun ch ↦ !isBreakOrEnd ch else c

/-- The line end in front, with every one but the two Unicode separators written as a line feed, and
the cursor behind it. -/
def lineBreak? (c : Cursor) : Option (Char × Cursor) :=
  match c.rest with
  | ch :: _ =>
    if ch == '\n' || ch == '\x85' then some ('\n', c.next)
    else if isBreak ch then some (ch, c.next)
    else none
  | [] => none

/-- Whether three hyphens, or three points, stand in front as a word of their own. -/
def atMarker (mark : Char) (c : Cursor) : Bool :=
  c.peek 0 == mark && c.peek 1 == mark && c.peek 2 == mark && isBlankOrEnd (c.peek 3)

/-- Whether a line that starts here separates documents. -/
def atSeparator (c : Cursor) : Bool :=
  c.atMarker '-' || c.atMarker '.'

end Cursor

end FixBindings.Yaml
