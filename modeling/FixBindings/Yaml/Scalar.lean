import FixBindings.Text.Surrogate
import FixBindings.Yaml.Cursor
import FixBindings.Yaml.Error

/-!
# Scalars in a YAML text

The three notations of a scalar: plain, between quotes, and as a block of indented lines. Each
reader gives the spelling of the scalar and the cursor behind it. A single line end inside of a plain or
quoted scalar reads as a space, and each further one as itself.
-/

namespace FixBindings.Yaml

open Text

variable {σ α : Type _}

/-- Take steps until one answers. The first argument bounds their number. -/
def stepping (step : σ → Except Error (σ ⊕ α)) : Nat → σ → Except Error α
  | 0, _ => .error .malformed
  | fuel + 1, s => do
    match ← step s with
    | .inl s => stepping step fuel s
    | .inr a => return a

/-- What a run of line ends, the first of which is `first`, adds to a scalar that is written over
several lines. -/
def foldBreaks (first : Char) (others : List Char) : List Char :=
  if first != '\n' then first :: others
  else if others.isEmpty then [' ']
  else others

/-! ## Plain scalars -/

/-- Whether a plain scalar ends before the character `c`, after which `cs` follows. -/
def endsPlain (inFlow : Bool) (c : Char) (cs : List Char) : Bool :=
  let d := cs.headD '\x00'
  isBlankOrEnd c ||
    (c == ':' && (isBlankOrEnd d || (inFlow && [',', '[', ']', '\x7b', '\x7d'].contains d))) ||
    (inFlow && [',', '?', '[', ']', '\x7b', '\x7d'].contains c)

/-- How many characters in front belong to a plain scalar on one line without spaces. -/
def plainLength (inFlow : Bool) : List Char → Nat
  | [] => 0
  | c :: cs => if endsPlain inFlow c cs then 0 else plainLength inFlow cs + 1

/-- What stands between two parts of a plain scalar. -/
structure Gap where
  /-- What the gap adds to the text; nothing when the scalar ends here. -/
  text : List Char
  /-- The cursor behind the gap. -/
  cursor : Cursor
  /-- Whether the gap holds a line end. -/
  broken : Bool

/-- The further line ends and the indentation after the first line end of a gap, or nothing when a
line that separates documents comes. -/
def gapBreaks : Nat → Cursor → Option (List Char) × Cursor
  | 0, c => (none, c)
  | fuel + 1, c =>
    if c.atSeparator then (none, c)
    else
      let c := c.skipSpaces
      match c.lineBreak? with
      | some (b, c) =>
        let (bs, c) := gapBreaks fuel c
        (bs.map (b :: ·), c)
      | none => (some [], c)

/-- The gap in front. -/
def gapAt (c : Cursor) : Gap :=
  let (spaces, c) := c.span (· == ' ')
  match c.lineBreak? with
  | none => ⟨spaces, c, false⟩
  | some (b, c) =>
    match gapBreaks (c.rest.length + 1) c with
    | (none, c) => ⟨[], c, true⟩
    | (some bs, c) => ⟨foldBreaks b bs, c, true⟩

/-- A plain scalar that has been read in part. -/
structure PlainState where
  /-- What has been read. -/
  text : List Char
  /-- What stands between this and the next part. -/
  gap : List Char
  /-- Where the next part starts. -/
  cursor : Cursor
  /-- Whether a line has ended since the last part. -/
  broken : Bool

/-- Read the next part of a plain scalar. In a block a part must be indented by `indent`. -/
def plainStep (inFlow : Bool) (indent : Int) (s : PlainState) :
    Except Error (PlainState ⊕ PlainState) :=
  let n := plainLength inFlow s.cursor.rest
  if s.cursor.peek 0 == '#' || n == 0 then .ok (.inr s)
  else
    let text := s.text ++ s.gap ++ (s.cursor.rest.take n).flatMap spellChar
    let gap := gapAt (s.cursor.advance n)
    let s : PlainState := ⟨text, gap.text, gap.cursor, gap.broken⟩
    if gap.text.isEmpty || gap.cursor.peek 0 == '#' ||
        (!inFlow && (gap.cursor.column : Int) < indent) then .ok (.inr s)
    else .ok (.inl s)

/-- The plain scalar in front. -/
def plainAt (inFlow : Bool) (indent : Int) (c : Cursor) : Except Error PlainState :=
  stepping (plainStep inFlow indent) (c.rest.length + 1) ⟨[], [], c, false⟩

/-! ## Quoted scalars -/

/-- The character of a one-letter escape. -/
def escapedChar? (c : Char) : Option Char :=
  [('0', '\x00'), ('a', '\x07'), ('b', '\x08'), ('t', '\t'), ('\t', '\t'), ('n', '\n'),
    ('v', '\x0b'), ('f', '\x0c'), ('r', '\r'), ('e', '\x1b'), (' ', ' '), ('"', '"'),
    ('\\', '\\'), ('/', '/'), ('N', '\x85'), ('_', '\xa0'), ('L', '\u2028'),
    ('P', '\u2029')].lookup c

/-- How many hexadecimal digits follow the letter of an escape by number. -/
def escapeWidth? (c : Char) : Option Nat :=
  [('x', 2), ('u', 4), ('U', 8)].lookup c

/-- The spelling of the code point of a number. The halves of a surrogate pair are not joined. -/
def codePoint (n : Nat) : Except Error (List Char) :=
  if 0x80000000 ≤ n then .error .characterNumberTooLarge
  else if 0x110000 ≤ n then .error .characterNumber
  else .ok (spellNumber n)

/-- The line ends and the blanks in front, inside of quotes, where no line may separate
documents. -/
def quotedBreaks : Nat → Cursor → Except Error (List Char × Cursor)
  | 0, _ => .error .malformed
  | fuel + 1, c =>
    if c.atSeparator then .error .malformed
    else
      let c := c.skip fun ch ↦ ch == ' ' || ch == '\t'
      match c.lineBreak? with
      | some (b, c) => do
        let (bs, c) ← quotedBreaks fuel c
        return (b :: bs, c)
      | none => .ok ([], c)

/-- The blanks and line ends in front, inside of quotes. -/
def quotedGap (c : Cursor) : Except Error (List Char × Cursor) :=
  let (blanks, c) := c.span fun ch ↦ ch == ' ' || ch == '\t'
  if c.atEnd then .error .malformed
  else
    match c.lineBreak? with
    | some (b, c) => do
      let (bs, c) ← quotedBreaks (c.rest.length + 1) c
      return (foldBreaks b bs, c)
    | none => .ok (blanks, c)

/-- The escape in front, behind its backslash. -/
def escapeAt (c : Cursor) : Except Error (List Char × Cursor) :=
  match escapedChar? (c.peek 0), escapeWidth? (c.peek 0) with
  | some ch, _ => .ok ([ch], c.next)
  | none, some width =>
    let digits := c.next.rest.take width
    match Text.hexValue? digits with
    | some n =>
      if digits.length < width then .error .malformed
      else do return (← codePoint n, c.advance (width + 1))
    | none => .error .malformed
  | none, none =>
    match c.lineBreak? with
    | some (_, c) => quotedBreaks (c.rest.length + 1) c
    | none => .error .malformed

/-- Read the next part of a scalar between the quotes `quote`. -/
def quotedStep (quote : Char) (s : List Char × Cursor) :
    Except Error ((List Char × Cursor) ⊕ (List Char × Cursor)) := do
  let (text, c) := s
  match c.rest with
  | [] => throw .malformed
  | ch :: _ =>
    if ch == quote then
      if quote == '\'' && c.peek 1 == '\'' then return .inl (text ++ ['\''], c.advance 2)
      else return .inr (text, c.next)
    else if ch == '\\' && quote == '"' then
      let (more, c) ← escapeAt c.next
      return .inl (text ++ more, c)
    else if isBlankOrEnd ch then
      let (more, c) ← quotedGap c
      return .inl (text ++ more, c)
    else return .inl (text ++ spellChar ch, c.next)

/-- The scalar between quotes in front. -/
def quotedAt (c : Cursor) : Except Error (List Char × Cursor) :=
  stepping (quotedStep (c.peek 0)) (c.rest.length + 1) ([], c.next)

/-! ## Block scalars -/

/-- What becomes of the line ends after the last line of a block. -/
inductive Chomping where
  /-- None stays. -/
  | strip
  /-- One stays. -/
  | clip
  /-- All stay. -/
  | keep
  deriving DecidableEq, Repr

/-- The chomping that an indicator asks for. -/
def chomping? : Char → Option Chomping
  | '+' => some .keep
  | '-' => some .strip
  | _ => none

/-- The indicators of a block scalar: its chomping and its indentation, in either order. -/
def blockHeader (c : Cursor) : Except Error (Chomping × Option Nat × Cursor) := do
  let digit (c : Cursor) : Except Error (Option Nat × Cursor) :=
    let ch := c.peek 0
    if ch == '0' then .error .malformed
    else if ch.isDigit then .ok (some (ch.toNat - 0x30), c.next)
    else .ok (none, c)
  let (chomping, increment, c) ← match chomping? (c.peek 0) with
    | some chomping => do
      let (n, c) ← digit c.next
      pure (chomping, n, c)
    | none => do
      let (n, c) ← digit c
      match n, chomping? (c.peek 0) with
      | some n, some chomping => pure (chomping, some n, c.next)
      | n, _ => pure (.clip, n, c)
  if isSpaceOrEnd (c.peek 0) then return (chomping, increment, c) else throw .malformed

/-- The rest of a line that may hold a comment only, with its line end. -/
def ignoredLine (c : Cursor) : Except Error Cursor :=
  let c := c.skipSpaces.skipComment
  match c.lineBreak? with
  | some (_, c) => .ok c
  | none => if c.atEnd then .ok c else .error .malformed

/-- The empty lines in front, the greatest column that their spaces or those of the first other line
reach, and the cursor behind them. -/
def leadingLines : Nat → Nat → Cursor → List Char × Nat × Cursor
  | 0, deepest, c => ([], deepest, c)
  | fuel + 1, deepest, c =>
    let c := c.skipSpaces
    let deepest := max deepest c.column
    match c.lineBreak? with
    | some (b, c) =>
      let (bs, deepest, c) := leadingLines fuel deepest c
      (b :: bs, deepest, c)
    | none => ([], deepest, c)

/-- The cursor behind at most `n` spaces. -/
def skipUpTo : Nat → Cursor → Cursor
  | 0, c => c
  | n + 1, c => if c.peek 0 == ' ' then skipUpTo n c.next else c

/-- The empty lines in front, and the cursor behind them and behind the indentation `indent` of the
next line. -/
def emptyLines (indent : Nat) : Nat → Cursor → List Char × Cursor
  | 0, c => ([], c)
  | fuel + 1, c =>
    let c := skipUpTo (indent - c.column) c
    match c.lineBreak? with
    | some (b, c) =>
      let (bs, c) := emptyLines indent fuel c
      (b :: bs, c)
    | none => ([], c)

/-- A block scalar that has been read in part. -/
structure BlockState where
  /-- The lines that have been read. -/
  text : List Char
  /-- The end of the last line. -/
  lineEnd : List Char
  /-- The empty lines after it. -/
  breaks : List Char
  /-- Where the next line starts. -/
  cursor : Cursor

/-- Whether the cursor stands on a line of a block. -/
def onBlockLine (indent : Nat) (c : Cursor) : Bool :=
  c.column == indent && !c.atEnd

/-- Read the next line of a block. In a folded block the end of a line reads as a space, or as
nothing before empty lines, unless one of the two lines starts with a blank. -/
def blockStep (folded : Bool) (indent : Nat) (s : BlockState) :
    Except Error (BlockState ⊕ BlockState) :=
  let isBlankChar (ch : Char) : Bool := ch == ' ' || ch == '\t'
  let (line, c) := s.cursor.span fun ch ↦ !isBreakOrEnd ch
  let text := s.text ++ s.breaks ++ line.flatMap spellChar
  let (lineEnd, c) := match c.lineBreak? with
    | some (b, c) => ([b], c)
    | none => ([], c)
  let (breaks, c) := emptyLines indent (c.rest.length + 1) c
  if onBlockLine indent c then
    let joint :=
      if folded && lineEnd == ['\n'] && !isBlankChar (s.cursor.peek 0) &&
          !isBlankChar (c.peek 0) then
        if breaks.isEmpty then [' '] else []
      else lineEnd
    .ok (.inl ⟨text ++ joint, lineEnd, breaks, c⟩)
  else .ok (.inr ⟨text, lineEnd, breaks, c⟩)

/-- The block scalar in front, in a block that is indented by `parent` columns or, at the top, by
`-1`. -/
def blockAt (parent : Int) (c : Cursor) : Except Error (List Char × Cursor) := do
  let folded := c.peek 0 == '>'
  let (chomping, increment, c) ← blockHeader c.next
  let c ← ignoredLine c
  let least := (max (parent + 1) 1).toNat
  let (indent, breaks, c) := match increment with
    | some n =>
      let indent := least + n - 1
      let (breaks, c) := emptyLines indent (c.rest.length + 1) c
      (indent, breaks, c)
    | none =>
      let (breaks, deepest, c) := leadingLines (c.rest.length + 1) 0 c
      (max least deepest, breaks, c)
  let start : BlockState := ⟨[], [], breaks, c⟩
  let s ←
    if onBlockLine indent c then stepping (blockStep folded indent) (c.rest.length + 1) start
    else pure start
  let tail := match chomping with
    | .strip => []
    | .clip => s.lineEnd
    | .keep => s.lineEnd ++ s.breaks
  return (s.text ++ tail, s.cursor)

end FixBindings.Yaml
