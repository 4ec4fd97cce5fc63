import FixBindings.Text.Utf8
import FixBindings.Yaml.Scalar

/-!
# Tokens of a YAML text

The tokens of a text. Blocks are marked by tokens of their own where their indentation starts and
ends, and a key in front of a colon by a token that stands before the key.
-/

namespace FixBindings.Yaml

open Text

/-- A line that tells how to read the document after it. -/
inductive Directive where
  /-- The version of the notation. -/
  | version (major : Nat)
  /-- What a handle of tags stands for. -/
  | tag (handle uri : List Char)
  /-- A directive that changes nothing. -/
  | other
  deriving DecidableEq, Repr

/-- A token. -/
inductive Token where
  | directive (d : Directive)
  | documentStart
  | documentEnd
  | textEnd
  | blockSequenceStart
  | blockMappingStart
  | blockEnd
  | flowSequenceStart
  | flowSequenceEnd
  | flowMappingStart
  | flowMappingEnd
  | entry
  | separator
  | key
  | value
  | alias (name : List Char)
  | anchor (name : List Char)
  | tag (handle : Option (List Char)) (suffix : List Char)
  | scalar (text : List Char) (plain : Bool)
  deriving DecidableEq, Repr

/-- The tokens of a text, or those in front of its first error. -/
structure Scan where
  /-- The tokens. -/
  tokens : List Token
  /-- The error, when there is one. -/
  fault : Option Error

/-! ## Names, tags and directives -/

/-- The name behind the indicator of an anchor or an alias. -/
def nameAt (c : Cursor) : Except Error (List Char × Cursor) :=
  let (name, c) := c.next.span isNameChar
  let ch := c.peek 0
  if name.isEmpty then .error .malformed
  else if isBlankOrEnd ch || ['?', ':', ',', ']', '\x7d', '%', '@', '\x60'].contains ch then
    .ok (name, c)
  else .error .malformed

/-- Whether a character may stand in the suffix of a tag. -/
def isTagChar (ch : Char) : Bool :=
  ch.isAlphanum || "-;/?:@&=+$,_.!~*'()[]%".toList.contains ch

/-- The bytes of a run of percent escapes in front. -/
def percentBytes : Nat → Cursor → Except Error (List UInt8 × Cursor)
  | 0, _ => .error .malformed
  | fuel + 1, c =>
    if c.peek 0 == '%' then
      match hexDigit? (c.peek 1), hexDigit? (c.peek 2) with
      | some a, some b => do
        let (bs, c) ← percentBytes fuel (c.advance 3)
        return (UInt8.ofNat (16 * a + b) :: bs, c)
      | _, _ => .error .malformed
    else .ok ([], c)

/-- Read the next part of the suffix of a tag. -/
def tagSuffixStep (s : List Char × Cursor) :
    Except Error ((List Char × Cursor) ⊕ (List Char × Cursor)) :=
  let (text, c) := s
  let ch := c.peek 0
  if ch == '%' then do
    let (bytes, c) ← percentBytes (c.rest.length + 1) c
    match decodeUtf8From 0 none bytes with
    | .ok cs => return .inl (text ++ cs, c)
    | .error _ => throw .malformed
  else if !c.atEnd && isTagChar ch then .ok (.inl (text ++ [ch], c.next))
  else if text.isEmpty then .error .malformed
  else .ok (.inr (text, c))

/-- The suffix of a tag in front. -/
def tagSuffixAt (c : Cursor) : Except Error (List Char × Cursor) :=
  stepping tagSuffixStep (c.rest.length + 1) ([], c)

/-- The handle of a tag in front: an exclamation mark, or a name between two. -/
def tagHandleAt (c : Cursor) : Except Error (List Char × Cursor) :=
  if c.peek 0 != '!' then .error .malformed
  else if c.peek 1 == ' ' then .ok (['!'], c.next)
  else
    let (name, c) := c.next.span isNameChar
    if c.peek 0 == '!' then .ok (['!'] ++ name ++ ['!'], c.next) else .error .malformed

/-- The tag in front: a whole name between angle brackets, a single exclamation mark, or a handle
with a suffix. -/
def tagAt (c : Cursor) : Except Error (Token × Cursor) := do
  let (token, c) ←
    if c.peek 1 == '<' then do
      let (suffix, c) ← tagSuffixAt (c.advance 2)
      if c.peek 0 == '>' then pure (Token.tag none suffix, c.next) else throw .malformed
    else if isBlankOrEnd (c.peek 1) then pure (Token.tag none ['!'], c.next)
    else do
      let word := c.next.rest.takeWhile fun ch ↦ !isSpaceOrEnd ch
      let (handle, c) ← if word.contains '!' then tagHandleAt c else pure (['!'], c.next)
      let (suffix, c) ← tagSuffixAt c
      pure (Token.tag (some handle) suffix, c)
  if isSpaceOrEnd (c.peek 0) then return (token, c) else throw .malformed

/-- The number in front. -/
def numberAt (c : Cursor) : Except Error (Nat × Cursor) :=
  let (ds, c) := c.span Char.isDigit
  if ds.isEmpty then .error .malformed
  else if Number.maxIntegerDigits < ds.length then .error (.integerTooLong ds.length)
  else .ok (Number.ofDigits 10 (ds.map fun d ↦ d.toNat - 0x30), c)

/-- The directive in front, with the rest of its line. -/
def directiveAt (c : Cursor) : Except Error (Token × Cursor) := do
  let (name, c) := c.next.span isNameChar
  if name.isEmpty || !isSpaceOrEnd (c.peek 0) then throw .malformed
  let (directive, c) ←
    if name == "YAML".toList then do
      let (major, c) ← numberAt c.skipSpaces
      if c.peek 0 != '.' then throw .malformed
      let (_, c) ← numberAt c.next
      if isSpaceOrEnd (c.peek 0) then pure (Directive.version major, c) else throw .malformed
    else if name == "TAG".toList then do
      let (handle, c) ← tagHandleAt c.skipSpaces
      if c.peek 0 != ' ' then throw .malformed
      let (uri, c) ← tagSuffixAt c.skipSpaces
      if isSpaceOrEnd (c.peek 0) then pure (Directive.tag handle uri, c) else throw .malformed
    else pure (Directive.other, c.skip fun ch ↦ !isBreakOrEnd ch)
  return (.directive directive, ← ignoredLine c)

/-! ## The state between two tokens -/

/-- A place where a key may have started. -/
structure KeyStart where
  /-- How many tokens stand before it. -/
  position : Nat
  /-- Whether the indentation of the block demands a key there. -/
  required : Bool
  /-- The offset in the text. -/
  offset : Nat
  /-- The line. -/
  line : Nat
  /-- The column. -/
  column : Nat

/-- What has been read of a text. -/
structure State where
  /-- Where the next token is looked for. -/
  cursor : Cursor
  /-- The tokens so far. -/
  tokens : Array Token
  /-- How many brackets and braces are open. -/
  flowLevel : Nat
  /-- The column of the innermost block, `-1` outside of blocks. -/
  indent : Int
  /-- The columns of the blocks around it. -/
  outer : List Int
  /-- Whether a key may start here. -/
  keyAllowed : Bool
  /-- The places where a key may have started, with the flow level of each. -/
  keys : List (Nat × KeyStart)

namespace State

/-- The state before the first token. -/
def start (text : List Char) : State :=
  let c : Cursor := ⟨text, 0, 0, 0⟩
  ⟨if c.peek 0 == '\uFEFF' then c.next else c, #[], 0, -1, [], true, []⟩

/-- The state with one more token, which ends at `c`. -/
def push (s : State) (t : Token) (c : Cursor) : State :=
  { s with tokens := s.tokens.push t, cursor := c }

/-- Pass over the spaces, comments and line ends in front. Outside of brackets a key may start on a
new line. -/
def skipToToken (s : State) : Nat → State
  | 0 => s
  | fuel + 1 =>
    let c := s.cursor.skipSpaces.skipComment
    match c.lineBreak? with
    | some (_, c) =>
      skipToToken { s with cursor := c, keyAllowed := s.keyAllowed || s.flowLevel == 0 } fuel
    | none => { s with cursor := c }

/-- Give up the places whose key would span more than one line or 1024 characters. -/
def dropStaleKeys (s : State) : Except Error State :=
  let isStale (k : KeyStart) : Bool :=
    k.line != s.cursor.line || 1024 < s.cursor.offset - k.offset
  if s.keys.any fun k ↦ isStale k.2 && k.2.required then .error .malformed
  else .ok { s with keys := s.keys.filter fun k ↦ !isStale k.2 }

/-- Close the blocks that are indented by more than `column`. -/
def closeBlocks (column : Int) : List Int → State → State
  | [], s => s
  | outer :: outers, s =>
    if column < s.indent then
      closeBlocks column outers
        { s with tokens := s.tokens.push .blockEnd, indent := outer, outer := outers }
    else s

/-- Close the blocks that are indented by more than `column`, outside of brackets. -/
def unwind (s : State) (column : Int) : State :=
  if s.flowLevel == 0 then closeBlocks column s.outer s else s

/-- Open a block at `column` when it is indented by more than the one around it. -/
def indentTo (s : State) (column : Nat) : Bool × State :=
  if s.indent < column then
    (true, { s with indent := column, outer := s.indent :: s.outer })
  else (false, s)

/-- Give up the place of the key of this flow level. -/
def dropKey (s : State) : Except Error State :=
  match s.keys.lookup s.flowLevel with
  | some k =>
    if k.required then .error .malformed
    else .ok { s with keys := s.keys.filter fun k ↦ k.1 != s.flowLevel }
  | none => .ok s

/-- Note that a key may start here, if one may. -/
def noteKey (s : State) : Except Error State :=
  if s.keyAllowed then do
    let s ← s.dropKey
    let c := s.cursor
    let required := s.flowLevel == 0 && s.indent == c.column
    return { s with
      keys := (s.flowLevel, ⟨s.tokens.size, required, c.offset, c.line, c.column⟩) :: s.keys }
  else .ok s

/-! ## One token -/

/-- The end of the text. -/
def endText (s : State) : Except Error State := do
  let s ← (s.unwind (-1)).dropKey
  return s.push .textEnd s.cursor

/-- A directive. -/
def pushDirective (s : State) : Except Error State := do
  let s ← (s.unwind (-1)).dropKey
  let (t, c) ← directiveAt s.cursor
  return { s.push t c with keyAllowed := false }

/-- A line that separates documents. -/
def pushMarker (s : State) (t : Token) : Except Error State := do
  let s ← (s.unwind (-1)).dropKey
  return { s.push t (s.cursor.advance 3) with keyAllowed := false }

/-- An opening bracket or brace. -/
def openFlow (s : State) (t : Token) : Except Error State := do
  let s ← s.noteKey
  return { s.push t s.cursor.next with flowLevel := s.flowLevel + 1, keyAllowed := true }

/-- A closing bracket or brace. Outside of all brackets there is nothing to close. -/
def closeFlow (s : State) (t : Token) : Except Error State := do
  let s ← s.dropKey
  if s.flowLevel == 0 then throw .malformed
  return { s.push t s.cursor.next with flowLevel := s.flowLevel - 1, keyAllowed := false }

/-- A comma. -/
def pushSeparator (s : State) : Except Error State := do
  let s ← s.dropKey
  return { s.push .separator s.cursor.next with keyAllowed := true }

/-- Open a block of the kind `t` at the cursor, outside of brackets and where a key may start. -/
def openBlock (s : State) (t : Token) : Except Error State :=
  if s.flowLevel != 0 then .ok s
  else if !s.keyAllowed then .error .malformed
  else
    match s.indentTo s.cursor.column with
    | (true, s) => .ok (s.push t s.cursor)
    | (false, s) => .ok s

/-- The hyphen of an entry of a block sequence. -/
def pushEntry (s : State) : Except Error State := do
  let s ← s.openBlock .blockSequenceStart
  let s ← s.dropKey
  return { s.push .entry s.cursor.next with keyAllowed := true }

/-- The question mark of a key. -/
def pushKey (s : State) : Except Error State := do
  let s ← s.openBlock .blockMappingStart
  let s ← s.dropKey
  return { s.push .key s.cursor.next with keyAllowed := s.flowLevel == 0 }

/-- The colon of a value. When a key may have started on this line, the token of the key is put
there, behind the start of a block when the key is indented by more than the block around it. -/
def pushValue (s : State) : Except Error State :=
  match s.keys.lookup s.flowLevel with
  | some k =>
    let s := { s with keys := s.keys.filter fun k ↦ k.1 != s.flowLevel }
    let (opened, s) := if s.flowLevel == 0 then s.indentTo k.column else (false, s)
    let new := if opened then #[Token.blockMappingStart, .key] else #[Token.key]
    let tokens := s.tokens.extract 0 k.position ++ new ++ s.tokens.extract k.position s.tokens.size
    .ok { ({ s with tokens }).push .value s.cursor.next with keyAllowed := false }
  | none => do
    let s ← s.openBlock .blockMappingStart
    return { s.push .value s.cursor.next with keyAllowed := s.flowLevel == 0 }

/-- A token that may be a key or a part of one, with the place behind it. -/
def pushNode (s : State) (read : Cursor → Except Error (Token × Cursor)) : Except Error State := do
  let s ← s.noteKey
  let (t, c) ← read s.cursor
  return { s.push t c with keyAllowed := false }

/-- A block scalar. -/
def pushBlock (s : State) : Except Error State := do
  let s ← s.dropKey
  let (text, c) ← blockAt s.indent s.cursor
  return { s.push (.scalar text false) c with keyAllowed := true }

/-- A plain scalar. -/
def pushPlain (s : State) : Except Error State := do
  let s ← s.noteKey
  let p ← plainAt (s.flowLevel != 0) (s.indent + 1) s.cursor
  return { s.push (.scalar p.text true) p.cursor with keyAllowed := p.broken }

/-- Whether a plain scalar starts with `ch`, after which `d` follows. -/
def startsPlain (inFlow : Bool) (ch d : Char) : Bool :=
  !(isBlankOrEnd ch || "-?:,[]\x7b\x7d#&*!|>'\"%@\x60".toList.contains ch) ||
    (!isBlankOrEnd d && (ch == '-' || (!inFlow && (ch == '?' || ch == ':'))))

/-- Read the next token; the second part tells whether it is the end of the text. -/
def step (s : State) : Except Error (State × Bool) := do
  let s ← (s.skipToToken (s.cursor.rest.length + 1)).dropStaleKeys
  let c := s.cursor
  let s := s.unwind c.column
  if c.atEnd then return (← s.endText, true)
  let inFlow := s.flowLevel != 0
  let ch := c.peek 0
  let alone := isBlankOrEnd (c.peek 1)
  let s ←
    if ch == '%' && c.column == 0 then s.pushDirective
    else if c.column == 0 && c.atMarker '-' then s.pushMarker .documentStart
    else if c.column == 0 && c.atMarker '.' then s.pushMarker .documentEnd
    else if ch == '[' then s.openFlow .flowSequenceStart
    else if ch == '\x7b' then s.openFlow .flowMappingStart
    else if ch == ']' then s.closeFlow .flowSequenceEnd
    else if ch == '\x7d' then s.closeFlow .flowMappingEnd
    else if ch == ',' then s.pushSeparator
    else if ch == '-' && alone then s.pushEntry
    else if ch == '?' && (inFlow || alone) then s.pushKey
    else if ch == ':' && (inFlow || alone) then s.pushValue
    else if ch == '*' then s.pushNode fun c ↦ do
      let (name, c) ← nameAt c
      return (.alias name, c)
    else if ch == '&' then s.pushNode fun c ↦ do
      let (name, c) ← nameAt c
      return (.anchor name, c)
    else if ch == '!' then s.pushNode tagAt
    else if (ch == '|' || ch == '>') && !inFlow then s.pushBlock
    else if ch == '\'' || ch == '"' then s.pushNode fun c ↦ do
      let (text, c) ← quotedAt c
      return (.scalar text false, c)
    else if startsPlain inFlow ch (c.peek 1) then s.pushPlain
    else throw .malformed
  return (s, false)

/-- The tokens that nothing can come in front of any more: those before the first place where a key
may have started. -/
def settled (s : State) : List Token :=
  let keys := match s.dropStaleKeys with
    | .ok s => s.keys
    | .error _ => s.keys
  s.tokens.toList.take (keys.foldl (fun n k ↦ min n k.2.position) s.tokens.size)

/-- The tokens from a state on. The first argument bounds their number. -/
def run : Nat → State → Scan
  | 0, s => ⟨s.settled, some .malformed⟩
  | fuel + 1, s =>
    match s.step with
    | .ok (s, true) => ⟨s.tokens.toList, none⟩
    | .ok (s, false) => run fuel s
    | .error e => ⟨s.settled, some e⟩

end State

/-- Whether a character may stand in a text. -/
def isAllowed (c : Char) : Bool :=
  let n := c.toNat
  n == 0x09 || n == 0x0A || n == 0x0D || (0x20 ≤ n && n ≤ 0x7E) || n == 0x85 ||
    (0xA0 ≤ n && n ≤ 0xFFFD) || 0x10000 ≤ n

/-- The tokens of a text. Each takes at least one character. -/
def tokensOf (text : List Char) : Scan :=
  if text.all isAllowed then (State.start text).run (text.length + 1) else ⟨[], some .malformed⟩

end FixBindings.Yaml
