import FixBindings.Calendar.Timestamp
import FixBindings.Number.Integer

/-!
# Types of YAML values

The type of a node, which a tag names or which the form of a scalar tells.
-/

namespace FixBindings.Yaml

open Calendar

/-- The type of a node. -/
inductive Tag where
  | null
  | bool
  | int
  | float
  | text
  | bytes
  | timestamp
  | sequence
  | mapping
  /-- A mapping of which only the keys count. -/
  | set
  /-- A sequence of mappings with one entry each. -/
  | pairs
  /-- A key whose value is put into the mapping around it. -/
  | merge
  /-- The key of the main value of a mapping. -/
  | main
  /-- A type that has no values here. -/
  | unknown
  deriving DecidableEq, Repr

/-- The part that the names of all common types share. -/
def commonTags : String := "tag:yaml.org,2002:"

/-- The types that tags name. -/
def namedTags : List (String × Tag) :=
  [("null", .null), ("bool", .bool), ("int", .int), ("float", .float), ("str", .text),
    ("binary", .bytes), ("timestamp", .timestamp), ("seq", .sequence), ("map", .mapping),
    ("set", .set), ("omap", .pairs), ("pairs", .pairs), ("merge", .merge), ("value", .main)]

/-- The type of a name. -/
def Tag.ofName (name : List Char) : Tag :=
  match namedTags.find? fun t ↦ (commonTags ++ t.1).toList == name with
  | some t => t.2
  | none => .unknown

/-! ## Truth values -/

/-- The words for truth values, in lower case. -/
def boolWords : List (String × Bool) :=
  [("yes", true), ("no", false), ("true", true), ("false", false), ("on", true), ("off", false)]

/-- The spellings of a word in lower case, capitalised and in upper case. -/
def spellings (word : String) : List (List Char) :=
  let cs := word.toList
  [cs, (cs.take 1).map Char.toUpper ++ cs.drop 1, cs.map Char.toUpper]

/-- Whether a line is a truth value. -/
def isBool (cs : List Char) : Bool :=
  boolWords.any fun w ↦ (spellings w.1).contains cs

/-! ## Numbers -/

/-- The rest behind a sign, when one stands in front. -/
def unsigned (cs : List Char) : List Char :=
  (Number.splitSign cs).2

/-- Whether a character is an ASCII digit or an underscore. -/
def isDigitOrLine (c : Char) : Bool :=
  c.isDigit || c == '_'

/-- Whether a character is a digit below `base`, for a base up to ten, or an underscore. -/
def isLowDigitOrLine (base : Nat) (c : Char) : Bool :=
  (c.isDigit && c.toNat - 0x30 < base) || c == '_'

/-- The rest behind digits and underscores of which the first is a digit. -/
def afterDigits? : List Char → Option (List Char)
  | [] => none
  | c :: cs => if c.isDigit then some (cs.dropWhile isDigitOrLine) else none

/-- The rest behind parts of a number to the base 60, each a colon and one digit or two below 60. -/
def afterSixtieths : List Char → List Char
  | ':' :: a :: b :: cs =>
    if a.isDigit && a.toNat < 0x36 && b.isDigit then afterSixtieths cs
    else if a.isDigit then afterSixtieths (b :: cs)
    else ':' :: a :: b :: cs
  | [':', a] => if a.isDigit then [] else [':', a]
  | cs => cs

/-- Whether a text is one part or several of a number to the base 60. -/
def isSixtieths (cs : List Char) : Bool :=
  cs.head? == some ':' && (afterSixtieths cs).isEmpty

/-- Whether a line is an integer: binary, octal, decimal, hexadecimal, or to the base 60. -/
def isInt (cs : List Char) : Bool :=
  match unsigned cs with
  | ['0'] => true
  | '0' :: 'b' :: ds => !ds.isEmpty && ds.all (isLowDigitOrLine 2)
  | '0' :: 'x' :: ds =>
    !ds.isEmpty && ds.all fun c ↦ (Text.hexDigit? c).isSome || c == '_'
  | '0' :: ds => ds.all (isLowDigitOrLine 8)
  | c :: ds =>
    c.isDigit &&
      (let rest := ds.dropWhile isDigitOrLine
       rest.isEmpty || isSixtieths rest)
  | [] => false

/-- Whether a text is nothing, or an exponent with a sign. -/
def isExponent (cs : List Char) : Bool :=
  match cs with
  | [] => true
  | e :: sign :: ds =>
    (e == 'e' || e == 'E') && (sign == '+' || sign == '-') && !ds.isEmpty && ds.all Char.isDigit
  | _ => false

/-- Whether a line is a number with a fraction, to the base 10 or 60, an infinity, or not a
number. -/
def isFloat (cs : List Char) : Bool :=
  let body := unsigned cs
  [".inf", ".Inf", ".INF"].any (·.toList == body) ||
    [".nan", ".NaN", ".NAN"].any (·.toList == cs) ||
    (match cs with
      | '.' :: d :: ds => d.isDigit && isExponent (ds.dropWhile isDigitOrLine)
      | _ => false) ||
    (match afterDigits? body with
      | some ('.' :: ds) => isExponent (ds.dropWhile isDigitOrLine)
      | some (':' :: ds) =>
        (match afterSixtieths (':' :: ds) with
          | '.' :: ds => ds.all isDigitOrLine
          | _ => false)
      | _ => false)

/-! ## Days and times -/

/-- One digit or two in front, with their value. -/
def oneOrTwo? : List Char → Option (Nat × List Char)
  | a :: b :: cs =>
    if a.isDigit then
      if b.isDigit then some (10 * (a.toNat - 0x30) + (b.toNat - 0x30), cs)
      else some (a.toNat - 0x30, b :: cs)
    else none
  | [a] => if a.isDigit then some (a.toNat - 0x30, []) else none
  | [] => none

/-- Two digits in front, with their value. -/
def two? : List Char → Option (Nat × List Char)
  | a :: b :: cs =>
    if a.isDigit && b.isDigit then some (10 * (a.toNat - 0x30) + (b.toNat - 0x30), cs) else none
  | _ => none

/-- The rest behind a character. -/
def after? (c : Char) : List Char → Option (List Char)
  | d :: cs => if c = d then some cs else none
  | [] => none

/-- The millionths of a second that the digits after a point stand for. -/
def microsOf (ds : List Char) : Nat :=
  Number.ofDigits 10 (((ds ++ List.replicate 6 '0').take 6).map fun d ↦ d.toNat - 0x30)

/-- Whether a character is a space or a tab. -/
def isSpaceOrTab (c : Char) : Bool :=
  c == ' ' || c == '\t'

/-- The minutes at the end of a zone: nothing, or a colon and two digits. -/
def zoneMinutes? (cs : List Char) : Option Nat :=
  match cs with
  | [] => some 0
  | ':' :: cs => (two? cs).bind fun m ↦ if m.2.isEmpty then some m.1 else none
  | _ => none

/-- The minutes ahead of UTC that a zone at the end stands for: nothing, a `Z`, or a sign with hours
and perhaps minutes. -/
def zone? (cs : List Char) : Option (Option Int) :=
  match cs with
  | [] => some none
  | ['Z'] => some (some 0)
  | sign :: cs => do
    guard (sign == '+' || sign == '-')
    let (hours, cs) ← oneOrTwo? cs
    let minutes ← zoneMinutes? cs
    return some (Number.signed (sign == '-') (60 * hours + minutes))

/-- A day, or a day and a time. -/
inductive Moment where
  | day (date : Date)
  | time (stamp : Timestamp)
  deriving DecidableEq, Repr

/-- The day or the time that a text writes. With `strict`, a day alone must have two digits each for
month and day. -/
def moment? (strict : Bool) (cs : List Char) : Option Moment := do
  let (century, cs) ← two? cs
  let (year, cs) ← two? cs
  let (month, cs₁) ← oneOrTwo? (← after? '-' cs)
  let (day, cs₂) ← oneOrTwo? (← after? '-' cs₁)
  let date : Date := ⟨100 * century + year, month, day⟩
  match cs₂ with
  | [] => if strict && cs.length != 6 then none else return .day date
  | sep :: rest =>
    guard (sep == 'T' || sep == 't' || isSpaceOrTab sep)
    let rest := if isSpaceOrTab sep then rest.dropWhile isSpaceOrTab else rest
    let (hour, rest) ← oneOrTwo? rest
    let (minute, rest) ← two? (← after? ':' rest)
    let (second, rest) ← two? (← after? ':' rest)
    let (fraction, rest) := match rest with
      | '.' :: rest => (rest.takeWhile Char.isDigit, rest.dropWhile Char.isDigit)
      | rest => ([], rest)
    let zone := rest.dropWhile isSpaceOrTab
    guard (zone.isEmpty → rest.isEmpty)
    let offset ← zone? zone
    return .time ⟨⟨date, hour, minute, second⟩, microsOf fraction, offset⟩

/-! ## Types by form -/

/-- The type of a text on one line by its form. -/
def Tag.ofLine (cs : List Char) : Tag :=
  if isBool cs then .bool
  else if isFloat cs then .float
  else if isInt cs then .int
  else if cs == ['<', '<'] then .merge
  else if ["", "~", "null", "Null", "NULL"].any (·.toList == cs) then .null
  else if (moment? true cs).isSome then .timestamp
  else if cs == ['='] then .main
  else if [['!'], ['&'], ['*']].contains cs then .unknown
  else .text

/-- The text without the line feed at its end, when there is one. -/
def withoutLineEnd (cs : List Char) : List Char :=
  if cs.getLast? == some '\n' then cs.dropLast else cs

/-- The type of a scalar by its form, to which a line feed at the end does not count. A line feed
alone is a text. -/
def Tag.ofForm (cs : List Char) : Tag :=
  if cs == ['\n'] then .text else .ofLine (withoutLineEnd cs)

end FixBindings.Yaml
