import FixBindings.Text.Blank
import FixBindings.Text.Case
import FixBindings.Text.Digit

/-!
# References to the documentation of fields

The page that documents a field of a protocol version. Its address holds a short form of the
version: the numbers of `FIX.5.0SP2` as `5.0.sp2`, and any other version in lower case.
-/

namespace FixBindings.Rust

open Text

/-- The numbers of a protocol version. -/
structure VersionNumbers where
  /-- The digits of the major version. -/
  major : List Char
  /-- The digits of the minor version. -/
  minor : List Char
  /-- The digits of the service pack. -/
  servicePack : Option (List Char)
  deriving DecidableEq, Repr

/-- Whether a character is the letter `letter` (given in upper case) without regard to case. The
dotless and the dotted `I` count as an `I`, and the long `s` as an `S`. -/
def isLetter (letter c : Char) : Bool :=
  c.toUpper == letter || (letter == 'I' && (c == 'ı' || c == 'İ')) || (letter == 'S' && c == 'ſ')

/-- The rest behind the letters `letters`, without regard to case. -/
def afterLetters? : List Char → List Char → Option (List Char)
  | [], cs => some cs
  | _ :: _, [] => none
  | l :: ls, c :: cs => if isLetter l c then afterLetters? ls cs else none

/-- The decimal digits in front, at least one, and the rest. -/
def digitsInFront? (cs : List Char) : Option (List Char × List Char) :=
  let ds := cs.takeWhile isDecimalDigit
  if ds.isEmpty then none else some (ds, cs.dropWhile isDecimalDigit)

/-- The rest behind a point. -/
def afterPoint? : List Char → Option (List Char)
  | '.' :: cs => some cs
  | _ => none

/-- The numbers of the versions `FIX.a.b` and `FIXT.a.b`, perhaps with `SPc` at the end, in letters of
any case. -/
def VersionNumbers.read? (cs : List Char) : Option VersionNumbers := do
  let cs ← afterLetters? ['F', 'I', 'X'] cs
  let cs := (afterLetters? ['T'] cs).getD cs
  let (major, cs) ← digitsInFront? (← afterPoint? cs)
  let (minor, cs) ← digitsInFront? (← afterPoint? cs)
  if cs.isEmpty then return ⟨major, minor, none⟩
  let (pack, cs) ← digitsInFront? (← afterLetters? ['S', 'P'] cs)
  if cs.isEmpty then return ⟨major, minor, some pack⟩ else none

/-- The short form of version numbers. -/
def VersionNumbers.slug (v : VersionNumbers) : List Char :=
  v.major ++ ['.'] ++ v.minor ++
    (match v.servicePack with
      | none => []
      | some pack => ['.', 's', 'p'] ++ pack)

/-- The short form of a version. -/
def versionSlug (version : String) : String :=
  let cs := trim version.toList
  String.ofList <| match VersionNumbers.read? cs with
    | some v => v.slug
    | none => lower cs

/-- The address of the documentation. -/
def referenceSite : String := "https://www.onixs.biz/fix-dictionary"

/-- The address of the page about the field of a tag. -/
def fieldUrl (version : String) (tag : Int) : String :=
  referenceSite ++ "/" ++ versionSlug version ++ "/tagnum_" ++ toString tag ++ ".html"

end FixBindings.Rust
