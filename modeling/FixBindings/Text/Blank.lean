import FixBindings.Text.Runs

/-!
# White space

The characters that separate words, trimming, and texts written on one line.
-/

namespace FixBindings.Text

/-- Whether a character is white space: a control that moves the print position or separates
records, the next-line control, a space of any width other than the zero-width ones, or one of the
two Unicode line separators. -/
def isBlank (c : Char) : Bool :=
  let n := c.toNat
  (0x09 ≤ n && n ≤ 0x0D) || (0x1C ≤ n && n ≤ 0x20) || n == 0x85 || n == 0xA0 || n == 0x1680 ||
    (0x2000 ≤ n && n ≤ 0x200A) || n == 0x2028 || n == 0x2029 || n == 0x202F || n == 0x205F ||
    n == 0x3000

/-- The characters without the white space at both ends. -/
def trim (cs : List Char) : List Char :=
  ((cs.dropWhile isBlank).reverse.dropWhile isBlank).reverse

/-- The words of a text: its maximal runs of characters that are not white space. -/
def words (cs : List Char) : List (List Char) :=
  runs (fun c ↦ !isBlank c) cs

/-- The text without the white space at both ends. -/
def trimmed (s : String) : String :=
  String.ofList (trim s.toList)

/-- The words of the text, separated by single spaces. -/
def singleLine (s : String) : String :=
  String.ofList ([' '].intercalate (words s.toList))

/-- Whether the text holds white space only. -/
def isBlankText (s : String) : Bool :=
  s.toList.all isBlank

/-- The text without the line feeds at both ends. -/
def trimLineFeeds (s : String) : String :=
  String.ofList
    (((s.toList.dropWhile (· == '\n')).reverse.dropWhile (· == '\n')).reverse)

end FixBindings.Text
