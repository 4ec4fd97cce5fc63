import FixBindings.Text.Runs

/-!
# The words of a name

A name is split into words at every character that is not an ASCII letter or digit, and inside of a
run of letters and digits before a capital that starts a new word. The last capital of an acronym
starts a word when a word in lower case follows it; a single plural `s` does not, so `NoPartyIDs`
has the words `No`, `Party` and `IDs`.
-/

namespace FixBindings.Identifier

/-- Whether a character belongs to a word: an ASCII letter or digit. -/
def isWordChar (c : Char) : Bool :=
  c.isAlphanum

/-- Whether a text starts with a lower-case run that is a word and not a plural `s`. -/
def startsLowerWord (cs : List Char) : Bool :=
  let run := cs.takeWhile Char.isLower
  !run.isEmpty && run != ['s']

/-- Whether a word starts at `c`, where `before` stands in front of it and `cs` behind it. -/
def startsWord (before c : Char) (cs : List Char) : Bool :=
  c.isUpper &&
    (before.isLower || before.isDigit || (before.isUpper && startsLowerWord cs))

/-- The words of a name, in order. -/
def words (name : List Char) : List (List Char) :=
  (Text.runs isWordChar name).flatMap (Text.pieces startsWord)

end FixBindings.Identifier
