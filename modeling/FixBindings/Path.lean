import FixBindings.Text.Quoted

/-!
# Paths

A path as its root and the names on the way, without empty and `.` parts.
-/

namespace FixBindings

/-- A path to a file or a directory. -/
structure Path where
  /-- The slashes in front: none for a path from the working directory, else one, or two when there are
  exactly two. -/
  root : String
  /-- The names on the way, where `..` leads one level up. -/
  names : List String
  deriving DecidableEq, Repr

namespace Path

/-- The parts between the slashes of a text. -/
def parts (text : List Char) : List (List Char) :=
  text.splitOn '/'

/-- The root of the path that a text writes. -/
def rootOf (text : List Char) : String :=
  match (text.takeWhile (· == '/')).length with
  | 0 => ""
  | 2 => "//"
  | _ => "/"

/-- The path that a text writes. -/
def ofText (text : String) : Path :=
  ⟨rootOf text.toList,
    ((parts text.toList).filter fun p ↦ !(p.isEmpty || p == ['.'])).map String.ofList⟩

/-- Whether a path starts at the root and not at the working directory. -/
def isAbsolute (p : Path) : Bool :=
  !p.root.isEmpty

/-- The text of a path. -/
def text (p : Path) : String :=
  if p.root.isEmpty && p.names.isEmpty then "." else p.root ++ "/".intercalate p.names

/-- The directory that holds the end of the path. -/
def parent (p : Path) : Path :=
  { p with names := p.names.dropLast }

/-- The suffix of a name: its last point and what stands behind it, unless one of its sides is
empty. -/
def suffixOf (name : List Char) : List Char :=
  let ending := (name.reverse.takeWhile (· != '.')).reverse
  let stem := name.take (name.length - ending.length - 1)
  if name.contains '.' && !stem.isEmpty && !ending.isEmpty then '.' :: ending else []

/-- The suffix of the last name. -/
def suffix (p : Path) : String :=
  String.ofList (suffixOf (p.names.getLastD "").toList)

end Path

end FixBindings
