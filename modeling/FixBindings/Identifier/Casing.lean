import FixBindings.Identifier.Words
import FixBindings.Text.Digit

/-!
# Identifiers

The identifiers that names become: types and enum variants in type case (`OrderQty`), constants in
constant case (`ORDER_QTY`) and struct members in member case (`order_qty`). Words hold ASCII
characters only, so the ASCII case mappings serve. An identifier that would start with a digit gets a
marker in front, and one that would be a keyword is written in another way.
-/

namespace FixBindings.Identifier

/-! ## Cases -/

/-- A word with a capital at its front and the rest in lower case. -/
def capitalize : List Char → List Char
  | [] => []
  | c :: cs => c.toUpper :: cs.map Char.toLower

/-- The words of a name, each with a capital at its front, without separators. -/
def typeCase (name : String) : String :=
  String.ofList ((words name.toList).flatMap capitalize)

/-- The words of a name in upper case, separated by underscores. -/
def constantCase (name : String) : String :=
  String.ofList (['_'].intercalate ((words name.toList).map fun w ↦ w.map Char.toUpper))

/-- The words of a name in lower case, separated by underscores. -/
def memberCase (name : String) : String :=
  String.ofList (['_'].intercalate ((words name.toList).map fun w ↦ w.map Char.toLower))

/-! ## Guards -/

/-- The identifier with `marker` in front when it is empty or starts with a digit. -/
def guardDigit (marker identifier : String) : String :=
  if identifier.toList.head?.all Text.isDigit then marker ++ identifier else identifier

/-- The keywords of Rust, those of all editions and the reserved ones. -/
def keywords : List String :=
  ["as", "break", "const", "continue", "crate", "else", "enum", "extern", "false", "fn", "for",
    "if", "impl", "in", "let", "loop", "match", "mod", "move", "mut", "pub", "ref", "return",
    "self", "Self", "static", "struct", "super", "trait", "true", "type", "unsafe", "use", "where",
    "while", "async", "await", "dyn", "abstract", "become", "box", "do", "final", "macro",
    "override", "priv", "typeof", "unsized", "virtual", "yield", "try", "gen"]

/-- The keywords that cannot be written as raw identifiers. -/
def pathKeywords : List String :=
  ["crate", "self", "Self", "super"]

/-- The identifier as it may be written where it is a keyword: raw, or with an underscore behind
when it has no raw form. -/
def escapeKeyword (identifier : String) : String :=
  if pathKeywords.contains identifier then identifier ++ "_"
  else if keywords.contains identifier then "r#" ++ identifier
  else identifier

/-- The marker in front of types, variants and constants that would start with a digit. -/
def upperMarker : String := "N"

/-- The marker in front of struct members that would start with a digit. -/
def memberMarker : String := "_"

/-! ## Identifiers of names -/

/-- The type that is named `name`. -/
def typeName (name : String) : String :=
  escapeKeyword (guardDigit upperMarker (typeCase name))

/-- The enum variant that is described by `description`. -/
def variantName (description : String) : String :=
  typeName description

/-- The constant that is named `name`. -/
def constantName (name : String) : String :=
  guardDigit upperMarker (constantCase name)

/-- The struct member that is named `name`. -/
def memberName (name : String) : String :=
  escapeKeyword (guardDigit memberMarker (memberCase name))

end FixBindings.Identifier
