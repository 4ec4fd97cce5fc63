import FixBindings.Dictionary.Load
import FixBindings.Yaml.Reader

/-!
# The reader of YAML that the program uses

A reader that stands for the library that the program reads YAML with. It is simpler in three points. It does
not word what is wrong with a malformed text; it writes the keys of a set in the order of the text; and it has
every document in which a node is part of itself end in an error when it is loaded, also one whose loop is
only shown or never reached.
-/

namespace FixBindings.Yaml

open Dictionary

/-- What the rules of the notation make of a text. -/
def reading (text : List Char) : YamlReading :=
  match read text with
  | .ok v => .value v
  | .error .looped => .looped
  | .error .malformed => .malformed Error.malformed.message
  | .error e => .failed e.kind e.message

/-- The reader of YAML by the rules of the notation. -/
def standard : YamlReader where
  read := reading
  loadLooped _ _ := .fail (.failed Error.looped.kind Error.looped.message)

end FixBindings.Yaml
