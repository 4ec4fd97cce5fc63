import FixBindings.Dictionary.Schema
import FixBindings.Json.Reader
import FixBindings.Path
import FixBindings.Text.Utf8

/-!
# Loading dictionaries

The dictionary that the bytes of a file describe. The suffix of the file tells whether it is read as
JSON or as YAML. What reads YAML is not part of the program: loading is told of a text by any reader. A
document may nest to any depth: that the machine gives up at some depth is left out.
-/

namespace FixBindings.Dictionary

open Document

/-- Why the bytes of a file describe no dictionary. -/
inductive LoadError where
  /-- The bytes are not UTF-8. -/
  | encoding (e : Text.Utf8Error)
  /-- The file is of another kind. -/
  | unsupported (path : String)
  /-- The text is not JSON. -/
  | json (path : String) (fault : Json.Fault) (place : Json.Place)
  /-- The text is not YAML, as the reader words it. -/
  | yaml (path detail : String)
  /-- An integer of a JSON text has too many digits. -/
  | integerTooLong (digits : Nat)
  /-- The reader of YAML, or what is made of its document, ends in an error of another class. -/
  | failed (kind message : String)
  /-- The document is not a mapping. -/
  | notMapping (path : String)
  /-- The document does not describe a dictionary. -/
  | schema (e : SchemaError)
  deriving Repr

/-- The wording of an error. -/
def LoadError.message : LoadError → String
  | .encoding e => e.message
  | .unsupported path =>
    "Unsupported dictionary file '" ++ path ++ "': expected .json, .yaml or .yml"
  | .json path fault place =>
    "Invalid JSON in " ++ path ++ ": " ++ fault.message ++ ": " ++ place.message
  | .yaml path detail => "Invalid YAML in " ++ path ++ ": " ++ detail
  | .integerTooLong digits => Number.tooLongMessage digits
  | .failed _ message => message
  | .notMapping path => "Dictionary document " ++ path ++ " must be a mapping"
  | .schema e => e.message

/-- Whether an error is one that the program expects of a faulty document and reports. -/
def LoadError.isExpected : LoadError → Bool
  | .encoding _ | .integerTooLong _ | .failed .. | .schema .unprintable => false
  | _ => true

/-! ## Readers of YAML -/

/-- What a reader of YAML makes of a text. -/
inductive YamlReading where
  /-- The document of the text. -/
  | value (v : Value)
  /-- The text is not YAML. -/
  | malformed (detail : String)
  /-- The reader ends in an error of another class. -/
  | failed (kind message : String)
  /-- A node of the document is part of itself, so that the document is no tree. -/
  | looped

/-- A reader of YAML. -/
structure YamlReader where
  /-- What the reader makes of a text. -/
  read : List Char → YamlReading
  /-- What loading comes to when the document of the text in the file `path` is no tree. -/
  loadLooped (path : String) (text : List Char) : Traced LoadError Dictionary

/-! ## Loading -/

/-- The dictionary that the document of the file `path` describes. -/
def ofValue (path : String) : Value → Traced LoadError Dictionary
  | .mapping entries => (Dictionary.ofEntries entries).mapError .schema
  | _ => .fail (.notMapping path)

/-- The dictionary of a JSON text in the file `path`. -/
def loadJson (path : String) (text : List Char) : Traced LoadError Dictionary :=
  match Json.read text with
  | .ok v => ofValue path v
  | .error (.malformed fault offset) => .fail (.json path fault (Json.Place.ofOffset text offset))
  | .error (.integerTooLong digits) => .fail (.integerTooLong digits)

/-- The dictionary of a YAML text in the file `path`. -/
def loadYaml (yaml : YamlReader) (path : String) (text : List Char) :
    Traced LoadError Dictionary :=
  match yaml.read text with
  | .value v => ofValue path v
  | .malformed detail => .fail (.yaml path detail)
  | .failed kind message => .fail (.failed kind message)
  | .looped => yaml.loadLooped path text

/-- The dictionary of a text in the file `path`, whose suffix tells how to read it. -/
def loadText (yaml : YamlReader) (path : String) (text : List Char) :
    Traced LoadError Dictionary :=
  let suffix := (Path.ofText path).suffix
  if suffix == ".yaml" || suffix == ".yml" then loadYaml yaml path text
  else if suffix == ".json" then loadJson path text
  else .fail (.unsupported path)

/-- The dictionary that the bytes of the file `path` describe. -/
def load (yaml : YamlReader) (path : String) (bytes : List UInt8) : Traced LoadError Dictionary :=
  match Text.decodeUtf8 bytes with
  | .error e => .fail (.encoding e)
  | .ok text => loadText yaml path (Text.unifyLineEndings text.toList)

end FixBindings.Dictionary
