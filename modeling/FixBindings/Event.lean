import FixBindings.Dictionary.Basic
import FixBindings.Text.Quoted

/-!
# Events

What is worth telling about a run, with its level and its wording.
-/

namespace FixBindings

/-- How important an event is. -/
inductive Level where
  | debug
  | info
  | warning
  deriving DecidableEq, Repr

/-- The name of a level. -/
def Level.label : Level → String
  | .debug => "DEBUG"
  | .info => "INFO"
  | .warning => "WARNING"

/-- An event. -/
inductive Event where
  /-- The type of a field is not known; it is read as a text. -/
  | unknownType (typeName fieldName : String)
  /-- The definition of a field has been written with this type. -/
  | fieldResolved (name : String) (tag : Int) (type : String)
  /-- An item of a message has no member in the struct. -/
  | itemSkipped (kind : Dictionary.ItemKind) (message : String)
  /-- A second member of one name has been left out. -/
  | duplicateDropped (identifier message : String)
  /-- A module has been written. -/
  | generated (fields messages : Nat) (version : String)
  deriving DecidableEq, Repr

/-- The name of a kind of item. -/
def Dictionary.ItemKind.label : Dictionary.ItemKind → String
  | .field => "field"
  | .group => "group"
  | .component => "component"

namespace Event

/-- The level of an event. -/
def level : Event → Level
  | unknownType .. => .warning
  | fieldResolved .. | itemSkipped .. | duplicateDropped .. => .debug
  | generated .. => .info

/-- The part of the program that tells an event. -/
def source : Event → String
  | unknownType .. => "fix_codegen.loader"
  | fieldResolved .. => "fix_codegen.generator.field_generator"
  | itemSkipped .. | duplicateDropped .. => "fix_codegen.generator.message_generator"
  | generated .. => "fix_codegen.generator.file_generator"

/-- The wording of an event. -/
def message : Event → String
  | unknownType typeName fieldName =>
    "Unknown data type " ++ Text.quoted typeName ++ " for field " ++ fieldName ++
      ", treating as STRING"
  | fieldResolved name tag type => "Field " ++ name ++ " <" ++ toString tag ++ "> -> " ++ type
  | itemSkipped kind name => "Skipping " ++ kind.label ++ " item in message " ++ name
  | duplicateDropped identifier name =>
    "Dropping duplicate member " ++ identifier ++ " in message " ++ name
  | generated fields messages version =>
    "Generated " ++ toString fields ++ " field(s) and " ++ toString messages ++
      " message(s) for " ++ version

/-- The line that reports an event. -/
def line (e : Event) : String :=
  e.level.label ++ " " ++ e.source ++ ": " ++ e.message

end Event

end FixBindings
