import FixBindings.Dictionary.DataType

/-!
# Dictionaries

What a dictionary of one version of the FIX protocol declares: fields, components and messages. A
layout is the list of items that a message, a component or a repeating group holds.
-/

namespace FixBindings.Dictionary

/-- A value that a field may have. -/
structure EnumValue where
  /-- The value as it is sent. -/
  value : String
  /-- What it means. -/
  description : String
  deriving DecidableEq, Repr

/-- A field. -/
structure Field where
  /-- The number of the field in messages. -/
  tag : Int
  /-- The name. -/
  name : String
  /-- The category of its values. -/
  dataType : DataType
  /-- The values that it may have; none when it may have any. -/
  enums : List EnumValue
  deriving DecidableEq, Repr

/-- The kind of an item of a layout. -/
inductive ItemKind where
  | field
  | group
  | component
  deriving DecidableEq, Repr

/-- An item of a layout. -/
inductive Item where
  /-- A field. -/
  | field (field : Field) (required : Bool)
  /-- A repeating group behind the field that counts its entries. -/
  | group (leader : Field) (layout : List Item) (required : Bool)
  /-- A component, with its name and its layout. -/
  | component (name : String) (layout : List Item) (required : Bool)
  /-- An item of which only the kind is known. -/
  | bare (kind : ItemKind) (required : Bool)
  deriving Repr

/-- The kind of an item. -/
def Item.kind : Item → ItemKind
  | .field .. => .field
  | .group .. => .group
  | .component .. => .component
  | .bare kind _ => kind

/-- Whether an item must be present. -/
def Item.required : Item → Bool
  | .field _ r | .group _ _ r | .component _ _ r | .bare _ r => r

/-- A named layout that messages and other components share. -/
structure Component where
  /-- The name. -/
  name : String
  /-- The items. -/
  layout : List Item
  deriving Repr

/-- A message. -/
structure Message where
  /-- The name. -/
  name : String
  /-- The code that tells the message apart when it is sent. -/
  msgType : String
  /-- The items. -/
  layout : List Item
  deriving Repr

end Dictionary

/-- A dictionary. -/
structure Dictionary where
  /-- The version of the protocol. -/
  version : String
  /-- The fields, in order. -/
  fields : List Dictionary.Field
  /-- The components, in order. -/
  components : List Dictionary.Component
  /-- The messages, in order. -/
  messages : List Dictionary.Message
  deriving Repr

namespace Dictionary

/-- The field of a tag; of several the last one. -/
def fieldByTag? (d : Dictionary) (tag : Int) : Option Field :=
  d.fields.reverse.find? fun f ↦ f.tag == tag

/-- The first field of a name. -/
def fieldByName? (d : Dictionary) (name : String) : Option Field :=
  d.fields.find? fun f ↦ f.name == name

/-- The first message of a code. -/
def messageByMsgType? (d : Dictionary) (msgType : String) : Option Message :=
  d.messages.find? fun m ↦ m.msgType == msgType

/-- The first component of a name. -/
def componentByName? (d : Dictionary) (name : String) : Option Component :=
  d.components.find? fun c ↦ c.name == name

end Dictionary

end FixBindings
