import FixBindings.Dictionary.Basic
import FixBindings.Document.Value
import FixBindings.Number.Integer
import FixBindings.Traced

/-!
# Dictionaries as documents

The dictionary that a document describes. The document is a mapping with the version and lists of
fields, components and messages; a layout names the fields and the components that it holds. A field
is looked up among all fields of the document and a component among those before the place of the
reference; of several with one name the last counts.
-/

namespace FixBindings.Dictionary

open Document

/-! ## Errors -/

/-- A place of a document. -/
inductive Place where
  /-- The document itself. -/
  | document
  /-- A field whose name is not known yet. -/
  | field
  /-- The field of a name. -/
  | fieldNamed (name : String)
  /-- A value in the list of values of a field. -/
  | variant (owner : String)
  /-- A component whose name is not known yet. -/
  | component
  /-- The component of a name. -/
  | componentNamed (name : String)
  /-- A message whose name is not known yet. -/
  | message
  /-- The message of a name. -/
  | messageNamed (name : String)
  /-- An item of the layout of a component or message. -/
  | item (owner : String)
  /-- A group behind the field of a name. -/
  | group (leader : String)
  deriving DecidableEq, Repr

/-- The wording of a place. -/
def Place.label : Place → String
  | .document => "dictionary"
  | .field => "field"
  | .fieldNamed name => "field '" ++ name ++ "'"
  | .variant owner => "variant of field '" ++ owner ++ "'"
  | .component => "component"
  | .componentNamed name => "component '" ++ name ++ "'"
  | .message => "message"
  | .messageNamed name => "message '" ++ name ++ "'"
  | .item owner => "layout item in '" ++ owner ++ "'"
  | .group leader => "group '" ++ leader ++ "'"

/-- Why a document describes no dictionary. -/
inductive SchemaError where
  /-- Something other than a mapping stands at a place. -/
  | notMapping (place : Place) (found : Value)
  /-- A key that must be there is missing or null. -/
  | missing (key : String) (place : Place) (found : Value)
  /-- Something other than a list stands under a key. -/
  | notList (key : String) (place : Place) (found : Value)
  /-- The tag of a field is not an integer. -/
  | badTag (field : String) (found : Value)
  /-- A layout names a field that does not exist. -/
  | unknownField (name owner : String)
  /-- A layout names a component that does not exist before it. -/
  | unknownComponent (name owner : String)
  /-- An item of a layout names nothing. -/
  | noReference (owner : String) (found : Value)
  /-- A value that has to be written holds an integer of too many digits. -/
  | unprintable
  deriving Repr

/-- The wording of an error. -/
def SchemaError.message : SchemaError → String
  | .notMapping place found =>
    "Expected a mapping for " ++ place.label ++ ", got " ++ found.inspect
  | .missing key place found =>
    "Missing '" ++ key ++ "' in " ++ place.label ++ ": " ++ found.inspect
  | .notList key place found =>
    "'" ++ key ++ "' in " ++ place.label ++ " must be a list, got " ++ found.inspect
  | .badTag field found =>
    "Field '" ++ field ++ "' has a non-integer tag: " ++ found.inspect
  | .unknownField name owner =>
    "Unknown field '" ++ name ++ "' referenced in '" ++ owner ++ "'"
  | .unknownComponent name owner =>
    "Unknown component '" ++ name ++ "' referenced in '" ++ owner ++ "'"
  | .noReference owner found =>
    "Layout item in '" ++ owner ++ "' must have one of field, component or group: " ++
      found.inspect
  | .unprintable => Number.unprintableMessage

/-- The error about a value that has been found. An error can only show what can be written. -/
def refusal (found : Value) (e : Value → SchemaError) : SchemaError :=
  if found.isPrintable then e found else .unprintable

/-- The text of a value. -/
def textOf (v : Value) : Except SchemaError String :=
  if v.isPrintable then .ok v.toText else .error .unprintable

/-! ## Parts of documents -/

/-- The entries of the mapping at a place. -/
def entriesOf (place : Place) (v : Value) : Except SchemaError Entries :=
  match v with
  | .mapping entries => .ok entries
  | _ => .error (refusal v (.notMapping place))

/-- The value of a key that must be there and not be null. -/
def required (key : String) (place : Place) (v : Value) : Except SchemaError Value := do
  let entries ← entriesOf place v
  match Entries.get? key entries with
  | some w => if w.isNull then .error (refusal v (.missing key place)) else .ok w
  | none => .error (refusal v (.missing key place))

/-- The items of a list under a key; none when there is nothing under the key. -/
def itemsOf (key : String) (place : Place) (found : Value) : Except SchemaError (List Value) :=
  match found with
  | .scalar .null => .ok []
  | .list items => .ok items
  | _ => .error (refusal found (.notList key place))

/-- The list under a key of a mapping, empty when the key is missing or null. -/
def listAt (key : String) (place : Place) (entries : Entries) : Except SchemaError (List Value) :=
  itemsOf key place ((Entries.get? key entries).getD .null)

/-! ## Fields -/

/-- The ASCII character of a byte; a byte that has none is read as NUL. -/
def asciiOf (b : UInt8) : Char :=
  if b < 0x80 then Char.ofNat b.toNat else '\x00'

/-- The integer that the tag of a field denotes: an integer, a whole number with a fraction, or the
text of an integer, also as bytes. -/
def tagOf? : Value → Option Int
  | .scalar (.int n) => some n
  | .scalar (.float x) => x.toInt?
  | .scalar (.text s) => (Number.readInteger s.toList).toOption
  | .scalar (.bytes bs) => (Number.readInteger (bs.map fun b ↦ asciiOf b)).toOption
  | _ => none

/-- The value of a field that an item of its list of values describes. A description that does not
count as true is the value itself. -/
def enumOf (field : String) (v : Value) : Except SchemaError EnumValue := do
  let value ← textOf (← required "value" (.variant field) v)
  let entries ← entriesOf (.variant field) v
  match (Entries.get? "description" entries).filter Value.isTruthy with
  | some description => return ⟨value, ← textOf description⟩
  | none => return ⟨value, value⟩

/-- The field that an entry of the document describes. A type that is not known counts as a text. -/
def fieldOf (v : Value) : Traced SchemaError Field := do
  let name ← Traced.ofExcept (required "name" .field v >>= textOf)
  let place := Place.fieldNamed name
  let tagValue ← Traced.ofExcept (required "tag" place v)
  match tagOf? tagValue with
  | none => Traced.fail (refusal tagValue (.badTag name))
  | some tag =>
    let typeName ← Traced.ofExcept (required "type" place v >>= textOf)
    let dataType ← match DataType.ofName? typeName with
      | some d => pure d
      | none => do
        Traced.tell (.unknownType typeName name)
        pure DataType.string
    let entries ← Traced.ofExcept (entriesOf place v)
    let values ← Traced.ofExcept (listAt "values" place entries)
    let enums ← Traced.ofExcept (values.mapM (enumOf name))
    return ⟨tag, name, dataType, enums⟩

/-- The fields that the entries of the document describe. -/
def fieldsOf : List Value → Traced SchemaError (List Field)
  | [] => .ok []
  | v :: vs => do
    let f ← fieldOf v
    let fs ← fieldsOf vs
    return f :: fs

/-! ## Layouts -/

/-- What the references of a layout are looked up in. -/
structure Scope where
  /-- The fields. -/
  fields : List Field
  /-- The components, with different names. -/
  components : List Component

/-- The last field of a name. -/
def Scope.field? (s : Scope) (name : String) : Option Field :=
  s.fields.reverse.find? fun f ↦ f.name == name

/-- The component of a name. -/
def Scope.component? (s : Scope) (name : String) : Option Component :=
  s.components.find? fun c ↦ c.name == name

/-- The scope with one more component, at the place of the one that had its name, or at the end. -/
def Scope.insert (s : Scope) (c : Component) : Scope :=
  if s.components.any fun d ↦ d.name == c.name then
    { s with components := s.components.map fun d ↦ if d.name == c.name then c else d }
  else { s with components := s.components ++ [c] }

/-- The field that a layout names. -/
def Scope.fieldOf (s : Scope) (owner : String) (reference : Value) : Except SchemaError Field := do
  let name ← textOf reference
  match s.field? name with
  | some f => return f
  | none => throw (.unknownField name owner)

/-- The component that a layout names. -/
def Scope.componentOf (s : Scope) (owner : String) (reference : Value) :
    Except SchemaError Component := do
  let name ← textOf reference
  match s.component? name with
  | some c => return c
  | none => throw (.unknownComponent name owner)

mutual

/-- The items that a list describes, in the layout of `owner`. -/
def layoutOf (s : Scope) (owner : String) : List Value → Except SchemaError (List Item)
  | [] => .ok []
  | v :: vs => do
    let i ← itemOf s owner v
    let is ← layoutOf s owner vs
    return i :: is

/-- The item that a value describes. Of the keys `field`, `component` and `group` the first in this
order that is present tells the kind. -/
def itemOf (s : Scope) (owner : String) : Value → Except SchemaError Item
  | .mapping entries =>
    let required := (Entries.get? "required" entries).any Value.isTruthy
    match Entries.get? "field" entries with
    | some reference => do return .field (← s.fieldOf owner reference) required
    | none =>
      match Entries.get? "component" entries with
      | some reference => do
        let c ← s.componentOf owner reference
        return .component c.name c.layout required
      | none =>
        match Entries.get? "group" entries with
        | some reference => do
          let leader ← s.fieldOf owner reference
          return .group leader (← groupLayout s owner reference.toText entries) required
        | none => .error (refusal (.mapping entries) (.noReference owner))
  | v => .error (refusal v (.notMapping (.item owner)))

/-- The items under the key `layout` of a group. -/
def groupLayout (s : Scope) (owner leader : String) :
    List (Scalar × Value) → Except SchemaError (List Item)
  | [] => .ok []
  | (k, v) :: entries =>
    if k = .text "layout" then layoutOfValue s owner leader v
    else groupLayout s owner leader entries

/-- The items that the value under the key `layout` of a group describes. -/
def layoutOfValue (s : Scope) (owner leader : String) : Value → Except SchemaError (List Item)
  | .scalar .null => .ok []
  | .list items => layoutOf s owner items
  | v => .error (refusal v (.notList "layout" (.group leader)))

end

/-! ## Components, messages and dictionaries -/

/-- The component that an entry of the document describes. -/
def componentOf (s : Scope) (v : Value) : Except SchemaError Component := do
  let name ← textOf (← required "name" .component v)
  let entries ← entriesOf .component v
  let items ← listAt "layout" (.componentNamed name) entries
  return ⟨name, ← layoutOf s name items⟩

/-- The scope behind the components that the entries of the document describe. -/
def scopeOf (s : Scope) : List Value → Except SchemaError Scope
  | [] => .ok s
  | v :: vs => do scopeOf (s.insert (← componentOf s v)) vs

/-- The message that an entry of the document describes. -/
def messageOf (s : Scope) (v : Value) : Except SchemaError Message := do
  let name ← textOf (← required "name" .message v)
  let msgType ← textOf (← required "msg_type" (.messageNamed name) v)
  let entries ← entriesOf .message v
  let items ← listAt "layout" (.messageNamed name) entries
  return ⟨name, msgType, ← layoutOf s name items⟩

end Dictionary

/-- The dictionary that a document with these entries describes. -/
def Dictionary.ofEntries (entries : Document.Entries) :
    Traced Dictionary.SchemaError Dictionary := do
  let version ← Traced.ofExcept (Dictionary.required "version" .document (.mapping entries))
  let fieldValues ← Traced.ofExcept (Dictionary.listAt "fields" .document entries)
  let fields ← Dictionary.fieldsOf fieldValues
  let componentValues ← Traced.ofExcept (Dictionary.listAt "components" .document entries)
  let scope ← Traced.ofExcept (Dictionary.scopeOf ⟨fields, []⟩ componentValues)
  let messageValues ← Traced.ofExcept (Dictionary.listAt "messages" .document entries)
  let messages ← Traced.ofExcept (messageValues.mapM (Dictionary.messageOf scope))
  let version ← Traced.ofExcept (Dictionary.textOf version)
  return ⟨version, fields, scope.components, messages⟩

end FixBindings
