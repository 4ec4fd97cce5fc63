import FixBindings.Dictionary.Schema
import FixBindings.Proofs.Number.Binary64
import FixBindings.Proofs.Number.Numeral
import Mathlib.Data.List.Forall2

/-!
# What a document describes

A relation between the entries of a document, the dictionary that they describe and the events that
are told about them, without regard to how the dictionary is computed. Entries and items correspond
one to one and in order. Of several fields with one name a reference means the last one of all, and of
several components the last one in front of the reference.
-/

namespace FixBindings.Dictionary

open Document Number

/-! ## Values under keys -/

/-- There is a value under a key, and it is not null. -/
def Holds (key : String) (entries : Entries) (v : Value) : Prop :=
  Entries.get? key entries = some v ∧ v.isNull = false

/-- A value can be written, as the text `s`. -/
def HasText (v : Value) (s : String) : Prop :=
  v.isPrintable ∧ v.toText = s

/-- The value under a key is not null and has the text `s`. -/
def HoldsText (key : String) (entries : Entries) (s : String) : Prop :=
  ∃ v, Holds key entries v ∧ HasText v s

/-- The items of the list under a key, of which there are none when there is no value or null. -/
inductive HoldsList (key : String) (entries : Entries) : List Value → Prop where
  | missing : Entries.get? key entries = none → HoldsList key entries []
  | null : Entries.get? key entries = some .null → HoldsList key entries []
  | list {items : List Value} :
    Entries.get? key entries = some (.list items) → HoldsList key entries items

/-- A value is a mapping, and its entries describe `a` in the sense of `R`. -/
def OfMapping {α : Type _} (R : Entries → α → Prop) (v : Value) (a : α) : Prop :=
  ∃ entries, v = .mapping entries ∧ R entries a

/-- Whether the entries of an item make it required. -/
def isRequired (entries : Entries) : Bool :=
  (Entries.get? "required" entries).any Value.isTruthy

/-- The last element with a key. -/
def IsLast {α : Type _} (key : α → String) (as : List α) (k : String) (a : α) : Prop :=
  ∃ before after, as = before ++ a :: after ∧ key a = k ∧ ∀ b ∈ after, key b ≠ k

/-! ## Fields -/

/-- A value denotes an integer as a tag: an integer itself, a number that is equal to it, a text of
it, or the ASCII bytes of a text. -/
inductive DenotesTag : Value → Int → Prop where
  | int (n : Int) : DenotesTag (.scalar (.int n)) n
  | float {x : Binary64} {n : Int} : x.toRat? = some (n : ℚ) → DenotesTag (.scalar (.float x)) n
  | text {s : String} {n : Int} : IntegerText s.toList n → DenotesTag (.scalar (.text s)) n
  | bytes {bs : List UInt8} {n : Int} :
    IntegerText (bs.map asciiOf) n → DenotesTag (.scalar (.bytes bs)) n

/-- The data type of a type name, and what is told about it. A name that is not known stands for
texts. -/
inductive DescribesType (typeName field : String) : DataType → List Event → Prop where
  | known {t : DataType} : DataType.ofName? typeName = some t → DescribesType typeName field t []
  | unknown : DataType.ofName? typeName = none →
    DescribesType typeName field .string [.unknownType typeName field]

/-- A type name is known and nothing is told, or it is not and that is told. -/
theorem DescribesType.cases {typeName field : String} {t : DataType} {es : List Event}
    (h : DescribesType typeName field t es) :
    (∃ u, DataType.ofName? typeName = some u ∧ t = u ∧ es = []) ∨
      (DataType.ofName? typeName = none ∧ t = .string ∧ es = [.unknownType typeName field]) := by
  cases h with
  | known h => exact .inl ⟨t, h, rfl, rfl⟩
  | unknown h => exact .inr ⟨h, rfl, rfl⟩

/-- The entries of an item of a list of values describe a value. The description is the value itself
when there is none that counts as true. -/
inductive DescribesEnum (entries : Entries) : EnumValue → Prop where
  | described {value description : String} {v : Value} :
    HoldsText "value" entries value → Entries.get? "description" entries = some v → v.isTruthy →
    HasText v description → DescribesEnum entries ⟨value, description⟩
  | plain {value : String} :
    HoldsText "value" entries value →
    (∀ v, Entries.get? "description" entries = some v → v.isTruthy = false) →
    DescribesEnum entries ⟨value, value⟩

/-- The entries of a field describe it, and the events are told about them. -/
structure DescribesField (entries : Entries) (f : Field) (events : List Event) : Prop where
  /-- The name is the text under its key. -/
  name : HoldsText "name" entries f.name
  /-- The tag is the integer that the value under its key denotes. -/
  tag : ∃ v, Holds "tag" entries v ∧ DenotesTag v f.tag
  /-- The data type is that of the name under the key `type`. -/
  dataType : ∃ s, HoldsText "type" entries s ∧ DescribesType s f.name f.dataType events
  /-- The values are those of the list under their key. -/
  enums : ∃ vs, HoldsList "values" entries vs ∧ List.Forall₂ (OfMapping DescribesEnum) vs f.enums

/-- Values describe fields, and the events are told about them one field after another. -/
inductive DescribesFields : List Value → List Field → List Event → Prop where
  | nil : DescribesFields [] [] []
  | cons {entries : Entries} {f : Field} {vs : List Value} {fs : List Field} {es es' : List Event} :
    DescribesField entries f es → DescribesFields vs fs es' →
    DescribesFields (.mapping entries :: vs) (f :: fs) (es ++ es')

/-! ## Layouts -/

/-- A value describes an item of a layout, where `fields` are all fields of the document and `built`
the components in front of the place. Of the keys `field`, `component` and `group` the first in this
order that is present tells the kind of the item. -/
inductive DescribesItem (fields : List Field) (built : List Component) : Value → Item → Prop where
  /-- A reference to a field. -/
  | field {entries : Entries} {v : Value} {name : String} {f : Field} :
    Entries.get? "field" entries = some v → HasText v name → IsLast Field.name fields name f →
    DescribesItem fields built (.mapping entries) (.field f (isRequired entries))
  /-- A reference to a component. -/
  | component {entries : Entries} {v : Value} {name : String} {c : Component} :
    Entries.get? "field" entries = none → Entries.get? "component" entries = some v →
    HasText v name → IsLast Component.name built name c →
    DescribesItem fields built (.mapping entries) (.component c.name c.layout (isRequired entries))
  /-- A group with a reference to the field in front of it. -/
  | group {entries : Entries} {v : Value} {name : String} {f : Field} {items : List Value}
    {layout : List Item} :
    Entries.get? "field" entries = none → Entries.get? "component" entries = none →
    Entries.get? "group" entries = some v → HasText v name → IsLast Field.name fields name f →
    HoldsList "layout" entries items → List.Forall₂ (DescribesItem fields built) items layout →
    DescribesItem fields built (.mapping entries) (.group f layout (isRequired entries))

/-- The list under the key `layout` describes the items of a layout in order. -/
def DescribesLayout (fields : List Field) (built : List Component) (entries : Entries)
    (layout : List Item) : Prop :=
  ∃ items, HoldsList "layout" entries items ∧
    List.Forall₂ (DescribesItem fields built) items layout

/-! ## Components and messages -/

/-- The entries of a component behind the components `built` describe it. -/
structure DescribesComponent (fields : List Field) (built : List Component) (entries : Entries)
    (c : Component) : Prop where
  /-- The name is the text under its key. -/
  name : HoldsText "name" entries c.name
  /-- The layout is that under its key. -/
  layout : DescribesLayout fields built entries c.layout

/-- Values behind the components `built` describe components, each of which may refer to those in
front of it. -/
inductive DescribesComponents (fields : List Field) :
    List Component → List Value → List Component → Prop where
  | nil {built : List Component} : DescribesComponents fields built [] []
  | cons {built cs : List Component} {entries : Entries} {vs : List Value} {c : Component} :
    DescribesComponent fields built entries c → DescribesComponents fields (built ++ [c]) vs cs →
    DescribesComponents fields built (.mapping entries :: vs) (c :: cs)

/-- The components with different names among those that have been built: a name stands where it
stands first, with the last component of the name. -/
structure Merges (built components : List Component) : Prop where
  /-- The names are those that have been built, in order and without repetitions. -/
  names : components.map Component.name = (built.map Component.name).eraseDups
  /-- The component of a name is the last one. -/
  last : ∀ c ∈ components, IsLast Component.name built c.name c

/-- The entries of a message describe it. -/
structure DescribesMessage (fields : List Field) (built : List Component) (entries : Entries)
    (m : Message) : Prop where
  /-- The name is the text under its key. -/
  name : HoldsText "name" entries m.name
  /-- The code is the text under its key. -/
  msgType : HoldsText "msg_type" entries m.msgType
  /-- The layout is that under its key, which may refer to all components. -/
  layout : DescribesLayout fields built entries m.layout

/-- The lists of components and of messages describe those of a dictionary with the fields `fields`. -/
def DescribesLayouts (fields : List Field) (entries : Entries) (components : List Component)
    (messages : List Message) : Prop :=
  ∃ vs ws built, HoldsList "components" entries vs ∧ DescribesComponents fields [] vs built ∧
    Merges built components ∧ HoldsList "messages" entries ws ∧
    List.Forall₂ (OfMapping (DescribesMessage fields built)) ws messages

/-! ## Dictionaries -/

/-- The entries of a document describe a dictionary, and the events are told about it. -/
structure Describes (entries : Entries) (d : Dictionary) (events : List Event) : Prop where
  /-- The version is the text under its key. -/
  version : HoldsText "version" entries d.version
  /-- The fields are those of the list under their key. -/
  fields : ∃ vs, HoldsList "fields" entries vs ∧ DescribesFields vs d.fields events
  /-- The components and the messages are those of the lists under their keys. -/
  layouts : DescribesLayouts d.fields entries d.components d.messages

end FixBindings.Dictionary
