import FixBindings.Rust.FieldDefinition
import FixBindings.Rust.MessageStruct
import FixBindings.Rust.Notice

/-!
# Modules

A module of Rust code: a head with the notice and the imports, and behind it the definitions of the
fields and the structs of the messages of a dictionary, one blank line apart.
-/

namespace FixBindings.Rust

open Dictionary Calendar

/-- The lines in front of the definitions. -/
def headLines (o : Options) (version : String) (now : DateTime) : List String :=
  ["//! Field and message definitions for " ++ Text.singleLine version ++ ".",
   "",
   "#![allow(dead_code)]",
   ""] ++
  noticeLines now ++
  ["",
   "use " ++ o.cratePath ++ "::\x7bFieldDef, FieldLocation, TagU16\x7d;",
   "use " ++ o.cratePath ++ "::\x7bDataType, Buffer\x7d;",
   "use " ++ o.cratePath ++ "::DataField;",
   "use std::marker::PhantomData;",
   ""]

/-- The fragments that are not blank, without the line feeds around them, one blank line apart. -/
def body (fragments : List String) : String :=
  "\n\n".intercalate ((fragments.filter fun f ↦ !Text.isBlankText f).map Text.trimLineFeeds)

/-- The module of fragments of code. -/
def assemble (o : Options) (version : String) (now : LocalTime) (fragments : List String) :
    Except OutOfCalendar String := do
  let utc ← now.toUtc
  return unlines (headLines o version utc) ++ body fragments ++ "\n"

/-- Why no module is written. -/
inductive GenerateError where
  /-- A field has a tag out of range. -/
  | invalidTag (e : InvalidTag)
  /-- The type of a message cannot be encoded. -/
  | encoding (e : Text.EncodeError)
  /-- The UTC time has no date. -/
  | outOfCalendar (e : OutOfCalendar)
  deriving Repr

/-- The wording of an error. -/
def GenerateError.message : GenerateError → String
  | .invalidTag e => e.message
  | .encoding e => e.message
  | .outOfCalendar e => e.message

/-- The definitions of fields, up to the first tag out of range. -/
def fieldFragments (o : Options) (version : String) :
    List Field → Traced InvalidTag (List String)
  | [] => .ok []
  | f :: fs => do
    let fragment ← fieldDefinition o version f
    let fragments ← fieldFragments o version fs
    return fragment :: fragments

/-- The messages that structs are written for. -/
def includedMessages (o : Options) (d : Dictionary) : List Message :=
  if o.includeMessages then d.messages else []

/-- The struct of a message, behind the events that tell what has no member. -/
def tracedStruct (o : Options) (version : String) (m : Message) : Traced Text.EncodeError String :=
  ⟨messageEvents o m, messageStruct o version m⟩

/-- The structs of messages, up to the first message whose type cannot be encoded. -/
def messageFragments (o : Options) (version : String) :
    List Message → Traced Text.EncodeError (List String)
  | [] => .ok []
  | m :: ms => do
    let fragment ← tracedStruct o version m
    let fragments ← messageFragments o version ms
    return fragment :: fragments

/-- The module of a dictionary at a local time. -/
def generate (o : Options) (now : LocalTime) (d : Dictionary) : Traced GenerateError String := do
  let fields ← (fieldFragments o d.version d.fields).mapError .invalidTag
  let messages ← (messageFragments o d.version (includedMessages o d)).mapError .encoding
  Traced.tell (.generated fields.length messages.length d.version)
  Traced.ofExcept
    ((assemble o d.version now (fields ++ messages)).mapError .outOfCalendar)

end FixBindings.Rust
