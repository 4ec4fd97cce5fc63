import FixBindings.Event
import FixBindings.Options
import FixBindings.Rust.FieldType
import FixBindings.Rust.Lines
import FixBindings.Rust.Literal
import FixBindings.Rust.Reference

/-!
# Structs of messages

The struct of a message has a member for each field of its layout. A walk over the layout meets the
items in order; the first field of each member name becomes the member, a later one is left out, and
groups have no member at all. The fields of a component are met in its place when components are
expanded.
-/

namespace FixBindings.Rust

open Dictionary

/-! ## The walk over a layout -/

/-- What a walk over a layout meets. -/
inductive Occurrence where
  /-- A field, with whether it and all items around it are required. -/
  | field (field : Field) (required : Bool)
  /-- An item that has no member. -/
  | other (kind : ItemKind)
  deriving DecidableEq, Repr

/-- What a walk over a layout meets, in order, where `required` tells whether the items around the
layout are required. -/
def occurrences (expand required : Bool) : List Item → List Occurrence
  | [] => []
  | .field f r :: items => .field f (required && r) :: occurrences expand required items
  | .component _ layout r :: items =>
    (if expand then occurrences expand (required && r) layout else [.other .component]) ++
      occurrences expand required items
  | .group _ _ _ :: items => .other .group :: occurrences expand required items
  | .bare kind _ :: items => .other kind :: occurrences expand required items

/-! ## Members -/

/-- A member of a struct. -/
structure Member where
  /-- The name of the member. -/
  identifier : String
  /-- Its type. -/
  type : String
  /-- The field. -/
  field : Field
  deriving DecidableEq, Repr

/-- The member that every struct has. -/
def lifetimeMember : String := "lifetime"

/-- The member of a field. The name of the member that every struct has is not used. -/
def memberIdentifier (f : Field) : String :=
  let name := Identifier.memberName f.name
  if name == lifetimeMember then lifetimeMember ++ "_" else name

/-- The member of a field for a runtime crate at the path `crate`. -/
def Member.ofField (crate : String) (f : Field) (required : Bool) : Member :=
  ⟨memberIdentifier f, optional ((fieldType f).spell .borrowed crate) required, f⟩

/-- What becomes of something that a walk meets. -/
inductive Outcome where
  /-- A member. -/
  | member (m : Member)
  /-- Nothing but the event that tells why. -/
  | omitted (e : Event)
  deriving DecidableEq, Repr

/-- What becomes of all that a walk over the layout of the message `message` meets, where the names
`seen` are in use. -/
def outcomes (crate message : String) (seen : List String) : List Occurrence → List Outcome
  | [] => []
  | .other kind :: os => .omitted (.itemSkipped kind message) :: outcomes crate message seen os
  | .field f required :: os =>
    let name := memberIdentifier f
    if seen.contains name then
      .omitted (.duplicateDropped name message) :: outcomes crate message seen os
    else
      .member (.ofField crate f required) :: outcomes crate message (name :: seen) os

/-- The member that an outcome is. -/
def Outcome.member? : Outcome → Option Member
  | .member m => some m
  | .omitted _ => none

/-- The event that an outcome is. -/
def Outcome.event? : Outcome → Option Event
  | .member _ => none
  | .omitted e => some e

/-- What becomes of all that a walk over the layout of a message meets. -/
def messageOutcomes (o : Options) (m : Message) : List Outcome :=
  outcomes o.cratePath m.name [] (occurrences o.expandComponents true m.layout)

/-- The members of the struct of a message, but for the one that every struct has. -/
def messageMembers (o : Options) (m : Message) : List Member :=
  (messageOutcomes o m).filterMap Outcome.member?

/-- The events that tell what has no member. -/
def messageEvents (o : Options) (m : Message) : List Event :=
  (messageOutcomes o m).filterMap Outcome.event?

/-! ## The struct -/

/-- The lines of a member. -/
def memberLines (version : String) (m : Member) : List String :=
  ["    /// " ++ Text.singleLine m.field.name,
   "    ///",
   "    /// # Field information",
   "    ///",
   "    /// Tag Number: " ++ toString m.field.tag,
   "    /// OnixS [reference](" ++ fieldUrl version m.field.tag ++ ").",
   "    pub " ++ m.identifier ++ ": " ++ m.type ++ ","]

/-- The further attribute line of structs, when it is not blank. -/
def customDeriveLines (o : Options) : List String :=
  let line := Text.trimmed o.customDeriveLine
  if line.isEmpty then [] else [line]

/-- The lines of the struct of a message with these members, whose type has the byte string literal
`literal`. -/
def structLines (o : Options) (version : String) (m : Message) (members : List Member)
    (literal : String) : List String :=
  let name := Identifier.typeName m.name
  ["#[derive(Debug)]"] ++ customDeriveLines o ++
  ["pub struct " ++ name ++ "<'a> \x7b",
   "    " ++ lifetimeMember ++ ": PhantomData<&'a ()>,"] ++
  members.flatMap (memberLines version) ++
  ["\x7d",
   "",
   "impl<'a> " ++ name ++ "<'a> \x7b",
   "    pub const MSG_TYPE: &'static [u8] = b\"" ++ literal ++ "\";",
   "\x7d"]

/-- The text of the struct of a message whose type has the byte string literal `literal`. -/
def structText (o : Options) (version : String) (m : Message) (literal : String) : String :=
  unlines (structLines o version m (messageMembers o m) literal)

/-- The struct of a message. There is none when the type of the message cannot be encoded. -/
def messageStruct (o : Options) (version : String) (m : Message) :
    Except Text.EncodeError String :=
  (byteLiteral m.msgType).map (structText o version m)

end FixBindings.Rust
