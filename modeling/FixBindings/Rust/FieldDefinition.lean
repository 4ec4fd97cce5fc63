import FixBindings.Document.Value
import FixBindings.Options
import FixBindings.Rust.FieldType
import FixBindings.Rust.Lines
import FixBindings.Rust.Literal
import FixBindings.Rust.Reference
import FixBindings.Traced

/-!
# Definitions of fields

The constant that describes a field and, when the field has a list of values, the enum of them. The
constant is written only for a tag that a non-zero 16-bit number can hold, since the code makes that
number without a check of its own.
-/

namespace FixBindings.Rust

open Dictionary

/-! ## Tags -/

/-- The least tag. -/
def minTag : Int := 1

/-- The greatest tag. -/
def maxTag : Int := 65535

/-- Why the tag of a field is refused. -/
inductive InvalidTag where
  /-- It is not a number from 1 to 65535. -/
  | outOfRange (field : String) (tag : Document.Value)
  /-- It is out of range and has too many digits to be written. -/
  | unprintable
  deriving Repr

/-- The wording of the error. -/
def InvalidTag.message : InvalidTag → String
  | .outOfRange field tag =>
    "Field '" ++ field ++ "' has tag " ++ tag.inspect ++ "; tags must be integers in " ++
      toString minTag ++ "..=" ++ toString maxTag
  | .unprintable => Number.unprintableMessage

/-- The refusal of a tag. -/
def InvalidTag.ofValue (field : String) (tag : Document.Value) : InvalidTag :=
  if tag.isPrintable then .outOfRange field tag else .unprintable

/-- Whether a tag is in range. -/
def TagInRange (tag : Int) : Prop :=
  minTag ≤ tag ∧ tag ≤ maxTag

instance (tag : Int) : Decidable (TagInRange tag) :=
  inferInstanceAs (Decidable (_ ∧ _))

/-- The tag that a value gives to the field `field`: an integer in range and nothing else. -/
def tagOfValue (field : String) (v : Document.Value) : Except InvalidTag Int :=
  match v with
  | .scalar (.int tag) => if TagInRange tag then .ok tag else .error (.ofValue field v)
  | _ => .error (.ofValue field v)

/-! ## The definition -/

/-- Whether a field counts the entries of a repeating group, which its name tells. -/
def isGroupLeader (f : Field) : Bool :=
  "Len".toList.isSuffixOf f.name.toList

/-- The lines of a value in the enum of a field, where `helper` is the name of the helper attribute. -/
def variantLines (helper : String) (v : EnumValue) : List String :=
  ["    /// Field variant '" ++ Text.singleLine v.value ++ "'.",
   "    #[" ++ helper ++ "(variant = \"" ++ stringLiteral v.value ++ "\")]",
   "    " ++ Identifier.variantName v.description ++ ","]

/-- The lines of the constant of a field. -/
def constantLines (o : Options) (version : String) (f : Field) : List String :=
  ["/// Field attributes for [\x60" ++ Text.singleLine f.name ++ " <" ++ toString f.tag ++ ">\x60]",
   "/// (" ++ fieldUrl version f.tag ++ ").",
   "pub const " ++ Identifier.constantName f.name ++ ": &FieldDef<'static, " ++
     (fieldType f).spell .owned o.cratePath ++ "> = &FieldDef\x7b",
   "    name: \"" ++ stringLiteral f.name ++ "\",",
   "    tag: unsafe \x7b TagU16::new_unchecked(" ++ toString f.tag ++ ") \x7d,",
   "    is_group_leader: " ++ (if isGroupLeader f then "true" else "false") ++ ",",
   "    data_type: DataType::" ++ f.dataType.spelling ++ ",",
   "    phantom: PhantomData,",
   "    location: FieldLocation::Body,",
   "\x7d;"]

/-- The lines of the enum of a field, none for a field without a list of values. -/
def enumLines (o : Options) (f : Field) : List String :=
  match enumName? f with
  | none => []
  | some name =>
    ["",
     "/// Field type variants for [\x60" ++ Identifier.constantName f.name ++ "\x60].",
     "#[derive(Debug, Copy, Clone, PartialEq, Eq, Hash, DataField)]",
     "pub enum " ++ name ++ " \x7b"] ++
    f.enums.flatMap (variantLines o.deriveAttribute) ++
    ["\x7d"]

/-- The lines of the definition of a field. -/
def definitionLines (o : Options) (version : String) (f : Field) : List String :=
  constantLines o version f ++ enumLines o f

/-- The definition of a field whose tag is in range. -/
def fieldDefinition (o : Options) (version : String) (f : Field) : Traced InvalidTag String := do
  let tag ← Traced.ofExcept (tagOfValue f.name (.scalar (.int f.tag)))
  Traced.tell (.fieldResolved f.name tag ((fieldType f).spell .owned o.cratePath))
  return unlines (definitionLines o version f)

end FixBindings.Rust
