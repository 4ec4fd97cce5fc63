import FixBindings.Dictionary.Basic
import FixBindings.Identifier.Casing

/-!
# Types of fields in Rust

The Rust type that the values of a field are decoded into. It is spelled in two ways: as the
argument of a constant, which has no lifetime in scope, and as the type of a struct member, which
borrows from the message for `'a`.
-/

namespace FixBindings.Rust

open Dictionary

/-- The type of the values of a field. -/
inductive FieldType where
  /-- The checksum of a message. -/
  | checkSum
  /-- The enum of the values of a field. -/
  | enumeration (name : String)
  /-- A decimal number. -/
  | decimal
  /-- Any bytes. -/
  | bytes
  /-- A fixed number of bytes. -/
  | byteArray (length : Nat)
  /-- A type of the language itself. -/
  | primitive (name : String)
  /-- A type of the module for dates and times. -/
  | moment (name : String)
  deriving DecidableEq, Repr

/-- Where a type is spelled. -/
inductive Mode where
  /-- In a constant. -/
  | owned
  /-- In a struct that borrows from a message. -/
  | borrowed
  deriving DecidableEq, Repr

/-- The tag of the checksum. -/
def checkSumTag : Int := 10

/-- The type of the values of a data type. -/
def FieldType.ofDataType (d : DataType) : FieldType :=
  if d.base = .float then .decimal
  else
    match d with
    | .char => .primitive "u8"
    | .boolean => .primitive "bool"
    | .country | .language => .byteArray 2
    | .currency => .byteArray 3
    | .exchange => .byteArray 4
    | .length | .numInGroup => .primitive "usize"
    | .dayOfMonth => .primitive "u32"
    | .int => .primitive "i64"
    | .seqNum => .primitive "u64"
    | .utcDateOnly => .moment "Date"
    | .utcTimeOnly => .moment "Time"
    | .utcTimestamp => .moment "Timestamp"
    | _ => .bytes

/-- The type of the values of a field with this tag, data type and name of its enum, if it has one.
The checksum has a type of its own whatever is declared for it. -/
def FieldType.resolve (tag : Int) (dataType : DataType) (enumName : Option String) : FieldType :=
  if tag = checkSumTag then .checkSum
  else
    match enumName with
    | some name => .enumeration name
    | none => .ofDataType dataType

/-- The module of dates, times and checksums in the crate at `crate`. -/
def momentPath (crate : String) : String :=
  crate ++ "::dtf::"

/-- The text of a type for a runtime crate at the path `crate`. -/
def FieldType.spell (mode : Mode) (crate : String) : FieldType → String
  | checkSum => momentPath crate ++ "CheckSum"
  | enumeration name => name
  | decimal => "rust_decimal::Decimal"
  | bytes =>
    match mode with
    | .owned => "&[u8]"
    | .borrowed => "&'a [u8]"
  | byteArray length =>
    match mode with
    | .owned => "&[u8; " ++ toString length ++ "]"
    | .borrowed => "[u8; " ++ toString length ++ "]"
  | primitive name => name
  | moment name => momentPath crate ++ name

/-- The name of the enum of a field that has a list of values. -/
def enumName? (f : Field) : Option String :=
  if f.enums.isEmpty then none else some (Identifier.typeName f.name)

/-- The type of the values of a field. -/
def fieldType (f : Field) : FieldType :=
  .resolve f.tag f.dataType (enumName? f)

/-- A type that is wrapped in an option unless the member is required. -/
def optional (type : String) (required : Bool) : String :=
  if required then type else "::std::option::Option<" ++ type ++ ">"

end FixBindings.Rust
