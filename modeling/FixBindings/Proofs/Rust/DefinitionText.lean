import FixBindings.Proofs.Rust.Fragments
import FixBindings.Proofs.Rust.Lines
import FixBindings.Proofs.Rust.Structure

/-!
# Definitions are read back

A reader of the definition of a field that knows its lines, but neither the field nor the version. It asks for
the ten lines of the constant and, if there is more, for the lines of an enum, three for each variant, and
reads what is not the same for all fields. Names and values are decoded from their literals.

The definition of a field consists of just these lines, whatever its name, values and descriptions hold, and
what the reader reads is the field: its name, and its values in order, each with its variant.
-/

namespace FixBindings.Rust

open Dictionary Identifier

/-! ## Reading -/

/-- What is read from the ten lines of a constant. -/
structure ConstantText where
  /-- The name of the constant. -/
  identifier : String
  /-- The type of the values. -/
  type : String
  /-- The name of the field, from its literal. -/
  name : String
  /-- The tag. -/
  tag : String
  /-- Whether the field counts the entries of a group. -/
  isGroupLeader : String
  /-- The data type. -/
  dataType : String
  deriving DecidableEq, Repr

/-- What is read from the lines of an enum. -/
structure EnumText where
  /-- The name of the enum. -/
  name : String
  /-- The values, from their literals, each with its variant. -/
  variants : List (String × String)
  deriving DecidableEq, Repr

/-- What is read from a definition. -/
structure DefinitionText where
  /-- The constant. -/
  constant : ConstantText
  /-- The enum, if there is one. -/
  enum : Option EnumText
  deriving DecidableEq, Repr

/-- Reads the ten lines of a constant and leaves those behind them. -/
def readConstant : List String → Option (ConstantText × List String)
  | title :: address :: head :: name :: tag :: leader :: dataType :: phantom :: location :: close ::
      rest => do
    let _ ← between? "/// Field attributes for [\x60" ">\x60]" title
    let _ ← between? "/// (" ")." address
    let (identifier, type) ←
      (between? "pub const " "> = &FieldDef\x7b" head).bind (nameBefore? ": &FieldDef<'static, ")
    let name ← (between? "    name: \"" "\"," name).bind readString
    let tag ← between? "    tag: unsafe \x7b TagU16::new_unchecked(" ") \x7d," tag
    let leader ← between? "    is_group_leader: " "," leader
    let dataType ← between? "    data_type: DataType::" "," dataType
    if phantom = "    phantom: PhantomData," ∧ location = "    location: FieldLocation::Body," ∧
        close = "\x7d;" then
      some (⟨identifier, type, name, tag, leader, dataType⟩, rest)
    else none
  | _ => none

/-- Reads variants, each of which has three lines, up to the end of their enum. The name of the helper
attribute is `helper`. -/
def readVariants (helper : String) : List String → Option (List (String × String))
  | [close] => if close = "\x7d" then some [] else none
  | doc :: helperLine :: variant :: rest => do
    let _ ← between? "    /// Field variant '" "'." doc
    let value ← (between? ("    #[" ++ helper ++ "(variant = \"") "\")]" helperLine).bind readString
    let variant ← between? "    " "," variant
    let others ← readVariants helper rest
    some ((value, variant) :: others)
  | _ => none

/-- Reads the lines of an enum. There is no enum when there are no lines. -/
def readEnum (helper : String) : List String → Option (Option EnumText)
  | [] => some none
  | blank :: doc :: derive :: head :: rest => do
    let _ ← between? "/// Field type variants for [\x60" "\x60]." doc
    let name ← between? "pub enum " " \x7b" head
    let variants ← readVariants helper rest
    if blank = "" ∧ derive = "#[derive(Debug, Copy, Clone, PartialEq, Eq, Hash, DataField)]" then
      some (some ⟨name, variants⟩)
    else none
  | _ => none

/-- Reads the lines of a definition. -/
def readDefinition (helper : String) (ls : List String) : Option DefinitionText := do
  let (constant, rest) ← readConstant ls
  let enum ← readEnum helper rest
  some ⟨constant, enum⟩

/-! ## Reading what is written -/

/-- The constant of a field is read back, whatever stands behind it. -/
theorem readConstant_constantLines (o : Options) (version : String) (f : Field) (rest : List String) :
    readConstant (constantLines o version f ++ rest) =
      some (⟨constantName f.name, (fieldType f).spell .owned o.cratePath, f.name, toString f.tag,
        if isGroupLeader f then "true" else "false", f.dataType.spelling⟩, rest) := by
  have htitle : between? "/// Field attributes for [\x60" ">\x60]"
      ("/// Field attributes for [\x60" ++ Text.singleLine f.name ++ " <" ++ toString f.tag ++ ">\x60]") =
        some (Text.singleLine f.name ++ " <" ++ toString f.tag) := by
    simp only [between?_eq_some_iff, String.append_assoc]
  have hhead : between? "pub const " "> = &FieldDef\x7b"
      ("pub const " ++ constantName f.name ++ ": &FieldDef<'static, " ++
        (fieldType f).spell .owned o.cratePath ++ "> = &FieldDef\x7b") =
        some (constantName f.name ++ ": &FieldDef<'static, " ++ (fieldType f).spell .owned o.cratePath) := by
    simp only [between?_eq_some_iff, String.append_assoc]
  have hidentifier : nameBefore? ": &FieldDef<'static, "
      (constantName f.name ++ ": &FieldDef<'static, " ++ (fieldType f).spell .owned o.cratePath) =
        some (constantName f.name, (fieldType f).spell .owned o.cratePath) :=
    nameBefore?_append (isNameChar_of_mem_constantName f.name) rfl rfl _
  simp only [constantLines, List.cons_append, List.nil_append, readConstant, htitle, hhead, hidentifier,
    between?_append, readString_stringLiteral, Option.bind_some, Option.bind_eq_bind, and_self, if_true]

/-- Variants are read back. -/
theorem readVariants_flatMap (helper : String) (vs : List EnumValue) :
    readVariants helper (vs.flatMap (variantLines helper) ++ ["\x7d"]) =
      some (vs.map fun v ↦ (v.value, variantName v.description)) := by
  induction vs with
  | nil => rfl
  | cons v vs ih =>
    simp only [List.flatMap_cons, variantLines, List.cons_append, List.nil_append, readVariants,
      between?_append, readString_stringLiteral, ih, Option.bind_some, Option.bind_eq_bind, List.map_cons]

/-- The enum of a field is read back, if it has one. -/
theorem readEnum_enumLines (o : Options) (f : Field) :
    readEnum o.deriveAttribute (enumLines o f) = some (if f.enums = [] then none else
      some ⟨typeName f.name, f.enums.map fun v ↦ (v.value, variantName v.description)⟩) := by
  by_cases h : f.enums = []
  · rw [if_pos h, enumLines, enumName?, h]
    rfl
  · rw [if_neg h, enumLines, enumName?_of_enums h]
    simp only [List.cons_append, List.nil_append, readEnum, between?_append, readVariants_flatMap,
      Option.bind_some, Option.bind_eq_bind, and_self, if_true]

/-! ## Lines of a definition -/

section

variable {o : Options} {version : String}

theorem newline_notMem_constantLines (ho : LineOptions o) (hv : '\n' ∉ version.toList) (f : Field) :
    ∀ l ∈ constantLines o version f, '\n' ∉ l.toList := by
  have hname := Text.newline_notMem_singleLine f.name
  have hliteral := newline_notMem_stringLiteral f.name
  have hurl := newline_notMem_fieldUrl (Text.notMem_trim hv) f.tag
  have htag := newline_notMem_toString_int f.tag
  have hid := newline_notMem_constantName f.name
  have htype : '\n' ∉ ((fieldType f).spell .owned o.cratePath).toList := newline_notMem_spell ho.cratePath f
  have hleader : '\n' ∉ (if isGroupLeader f then "true" else "false").toList := by
    split
    · decide
    · decide
  have hdata : '\n' ∉ f.dataType.spelling.toList := by
    cases f.dataType <;> decide
  simp only [constantLines, List.forall_mem_cons, String.toList_append, List.mem_append, not_or]
  refine ⟨⟨⟨⟨⟨by decide, hname⟩, by decide⟩, htag⟩, by decide⟩, ⟨⟨by decide, hurl⟩, by decide⟩,
    ⟨⟨⟨⟨by decide, hid⟩, by decide⟩, htype⟩, by decide⟩, ⟨⟨by decide, hliteral⟩, by decide⟩,
    ⟨⟨by decide, htag⟩, by decide⟩, ⟨⟨by decide, hleader⟩, by decide⟩, ⟨⟨by decide, hdata⟩, by decide⟩,
    by decide, by decide, by decide, List.forall_mem_nil _⟩

theorem newline_notMem_variantLines (ho : LineOptions o) (v : EnumValue) :
    ∀ l ∈ variantLines o.deriveAttribute v, '\n' ∉ l.toList := by
  have hvalue := Text.newline_notMem_singleLine v.value
  have hliteral := newline_notMem_stringLiteral v.value
  have hvariant : '\n' ∉ (variantName v.description).toList := newline_notMem_typeName v.description
  simp only [variantLines, List.forall_mem_cons, String.toList_append, List.mem_append, not_or]
  exact ⟨⟨⟨by decide, hvalue⟩, by decide⟩,
    ⟨⟨⟨⟨by decide, ho.deriveAttribute⟩, by decide⟩, hliteral⟩, by decide⟩,
    ⟨⟨by decide, hvariant⟩, by decide⟩, List.forall_mem_nil _⟩

theorem newline_notMem_enumLines (ho : LineOptions o) (f : Field) :
    ∀ l ∈ enumLines o f, '\n' ∉ l.toList := by
  by_cases h : f.enums = []
  · rw [enumLines, enumName?, h]
    exact List.forall_mem_nil _
  · have hid := newline_notMem_constantName f.name
    have hname := newline_notMem_typeName f.name
    rw [enumLines, enumName?_of_enums h]
    rw [List.forall_mem_append, List.forall_mem_append, List.forall_mem_flatMap]
    refine ⟨⟨?_, fun v _ ↦ newline_notMem_variantLines ho v⟩, ?_⟩
    · simp only [List.forall_mem_cons, String.toList_append, List.mem_append, not_or]
      exact ⟨by decide, ⟨⟨by decide, hid⟩, by decide⟩, by decide, ⟨⟨by decide, hname⟩, by decide⟩,
        List.forall_mem_nil _⟩
    · rw [List.forall_mem_singleton]
      decide

/-- Three lines for each value, and five around them. -/
theorem length_enumLines (o : Options) (f : Field) :
    (enumLines o f).length = if f.enums = [] then 0 else 5 + 3 * f.enums.length := by
  by_cases h : f.enums = []
  · rw [if_pos h, enumLines, enumName?, h]
    rfl
  · have hvariants : (f.enums.flatMap (variantLines o.deriveAttribute)).length = 3 * f.enums.length := by
      rw [List.length_flatMap]
      simp [variantLines, Nat.mul_comm]
    rw [if_neg h, enumLines, enumName?_of_enums h]
    simp only [List.length_append, List.length_cons, List.length_nil, hvariants]
    omega

/-- The definition of a field with a tag in range, for a version and options on one line, consists of ten
lines for its constant and, when the field has values, of five lines for an enum and three for each of its
variants. The name of the field is read back from its literal, and so are the values, in order and each with
the variant of its description. There is no enum when the field has no values. -/
theorem exists_readDefinition_fieldDefinition {f : Field} (ht : TagInRange f.tag)
    (hv : '\n' ∉ version.toList) (ho : LineOptions o) :
    ∃ text ls, (fieldDefinition o version f).result = .ok text ∧ splitLines text = ls ++ [""] ∧
      ls.length = 10 + (if f.enums = [] then 0 else 5 + 3 * f.enums.length) ∧
      readDefinition o.deriveAttribute ls = some {
        constant := {
          identifier := constantName f.name
          type := (fieldType f).spell .owned o.cratePath
          name := f.name
          tag := toString f.tag
          isGroupLeader := if isGroupLeader f then "true" else "false"
          dataType := f.dataType.spelling }
        enum := if f.enums = [] then none else some {
          name := typeName f.name
          variants := f.enums.map fun v ↦ (v.value, variantName v.description) } } := by
  refine ⟨_, definitionLines o version f, fieldDefinition_of_inRange o version ht, ?_, ?_, ?_⟩
  · apply splitLines_unlines
    rw [definitionLines, List.forall_mem_append]
    exact ⟨newline_notMem_constantLines ho hv f, newline_notMem_enumLines ho f⟩
  · rw [definitionLines, List.length_append, length_enumLines]
    rfl
  · simp only [readDefinition, definitionLines, readConstant_constantLines, readEnum_enumLines,
      Option.bind_eq_bind, Option.bind_some]

/-- A field whose name and values hold quotes, backslashes, slashes and a line feed. -/
theorem exists_readDefinition_fieldDefinition_quoted :
    (TagInRange 35 ∧ '\n' ∉ "FIX.4.4".toList ∧ LineOptions {}) ∧
    ∃ text ls,
      (fieldDefinition {} "FIX.4.4" ⟨35, "Msg\"Type\n]", .char,
        [⟨"\\", "a \x7b\nslash"⟩, ⟨"//\"", "\x7d"⟩]⟩).result = .ok text ∧
      splitLines text = ls ++ [""] ∧ ls.length = 21 ∧
      readDefinition "fefix" ls = some {
        constant := ⟨"MSG_TYPE", "MsgType", "Msg\"Type\n]", "35", "false", "Char"⟩
        enum := some ⟨"MsgType", [("\\", "ASlash"), ("//\"", "N")]⟩ } := by
  have ht : TagInRange 35 := by decide
  have hv : '\n' ∉ "FIX.4.4".toList := by decide
  have ho : LineOptions {} := ⟨by decide, by decide, by decide⟩
  refine ⟨⟨ht, hv, ho⟩, ?_⟩
  obtain ⟨text, ls, htext, hlines, hlength, hread⟩ := exists_readDefinition_fieldDefinition
    (f := ⟨35, "Msg\"Type\n]", .char, [⟨"\\", "a \x7b\nslash"⟩, ⟨"//\"", "\x7d"⟩]⟩) ht hv ho
  refine ⟨text, ls, htext, hlines, hlength, hread.trans ?_⟩
  decide +kernel

end

end FixBindings.Rust
