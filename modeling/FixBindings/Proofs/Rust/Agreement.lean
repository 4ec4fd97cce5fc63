import FixBindings.Proofs.Dictionary.Closure
import FixBindings.Proofs.Rust.Structure

/-!
# Constants and members agree

A module with structs is closed. Each member of a struct is that of a field whose constant stands in
the same module, and its type is the one in the constant: a slice of bytes borrows from the message, an
array of bytes is held by value, and any other type is spelled in the same way. A type that is the name
of an enum is declared in the module with the values of the field.
-/

namespace FixBindings.Rust

open Dictionary Calendar Identifier

/-! ## Types -/

/-- The spelling in a struct of a type that is spelled in a constant as the first text. Slices and
arrays of bytes are spelled in another way, and all other types in the same. -/
inductive Respells : String → String → Prop where
  | slice : Respells "&[u8]" "&'a [u8]"
  | array (length : Nat) :
    Respells ("&[u8; " ++ toString length ++ "]") ("[u8; " ++ toString length ++ "]")
  | same {type : String} : type ≠ "&[u8]" →
    (∀ length : Nat, type ≠ "&[u8; " ++ toString length ++ "]") → Respells type type

/-- Slices and arrays end with a bracket. -/
theorem respells_self {type : String} (h : type.toList.getLast? ≠ some ']') : Respells type type := by
  refine .same ?_ fun length ↦ ?_
  · rintro rfl
    exact h rfl
  · rintro rfl
    exact h (by rw [String.toList_append, List.getLast?_append]; rfl)

/-- A text does not end with a character that is not in its last part, unless that part is empty. -/
theorem getLast?_append_ne_of_notMem {front name : String} {c : Char}
    (hf : front.toList.getLast? ≠ some c) (hn : c ∉ name.toList) :
    (front ++ name).toList.getLast? ≠ some c := by
  rw [String.toList_append, List.getLast?_append]
  cases hlast : name.toList.getLast? with
  | none => exact hf
  | some d =>
    rintro ⟨⟩
    exact hn (List.mem_of_getLast? hlast)

/-- The path of dates and times ends with a colon. -/
theorem getLast?_momentPath (crate : String) : (momentPath crate).toList.getLast? = some ':' := by
  rw [momentPath, String.toList_append, List.getLast?_append]
  rfl

/-- The two spellings of a type, for a runtime crate at any path. -/
theorem FieldType.respells_spell (crate : String) {t : FieldType} (ht : t.isInert) :
    Respells (t.spell .owned crate) (t.spell .borrowed crate) := by
  have hpath : (momentPath crate).toList.getLast? ≠ some ']' := by
    rw [getLast?_momentPath]
    decide
  have hbracket {name : String} (hn : name.toList.all Rust.isInert) : ']' ∉ name.toList := fun hm ↦
    absurd (List.all_eq_true.mp hn _ hm) (by decide)
  have hname (name : String) (hn : name.toList.all Rust.isInert) : Respells name name :=
    respells_self fun hlast ↦ hbracket hn (List.mem_of_getLast? hlast)
  cases t with
  | checkSum => exact respells_self (getLast?_append_ne_of_notMem hpath (hbracket rfl))
  | enumeration name => exact hname _ ht
  | decimal => exact hname "rust_decimal::Decimal" rfl
  | bytes => exact .slice
  | byteArray length => exact .array length
  | primitive name => exact hname _ ht
  | moment name => exact respells_self (getLast?_append_ne_of_notMem hpath (hbracket ht))

/-- The type of a field with values is its enum, unless it is the checksum. -/
theorem fieldType_of_enums {f : Field} (he : f.enums ≠ []) (ht : f.tag ≠ 10) :
    fieldType f = .enumeration (typeName f.name) := by
  rw [fieldType, enumName?_of_enums he]
  exact if_neg ht

/-! ## Declarations -/

/-- A definition declares the constant of a field, with the argument `type`, behind two lines of
documentation. -/
def DeclaresConstant (f : Field) (type definition : String) : Prop :=
  ∃ docs rest, definition = unlines (docs ++
      ("pub const " ++ constantName f.name ++ ": &FieldDef<'static, " ++ type ++ "> = &FieldDef\x7b") ::
      rest) ∧
    docs.length = 2 ∧ ∀ l ∈ docs, "///".toList <+: l.toList

/-- Lines declare the variant of a value: its documentation, an attribute with the value, and the
name. -/
def DeclaresVariant (helper : String) (v : EnumValue) (ls : List String) : Prop :=
  ∃ doc, ls = [doc, "    #[" ++ helper ++ "(variant = \"" ++ stringLiteral v.value ++ "\")]",
    "    " ++ variantName v.description ++ ","]

/-- A definition ends with an enum that has one variant for each value, in order. -/
def DeclaresEnum (helper name : String) (vs : List EnumValue) (definition : String) : Prop :=
  ∃ front variants, definition = unlines (front ++ ("pub enum " ++ name ++ " \x7b") ::
      (variants.flatten ++ ["\x7d"])) ∧
    List.Forall₂ (DeclaresVariant helper) vs variants

/-- Lines declare a member with its type, behind six lines of documentation. -/
def DeclaresMember (x : Member) (ls : List String) : Prop :=
  ∃ docs, ls = docs ++ ["    pub " ++ x.identifier ++ ": " ++ x.type ++ ","] ∧ docs.length = 6

/-- A struct has the members `xs` in order, and no other ones but for the one that every struct
has. -/
def DeclaresStruct (name : String) (xs : List Member) (struct : String) : Prop :=
  ∃ front members rest, struct = unlines (front ++ ("pub struct " ++ name ++ "<'a> \x7b") ::
      ("    " ++ lifetimeMember ++ ": PhantomData<&'a ()>,") :: (members.flatten ++ "\x7d" :: rest)) ∧
    List.Forall₂ DeclaresMember xs members

variable (o : Options) (version : String)

theorem declaresConstant_definitionLines (f : Field) :
    DeclaresConstant f ((fieldType f).spell .owned o.cratePath)
      (unlines (definitionLines o version f)) := by
  refine ⟨(constantLines o version f).take 2, (constantLines o version f).drop 3 ++ enumLines o f,
    rfl, rfl, ?_⟩
  simp [constantLines]

theorem declaresVariant_variantLines (helper : String) (v : EnumValue) :
    DeclaresVariant helper v (variantLines helper v) :=
  ⟨_, rfl⟩

/-- What is done with each element of a list is related to the elements when it is to each one. -/
theorem forall₂_map_right {α β : Type _} {R : α → β → Prop} {f : α → β} {as : List α}
    (h : ∀ a ∈ as, R a (f a)) : List.Forall₂ R as (as.map f) := by
  rw [List.forall₂_map_right_iff, List.forall₂_same]
  exact h

theorem declaresEnum_definitionLines {f : Field} (he : f.enums ≠ []) :
    DeclaresEnum o.deriveAttribute (typeName f.name) f.enums
      (unlines (definitionLines o version f)) := by
  refine ⟨constantLines o version f ++ ["",
      "/// Field type variants for [\x60" ++ Identifier.constantName f.name ++ "\x60].",
      "#[derive(Debug, Copy, Clone, PartialEq, Eq, Hash, DataField)]"],
    f.enums.map (variantLines o.deriveAttribute), ?_,
    forall₂_map_right fun v _ ↦ declaresVariant_variantLines _ v⟩
  rw [definitionLines, enumLines, enumName?_of_enums he, ← List.flatMap_def]
  simp only [List.append_assoc, List.cons_append, List.nil_append]

theorem declaresMember_memberLines (x : Member) : DeclaresMember x (memberLines version x) :=
  ⟨(memberLines version x).take 6, rfl, rfl⟩

theorem declaresStruct_structText (m : Message) (literal : String) :
    DeclaresStruct (typeName m.name) (messageMembers o m) (structText o version m literal) := by
  refine ⟨"#[derive(Debug)]" :: customDeriveLines o, (messageMembers o m).map (memberLines version),
    ["", "impl<'a> " ++ typeName m.name ++ "<'a> \x7b",
     "    pub const MSG_TYPE: &'static [u8] = b\"" ++ literal ++ "\";", "\x7d"], ?_,
    forall₂_map_right fun x _ ↦ declaresMember_memberLines version x⟩
  rw [structText, structLines, ← List.flatMap_def]
  simp only [List.append_assoc, List.cons_append, List.nil_append]

/-! ## Closed modules -/

/-- A member is that of the first field of its name on a walk. It is one of `fields`, and its type is
the argument of the constant of the field in the spelling of structs, as an option unless the walk tells
that the member is required. The type of a field with values is its enum, unless it is the checksum. -/
structure AgreesWith (fields : List Field) (typeOf : Field → String) (walk : List Occurrence)
    (x : Member) : Prop where
  /-- The field is among the fields. -/
  field : x.field ∈ fields
  /-- The type is that of the constant. -/
  type : ∃ required type, IsFirst walk x.field required ∧ x.type = optional type required ∧
    Respells (typeOf x.field) type ∧
    (x.field.enums ≠ [] → x.field.tag ≠ 10 → type = typeName x.field.name)

/-- The definitions and the structs of a dictionary agree, where `typeOf` tells the type in the
constant of each field. -/
structure IsClosed (o : Options) (d : Dictionary) (typeOf : Field → String)
    (definitions structs : List String) : Prop where
  /-- The definitions declare the constants of the fields. -/
  constants : List.Forall₂ (fun f s ↦ DeclaresConstant f (typeOf f) s) d.fields definitions
  /-- The definitions of fields with values declare their enums. -/
  enums : List.Forall₂ (fun f s ↦ f.enums ≠ [] →
    DeclaresEnum o.deriveAttribute (typeName f.name) f.enums s) d.fields definitions
  /-- The structs are those of the messages and have their members. -/
  structs : List.Forall₂ (fun m s ↦ messageStruct o d.version m = .ok s ∧
    DeclaresStruct (typeName m.name) (messageMembers o m) s) d.messages structs
  /-- The members agree with the constants of their fields. -/
  members : ∀ m ∈ d.messages, ∀ x ∈ messageMembers o m,
    AgreesWith d.fields typeOf (occurrences o.expandComponents true m.layout) x

/-- A walk over a layout meets only fields that the layout draws on. -/
theorem mem_of_mem_occurrences {fields : List Field} {expand required : Bool} {items : List Item}
    (h : ∀ i ∈ items, DrawsOn fields i) {f : Field} {r : Bool}
    (hf : .field f r ∈ occurrences expand required items) : f ∈ fields := by
  fun_induction occurrences expand required items with
  | case1 => simp at hf
  | case2 required g s items ih =>
    rw [List.forall_mem_cons] at h
    rcases List.mem_cons.mp hf with hf | hf
    · cases hf
      cases h.1
      assumption
    · exact ih h.2 hf
  | case3 required name layout s items ihl ih =>
    rw [List.forall_mem_cons] at h
    rcases List.mem_append.mp hf with hf | hf
    · cases h.1 with
      | component hlayout =>
        split at hf
        · exact ihl hlayout hf
        · simp at hf
    · exact ih h.2 hf
  | case4 required leader layout s items ih =>
    rw [List.forall_mem_cons] at h
    exact ih h.2 (by simpa using hf)
  | case5 required kind s items ih =>
    rw [List.forall_mem_cons] at h
    exact ih h.2 (by simpa using hf)

/-- The members of a message whose layout draws on `fields` agree with the constants of fields. -/
theorem agreesWith_of_mem_messageMembers {fields : List Field} {m : Message}
    (h : ∀ i ∈ m.layout, DrawsOn fields i) {x : Member} (hx : x ∈ messageMembers o m) :
    AgreesWith fields (fun f ↦ (fieldType f).spell .owned o.cratePath)
      (occurrences o.expandComponents true m.layout) x := by
  obtain ⟨f, required, hf, rfl⟩ := exists_of_mem_messageMembers hx
  refine ⟨mem_of_mem_occurrences h hf.mem, required, (fieldType f).spell .borrowed o.cratePath, hf,
    rfl, FieldType.respells_spell _ (FieldType.isInert_fieldType f), fun he ht ↦ ?_⟩
  rw [Member.field_ofField] at he ht ⊢
  rw [fieldType_of_enums he ht]
  rfl

/-- The definitions and structs of a dictionary that is described by a document agree. -/
theorem isClosed_of_describes {entries : Document.Entries} {d : Dictionary} {es : List Event}
    (ho : o.includeMessages = true) (he : AreEncodable o d) (h : Describes entries d es) :
    IsClosed o d (fun f ↦ (fieldType f).spell .owned o.cratePath) (fieldTexts o d)
      (structTexts o d) where
  constants := forall₂_map_right fun f _ ↦ declaresConstant_definitionLines o d.version f
  enums := forall₂_map_right fun _ _ he ↦ declaresEnum_definitionLines o d.version he
  structs := by
    have hincluded : includedMessages o d = d.messages := if_pos ho
    rw [structTexts, hincluded]
    refine forall₂_map_right fun m hm ↦ ⟨?_, declaresStruct_structText o d.version m _⟩
    exact (messageStruct_eq_ok o d.version).mpr ⟨he m (hincluded ▸ hm), rfl⟩
  members := fun m hm _ hx ↦ agreesWith_of_mem_messageMembers o (h.drawsOn.2 m hm) hx

/-- The module with structs of a dictionary that has been loaded, with all tags in range and with message
types that can be encoded, consists of its head and of definitions and structs that agree: each member of a struct has a constant in the
module, the types of both are the same but for the spelling of slices and arrays, and the enums that are
types are declared. -/
theorem generate_isClosed {now : LocalTime} {utc : DateTime} {entries : Document.Entries}
    {d : Dictionary} (ho : o.includeMessages = true) (hd : (ofEntries entries).result = .ok d)
    (ht : ∀ f ∈ d.fields, TagInRange f.tag) (he : AreEncodable o d) (hnow : now.toUtc = .ok utc) :
    ∃ definitions structs typeOf,
      (generate o now d).result =
        .ok (unlines (headLines o d.version utc) ++ body (definitions ++ structs) ++ "\n") ∧
      IsClosed o d typeOf definitions structs := by
  have hdescribes : Describes entries d (ofEntries entries).events :=
    ofEntries_eq_ok.mp (by rw [← hd])
  exact ⟨_, _, _, generate_of_toUtc o ht he hnow, isClosed_of_describes o ho he hdescribes⟩

/-- A document in which a field with values and an array of bytes have two entries each, and a message
reaches the fields through a component and twice by itself. -/
def shared : Document.Entries :=
  let text (s : String) : Document.Value := .text s
  let field (name type : String) (tag : Int) (values : List String) : Document.Value :=
    .mapping [(.text "name", text name), (.text "type", text type), (.text "tag", .scalar (.int tag)),
      (.text "values", .list (values.map fun v ↦ .mapping [(.text "value", text v)]))]
  let item (kind name : String) (required : Bool) : Document.Value :=
    .mapping [(.text kind, text name), (.text "required", .scalar (.bool required))]
  [(.text "version", text "FIX.4.4"),
   (.text "fields", .list [field "Side" "CHAR" 54 [], field "Side" "CHAR" 1054 ["1", "2"],
     field "Country" "STRING" 421 [], field "Country" "COUNTRY" 1421 [],
     field "CheckSum" "STRING" 10 ["0"], field "Text" "STRING" 58 []]),
   (.text "components", .list [.mapping [(.text "name", text "Order"),
     (.text "layout", .list [item "field" "Side" true, item "field" "Text" true])]]),
   (.text "messages", .list [.mapping [(.text "name", text "Quote"), (.text "msg_type", text "S"),
     (.text "layout", .list [item "component" "Order" false, item "field" "Side" true,
       item "field" "Country" true, item "field" "CheckSum" false])]])]

/-- The dictionary of the document with two entries for each of two fields. -/
def ofShared : Dictionary :=
  let side : Field := ⟨1054, "Side", .char, [⟨"1", "1"⟩, ⟨"2", "2"⟩]⟩
  let country : Field := ⟨1421, "Country", .country, []⟩
  let checkSum : Field := ⟨10, "CheckSum", .string, [⟨"0", "0"⟩]⟩
  let text : Field := ⟨58, "Text", .string, []⟩
  let layout := [.field side true, .field text true]
  ⟨"FIX.4.4", [⟨54, "Side", .char, []⟩, side, ⟨421, "Country", .string, []⟩, country, checkSum, text],
    [⟨"Order", layout⟩], [⟨"Quote", "S", [.component "Order" layout false, .field side true,
      .field country true, .field checkSum false]⟩]⟩

/-- The members have an optional enum, an optional slice, an array and an optional checksum as types. -/
theorem generate_isClosed_shared :
    let o : Options := { includeMessages := true, expandComponents := true }
    let now : LocalTime := ⟨⟨⟨2024, 3, 5⟩, 14, 30, 0⟩, 3600⟩
    let utc : DateTime := ⟨⟨2024, 3, 5⟩, 13, 30, 0⟩
    ((ofEntries shared).result = .ok ofShared ∧ (∀ f ∈ ofShared.fields, TagInRange f.tag) ∧
      AreEncodable o ofShared ∧ now.toUtc = .ok utc) ∧
    ∃ definitions structs typeOf,
      (generate o now ofShared).result =
        .ok (unlines (headLines o "FIX.4.4" utc) ++ body (definitions ++ structs) ++ "\n") ∧
      IsClosed o ofShared typeOf definitions structs := by
  intro o now utc
  have hd : (ofEntries shared).result = .ok ofShared := rfl
  have ht : ∀ f ∈ ofShared.fields, TagInRange f.tag := by decide
  have he : AreEncodable o ofShared := by
    intro m hm
    obtain rfl := List.mem_singleton.mp hm
    exact Text.isEncodable_of_notMem (by decide)
  have hnow : LocalTime.toUtc ⟨⟨⟨2024, 3, 5⟩, 14, 30, 0⟩, 3600⟩ = .ok ⟨⟨2024, 3, 5⟩, 13, 30, 0⟩ :=
    rfl
  exact ⟨⟨hd, ht, he, hnow⟩, generate_isClosed o rfl hd ht he hnow⟩

end FixBindings.Rust
