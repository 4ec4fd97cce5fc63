import FixBindings.Proofs.Rust.Agreement

/-!
# The order of members

The fields that count in a layout are those of its own items and, when components are expanded, those of
the layouts of its components at any depth; groups have none. Each field is required when all items on the
path to it are. The members of a struct are those of the fields that count, in their order, where of several
fields with one member name the first has the member. The type of a member is an option when its field is
not required.
-/

namespace FixBindings.Rust

open Dictionary Identifier

/-! ## Fields that count -/

/-- The fields that count in a layout, in order, each with what the items on the path to it tell about
whether they are required. -/
def fieldPaths (expand : Bool) : List Item → List (Field × List Bool)
  | [] => []
  | .field f r :: items => (f, [r]) :: fieldPaths expand items
  | .component _ layout r :: items =>
    (if expand then (fieldPaths expand layout).map fun p ↦ (p.1, r :: p.2) else []) ++
      fieldPaths expand items
  | .group _ _ _ :: items => fieldPaths expand items
  | .bare _ _ :: items => fieldPaths expand items

/-- The fields that count in a layout, in order, each with whether all items on the path to it are
required. -/
def countedFields (expand : Bool) (items : List Item) : List (Field × Bool) :=
  (fieldPaths expand items).map fun p ↦ (p.1, p.2.all id)

/-- Whether two fields have the same member name. -/
def sameMember (p q : Field × Bool) : Bool :=
  memberIdentifier p.1 == memberIdentifier q.1

/-- The field that a walk meets. -/
def Occurrence.field? : Occurrence → Option (Field × Bool)
  | .field f required => some (f, required)
  | .other _ => none

@[simp] theorem Occurrence.field?_field (f : Field) (required : Bool) :
    (Occurrence.field f required).field? = some (f, required) := rfl

@[simp] theorem Occurrence.field?_other (kind : ItemKind) : (Occurrence.other kind).field? = none := rfl

/-- A walk takes along whether the items around it are required. -/
theorem filterMap_field?_occurrences (expand required : Bool) (items : List Item) :
    (occurrences expand required items).filterMap Occurrence.field? =
      (fieldPaths expand items).map fun p ↦ (p.1, required && p.2.all id) := by
  fun_induction occurrences expand required items with
  | case1 => rw [fieldPaths, List.map_nil, List.filterMap_nil]
  | case2 required f r items ih =>
    rw [fieldPaths, List.map_cons, ← ih, List.filterMap_cons_some (Occurrence.field?_field ..)]
    simp
  | case3 required name layout r items ihl ih =>
    rw [fieldPaths, List.filterMap_append, List.map_append, ih]
    split
    · rw [ihl, List.map_map]
      simp [Function.comp_def, Bool.and_assoc]
    · rfl
  | case4 required leader layout r items ih =>
    rw [fieldPaths, ← ih, List.filterMap_cons_none (Occurrence.field?_other _)]
  | case5 required kind r items ih =>
    rw [fieldPaths, ← ih, List.filterMap_cons_none (Occurrence.field?_other _)]

/-- A walk over the layout of a message meets the fields that count. -/
theorem filterMap_field?_eq_countedFields (expand : Bool) (items : List Item) :
    (occurrences expand true items).filterMap Occurrence.field? = countedFields expand items := by
  simp only [filterMap_field?_occurrences, countedFields, Bool.true_and]

/-! ## First fields of a name -/

/-- The fields that become members are the first ones of the names that are not in use. -/
theorem memberFields_eq_eraseDupsBy (seen : List String) (os : List Occurrence) :
    memberFields seen os =
      ((os.filterMap Occurrence.field?).filter fun p ↦ !seen.contains (memberIdentifier p.1)).eraseDupsBy
        sameMember := by
  fun_induction memberFields seen os with
  | case1 => rfl
  | case2 seen kind os ih => rw [ih, List.filterMap_cons_none (Occurrence.field?_other _)]
  | case3 seen f r os hs ih =>
    rw [ih, List.filterMap_cons_some (Occurrence.field?_field f r),
      List.filter_cons_of_neg (by simpa using hs)]
  | case4 seen f r os hs ih =>
    rw [ih, List.filterMap_cons_some (Occurrence.field?_field f r),
      List.filter_cons_of_pos (by simpa using hs), List.eraseDupsBy_cons, List.filter_filter]
    -- The name of the field is in use behind it.
    simp [sameMember]

/-- The fields that become members have different names, of which none has been in use. -/
theorem nodup_memberFields (seen : List String) (os : List Occurrence) :
    ((memberFields seen os).map fun p ↦ memberIdentifier p.1).Nodup ∧
      ∀ p ∈ memberFields seen os, memberIdentifier p.1 ∉ seen := by
  fun_induction memberFields seen os with
  | case1 => simp
  | case2 seen kind os ih => exact ih
  | case3 seen f r os hs ih => exact ih
  | case4 seen f r os hs ih =>
    obtain ⟨hnodup, hfresh⟩ := ih
    rw [List.map_cons, List.nodup_cons, List.forall_mem_cons]
    refine ⟨⟨fun hmem ↦ ?_, hnodup⟩, by simpa using hs, fun p hp hseen ↦ ?_⟩
    · obtain ⟨p, hp, heq : memberIdentifier p.1 = memberIdentifier f⟩ := List.mem_map.mp hmem
      exact hfresh p hp (List.mem_cons.mpr (.inl heq))
    · exact hfresh p hp (List.mem_cons_of_mem _ hseen)

/-- The name of each field that a walk meets is in use or is that of a member. -/
theorem mem_seen_or_mem_memberFields {seen : List String} {os : List Occurrence} {f : Field}
    {required : Bool} (h : .field f required ∈ os) : memberIdentifier f ∈ seen ∨
      memberIdentifier f ∈ (memberFields seen os).map fun p ↦ memberIdentifier p.1 := by
  fun_induction memberFields seen os with
  | case1 => cases h
  | case2 seen kind os ih => exact ih (by simpa using h)
  | case3 seen g r os hs ih =>
    rcases List.mem_cons.mp h with h | h
    · cases h
      exact .inl (by simpa using hs)
    · exact ih h
  | case4 seen g r os hs ih =>
    rw [List.map_cons, List.mem_cons]
    rcases List.mem_cons.mp h with h | h
    · cases h
      exact .inr (.inl rfl)
    · rcases ih h with h | h
      · rcases List.mem_cons.mp h with h | h
        · exact .inr (.inl h)
        · exact .inl h
      · exact .inr (.inr h)

/-! ## Types -/

/-- A type is an option. -/
def IsOption (type : String) : Prop :=
  ∃ inner, type = "::std::option::Option<" ++ inner ++ ">"

/-- The name in a type. -/
def FieldType.name? : FieldType → Option String
  | enumeration name | primitive name | moment name => some name
  | checkSum | decimal | bytes | byteArray _ => none

theorem FieldType.isNameChar_ofDataType {d : DataType} {name : String}
    (h : (ofDataType d).name? = some name) : ∀ c ∈ name.toList, isNameChar c := by
  cases d <;> cases h <;> exact List.all_eq_true.mp rfl

/-- The name in the type of a field is an identifier. -/
theorem FieldType.isNameChar_fieldType {f : Field} {name : String}
    (h : (fieldType f).name? = some name) : ∀ c ∈ name.toList, isNameChar c := by
  unfold fieldType resolve at h
  split at h
  · cases h
  · split at h
    · rename_i enum henum
      simp only [enumName?, Option.ite_none_left_eq_some, Option.some.injEq] at henum
      obtain ⟨-, rfl⟩ := henum
      obtain rfl := Option.some.inj h
      exact isNameChar_of_mem_typeName f.name
    · exact isNameChar_ofDataType h

/-- The type of the values of a field has no angle bracket, but for those in the path of the runtime crate
at its front. -/
theorem exists_spell_eq (crate : String) (f : Field) :
    ∃ rest : String, '>' ∉ rest.toList ∧
      ((fieldType f).spell .borrowed crate = rest ∨
        (fieldType f).spell .borrowed crate = momentPath crate ++ rest) := by
  have hname {name : String} (hn : (fieldType f).name? = some name) : '>' ∉ name.toList := fun hc ↦
    absurd (FieldType.isNameChar_fieldType hn _ hc) (by decide)
  generalize fieldType f = t at hname
  cases t with
  | checkSum => exact ⟨"CheckSum", by decide, .inr rfl⟩
  | enumeration name => exact ⟨name, hname rfl, .inl rfl⟩
  | decimal => exact ⟨"rust_decimal::Decimal", by decide, .inl rfl⟩
  | bytes => exact ⟨"&'a [u8]", by decide, .inl rfl⟩
  | byteArray length =>
    have hlength : '>' ∉ (toString length).toList := fun hc ↦
      absurd (isAlphanum_of_mem_toString_nat hc) (by decide)
    refine ⟨"[u8; " ++ toString length ++ "]", ?_, .inl rfl⟩
    simp only [String.toList_append, List.mem_append, not_or]
    exact ⟨⟨by decide, hlength⟩, by decide⟩
  | primitive name => exact ⟨name, hname rfl, .inl rfl⟩
  | moment name => exact ⟨name, hname rfl, .inr rfl⟩

/-- The type of the values of a field does not end as an option does, for a runtime crate at any path. -/
theorem getLast?_spell_ne (crate : String) (f : Field) :
    ((fieldType f).spell .borrowed crate).toList.getLast? ≠ some '>' := by
  obtain ⟨rest, hrest, heq | heq⟩ := exists_spell_eq crate f
  · rw [heq]
    exact fun h ↦ hrest (List.mem_of_getLast? h)
  · rw [heq]
    refine getLast?_append_ne_of_notMem ?_ hrest
    rw [getLast?_momentPath]
    decide

/-- A type that is no option becomes one when the member is not required. -/
theorem isOption_optional {type : String} (h : type.toList.getLast? ≠ some '>') {required : Bool} :
    IsOption (optional type required) ↔ required = false := by
  cases required with
  | false => exact ⟨fun _ ↦ rfl, fun _ ↦ ⟨type, rfl⟩⟩
  | true =>
    refine ⟨?_, fun h ↦ by cases h⟩
    rintro ⟨inner, heq⟩
    obtain rfl : type = "::std::option::Option<" ++ inner ++ ">" := heq
    refine absurd ?_ h
    rw [String.toList_append, List.getLast?_append]
    rfl

/-! ## Members -/

/-- The member of a field, which is required or not. -/
structure IsMemberOf (crate : String) (p : Field × Bool) (x : Member) : Prop where
  /-- The name is that of the field. -/
  identifier : x.identifier = memberIdentifier p.1
  /-- The type is that of the field, as an option unless it is required. -/
  type : x.type = optional ((fieldType p.1).spell .borrowed crate) p.2
  /-- The type is an option just when the field is not required. -/
  isOption : IsOption x.type ↔ p.2 = false
  /-- The documentation is about the field. -/
  field : x.field = p.1

theorem Member.isMemberOf_ofField (crate : String) (p : Field × Bool) :
    IsMemberOf crate p (.ofField crate p.1 p.2) where
  identifier := identifier_ofField crate p.1 p.2
  type := type_ofField crate p.1 p.2
  isOption := by
    rw [type_ofField]
    exact isOption_optional (getLast?_spell_ne crate p.1)
  field := field_ofField crate p.1 p.2

/-- No field has the name of the member that every struct has. -/
theorem memberIdentifier_ne_lifetimeMember (f : Field) : memberIdentifier f ≠ lifetimeMember := by
  unfold memberIdentifier
  dsimp only
  split
  · decide
  · rename_i hname
    exact fun heq ↦ hname (beq_iff_eq.mpr heq)

/-- The members `xs` are those of the first fields of each name, in the order of the fields. -/
structure AreMembersOf (crate : String) (ps : List (Field × Bool)) (xs : List Member) : Prop where
  /-- The members are those of the first fields of each name, in order. -/
  members : List.Forall₂ (IsMemberOf crate) (ps.eraseDupsBy sameMember) xs
  /-- The names are different. -/
  nodup : (xs.map Member.identifier).Nodup
  /-- None is the name of the member that every struct has. -/
  lifetime : lifetimeMember ∉ xs.map Member.identifier
  /-- The name of each field is among them. -/
  complete : ∀ p ∈ ps, memberIdentifier p.1 ∈ xs.map Member.identifier

variable (o : Options) (m : Message)

/-- The names of the members are those of the fields that become members. -/
theorem map_identifier_messageMembers : (messageMembers o m).map Member.identifier =
    (memberFields [] (occurrences o.expandComponents true m.layout)).map fun p ↦
      memberIdentifier p.1 := by
  rw [messageMembers_eq_map, List.map_map]
  simp only [Function.comp_def, Member.identifier_ofField]

/-- The members of a message are those of the fields that count in its layout. -/
theorem areMembersOf_messageMembers :
    AreMembersOf o.cratePath (countedFields o.expandComponents m.layout) (messageMembers o m) where
  members := by
    have hfields := memberFields_eq_eraseDupsBy [] (occurrences o.expandComponents true m.layout)
    simp only [filterMap_field?_eq_countedFields, List.contains_nil, Bool.not_false,
      List.filter_true] at hfields
    rw [messageMembers_eq_map, hfields]
    exact forall₂_map_right fun p _ ↦ Member.isMemberOf_ofField o.cratePath p
  nodup := by
    rw [map_identifier_messageMembers]
    exact (nodup_memberFields [] _).1
  lifetime := by
    rw [map_identifier_messageMembers, List.mem_map]
    rintro ⟨p, -, hp⟩
    exact memberIdentifier_ne_lifetimeMember p.1 hp
  complete := by
    rintro ⟨f, required⟩ hp
    rw [← filterMap_field?_eq_countedFields, List.mem_filterMap] at hp
    obtain ⟨x, hx, heq⟩ := hp
    cases x with
    | other => cases heq
    | field g r =>
      cases heq
      rw [map_identifier_messageMembers]
      exact (mem_seen_or_mem_memberFields hx).resolve_left (List.not_mem_nil)

/-! ## Structs -/

/-- The lines between the head of a struct and its end. -/
def HasBody (name : String) (body : List String) (struct : String) : Prop :=
  ∃ front rest, struct =
    unlines (front ++ ("pub struct " ++ name ++ "<'a> \x7b") :: (body ++ "\x7d" :: rest))

/-- Whether a line of a struct is a comment. -/
def isCommentLine (line : String) : Bool :=
  "    ///".toList.isPrefixOf line.toList

/-- The line that declares the member that every struct has. -/
def markerLine : String :=
  "    " ++ lifetimeMember ++ ": PhantomData<&'a ()>,"

/-- The line that declares a member. -/
def declarationLine (x : Member) : String :=
  "    pub " ++ x.identifier ++ ": " ++ x.type ++ ","

/-- Only the declaration of a member is no comment. -/
theorem filter_memberLines (version : String) (x : Member) :
    ((memberLines version x).filter fun l ↦ !isCommentLine l) = [declarationLine x] := by
  simp [memberLines, declarationLine, isCommentLine, List.isPrefixOf]

/-- The lines of a member are lines when the version and the path of the runtime crate are on one line. -/
theorem newline_notMem_memberLines {version crate : String} (hv : '\n' ∉ version.toList)
    (hc : '\n' ∉ crate.toList) (f : Field) (required : Bool) :
    ∀ l ∈ memberLines version (.ofField crate f required), '\n' ∉ l.toList := by
  have hname := Text.newline_notMem_singleLine f.name
  have hurl := newline_notMem_fieldUrl (Text.notMem_trim hv) f.tag
  have htag := newline_notMem_toString_int f.tag
  have hid := newline_notMem_of_isNameChar (isNameChar_of_mem_memberIdentifier f)
  have htype : '\n' ∉ (optional ((fieldType f).spell .borrowed crate) required).toList := by
    unfold optional
    split
    · exact newline_notMem_spell hc f
    · simp only [String.toList_append, List.mem_append, not_or]
      exact ⟨⟨by decide, newline_notMem_spell hc f⟩, by decide⟩
  simp only [memberLines, Member.identifier_ofField, Member.type_ofField, Member.field_ofField,
    List.forall_mem_cons, String.toList_append, List.mem_append, not_or]
  refine ⟨⟨by decide, hname⟩, by decide, by decide, by decide, ⟨by decide, htag⟩,
    ⟨⟨by decide, hurl⟩, by decide⟩, ⟨⟨⟨⟨by decide, hid⟩, by decide⟩, htype⟩, by decide⟩, ?_⟩
  exact List.forall_mem_nil _

/-- The lines that are written for the members, of which the first is that of the one that every struct
has. -/
def structBodyLines (version : String) (xs : List Member) : List String :=
  markerLine :: xs.flatMap (memberLines version)

/-- The lines between the head of a struct and its end are those of its members. -/
theorem hasBody_of_messageStruct {o : Options} {version : String} {m : Message} {text : String}
    (h : messageStruct o version m = .ok text) :
    HasBody (typeName m.name) (structBodyLines version (messageMembers o m)) text := by
  obtain ⟨-, rfl⟩ := (messageStruct_eq_ok o version).mp h
  refine ⟨"#[derive(Debug)]" :: customDeriveLines o, ["", "impl<'a> " ++ typeName m.name ++ "<'a> \x7b",
    "    pub const MSG_TYPE: &'static [u8] = b\"" ++ typeLiteral m ++ "\";", "\x7d"], ?_⟩
  rw [structText, structLines]
  simp only [List.append_assoc, List.cons_append, List.nil_append]
  rfl

/-- A message has a struct just when its type can be encoded. The members of the struct, besides the one
that every struct has, are those of the fields that count in the layout of the message, in order, and of
several fields with one name that of the first. They are the lines of the struct that are no comments. Each
line is one when the version and the path of the runtime crate are on one line. -/
theorem messageStruct_members (version : String) :
    ((∃ text, messageStruct o version m = .ok text) ↔ Text.IsEncodable m.msgType) ∧
    ∃ body xs,
      (∀ text, messageStruct o version m = .ok text → HasBody (typeName m.name) body text) ∧
      (body.filter fun l ↦ !isCommentLine l) = markerLine :: xs.map declarationLine ∧
      ('\n' ∉ version.toList → '\n' ∉ o.cratePath.toList → ∀ l ∈ body, '\n' ∉ l.toList) ∧
      AreMembersOf o.cratePath (countedFields o.expandComponents m.layout) xs := by
  refine ⟨exists_messageStruct_iff o version, structBodyLines version (messageMembers o m),
    messageMembers o m, fun text ↦ hasBody_of_messageStruct, ?_, fun hv hc ↦ ?_,
    areMembersOf_messageMembers o m⟩
  · rw [structBodyLines, List.filter_cons_of_pos (by decide), List.filter_flatMap]
    simp only [filter_memberLines, ← List.map_eq_flatMap]
  · rw [structBodyLines, List.forall_mem_cons]
    refine ⟨by decide, fun l hl ↦ ?_⟩
    obtain ⟨x, hx, hl⟩ := List.mem_flatMap.mp hl
    obtain ⟨f, required, -, rfl⟩ := exists_of_mem_messageMembers hx
    exact newline_notMem_memberLines hv hc f required l hl

end FixBindings.Rust
