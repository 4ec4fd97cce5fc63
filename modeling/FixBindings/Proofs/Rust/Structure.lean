import FixBindings.Proofs.Identifier.Characters
import FixBindings.Proofs.Rust.Fragments
import FixBindings.Proofs.Rust.Members
import FixBindings.Proofs.Rust.Passage
import FixBindings.Proofs.Rust.Reference
import FixBindings.Proofs.Text.Numeral

/-!
# The structure of modules

Every module that is generated is well formed as far as comments, literals and delimiters go: each
literal ends on its line, and without comments and the insides of literals the delimiters are balanced
and nested. Names, values, descriptions and message types are any texts.
-/

namespace FixBindings.Rust

open Dictionary Calendar Identifier

/-! ## Inert texts -/

/-- Whether a character may stand in a path: an ASCII letter or digit, an underscore or a colon. -/
def isPathChar (c : Char) : Bool :=
  c.isAlphanum || c == '_' || c == ':'

/-- Options whose names are paths and that add no attribute line. -/
structure PlainOptions (o : Options) : Prop where
  /-- The name of the runtime crate is a path. -/
  runtimeCrate : ∀ c ∈ o.runtimeCrate.toList, isPathChar c
  /-- The name of the helper attribute is a path. -/
  deriveAttribute : ∀ c ∈ o.deriveAttribute.toList, isPathChar c
  /-- There is no further attribute line. -/
  customDeriveLine : o.customDeriveLine = ""

theorem isInert_of_isAlphanum {c : Char} (h : c.isAlphanum) : isInert c := by
  have hc := Text.toNat_lt_of_isAlphanum h
  revert h
  exact Text.of_ascii (P := fun c ↦ c.isAlphanum → isInert c) (by decide) hc

theorem isInert_of_isNameChar {c : Char} (h : isNameChar c) : isInert c := by
  simp only [isNameChar, Bool.or_eq_true, beq_iff_eq] at h
  rcases h with (h | rfl) | rfl
  · exact isInert_of_isAlphanum h
  · rfl
  · rfl

theorem isInert_of_isPathChar {c : Char} (h : isPathChar c) : isInert c := by
  simp only [isPathChar, Bool.or_eq_true, beq_iff_eq] at h
  rcases h with (h | rfl) | rfl
  · exact isInert_of_isAlphanum h
  · rfl
  · rfl

/-- The digits of a natural number are digits. -/
theorem isAlphanum_of_mem_toString_nat {n : Nat} {c : Char} (hc : c ∈ (toString n).toList) :
    c.isAlphanum := by
  rw [Nat.toString_eq_repr, Nat.repr, String.toList_ofList] at hc
  exact Text.isAlphanum_of_isDigit (Nat.isDigit_of_mem_toDigits (by decide) (by decide) hc)

theorem isInert_of_mem_toString_nat {n : Nat} {c : Char} (hc : c ∈ (toString n).toList) :
    isInert c :=
  isInert_of_isAlphanum (isAlphanum_of_mem_toString_nat hc)

theorem isInert_of_mem_toString_int {n : Int} {c : Char} (hc : c ∈ (toString n).toList) :
    isInert c := by
  change c ∈ n.repr.toList at hc
  rw [Int.repr_eq_if] at hc
  split at hc
  · exact isInert_of_mem_toString_nat hc
  · rw [String.toList_append, List.mem_append] at hc
    rcases hc with hc | hc
    · obtain rfl : c = '-' := by simpa using hc
      rfl
    · exact isInert_of_mem_toString_nat hc

theorem newline_notMem_toString_int (n : Int) : '\n' ∉ (toString n).toList := fun h ↦
  absurd (isInert_of_mem_toString_int h) (by decide)

theorem PlainOptions.cratePath {o : Options} (h : PlainOptions o) :
    ∀ c ∈ o.cratePath.toList, isInert c := by
  intro c hc
  unfold Options.cratePath at hc
  split at hc
  · exact List.all_eq_true.mp rfl c hc
  · exact isInert_of_isPathChar (h.runtimeCrate c hc)

theorem newline_notMem_fieldUrl {version : String} (h : '\n' ∉ Text.trim version.toList) (tag : Int) :
    '\n' ∉ (fieldUrl version tag).toList := by
  have ht := newline_notMem_toString_int tag
  simp only [fieldUrl, referenceSite, String.toList_append, List.mem_append, not_or]
  exact ⟨⟨⟨⟨⟨by decide, by decide⟩, newline_notMem_versionSlug h⟩, by decide⟩, ht⟩, by decide⟩

/-! ## Types -/

variable {p : List Char}

/-- Whether the names in a type are inert. -/
def FieldType.isInert : FieldType → Bool
  | enumeration name | primitive name | moment name => name.toList.all Rust.isInert
  | checkSum | decimal | bytes | byteArray _ => true

theorem FieldType.isInert_ofDataType (d : DataType) : (ofDataType d).isInert := by
  cases d <;> rfl

theorem enumName?_of_enums {f : Field} (he : f.enums ≠ []) : enumName? f = some (typeName f.name) := by
  rw [enumName?, if_neg (by simpa using he)]

theorem FieldType.isInert_fieldType (f : Field) : (fieldType f).isInert := by
  unfold fieldType resolve
  split
  · rfl
  · split
    · rename_i name hname
      simp only [enumName?, Option.ite_none_left_eq_some, Option.some.injEq] at hname
      obtain ⟨-, rfl⟩ := hname
      exact List.all_eq_true.mpr fun c hc ↦
        isInert_of_isNameChar (isNameChar_of_mem_typeName f.name c hc)
    · exact isInert_ofDataType _

/-- The type of the values of a field is on one line when the path of the runtime crate is. -/
theorem newline_notMem_spell {mode : Mode} {crate : String} (hc : '\n' ∉ crate.toList) (f : Field) :
    '\n' ∉ ((fieldType f).spell mode crate).toList := by
  have hinert {s : String} (h : s.toList.all Rust.isInert) : '\n' ∉ s.toList := fun hm ↦
    absurd (List.all_eq_true.mp h _ hm) (by decide)
  have hpath : '\n' ∉ (momentPath crate).toList := by
    simp only [momentPath, String.toList_append, List.mem_append, not_or]
    exact ⟨hc, by decide⟩
  have ht := FieldType.isInert_fieldType f
  generalize fieldType f = t at ht
  cases t with
  | checkSum =>
    simp only [FieldType.spell, String.toList_append, List.mem_append, not_or]
    exact ⟨hpath, by decide⟩
  | enumeration name => exact hinert ht
  | decimal => exact hinert (s := "rust_decimal::Decimal") rfl
  | bytes =>
    cases mode with
    | owned =>
      show '\n' ∉ "&[u8]".toList
      decide
    | borrowed =>
      show '\n' ∉ "&'a [u8]".toList
      decide
  | byteArray length =>
    have hlength : '\n' ∉ (toString length).toList := fun hm ↦
      absurd (isInert_of_mem_toString_nat hm) (by decide)
    cases mode
    all_goals
      simp only [FieldType.spell, String.toList_append, List.mem_append, not_or]
      exact ⟨⟨by decide, hlength⟩, by decide⟩
  | primitive name => exact hinert ht
  | moment name =>
    simp only [FieldType.spell, String.toList_append, List.mem_append, not_or]
    exact ⟨hpath, hinert ht⟩

/-- A type leaves what is owed as it is. -/
theorem FieldType.passes_spell {mode : Mode} {crate : String}
    (hc : ∀ c ∈ crate.toList, Rust.isInert c) {t : FieldType} (ht : t.isInert) :
    Passes (t.spell mode crate) .code p .code p := by
  have hm : Passes (momentPath crate) .code p .code p :=
    (Passes.inert (List.all_eq_true.mpr hc)).append (.inert rfl)
  have hn {name : String} (h : name.toList.all Rust.isInert) : Passes name .code p .code p :=
    .inert h
  have hl (length : Nat) : Passes (toString length) .code (']' :: p) .code (']' :: p) :=
    .inert (List.all_eq_true.mpr fun _ ↦ isInert_of_mem_toString_nat)
  cases t with
  | checkSum => exact hm.append (.inert rfl)
  | enumeration name => exact hn ht
  | decimal => exact Passes.inert (s := "rust_decimal::Decimal") rfl
  | bytes =>
    cases mode with
    | owned => exact Passes.code (s := "&[u8]") rfl rfl
    | borrowed => exact Passes.code (s := "&'a [u8]") rfl rfl
  | byteArray length =>
    cases mode with
    | owned =>
      exact (Passes.append (s := "&[u8; ") (.code rfl rfl) (hl length)).append
        (.code rfl rfl)
    | borrowed =>
      exact (Passes.append (s := "[u8; ") (.code rfl rfl) (hl length)).append
        (.code rfl rfl)
  | primitive name => exact hn ht
  | moment name => exact hm.append (hn ht)

theorem passes_optional {type : String} (h : Passes type .code p .code p) (required : Bool) :
    Passes (optional type required) .code p .code p := by
  unfold optional
  split
  · exact h
  · exact (Passes.append (.inert rfl) h).append (.inert rfl)

/-! ## Definitions of fields -/

section

variable {o : Options} {version : String}

/-- The constant of a field closes what it opens. -/
theorem passesLines_constantLines (ho : PlainOptions o) (hv : '\n' ∉ version.toList) (f : Field) :
    PassesLines (constantLines o version f) p p := by
  have hname := Text.newline_notMem_singleLine f.name
  have hurl := newline_notMem_fieldUrl (Text.notMem_trim hv) f.tag
  have htag {q : List Char} : Passes (toString f.tag) .code q .code q :=
    .inert (List.all_eq_true.mpr fun _ ↦ isInert_of_mem_toString_int)
  have htagn := newline_notMem_toString_int f.tag
  have htype : Passes ((fieldType f).spell .owned o.cratePath) .code p .code p :=
    FieldType.passes_spell ho.cratePath (FieldType.isInert_fieldType f)
  have hid : Passes (constantName f.name) .code p .code p :=
    .inert (List.all_eq_true.mpr fun c hc ↦
      isInert_of_isNameChar (isNameChar_of_mem_constantName f.name c hc))
  have hspelling : f.dataType.spelling.toList.all isInert := by
    cases f.dataType <;> rfl
  refine .comment ?_ ?_ <| .comment ?_ ?_ <| .cons (q := '\x7d' :: p) ?_ <| .keep ?_ <| .keep ?_ <|
    .keep ?_ <| .keep ?_ <| .keep ?_ <| .keep ?_ <| .cons (q := p) ?_ .nil
  · simp
  · simp only [String.toList_append, List.mem_append, not_or]
    exact ⟨⟨⟨⟨by decide, hname⟩, by decide⟩, htagn⟩, by decide⟩
  · simp
  · simp only [String.toList_append, List.mem_append, not_or]
    exact ⟨⟨by decide, hurl⟩, by decide⟩
  · exact (((Passes.append (.inert rfl) hid).append (.inert rfl)).append
      htype).append (.code rfl rfl)
  · exact (Passes.append (.toLiteral (a := "    name: ".toList) rfl rfl rfl)
      (.stringLiteral f.name)).append (.fromLiteral (a := [',']) rfl rfl rfl)
  · exact (Passes.append (.code rfl rfl) htag).append (.code rfl rfl)
  · refine (Passes.append (.inert rfl) ?_).append (.inert rfl)
    split
    · exact .inert rfl
    · exact .inert rfl
  · exact (Passes.append (.inert rfl) (.inert hspelling)).append (.inert rfl)
  · exact .inert rfl
  · exact .inert rfl
  · exact .code rfl rfl

/-- A value in the enum of a field closes what it opens. -/
theorem passesLines_variantLines {helper : String} (hh : ∀ c ∈ helper.toList, isInert c)
    (v : EnumValue) : PassesLines (variantLines helper v) p p := by
  have hvalue := Text.newline_notMem_singleLine v.value
  refine .comment ?_ ?_ <| .keep ?_ <| .keep ?_ .nil
  · simp
  · simp only [String.toList_append, List.mem_append, not_or]
    exact ⟨⟨by decide, hvalue⟩, by decide⟩
  · refine (((Passes.append (.code rfl rfl) (.inert (List.all_eq_true.mpr hh))).append
      (.toLiteral (a := "(variant = ".toList) rfl rfl rfl)).append
      (.stringLiteral v.value)).append (.fromLiteral (a := [')', ']']) rfl rfl rfl)
  · refine (Passes.append (.inert rfl) (.inert (List.all_eq_true.mpr fun c hc ↦ ?_))).append
      (.inert rfl)
    exact isInert_of_isNameChar (isNameChar_of_mem_typeName v.description c hc)

/-- The enum of a field closes what it opens. -/
theorem passesLines_enumLines (ho : PlainOptions o) (f : Field) :
    PassesLines (enumLines o f) p p := by
  have hid := newline_notMem_constantName f.name
  have hhelper : ∀ c ∈ o.deriveAttribute.toList, isInert c := fun c hc ↦
    isInert_of_isPathChar (ho.deriveAttribute c hc)
  unfold enumLines
  split
  · exact .nil
  · rename_i name hname
    simp only [enumName?, Option.ite_none_left_eq_some, Option.some.injEq] at hname
    obtain ⟨-, rfl⟩ := hname
    have htype : Passes (typeName f.name) .code p .code p :=
      .inert (List.all_eq_true.mpr fun c hc ↦
        isInert_of_isNameChar (isNameChar_of_mem_typeName f.name c hc))
    refine .append (q := '\x7d' :: p) (.append (q := '\x7d' :: p) ?_ ?_) ?_
    · refine .blank <| .comment ?_ ?_ <| .keep ?_ <| .cons ?_ .nil
      · simp
      · simp only [String.toList_append, List.mem_append, not_or]
        exact ⟨⟨by decide, hid⟩, by decide⟩
      · exact .code rfl rfl
      · exact (Passes.append (.inert rfl) htype).append (.code rfl rfl)
    · exact .flatMap fun v _ ↦ passesLines_variantLines hhelper v
    · exact .cons (q := p) (.code rfl rfl) .nil

/-- The definition of a field closes what it opens. -/
theorem passesLines_definitionLines (ho : PlainOptions o) (hv : '\n' ∉ version.toList) (f : Field) :
    PassesLines (definitionLines o version f) p p :=
  (passesLines_constantLines ho hv f).append (passesLines_enumLines ho f)

/-! ## Structs of messages -/

/-- The name of a member is an identifier. -/
theorem isNameChar_of_mem_memberIdentifier (f : Field) :
    ∀ c ∈ (memberIdentifier f).toList, isNameChar c := by
  unfold memberIdentifier
  dsimp only
  split
  · exact List.all_eq_true.mp rfl
  · exact isNameChar_of_mem_memberName f.name

theorem isInert_of_mem_memberIdentifier {f : Field} {c : Char}
    (hc : c ∈ (memberIdentifier f).toList) : isInert c :=
  isInert_of_isNameChar (isNameChar_of_mem_memberIdentifier f c hc)

/-- A member of a struct leaves what is owed as it is. -/
theorem passesLines_memberLines (ho : PlainOptions o) (hv : '\n' ∉ version.toList) (f : Field)
    (required : Bool) :
    PassesLines (memberLines version (.ofField o.cratePath f required)) p p := by
  have hname := Text.newline_notMem_singleLine f.name
  have hurl := newline_notMem_fieldUrl (Text.notMem_trim hv) f.tag
  have htag := newline_notMem_toString_int f.tag
  have htype : Passes ((fieldType f).spell .borrowed o.cratePath) .code p .code p :=
    FieldType.passes_spell ho.cratePath (FieldType.isInert_fieldType f)
  have hid : Passes (memberIdentifier f) .code p .code p :=
    .inert (List.all_eq_true.mpr fun _ ↦ isInert_of_mem_memberIdentifier)
  simp only [memberLines, Member.identifier_ofField, Member.type_ofField, Member.field_ofField]
  refine .comment ?_ ?_ <| .comment ?_ ?_ <| .comment ?_ ?_ <| .comment ?_ ?_ <| .comment ?_ ?_ <|
    .comment ?_ ?_ <| .keep ?_ .nil
  · simp
  · simp only [String.toList_append, List.mem_append, not_or]
    exact ⟨by decide, hname⟩
  · simp
  · decide
  · simp
  · decide
  · simp
  · decide
  · simp
  · simp only [String.toList_append, List.mem_append, not_or]
    exact ⟨by decide, htag⟩
  · simp
  · simp only [String.toList_append, List.mem_append, not_or]
    exact ⟨⟨by decide, hurl⟩, by decide⟩
  · exact (((Passes.append (.inert rfl) hid).append (.inert rfl)).append
      (passes_optional htype required)).append (.inert rfl)

/-- The struct of a message closes what it opens. -/
theorem passesLines_structLines (ho : PlainOptions o) (hv : '\n' ∉ version.toList) (m : Message) :
    PassesLines (structLines o version m (messageMembers o m) (typeLiteral m)) p p := by
  have hname {q : List Char} : Passes (typeName m.name) .code q .code q :=
    .inert (List.all_eq_true.mpr fun c hc ↦
      isInert_of_isNameChar (isNameChar_of_mem_typeName m.name c hc))
  have hderive : customDeriveLines o = [] := by
    rw [customDeriveLines, ho.customDeriveLine]
    rfl
  rw [structLines, hderive]
  refine .append (q := '\x7d' :: p) (.append (q := '\x7d' :: p) (.append (q := p) (.append (q := p)
    ?_ .nil) ?_) ?_) ?_
  · exact .keep (.code rfl rfl) .nil
  · refine .cons (q := '\x7d' :: p) ?_ <| .keep ?_ .nil
    · exact (Passes.append (.inert rfl) hname).append (.code rfl rfl)
    · exact (Passes.append (.append (.inert rfl) (.inert rfl))
        (.code rfl rfl))
  · refine .flatMap fun x hx ↦ ?_
    obtain ⟨f, r, -, rfl⟩ := exists_of_mem_messageMembers hx
    exact passesLines_memberLines ho hv f r
  · refine .cons (q := p) ?_ <| .blank <| .cons (q := '\x7d' :: p) ?_ <| .keep ?_ <|
      .cons (q := p) ?_ .nil
    · exact .code rfl rfl
    · exact (Passes.append (.inert rfl) hname).append (.code rfl rfl)
    · have hopen : Passes "    pub const MSG_TYPE: &'static [u8] = b\"" .code ('\x7d' :: p) .literal
          ('\x7d' :: p) :=
        .toLiteral (a := "    pub const MSG_TYPE: &'static [u8] = b".toList) rfl rfl rfl
      obtain ⟨bs, hliteral⟩ := exists_typeLiteral_eq m
      rw [hliteral]
      exact (hopen.append (.bytesLiteral bs)).append
        (.fromLiteral (a := [';']) rfl rfl rfl)
    · exact .code rfl rfl

/-! ## Modules -/

/-- A UTC time is written on one line. -/
theorem newline_notMem_mailText (t : DateTime) : '\n' ∉ t.mailText.toList := by
  have hpadded (width n : Nat) : '\n' ∉ (Text.padded width n).toList := fun h ↦
    absurd (Text.isDigit_of_mem_padded h) (by decide)
  have hweekday := Text.notMem_toList_getD DateTime.weekdayNames (c := '\n') (by decide)
    t.date.weekday
  have hmonth := Text.notMem_toList_getD DateTime.monthNames (c := '\n') (by decide)
    (t.date.month - 1)
  simp only [DateTime.mailText, String.toList_append, List.mem_append, not_or]
  simp only [hweekday, hmonth, hpadded, not_false_eq_true, true_and, and_true]
  decide

/-- The head of a module closes what it opens. -/
theorem passesLines_headLines (ho : PlainOptions o) (version : String) (now : DateTime) :
    PassesLines (headLines o version now) p p := by
  have hversion := Text.newline_notMem_singleLine version
  have hmail := newline_notMem_mailText now
  have hcrate {q : List Char} : Passes o.cratePath .code q .code q :=
    .inert (List.all_eq_true.mpr ho.cratePath)
  refine .append (q := p) (.append (q := p) ?_ ?_) ?_
  · refine .comment ?_ ?_ <| .blank <| .keep (.code rfl rfl) <| .blank .nil
    · simp
    · simp only [String.toList_append, List.mem_append, not_or]
      exact ⟨⟨by decide, hversion⟩, by decide⟩
  · refine .comment ?_ ?_ <| .comment ?_ ?_ <| .comment ?_ ?_ <| .comment ?_ ?_ <|
      .comment ?_ ?_ .nil
    · simp [generatorName, generatorVersion]
    · simp only [String.toList_append, List.mem_append, not_or]
      exact ⟨⟨⟨⟨⟨⟨by decide, by decide⟩, by decide⟩, by decide⟩, by decide⟩, hmail⟩, by decide⟩
    · simp
    · decide
    · simp
    · decide
    · simp
    · decide
    · simp
    · decide
  · refine .blank <| .keep ?_ <| .keep ?_ <| .keep ?_ <| .keep ?_ <| .blank .nil
    · exact (Passes.append (.inert rfl) hcrate).append (.code rfl rfl)
    · exact (Passes.append (.inert rfl) hcrate).append (.code rfl rfl)
    · exact (Passes.append (.inert rfl) hcrate).append (.inert rfl)
    · exact .inert rfl

/-- A body closes what it opens when its fragments do. -/
theorem passes_body {fs : List String}
    (h : ∀ f ∈ fs, IsFragment f ∧ Passes f .code p .code p) :
    Passes (body fs ++ "\n") .code p .code p := by
  have hn : Passes "\n" .code p .code p := .code rfl rfl
  by_cases hne : fs = []
  · subst hne
    exact hn
  · rw [body_append_newline hne fun f hf ↦ (h f hf).1]
    replace h := fun f hf ↦ (h f hf).2
    induction fs with
    | nil => exact absurd rfl hne
    | cons f fs ih =>
      cases fs with
      | nil => simpa using h f (by simp)
      | cons g gs =>
        rw [String.intercalate_cons_cons]
        exact ((h f (by simp)).append hn).append
          (ih (by simp) fun k hk ↦ h k (List.mem_cons_of_mem _ hk))

/-- A module is generated when the tags are in range and the types of messages can be encoded. In it, for
options whose names are paths and a version on one line, each literal ends on its line, and without comments
and the insides of literals the delimiters are balanced and nested. -/
theorem exists_generate_nested {now : LocalTime} {utc : DateTime} {d : Dictionary}
    (ho : PlainOptions o) (ht : ∀ f ∈ d.fields, TagInRange f.tag) (he : AreEncodable o d)
    (hv : '\n' ∉ d.version.toList) (hnow : now.toUtc = .ok utc) :
    ∃ text code, (generate o now d).result = .ok text ∧ strippedCode text.toList = some code ∧
      Nested code := by
  -- Each fragment starts and ends in code with nothing owed, so their order does not matter.
  have hbody : Passes (body (fieldTexts o d ++ structTexts o d) ++ "\n") .code [] .code [] := by
    refine passes_body fun s hs ↦ ?_
    rcases List.mem_append.mp hs with hs | hs
    · obtain ⟨f, -, rfl⟩ := List.mem_map.mp hs
      exact ⟨isFragment_definition o d.version f, passesLines_definitionLines ho hv f⟩
    · obtain ⟨m, -, rfl⟩ := List.mem_map.mp hs
      exact ⟨isFragment_structText o d.version m _, passesLines_structLines ho hv m⟩
  have htext := Passes.append (passesLines_headLines ho d.version utc) hbody
  obtain ⟨code, hcode, hnested⟩ := htext.nested
  refine ⟨_, code, ?_, hcode, hnested⟩
  rw [generate_of_toUtc o ht he hnow, String.append_assoc]

/-- A dictionary whose texts hold quotes, backslashes, slashes, line feeds and delimiters that close
nothing. -/
def awkward : Dictionary where
  version := "FIX \"4.4\" (draft"
  fields := [
    ⟨35, "Msg\"Type\n]", .char, [⟨"\\", "a \x7b\nslash"⟩, ⟨"//\"", "\x7d"⟩]⟩,
    ⟨65535, "No\\Legs//Len", .int, []⟩]
  components := []
  messages := [⟨"Quote\n(\"", "S\"\\\n)", [.field ⟨35, "Msg\"Type\n]", .char, []⟩ true]⟩]

theorem areEncodable_awkward : AreEncodable { includeMessages := true } awkward := by
  intro m hm
  obtain rfl := List.mem_singleton.mp hm
  exact Text.isEncodable_of_notMem (by decide)

theorem exists_generate_nested_awkward :
    (PlainOptions { includeMessages := true } ∧ (∀ f ∈ awkward.fields, TagInRange f.tag) ∧
      AreEncodable { includeMessages := true } awkward ∧ '\n' ∉ awkward.version.toList ∧
      LocalTime.toUtc ⟨⟨⟨2024, 3, 5⟩, 14, 30, 0⟩, 3600⟩ = .ok ⟨⟨2024, 3, 5⟩, 13, 30, 0⟩) ∧
    ∃ text code,
      (generate { includeMessages := true } ⟨⟨⟨2024, 3, 5⟩, 14, 30, 0⟩, 3600⟩ awkward).result =
        .ok text ∧
      strippedCode text.toList = some code ∧ Nested code := by
  have ho : PlainOptions { includeMessages := true } :=
    ⟨List.all_eq_true.mp rfl, List.all_eq_true.mp rfl, rfl⟩
  have ht : ∀ f ∈ awkward.fields, TagInRange f.tag := by decide
  have he := areEncodable_awkward
  have hv : '\n' ∉ awkward.version.toList := by decide
  exact ⟨⟨ho, ht, he, hv, rfl⟩, exists_generate_nested ho ht he hv rfl⟩

end

end FixBindings.Rust
