import FixBindings.Proofs.Dictionary.Refusal
import FixBindings.Proofs.Rust.Fragments

/-!
# Tags in modules

The tags that reach the generated code. A module of a dictionary that has been loaded is written if
and only if each of its fields has a tag from 1 to 65535 and the types of the included messages can be
encoded, and then the definition of a field holds the tag that the document gives to the field. Otherwise
the first field with another tag is named, whatever else the dictionary and the options are, or, when there
is none, the first message whose type holds a surrogate ends the generation.
-/

namespace FixBindings.Rust

open Dictionary Calendar Document

/-- The entries of a field give it its name and its tag. -/
structure NamesAndTags (entries : Entries) (f : Field) : Prop where
  /-- The name is the text under its key. -/
  name : HoldsText "name" entries f.name
  /-- The tag is the integer that the value under its key denotes. -/
  tag : ∃ v, Holds "tag" entries v ∧ DenotesTag v f.tag

/-- A definition writes the tag of a field: in the constant of the field, behind the name, as the
argument of the constructor that does not check it. -/
def WritesTag (f : Field) (definition : String) : Prop :=
  ∃ front type back, definition = unlines
    (front ++ ["pub const " ++ Identifier.constantName f.name ++ ": &FieldDef<'static, " ++ type ++
        "> = &FieldDef\x7b",
      "    name: \"" ++ stringLiteral f.name ++ "\",",
      "    tag: unsafe \x7b TagU16::new_unchecked(" ++ toString f.tag ++ ") \x7d,"] ++ back) ∧
    front.length = 2

theorem writesTag_definitionLines (o : Options) (version : String) (f : Field) :
    WritesTag f (unlines (definitionLines o version f)) :=
  ⟨(constantLines o version f).take 2, (fieldType f).spell .owned o.cratePath,
    (constantLines o version f).drop 5 ++ enumLines o f, rfl, rfl⟩

/-- The entries of a document give each field that is described its name and its tag. -/
theorem forall₂_namesAndTags {vs : List Value} {fs : List Field} {es : List Event}
    (h : DescribesFields vs fs es) : List.Forall₂ (OfMapping NamesAndTags) vs fs := by
  induction h with
  | nil => exact .nil
  | cons hf _ ih => exact .cons ⟨_, rfl, hf.name, hf.tag⟩ ih

/-- The tags of fields that are described by values that can be written can be written. -/
theorem isPrintableInt_tag {vs : List Value} {fs : List Field} (hp : ∀ v ∈ vs, v.isPrintable)
    (h : List.Forall₂ (OfMapping NamesAndTags) vs fs) :
    ∀ f ∈ fs, Number.isPrintableInt f.tag := by
  induction h with
  | nil => simp
  | cons hf _ ih =>
    rw [List.forall_mem_cons] at hp ⊢
    refine ⟨?_, ih hp.2⟩
    obtain ⟨entries, rfl, -, w, hw, htag⟩ := hf
    exact htag.isPrintableInt (isPrintable_of_get? hp.1 hw.1)

/-- The error of a dictionary names the first field with a tag out of range or, when there is none, tells
the first surrogate in the type of the first included message that holds one. -/
inductive RefusedFor (o : Options) (d : Dictionary) : GenerateError → Prop where
  /-- The tag of a field is out of range, and those of the fields before it are not. -/
  | tag {before after : List Field} {f : Field} (hd : d.fields = before ++ f :: after)
    (hbefore : ∀ g ∈ before, 1 ≤ g.tag ∧ g.tag ≤ 65535) (hf : ¬(1 ≤ f.tag ∧ f.tag ≤ 65535)) :
    RefusedFor o d (.invalidTag (.outOfRange f.name (.scalar (.int f.tag))))
  /-- All tags are in range, the type of a message holds a surrogate, and those of the messages before it
  hold none. -/
  | encoding {before after : List Message} {m : Message} {e : Text.EncodeError}
    (htags : ∀ f ∈ d.fields, 1 ≤ f.tag ∧ f.tag ≤ 65535)
    (hd : includedMessages o d = before ++ m :: after)
    (hbefore : ∀ n ∈ before, Text.IsEncodable n.msgType)
    (hm : e.Tells (fun p ↦ Text.isSurrogate p.val) (Text.points m.msgType)) :
    RefusedFor o d (.encoding e)

/-- A module is written when all tags are in range and all types can be encoded. Otherwise the error tells
the first of either that is in the way. -/
theorem generate_cases (o : Options) {now : LocalTime} {utc : DateTime} {d : Dictionary}
    (hshown : ∀ f ∈ d.fields, Number.isPrintableInt f.tag) (hnow : now.toUtc = .ok utc) :
    (((∀ f ∈ d.fields, TagInRange f.tag) ∧ AreEncodable o d) ∧ (generate o now d).result = .ok
        (unlines (headLines o d.version utc) ++ body (fieldTexts o d ++ structTexts o d) ++ "\n")) ∨
      ¬((∀ f ∈ d.fields, TagInRange f.tag) ∧ AreEncodable o d) ∧
        ∃ e, (generate o now d).result = .error e ∧ RefusedFor o d e := by
  rcases forall_mem_or_exists_first (fun f ↦ TagInRange f.tag) d.fields with
    hall | ⟨before, f, after, heq, hbefore, hf⟩
  · rcases areEncodable_or_exists_first o d with
      hencodable | ⟨hnot, before, m, after, e, heq, hbefore, he⟩
    · exact .inl ⟨⟨hall, hencodable⟩, generate_of_toUtc o hall hencodable hnow⟩
    · exact .inr ⟨fun h ↦ hnot h.2, _, generate_of_unspelled o hall heq hbefore he,
        .encoding hall heq hbefore (Text.unspelled_eq_error.mp he)⟩
  · have hmem : f ∈ d.fields := by
      rw [heq]
      exact List.mem_append_right _ List.mem_cons_self
    have herror : (generate o now d).result =
        .error (.invalidTag (.outOfRange f.name (.scalar (.int f.tag)))) := by
      -- A tag with too many digits could not stand in the message of the error.
      have hshown : (Value.scalar (.int f.tag)).isPrintable := hshown f hmem
      rw [generate_of_not_inRange o heq hbefore hf, InvalidTag.ofValue, if_pos hshown]
    exact .inr ⟨fun h ↦ hf (h.1 f hmem), _, herror, .tag heq hbefore hf⟩

/-- A module of a dictionary from a document whose integers can be written, at a time with a UTC date,
is written if and only if the tags of all fields are from 1 to 65535 and the types of the included messages
can be encoded. Each definition then writes the tag that the entry of its field denotes. Otherwise the error
names the first field with another tag or, when there is none, tells the first surrogate in the type of a
message, and there are no other errors. -/
theorem generate_tags (o : Options) {now : LocalTime} {utc : DateTime} {entries : Entries}
    {d : Dictionary} (hp : Value.areEntriesPrintable entries)
    (hd : (Dictionary.ofEntries entries).result = .ok d) (hnow : now.toUtc = .ok utc) :
    (∃ vs, HoldsList "fields" entries vs ∧ List.Forall₂ (OfMapping NamesAndTags) vs d.fields) ∧
    ((∃ text, (generate o now d).result = .ok text) ↔
      (∀ f ∈ d.fields, 1 ≤ f.tag ∧ f.tag ≤ 65535) ∧
        ∀ m ∈ includedMessages o d, Text.IsEncodable m.msgType) ∧
    (∀ text, (generate o now d).result = .ok text → ∃ definitions structs,
      text = unlines (headLines o d.version utc) ++ body (definitions ++ structs) ++ "\n" ∧
      List.Forall₂ WritesTag d.fields definitions) ∧
    ∀ e, (generate o now d).result = .error e → RefusedFor o d e := by
  have hdescribes : Describes entries d (Dictionary.ofEntries entries).events :=
    ofEntries_eq_ok.mp (by rw [← hd])
  obtain ⟨vs, hvs, hfields⟩ := hdescribes.fields
  have htags := forall₂_namesAndTags hfields
  have hprintable := isPrintableInt_tag (isPrintable_of_mem hp hvs) htags
  refine ⟨⟨vs, hvs, htags⟩, ?_⟩
  rcases generate_cases o hprintable hnow with ⟨hall, hok⟩ | ⟨hnot, e, herror, hrefused⟩
  · refine ⟨⟨fun _ ↦ hall, fun _ ↦ ⟨_, hok⟩⟩, fun text htext ↦ ?_, fun e he ↦ ?_⟩
    · cases hok.symm.trans htext
      refine ⟨fieldTexts o d, structTexts o d, rfl, ?_⟩
      rw [fieldTexts, List.forall₂_map_right_iff, List.forall₂_same]
      exact fun f _ ↦ writesTag_definitionLines o d.version f
    · cases hok.symm.trans he
  · refine ⟨⟨?_, fun h ↦ absurd h hnot⟩, fun text htext ↦ ?_, fun e' he ↦ ?_⟩
    · rintro ⟨text, htext⟩
      cases herror.symm.trans htext
    · cases herror.symm.trans htext
    · cases herror.symm.trans he
      exact hrefused

/-- A document with one field for each of the tags. -/
def tagged (tags : List Value) : Entries :=
  let field (tag : Value) : Value :=
    .mapping [(.text "name", .text "A"), (.text "tag", tag), (.text "type", .text "INT")]
  [(.text "version", .text "FIX.4.4"), (.text "fields", .list (tags.map field))]

/-- The dictionary of a document with one field for each of the tags. -/
def ofTagged (tags : List Int) : Dictionary :=
  ⟨"FIX.4.4", tags.map fun tag ↦ ⟨tag, "A", .int, []⟩, [], []⟩

/-- A float, the greatest tag and a numeral with an underscore are written. The tag behind the
greatest one is refused, although zero stands behind it. -/
theorem generate_tags_tagged :
    let now : LocalTime := ⟨⟨⟨2024, 3, 5⟩, 14, 30, 0⟩, 3600⟩
    let seven : Value := .scalar (.float (.ofRatio false 7 1))
    let inRange : Entries := tagged [.scalar (.int 65535), seven, .text " 1_2 "]
    let outOfRange : Entries := tagged [seven, .text "65536", .scalar (.int 0)]
    now.toUtc = .ok ⟨⟨2024, 3, 5⟩, 13, 30, 0⟩ ∧
    (Value.areEntriesPrintable inRange ∧
      (Dictionary.ofEntries inRange).result = .ok (ofTagged [65535, 7, 12]) ∧
      ∃ text, (generate {} now (ofTagged [65535, 7, 12])).result = .ok text) ∧
    (Value.areEntriesPrintable outOfRange ∧
      (Dictionary.ofEntries outOfRange).result = .ok (ofTagged [7, 65536, 0]) ∧
      ¬∃ text, (generate {} now (ofTagged [7, 65536, 0])).result = .ok text) := by
  intro now seven inRange outOfRange
  have hnow : LocalTime.toUtc ⟨⟨⟨2024, 3, 5⟩, 14, 30, 0⟩, 3600⟩ = .ok ⟨⟨2024, 3, 5⟩, 13, 30, 0⟩ :=
    rfl
  have hp : Value.areEntriesPrintable inRange := by decide +kernel
  have hd : (Dictionary.ofEntries inRange).result = .ok (ofTagged [65535, 7, 12]) := rfl
  have hp' : Value.areEntriesPrintable outOfRange := by decide +kernel
  have hd' : (Dictionary.ofEntries outOfRange).result = .ok (ofTagged [7, 65536, 0]) := rfl
  refine ⟨hnow, ⟨hp, hd, ?_⟩, hp', hd', fun h ↦ ?_⟩
  · exact (generate_tags {} hp hd hnow).2.1.mpr (by decide)
  · exact absurd ((generate_tags {} hp' hd' hnow).2.1.mp h).1 (by decide)

/-- A document with a message of a type. -/
def typed (msgType : String) : Entries :=
  [(.text "version", .text "FIX.4.4"), (.text "messages", .list
    [.mapping [(.text "name", .text "M"), (.text "msg_type", .text msgType)]])]

/-- There is no field with a tag out of range, and yet there is no module, as the type is a surrogate. An escape
in a document may write one. -/
theorem generate_surrogateTyped :
    let now : LocalTime := ⟨⟨⟨2024, 3, 5⟩, 14, 30, 0⟩, 3600⟩
    let d : Dictionary := ⟨"FIX.4.4", [], [], [⟨"M", Text.spell [0xD800], []⟩]⟩
    let entries : Entries := typed (Text.spell [0xD800])
    Value.areEntriesPrintable entries ∧ (Dictionary.ofEntries entries).result = .ok d ∧
      (∀ f ∈ d.fields, 1 ≤ f.tag ∧ f.tag ≤ 65535) ∧
      (generate { includeMessages := true } now d).result = .error (.encoding ⟨0, 0, 0xD800⟩) := by
  intro now d entries
  have hd : includedMessages { includeMessages := true } d = [] ++ ⟨"M", Text.spell [0xD800], []⟩ :: [] :=
    rfl
  have he : Text.unspelled (Text.spell [0xD800]) = .error ⟨0, 0, 0xD800⟩ := by decide +kernel
  exact ⟨by decide +kernel, rfl, List.forall_mem_nil _,
    generate_of_unspelled _ (List.forall_mem_nil _) hd (List.forall_mem_nil _) he⟩

end FixBindings.Rust
