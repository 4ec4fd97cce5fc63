import FixBindings.Proofs.Rust.Structure

/-!
# Modules grow at the end

A module is its head, which the fields and messages do not change, and behind it the definitions of the
fields and the structs of the included messages, without their outer line feeds and one empty line
apart. None of them is blank, so each is there (`exists_isMadeOf_generate`), and what comes further back
changes nothing in front of it: further fields and the messages come behind the module of some fields
(`exists_moduleWith_append`).
-/

namespace FixBindings.Rust

open Dictionary Calendar

/-- The text is the head of the module of a dictionary at a UTC time and behind it the definitions of its
fields and the structs of its included messages, in order, without their outer line feeds, one empty line
apart and with a line feed at the end. -/
def IsMadeOf (o : Options) (utc : DateTime) (d : Dictionary) (text : String) : Prop :=
  ∃ definitions structs pieces : List String,
    List.Forall₂ (fun f s ↦ (fieldDefinition o d.version f).result = .ok s) d.fields definitions ∧
    List.Forall₂ (fun m s ↦ messageStruct o d.version m = .ok s) (includedMessages o d) structs ∧
    List.Forall₂ Text.StripsTo (definitions ++ structs) pieces ∧
    text = unlines (headLines o d.version utc) ++ "\n\n".intercalate pieces ++ "\n"

/-- The module of a dictionary with the fields `fs`, with or without its messages. -/
def moduleWith (o : Options) (now : LocalTime) (d : Dictionary) (included : Bool) (fs : List Field) :
    Except GenerateError String :=
  (generate { o with includeMessages := included } now { d with fields := fs }).result

section

variable (o : Options) {now : LocalTime} {utc : DateTime} (d : Dictionary) {fs : List Field}

/-- Fields with tags in range have definitions. -/
theorem forall₂_fieldTexts (ht : ∀ f ∈ d.fields, TagInRange f.tag) :
    List.Forall₂ (fun f s ↦ (fieldDefinition o d.version f).result = .ok s) d.fields
      (fieldTexts o d) :=
  List.forall₂_map_right_iff.mpr <| List.forall₂_same.mpr fun f hf ↦
    fieldDefinition_of_inRange o d.version (ht f hf)

/-- Messages with types that can be encoded have structs. -/
theorem forall₂_structTexts (he : AreEncodable o d) :
    List.Forall₂ (fun m s ↦ messageStruct o d.version m = .ok s) (includedMessages o d)
      (structTexts o d) :=
  List.forall₂_map_right_iff.mpr <| List.forall₂_same.mpr fun m hm ↦
    (messageStruct_eq_ok o d.version).mpr ⟨he m hm, rfl⟩

variable (hnow : now.toUtc = .ok utc)

include hnow

/-- With all tags in range and all types encodable the module is written, and it is made of the definitions
and structs. -/
theorem exists_isMadeOf_generate (ht : ∀ f ∈ d.fields, TagInRange f.tag) (he : AreEncodable o d) :
    ∃ text, (generate o now d).result = .ok text ∧ IsMadeOf o utc d text := by
  obtain ⟨pieces, hpieces, hbody⟩ := exists_body_eq fun s hs ↦
    (isFragment_of_mem_fragments (o := o) (d := d) hs).not_isBlankText
  refine ⟨_, generate_of_toUtc o ht he hnow, fieldTexts o d, structTexts o d, pieces,
    forall₂_fieldTexts o d ht, forall₂_structTexts o d he, hpieces, ?_⟩
  rw [hbody]

/-- The module of a dictionary with other fields. Neither the head nor the definitions depend on whether
messages are included. -/
theorem moduleWith_eq (ht : ∀ f ∈ fs, TagInRange f.tag) {included : Bool}
    (he : AreEncodable { o with includeMessages := included } d) :
    moduleWith o now d included fs = .ok (unlines (headLines o d.version utc) ++
      body (fieldTexts o { d with fields := fs } ++
        structTexts { o with includeMessages := included } d) ++ "\n") :=
  generate_of_toUtc { o with includeMessages := included } (d := { d with fields := fs }) ht he hnow

/-- Further fields and the messages come behind the module of some fields. -/
theorem exists_moduleWith_append {gs : List Field} (hne : fs ≠ [])
    (ht : ∀ f ∈ fs ++ gs, TagInRange f.tag) {text : String}
    (htext : moduleWith o now d false fs = .ok text) {included : Bool}
    (he : AreEncodable { o with includeMessages := included } d) :
    ∃ rest, moduleWith o now d included (fs ++ gs) = .ok (text ++ rest) := by
  have hfs : ∀ f ∈ fs, TagInRange f.tag := fun f hf ↦ ht f (List.mem_append_left gs hf)
  have hbehind : structTexts { o with includeMessages := false } d = [] := rfl
  rw [moduleWith_eq o d hnow hfs (areEncodable_of_not_included o d), hbehind, List.append_nil,
    Except.ok.injEq] at htext
  -- The first definition is not blank, so the body of the fields is not empty.
  obtain ⟨f, hf⟩ := List.exists_mem_of_ne_nil fs hne
  have hblank : ∃ s ∈ fieldTexts o { d with fields := fs }, Text.isBlankText s = false :=
    ⟨_, List.mem_map_of_mem hf, (isFragment_definition o d.version f).not_isBlankText⟩
  obtain ⟨rest, hrest⟩ := exists_body_append hblank
    (fieldTexts o { d with fields := gs } ++ structTexts { o with includeMessages := included } d)
  have hfields : fieldTexts o { d with fields := fs ++ gs } =
      fieldTexts o { d with fields := fs } ++ fieldTexts o { d with fields := gs } :=
    List.map_append
  refine ⟨rest, ?_⟩
  rw [moduleWith_eq o d hnow ht he, hfields, List.append_assoc, String.append_assoc, hrest, ← htext,
    String.append_assoc, String.append_assoc, String.append_assoc]

end

/-- The module grows only at its end. At a time with a UTC date the module of some fields with tags in
range, without messages, is written, and the module with further fields starts with it; so do the module of
the same fields with messages and that of all fields with messages, when the types of the messages can be
encoded. Every module with tags in range is its head and the definitions of its fields and the structs of its
included messages, one empty line apart, or there is none because the type of an included message cannot be
encoded. -/
theorem module_grows (o : Options) {now : LocalTime} {utc : DateTime} (d : Dictionary)
    {fs gs : List Field} (hnow : now.toUtc = .ok utc) (hne : fs ≠ [])
    (ht : ∀ f ∈ fs ++ gs, TagInRange f.tag) :
    (∃ text, moduleWith o now d false fs = .ok text ∧
      (∃ rest, moduleWith o now d false (fs ++ gs) = .ok (text ++ rest)) ∧
      ((∀ m ∈ d.messages, Text.IsEncodable m.msgType) →
        (∃ rest, moduleWith o now d true (fs ++ gs) = .ok (text ++ rest)) ∧
          ∃ rest, moduleWith o now d true fs = .ok (text ++ rest))) ∧
    ∀ included, ∀ ks : List Field, (∀ f ∈ ks, TagInRange f.tag) →
      (∃ text, moduleWith o now d included ks = .ok text ∧
        IsMadeOf { o with includeMessages := included } utc { d with fields := ks } text) ∨
      ¬AreEncodable { o with includeMessages := included } d ∧
        ∃ e, moduleWith o now d included ks = .error (.encoding e) := by
  have hfs : ∀ f ∈ fs, TagInRange f.tag := fun f hf ↦ ht f (List.mem_append_left gs hf)
  have hsame : ∀ f ∈ fs ++ [], TagInRange f.tag := by rwa [List.append_nil]
  have hout := areEncodable_of_not_included o d
  obtain ⟨text, htext, -⟩ := exists_isMadeOf_generate { o with includeMessages := false }
    { d with fields := fs } hnow hfs hout
  refine ⟨⟨text, htext, exists_moduleWith_append o d hnow hne ht htext hout, fun he ↦ ?_⟩,
    fun included ks hks ↦ ?_⟩
  · have hin : AreEncodable { o with includeMessages := true } d := he
    refine ⟨exists_moduleWith_append o d hnow hne ht htext hin, ?_⟩
    simpa only [List.append_nil] using exists_moduleWith_append o d hnow hne hsame htext hin
  · obtain he | ⟨hnot, _, _, _, e, heq, hbefore, he⟩ :=
      areEncodable_or_exists_first { o with includeMessages := included } d
    · exact .inl (exists_isMadeOf_generate { o with includeMessages := included }
        { d with fields := ks } hnow hks he)
    · exact .inr ⟨hnot, e, generate_of_unspelled _ (d := { d with fields := ks }) hks heq hbefore he⟩

/-- The module of two fields and a message starts with that of the first field. -/
theorem module_grows_awkward :
    (LocalTime.toUtc ⟨⟨⟨2024, 3, 5⟩, 14, 30, 0⟩, 3600⟩ = .ok ⟨⟨2024, 3, 5⟩, 13, 30, 0⟩ ∧
      awkward.fields.take 1 ≠ [] ∧
      (∀ f ∈ awkward.fields.take 1 ++ awkward.fields.drop 1, TagInRange f.tag) ∧
      ∀ m ∈ awkward.messages, Text.IsEncodable m.msgType) ∧
    (∃ text, moduleWith {} ⟨⟨⟨2024, 3, 5⟩, 14, 30, 0⟩, 3600⟩ awkward false (awkward.fields.take 1) =
        .ok text ∧
      ∃ rest, moduleWith {} ⟨⟨⟨2024, 3, 5⟩, 14, 30, 0⟩, 3600⟩ awkward true awkward.fields =
        .ok (text ++ rest)) ∧
    ∃ text, moduleWith {} ⟨⟨⟨2024, 3, 5⟩, 14, 30, 0⟩, 3600⟩ awkward true awkward.fields = .ok text ∧
      IsMadeOf { includeMessages := true } ⟨⟨2024, 3, 5⟩, 13, 30, 0⟩ awkward text := by
  have hnow : LocalTime.toUtc ⟨⟨⟨2024, 3, 5⟩, 14, 30, 0⟩, 3600⟩ = .ok ⟨⟨2024, 3, 5⟩, 13, 30, 0⟩ := rfl
  have hne : awkward.fields.take 1 ≠ [] := by decide
  have ht : ∀ f ∈ awkward.fields.take 1 ++ awkward.fields.drop 1, TagInRange f.tag := by decide
  have he := areEncodable_awkward
  obtain ⟨⟨text, htext, -, hgrows⟩, hmade⟩ := module_grows {} awkward hnow hne ht
  refine ⟨⟨hnow, hne, ht, he⟩, ⟨text, htext, (hgrows he).1⟩, ?_⟩
  exact (hmade true awkward.fields ht).resolve_right fun hnot ↦ hnot.1 he

end FixBindings.Rust
