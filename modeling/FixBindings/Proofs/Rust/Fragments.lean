import FixBindings.Proofs.Rust.Literal
import FixBindings.Rust.Module
import Mathlib.Data.List.Forall2

/-!
# Modules as fragments

What `generate` returns: the head of the module and behind it the definitions of all fields and the
structs of the included messages, when every tag is in range and the type of every message can be encoded,
and the refusal of the first that is not. A fragment is the text of lines, and the body of a module is its fragments with an empty line
between two of them.
-/

namespace FixBindings.Rust

open Dictionary Calendar

variable (o : Options) (version : String)

/-! ## Generation -/

/-- The definitions of the fields of a dictionary. -/
def fieldTexts (o : Options) (d : Dictionary) : List String :=
  d.fields.map fun f ↦ unlines (definitionLines o d.version f)

/-- The byte string literal of the type of a message that can be encoded. -/
def typeLiteral (m : Message) : String :=
  (byteLiteral m.msgType).toOption.getD ""

/-- The types of the included messages can be encoded. -/
def AreEncodable (o : Options) (d : Dictionary) : Prop :=
  ∀ m ∈ includedMessages o d, Text.IsEncodable m.msgType

instance (o : Options) (d : Dictionary) : Decidable (AreEncodable o d) :=
  inferInstanceAs (Decidable (∀ m ∈ includedMessages o d, Text.IsEncodable m.msgType))

/-- Without messages there is nothing that cannot be encoded. -/
theorem areEncodable_of_not_included (o : Options) (d : Dictionary) :
    AreEncodable { o with includeMessages := false } d :=
  fun _ hm ↦ absurd hm List.not_mem_nil

/-- The structs of the messages of a dictionary, as far as they are included. -/
def structTexts (o : Options) (d : Dictionary) : List String :=
  (includedMessages o d).map fun m ↦ structText o d.version m (typeLiteral m)

/-- Either all elements satisfy a predicate or there is a first one that does not. -/
theorem forall_mem_or_exists_first {α : Type _} (P : α → Prop) [DecidablePred P] (as : List α) :
    (∀ a ∈ as, P a) ∨ ∃ before a after, as = before ++ a :: after ∧ (∀ b ∈ before, P b) ∧ ¬P a := by
  cases h : as.find? fun a ↦ !decide (P a) with
  | none => exact .inl (by simpa using h)
  | some a =>
    obtain ⟨ha, before, after, has, hb⟩ := List.find?_eq_some_iff_append.mp h
    exact .inr ⟨before, a, after, has, by simpa using hb, by simpa using ha⟩

/-- Either the types of all included messages can be encoded or there is a first one that cannot. -/
theorem areEncodable_or_exists_first (o : Options) (d : Dictionary) :
    AreEncodable o d ∨ ¬AreEncodable o d ∧ ∃ before m after e,
      includedMessages o d = before ++ m :: after ∧
        (∀ n ∈ before, Text.IsEncodable n.msgType) ∧ Text.unspelled m.msgType = .error e := by
  rcases forall_mem_or_exists_first (fun m : Message ↦ Text.IsEncodable m.msgType)
    (includedMessages o d) with hall | ⟨before, m, after, heq, hbefore, hm⟩
  · exact .inl hall
  · have hmem : m ∈ includedMessages o d := by
      rw [heq]
      exact List.mem_append_right _ List.mem_cons_self
    cases he : Text.unspelled m.msgType with
    | ok t => exact absurd (Text.isEncodable_iff.mpr ⟨t, he⟩) hm
    | error e => exact .inr ⟨fun hall ↦ hm (hall m hmem), before, m, after, e, heq, hbefore, he⟩

theorem mapError_ok {ε ε' α : Type _} (g : ε → ε') (a : α) :
    (Except.ok a : Except ε α).mapError g = .ok a := rfl

theorem mapError_error {ε ε' α : Type _} (g : ε → ε') (e : ε) :
    (Except.error e : Except ε α).mapError g = .error (g e) := rfl

/-- The definition of a field with a tag in range is written. -/
theorem fieldDefinition_of_inRange {f : Field} (h : TagInRange f.tag) :
    (fieldDefinition o version f).result = .ok (unlines (definitionLines o version f)) := by
  simp [fieldDefinition, tagOfValue, h, Traced.result_andThen, Traced.ofExcept, Traced.tell,
    Except.bind]

/-- The definition of a field with another tag is refused. -/
theorem fieldDefinition_of_not_inRange {f : Field} (h : ¬TagInRange f.tag) :
    (fieldDefinition o version f).result =
      .error (.ofValue f.name (.scalar (.int f.tag))) := by
  simp [fieldDefinition, tagOfValue, h, Traced.result_andThen, Traced.ofExcept, Except.bind]

/-- The definitions of fields with tags in range are written. -/
theorem fieldFragments_of_inRange {fs : List Field} (h : ∀ f ∈ fs, TagInRange f.tag) :
    (fieldFragments o version fs).result =
      .ok (fs.map fun f ↦ unlines (definitionLines o version f)) := by
  induction fs with
  | nil => rfl
  | cons f fs ih =>
    have hf := fieldDefinition_of_inRange o version (h f (by simp))
    have hfs := ih fun g hg ↦ h g (List.mem_cons_of_mem _ hg)
    simp [fieldFragments, Traced.result_andThen, hf, hfs, Except.bind]

/-- The first tag that is not in range is refused. -/
theorem fieldFragments_of_not_inRange {before : List Field} (after : List Field) {f : Field}
    (hb : ∀ g ∈ before, TagInRange g.tag) (hf : ¬TagInRange f.tag) :
    (fieldFragments o version (before ++ f :: after)).result =
      .error (.ofValue f.name (.scalar (.int f.tag))) := by
  induction before with
  | nil =>
    have := fieldDefinition_of_not_inRange o version hf
    simp [fieldFragments, Traced.result_andThen, this, Except.bind]
  | cons g before ih =>
    have hg := fieldDefinition_of_inRange o version (hb g (by simp))
    have hfs := ih fun k hk ↦ hb k (List.mem_cons_of_mem _ hk)
    simp [fieldFragments, Traced.result_andThen, hg, hfs, Except.bind]

/-- The literal of a message is that of some bytes. -/
theorem exists_typeLiteral_eq (m : Message) : ∃ bs, typeLiteral m = bytesLiteral bs := by
  unfold typeLiteral
  cases h : byteLiteral m.msgType with
  | error e => exact ⟨[], rfl⟩
  | ok l =>
    obtain ⟨t, -, rfl⟩ := byteLiteral_eq_ok.mp h
    exact ⟨_, rfl⟩

theorem byteLiteral_of_isEncodable {m : Message} (h : Text.IsEncodable m.msgType) :
    byteLiteral m.msgType = .ok (typeLiteral m) := by
  obtain ⟨l, hl⟩ := exists_byteLiteral_iff.mpr h
  rw [typeLiteral, hl]
  rfl

/-- A message has a struct if and only if its type can be encoded. -/
theorem messageStruct_eq_ok {m : Message} {text : String} :
    messageStruct o version m = .ok text ↔
      Text.IsEncodable m.msgType ∧ structText o version m (typeLiteral m) = text := by
  unfold messageStruct
  constructor
  · intro h
    cases hl : byteLiteral m.msgType with
    | error e =>
      rw [hl] at h
      cases h
    | ok l =>
      have hencodable := exists_byteLiteral_iff.mp ⟨l, hl⟩
      rw [byteLiteral_of_isEncodable hencodable] at h
      exact ⟨hencodable, Except.ok.inj h⟩
  · rintro ⟨h, rfl⟩
    rw [byteLiteral_of_isEncodable h]
    rfl

theorem exists_messageStruct_iff {m : Message} :
    (∃ text, messageStruct o version m = .ok text) ↔ Text.IsEncodable m.msgType := by
  simp [messageStruct_eq_ok]

/-- The error of a message without a struct is that of its type. -/
theorem messageStruct_eq_error {m : Message} {e : Text.EncodeError} :
    messageStruct o version m = .error e ↔ Text.unspelled m.msgType = .error e := by
  rw [← byteLiteral_eq_error]
  unfold messageStruct
  cases byteLiteral m.msgType <;> simp [Except.map]

/-- The structs of messages whose types can be encoded are written, and what is told are the events of all
messages. -/
theorem messageFragments_of_isEncodable {ms : List Message}
    (h : ∀ m ∈ ms, Text.IsEncodable m.msgType) :
    messageFragments o version ms =
      ⟨ms.flatMap (messageEvents o),
        .ok (ms.map fun m ↦ structText o version m (typeLiteral m))⟩ := by
  induction ms with
  | nil => rfl
  | cons m ms ih =>
    have hm := (messageStruct_eq_ok o version).mpr ⟨h m (by simp), rfl⟩
    have hms := ih fun n hn ↦ h n (List.mem_cons_of_mem _ hn)
    simp [messageFragments, tracedStruct, Traced.andThen, hm, hms]

/-- The first type that cannot be encoded is refused. -/
theorem messageFragments_of_unspelled {before : List Message} (after : List Message) {m : Message}
    {e : Text.EncodeError} (hb : ∀ n ∈ before, Text.IsEncodable n.msgType)
    (hm : Text.unspelled m.msgType = .error e) :
    (messageFragments o version (before ++ m :: after)).result = .error e := by
  have hstruct := (messageStruct_eq_error o version).mpr hm
  induction before with
  | nil => simp [messageFragments, tracedStruct, Traced.result_andThen, hstruct, Except.bind]
  | cons n before ih =>
    have hn := (messageStruct_eq_ok o version).mpr ⟨hb n (by simp), rfl⟩
    have hms := ih fun k hk ↦ hb k (List.mem_cons_of_mem _ hk)
    simp [messageFragments, tracedStruct, Traced.result_andThen, hn, hms, Except.bind]

/-- With all tags in range and all types encodable the module is its head and its body, or the time has no
UTC date. -/
theorem generate_of_inRange {now : LocalTime} {d : Dictionary}
    (h : ∀ f ∈ d.fields, TagInRange f.tag) (he : AreEncodable o d) :
    (generate o now d).result =
      (assemble o d.version now (fieldTexts o d ++ structTexts o d)).mapError .outOfCalendar := by
  have hf := fieldFragments_of_inRange o d.version h
  have hm := messageFragments_of_isEncodable o d.version he
  simp [generate, Traced.result_andThen, Traced.mapError, hf, hm, mapError_ok, Except.bind,
    Traced.tell, Traced.ofExcept, fieldTexts, structTexts]

/-- With all tags in range the module is refused for the first type that cannot be encoded. -/
theorem generate_of_unspelled {now : LocalTime} {d : Dictionary} {before after : List Message}
    {m : Message} {e : Text.EncodeError} (h : ∀ f ∈ d.fields, TagInRange f.tag)
    (hd : includedMessages o d = before ++ m :: after)
    (hb : ∀ n ∈ before, Text.IsEncodable n.msgType) (hm : Text.unspelled m.msgType = .error e) :
    (generate o now d).result = .error (.encoding e) := by
  have hf := fieldFragments_of_inRange o d.version h
  have hms := messageFragments_of_unspelled o d.version after hb hm
  simp [generate, Traced.result_andThen, Traced.mapError, hf, hd, hms, mapError_ok, mapError_error,
    Except.bind]

/-- The module is refused for the first tag that is not in range. -/
theorem generate_of_not_inRange {now : LocalTime} {d : Dictionary} {before after : List Field}
    {f : Field} (hd : d.fields = before ++ f :: after) (hb : ∀ g ∈ before, TagInRange g.tag)
    (hf : ¬TagInRange f.tag) :
    (generate o now d).result = .error (.invalidTag (.ofValue f.name (.scalar (.int f.tag)))) := by
  have := fieldFragments_of_not_inRange o d.version after hb hf
  simp [generate, Traced.result_andThen, Traced.mapError, hd, this, mapError_error, Except.bind]

/-- At a time with a UTC date a module is its head and its body. -/
theorem assemble_of_toUtc {now : LocalTime} {utc : DateTime} (h : now.toUtc = .ok utc)
    (fragments : List String) :
    assemble o version now fragments =
      .ok (unlines (headLines o version utc) ++ body fragments ++ "\n") := by
  simp [assemble, h, bind, Except.bind, pure, Except.pure]

/-- With all tags in range, all types encodable and at a time with a UTC date the module is written. -/
theorem generate_of_toUtc {now : LocalTime} {utc : DateTime} {d : Dictionary}
    (h : ∀ f ∈ d.fields, TagInRange f.tag) (he : AreEncodable o d) (hnow : now.toUtc = .ok utc) :
    (generate o now d).result = .ok
      (unlines (headLines o d.version utc) ++ body (fieldTexts o d ++ structTexts o d) ++ "\n") := by
  rw [generate_of_inRange o h he, assemble_of_toUtc o d.version hnow, mapError_ok]

/-! ## Fragments that are not blank -/

section

variable {fs gs : List String}

/-- All fragments that are not blank are in a body. -/
theorem body_of_not_blank (h : ∀ f ∈ fs, Text.isBlankText f = false) :
    body fs = "\n\n".intercalate (fs.map Text.trimLineFeeds) := by
  rw [body, List.filter_eq_self.mpr fun f hf ↦ by simp [h f hf]]

/-- The body of fragments that are not blank is made of all of them without their outer line feeds. -/
theorem exists_body_eq (h : ∀ f ∈ fs, Text.isBlankText f = false) :
    ∃ pieces, List.Forall₂ Text.StripsTo fs pieces ∧ body fs = "\n\n".intercalate pieces := by
  refine ⟨fs.map Text.trimLineFeeds, ?_, body_of_not_blank h⟩
  exact List.forall₂_map_right_iff.mpr <| List.forall₂_same.mpr fun f hf ↦
    Text.stripsTo_trimLineFeeds (h f hf)

/-- The body of two lists of fragments is the body of the first, an empty line and the body of the
second. -/
theorem body_append (hf : ∃ f ∈ fs, Text.isBlankText f = false)
    (hg : ∃ g ∈ gs, Text.isBlankText g = false) :
    body (fs ++ gs) = body fs ++ "\n\n" ++ body gs := by
  have hne {ts : List String} (ht : ∃ t ∈ ts, Text.isBlankText t = false) :
      (ts.filter fun t ↦ !Text.isBlankText t).map Text.trimLineFeeds ≠ [] := by
    obtain ⟨t, hmem, hblank⟩ := ht
    rw [ne_eq, List.map_eq_nil_iff]
    exact List.ne_nil_of_mem (List.mem_filter.mpr ⟨hmem, by simp [hblank]⟩)
  rw [body, List.filter_append, List.map_append,
    String.intercalate_append_of_ne_nil (hne hf) (hne hg)]
  rfl

/-- Further fragments come behind a body. -/
theorem exists_body_append (hf : ∃ f ∈ fs, Text.isBlankText f = false) (gs : List String) :
    ∃ rest, body (fs ++ gs) ++ "\n" = body fs ++ "\n" ++ rest := by
  by_cases hg : ∃ g ∈ gs, Text.isBlankText g = false
  · refine ⟨"\n" ++ body gs ++ "\n", ?_⟩
    rw [body_append hf hg]
    simp only [String.append_assoc]
    rfl
  · refine ⟨"", ?_⟩
    have hnone : gs.filter (fun g ↦ !Text.isBlankText g) = [] := by
      rw [List.filter_eq_nil_iff]
      intro g hmem hkept
      exact hg ⟨g, hmem, by simpa using hkept⟩
    rw [body, List.filter_append, hnone, List.append_nil, String.append_empty]
    rfl

end

/-! ## Fragments of lines -/

/-- The text of lines of code: it ends with one line feed and does not start with white space. -/
structure IsFragment (s : String) : Prop where
  /-- The first character is not white space. -/
  starts : ∃ c r, s.toList = c :: r ∧ Text.isBlank c = false
  /-- The last character is a line feed, and the one before it is not. -/
  ends : ∃ r c, s.toList = r ++ [c, '\n'] ∧ c ≠ '\n'

namespace IsFragment

variable {s : String}

theorem not_isBlankText (h : IsFragment s) : Text.isBlankText s = false := by
  obtain ⟨c, r, hs, hc⟩ := h.starts
  simp [Text.isBlankText, hs, hc]

/-- Trimming takes one line feed away, the one at the end. -/
theorem trimLineFeeds_append (h : IsFragment s) : Text.trimLineFeeds s ++ "\n" = s := by
  obtain ⟨c, r, hs, hc⟩ := h.starts
  obtain ⟨r', c', hs', hc'⟩ := h.ends
  have hn : (c == '\n') = false := by
    rw [beq_eq_false_iff_ne]
    rintro rfl
    exact absurd hc (by decide)
  have hd : s.toList.dropWhile (· == '\n') = s.toList := by rw [hs]; simp [hn]
  have hr : s.toList.reverse.dropWhile (· == '\n') = c' :: r'.reverse := by
    rw [hs']
    simp [hc']
  apply String.toList_inj.mp
  rw [String.toList_append, Text.trimLineFeeds, String.toList_ofList, hd, hr, hs']
  simp

end IsFragment

/-- The lines of a fragment: the first one starts with a character that is not white space, and the
last one ends with a character that is not a line feed. -/
theorem IsFragment.unlines {ls : List String} {l m : String} {c d : Char}
    (hl : ls.head? = some l) (hc : l.toList.head? = some c) (hb : Text.isBlank c = false)
    (hm : ls.getLast? = some m) (hd : m.toList.getLast? = some d) (hn : d ≠ '\n') :
    IsFragment (unlines ls) where
  starts := by
    obtain ⟨ms, rfl⟩ := List.head?_eq_some_iff.mp hl
    obtain ⟨r, hs⟩ := List.head?_eq_some_iff.mp hc
    exact ⟨c, r ++ '\n' :: (Rust.unlines ms).toList, by simp [hs], hb⟩
  ends := by
    obtain ⟨ms, rfl⟩ := List.getLast?_eq_some_iff.mp hm
    obtain ⟨r, hs⟩ := List.getLast?_eq_some_iff.mp hd
    refine ⟨(Rust.unlines ms).toList ++ r, d, ?_, hn⟩
    rw [unlines_append]
    simp [hs]

/-- The definition of a field is a fragment. -/
theorem isFragment_definition (f : Field) : IsFragment (unlines (definitionLines o version f)) := by
  have hfirst : (definitionLines o version f).head? = some
      ("/// Field attributes for [\x60" ++ Text.singleLine f.name ++ " <" ++ toString f.tag ++
        ">\x60]") := rfl
  have hslash : ("/// Field attributes for [\x60" ++ Text.singleLine f.name ++ " <" ++ toString f.tag ++
      ">\x60]").toList.head? = some '/' := by simp
  unfold definitionLines enumLines at hfirst ⊢
  split
  · exact .unlines hfirst hslash rfl (m := "\x7d;") rfl rfl (by decide)
  · refine .unlines hfirst hslash rfl (m := "\x7d") ?_ rfl (by decide)
    rw [List.getLast?_append, List.getLast?_append]
    rfl

/-- The struct of a message is a fragment. -/
theorem isFragment_structText (m : Message) (literal : String) :
    IsFragment (structText o version m literal) := by
  refine .unlines (l := "#[derive(Debug)]") (m := "\x7d") rfl rfl rfl ?_ rfl (by decide)
  rw [structLines, List.getLast?_append]
  rfl

/-- What a module is made of are fragments. -/
theorem isFragment_of_mem_fragments {o : Options} {d : Dictionary} {s : String}
    (hs : s ∈ fieldTexts o d ++ structTexts o d) : IsFragment s := by
  rcases List.mem_append.mp hs with hs | hs
  · obtain ⟨f, -, rfl⟩ := List.mem_map.mp hs
    exact isFragment_definition o d.version f
  · obtain ⟨m, -, rfl⟩ := List.mem_map.mp hs
    exact isFragment_structText o d.version m _

/-- The body of fragments is the fragments with an empty line between two of them, but for the line
feed at its end. -/
theorem body_append_newline {fs : List String} (hne : fs ≠ []) (h : ∀ f ∈ fs, IsFragment f) :
    body fs ++ "\n" = "\n".intercalate fs := by
  rw [body_of_not_blank fun f hf ↦ (h f hf).not_isBlankText]
  induction fs with
  | nil => exact absurd rfl hne
  | cons f fs ih =>
    have hf := (h f (by simp)).trimLineFeeds_append
    cases fs with
    | nil => simp [hf]
    | cons g gs =>
      have ih := ih (by simp) fun k hk ↦ h k (List.mem_cons_of_mem _ hk)
      rw [List.map_cons] at ih
      rw [List.map_cons, List.map_cons, String.intercalate_cons_cons, String.append_assoc, ih,
        String.intercalate_cons_cons, show "\n\n" = "\n" ++ "\n" from rfl, ← String.append_assoc, hf]

end FixBindings.Rust
