import FixBindings.Proofs.Rust.Comments
import FixBindings.Proofs.Rust.Structure
import FixBindings.Proofs.Rust.Tags
import Mathlib.Algebra.Order.BigOperators.Group.List

/-!
# Versions stay in comments

A module is a list of lines. The version of the dictionary is in the first of them and in the address of
the page of each field, and both are comments, as long as the version is on one line but for the white
space around it. A line feed inside of the version ends the comment with the address, and the rest of
the version is code.
-/

namespace FixBindings.Rust

open Dictionary Calendar

/-! ## The lines of a module -/

/-- The lines of fragments of code, with an empty line between two of them. Without any fragment there
is an empty line. -/
def bodyLines : List (List String) → List String
  | [] => [""]
  | ls => [""].intercalate ls

/-- The lines of the fragments of a module. -/
def fragmentLines (o : Options) (d : Dictionary) : List (List String) :=
  d.fields.map (definitionLines o d.version) ++
    (includedMessages o d).map fun m ↦
      structLines o d.version m (messageMembers o m) (typeLiteral m)

/-- The lines of a module at a UTC time. -/
def moduleLines (o : Options) (now : DateTime) (d : Dictionary) : List String :=
  headLines o d.version now ++ bodyLines (fragmentLines o d)

theorem bodyLines_cons_cons (l m : List String) (ls : List (List String)) :
    bodyLines (l :: m :: ls) = l ++ "" :: bodyLines (m :: ls) := by
  simp [bodyLines, List.intercalate_cons_cons]

/-- Texts of lines with empty lines between them are a text of lines. -/
theorem intercalate_map_unlines {ls : List (List String)} (hne : ls ≠ []) :
    "\n".intercalate (ls.map unlines) = unlines (bodyLines ls) := by
  induction ls with
  | nil => exact absurd rfl hne
  | cons l ls ih =>
    cases ls with
    | nil => simp [bodyLines]
    | cons m ls =>
      rw [List.map_cons, List.map_cons, String.intercalate_cons_cons, ← List.map_cons, ih (by simp),
        bodyLines_cons_cons, unlines_append, unlines_cons, String.append_assoc]
      rfl

/-- What is done to each line of a body is done to the lines of its fragments, when empty lines stay
empty. -/
theorem map_bodyLines {g : String → String} (hg : g "" = "") (ls : List (List String)) :
    (bodyLines ls).map g = bodyLines (ls.map (List.map g)) := by
  induction ls with
  | nil => simp [bodyLines, hg]
  | cons l ls ih =>
    cases ls with
    | nil => simp [bodyLines]
    | cons m ls =>
      rw [bodyLines_cons_cons, List.map_append, List.map_cons, ih, hg, List.map_cons, List.map_cons,
        List.map_cons, bodyLines_cons_cons]

theorem map_unlines_fragmentLines (o : Options) (d : Dictionary) :
    (fragmentLines o d).map unlines = fieldTexts o d ++ structTexts o d := by
  rw [fragmentLines, List.map_append, List.map_map, List.map_map]
  rfl

/-- The body of a module is the text of its lines. -/
theorem body_eq_unlines (o : Options) (d : Dictionary) :
    body (fieldTexts o d ++ structTexts o d) ++ "\n" = unlines (bodyLines (fragmentLines o d)) := by
  by_cases hne : fragmentLines o d = []
  · rw [← map_unlines_fragmentLines, hne]
    rfl
  · have hne' : fieldTexts o d ++ structTexts o d ≠ [] := by
      rwa [← map_unlines_fragmentLines, ne_eq, List.map_eq_nil_iff]
    rw [body_append_newline hne' fun _ ↦ isFragment_of_mem_fragments, ← map_unlines_fragmentLines,
      intercalate_map_unlines hne]

/-- A module is the text of its lines. -/
theorem generate_eq_unlines (o : Options) {now : LocalTime} {utc : DateTime} {d : Dictionary}
    (h : ∀ f ∈ d.fields, TagInRange f.tag) (he : AreEncodable o d) (hnow : now.toUtc = .ok utc) :
    (generate o now d).result = .ok (unlines (moduleLines o utc d)) := by
  rw [generate_of_toUtc o h he hnow, String.append_assoc, body_eq_unlines, moduleLines, unlines_append]

/-! ## Lines with the version -/

section

variable {v w : String}

/-- A comment that ends with the address of the page of a field. -/
theorem withoutComments_address {front after : String} (indent : List Char) {text : List Char}
    {tag : Int} (hf : front.toList = indent ++ '/' :: '/' :: text)
    (hi : ∀ c ∈ indent, c ≠ '/' ∧ c ≠ '"')
    (ht : '\n' ∉ text) (hv : '\n' ∉ Text.trim v.toList) (ha : '\n' ∉ after.toList) :
    withoutComments (front ++ fieldUrl v tag ++ after) = String.ofList indent := by
  rw [String.append_assoc]
  refine withoutComments_comment indent hf hi ht ?_
  simp only [String.toList_append, List.mem_append, not_or]
  exact ⟨newline_notMem_fieldUrl hv tag, ha⟩

/-- The title of a module is a comment for every version. -/
theorem withoutComments_title (v : String) :
    withoutComments ("//! Field and message definitions for " ++ Text.singleLine v ++ ".") = "" := by
  rw [String.append_assoc]
  refine withoutComments_comment [] rfl (by simp) (by decide) ?_
  simp only [String.toList_append, List.mem_append, not_or]
  exact ⟨Text.newline_notMem_singleLine v, by decide⟩

/-- The head of a module has the same code for all versions. -/
theorem map_withoutComments_headLines (o : Options) (v w : String) (now : DateTime) :
    (headLines o v now).map withoutComments = (headLines o w now).map withoutComments := by
  simp only [headLines, List.map_append, List.map_cons, withoutComments_title]

variable (hv : '\n' ∉ Text.trim v.toList) (hw : '\n' ∉ Text.trim w.toList)

include hv hw

/-- The definition of a field has the same code for both versions. -/
theorem map_withoutComments_definitionLines (o : Options) (f : Field) :
    (definitionLines o v f).map withoutComments = (definitionLines o w f).map withoutComments := by
  have haddress {v : String} (hv : '\n' ∉ Text.trim v.toList) :
      withoutComments ("/// (" ++ fieldUrl v f.tag ++ ").") = "" :=
    withoutComments_address [] rfl (by simp) (by decide) hv (by decide)
  simp only [definitionLines, constantLines, List.map_append, List.map_cons, haddress hv, haddress hw]

/-- A member of a struct has the same code for both versions. -/
theorem map_withoutComments_memberLines (m : Member) :
    (memberLines v m).map withoutComments = (memberLines w m).map withoutComments := by
  have haddress {v : String} (hv : '\n' ∉ Text.trim v.toList) :
      withoutComments ("    /// OnixS [reference](" ++ fieldUrl v m.field.tag ++ ").") = "    " :=
    withoutComments_address [' ', ' ', ' ', ' '] rfl (by simp) (by decide) hv (by decide)
  simp only [memberLines, List.map_cons, haddress hv, haddress hw]

/-- The struct of a message has the same code for both versions. -/
theorem map_withoutComments_structLines (o : Options) (m : Message) (members : List Member)
    (literal : String) :
    (structLines o v m members literal).map withoutComments =
      (structLines o w m members literal).map withoutComments := by
  simp only [structLines, List.map_append, List.map_flatMap, map_withoutComments_memberLines hv hw]

/-- The fragments of a module have the same code for both versions. -/
theorem map_withoutComments_fragmentLines (o : Options) (d : Dictionary) :
    (fragmentLines o { d with version := v }).map (List.map withoutComments) =
      (fragmentLines o { d with version := w }).map (List.map withoutComments) := by
  have hmessages (v : String) : includedMessages o { d with version := v } = includedMessages o d := rfl
  simp only [fragmentLines, hmessages, List.map_append, List.map_map, Function.comp_def,
    map_withoutComments_definitionLines hv hw, map_withoutComments_structLines hv hw]

/-- The module has the same code for both versions. -/
theorem map_withoutComments_moduleLines (o : Options) (now : DateTime) (d : Dictionary) :
    (moduleLines o now { d with version := v }).map withoutComments =
      (moduleLines o now { d with version := w }).map withoutComments := by
  simp only [moduleLines, List.map_append, map_bodyLines withoutComments_empty,
    map_withoutComments_headLines o v w, map_withoutComments_fragmentLines hv hw]

/-- The module without its comments, or the error with which it is refused, is the same for both
versions. -/
theorem map_withoutComments_generate (o : Options) (now : LocalTime) (d : Dictionary) :
    (generate o now { d with version := v }).result.map withoutComments =
      (generate o now { d with version := w }).result.map withoutComments := by
  rcases forall_mem_or_exists_first (fun f ↦ TagInRange f.tag) d.fields with
    hall | ⟨before, f, after, heq, hbefore, hf⟩
  · rcases areEncodable_or_exists_first o d with hencodable | ⟨-, _, _, _, e, heq, hbefore, he⟩
    · cases hnow : now.toUtc with
      | error e =>
        have herror (u : String) :
            (generate o now { d with version := u }).result = .error (.outOfCalendar e) := by
          rw [generate_of_inRange o (d := { d with version := u }) hall hencodable, assemble, hnow]
          rfl
        rw [herror, herror]
      | ok utc =>
        have hok (u : String) : (generate o now { d with version := u }).result =
            .ok (unlines (moduleLines o utc { d with version := u })) :=
          generate_eq_unlines o hall hencodable hnow
        rw [hok v, hok w, Except.map, Except.map, withoutComments_unlines, withoutComments_unlines,
          map_withoutComments_moduleLines hv hw]
    · have herror (u : String) :
          (generate o now { d with version := u }).result = .error (.encoding e) :=
        generate_of_unspelled o hall heq hbefore he
      rw [herror, herror]
  · have herror (u : String) : (generate o now { d with version := u }).result =
        .error (.invalidTag (.ofValue f.name (.scalar (.int f.tag)))) :=
      generate_of_not_inRange o heq hbefore hf
    rw [herror, herror]

/-- Where all literals of two modules end on their lines, a reader finds the same characters outside of
the comments of both. -/
theorem map_char_marks_generate {o : Options} {now : LocalTime} {d : Dictionary} {s t : String}
    {ms ns : List Mark} (hs : (generate o now { d with version := v }).result = .ok s)
    (ht : (generate o now { d with version := w }).result = .ok t)
    (hms : marks .code s.toList = some ms) (hns : marks .code t.toList = some ns) :
    ms.map Mark.char = ns.map Mark.char := by
  have h := map_withoutComments_generate hv hw o now d
  rw [hs, ht] at h
  calc ms.map Mark.char
    _ = uncommented .code s.toList := (uncommented_of_marks hms).symm
    _ = uncommented .code t.toList := String.ofList_injective (Except.ok.inj h)
    _ = ns.map Mark.char := uncommented_of_marks hns

end

/-- For all versions that are on one line but for the white space around them, the module of a
dictionary is the same without its comments, or it is refused with the same error. With all tags in range,
all types encodable and at a time with a UTC date it is not refused. -/
theorem generate_withoutComments_eq (o : Options) (now : LocalTime) (d : Dictionary) {v w : String}
    (hv : '\n' ∉ Text.trim v.toList) (hw : '\n' ∉ Text.trim w.toList) :
    (generate o now { d with version := v }).result.map withoutComments =
      (generate o now { d with version := w }).result.map withoutComments ∧
    ((∀ f ∈ d.fields, TagInRange f.tag) → AreEncodable o d → ∀ utc, now.toUtc = .ok utc →
      ∃ text, (generate o now { d with version := v }).result = .ok text) :=
  ⟨map_withoutComments_generate hv hw o now d, fun ht he _ hnow ↦
    ⟨_, generate_eq_unlines o (d := { d with version := v }) ht he hnow⟩⟩

/-- A line feed around a version and quotes and slashes inside of one make no difference. -/
theorem generate_withoutComments_eq_awkward :
    ('\n' ∉ Text.trim "\n FIX.5.0SP2\n".toList ∧ '\n' ∉ Text.trim "\" */ 4.4 // \"".toList ∧
      (∀ f ∈ awkward.fields, TagInRange f.tag) ∧ AreEncodable { includeMessages := true } awkward ∧
      LocalTime.toUtc ⟨⟨⟨2024, 3, 5⟩, 14, 30, 0⟩, 3600⟩ = .ok ⟨⟨2024, 3, 5⟩, 13, 30, 0⟩) ∧
    (generate { includeMessages := true } ⟨⟨⟨2024, 3, 5⟩, 14, 30, 0⟩, 3600⟩
        { awkward with version := "\n FIX.5.0SP2\n" }).result.map withoutComments =
      (generate { includeMessages := true } ⟨⟨⟨2024, 3, 5⟩, 14, 30, 0⟩, 3600⟩
        { awkward with version := "\" */ 4.4 // \"" }).result.map withoutComments ∧
    ∃ text, (generate { includeMessages := true } ⟨⟨⟨2024, 3, 5⟩, 14, 30, 0⟩, 3600⟩
      { awkward with version := "\n FIX.5.0SP2\n" }).result = .ok text := by
  have hv : '\n' ∉ Text.trim "\n FIX.5.0SP2\n".toList := by decide
  have hw : '\n' ∉ Text.trim "\" */ 4.4 // \"".toList := by decide
  have ht : ∀ f ∈ awkward.fields, TagInRange f.tag := by decide
  have he := areEncodable_awkward
  obtain ⟨hcode, htext⟩ := generate_withoutComments_eq { includeMessages := true }
    ⟨⟨⟨2024, 3, 5⟩, 14, 30, 0⟩, 3600⟩ awkward hv hw
  exact ⟨⟨hv, hw, ht, he, rfl⟩, hcode, htext ht he _ rfl⟩

/-! ## Versions with a line feed inside -/

theorem lineFeeds_unlines_flatMap {α : Type _} (f : α → List String) (as : List α) :
    lineFeeds (unlines (as.flatMap f)) = (as.map fun a ↦ lineFeeds (unlines (f a))).sum := by
  induction as with
  | nil => rfl
  | cons a as ih =>
    rw [List.flatMap_cons, unlines_append, lineFeeds_append, ih, List.map_cons, List.sum_cons]

/-- The line feeds of a body are those of its fragments and those between them. -/
theorem lineFeeds_unlines_bodyLines {ls : List (List String)} (hne : ls ≠ []) :
    lineFeeds (unlines (bodyLines ls)) + 1 = (ls.map fun l ↦ lineFeeds (unlines l) + 1).sum := by
  induction ls with
  | nil => exact absurd rfl hne
  | cons l ls ih =>
    cases ls with
    | nil => simp [bodyLines]
    | cons m ls =>
      rw [bodyLines_cons_cons, unlines_append, unlines_cons, List.map_cons, List.sum_cons,
        ← ih (by simp)]
      have hblank : lineFeeds ("" ++ "\n") = 1 := rfl
      rw [lineFeeds_append, lineFeeds_append, hblank]
      omega

section

variable {v w : String} (hv : '\n' ∈ Text.trim v.toList) (hw : '\n' ∉ Text.trim w.toList)

include hv hw

theorem lineFeeds_fieldUrl_lt (tag : Int) :
    lineFeeds (fieldUrl w tag) < lineFeeds (fieldUrl v tag) := by
  have hnone : lineFeeds (fieldUrl w tag) = 0 := lineFeeds_eq_zero.mpr (newline_notMem_fieldUrl hw tag)
  have hslug : 0 < lineFeeds (versionSlug v) := lineFeeds_pos.mpr (newline_mem_versionSlug_iff.mpr hv)
  rw [hnone, fieldUrl]
  simp only [lineFeeds_append]
  omega

/-- The definition of a field has more lines for a version with a line feed inside. -/
theorem lineFeeds_definitionLines_lt (o : Options) (f : Field) :
    lineFeeds (unlines (definitionLines o w f)) < lineFeeds (unlines (definitionLines o v f)) := by
  have h := lineFeeds_fieldUrl_lt hv hw f.tag
  simp only [definitionLines, constantLines, unlines_append, unlines_cons, lineFeeds_append]
  omega

/-- The struct of a message has no fewer lines for a version with a line feed inside. -/
theorem lineFeeds_structLines_le (o : Options) (m : Message) (members : List Member)
    (literal : String) :
    lineFeeds (unlines (structLines o w m members literal)) ≤
      lineFeeds (unlines (structLines o v m members literal)) := by
  have hmembers : lineFeeds (unlines (members.flatMap (memberLines w))) ≤
      lineFeeds (unlines (members.flatMap (memberLines v))) := by
    rw [lineFeeds_unlines_flatMap, lineFeeds_unlines_flatMap]
    refine List.sum_le_sum fun x _ ↦ ?_
    have h := lineFeeds_fieldUrl_lt hv hw x.field.tag
    simp only [memberLines, unlines_cons, lineFeeds_append]
    omega
  simp only [structLines, unlines_append, lineFeeds_append]
  omega

/-- A module with at least one field has more lines of code for a version with a line feed inside than
for one without. -/
theorem lineFeeds_moduleLines_lt (o : Options) (now : DateTime) {d : Dictionary} (hd : d.fields ≠ []) :
    lineFeeds (unlines (moduleLines o now { d with version := w })) <
      lineFeeds (unlines (moduleLines o now { d with version := v })) := by
  have hhead : lineFeeds (unlines (headLines o w now)) = lineFeeds (unlines (headLines o v now)) := by
    rw [← lineFeeds_withoutComments, withoutComments_unlines, map_withoutComments_headLines o w v,
      ← withoutComments_unlines, lineFeeds_withoutComments]
  have hne (u : String) : fragmentLines o { d with version := u } ≠ [] := by
    simp [fragmentLines, hd]
  have hfields := List.sum_lt_sum_of_ne_nil hd
    (fun f ↦ lineFeeds (unlines (definitionLines o w f)) + 1)
    (fun f ↦ lineFeeds (unlines (definitionLines o v f)) + 1)
    fun f _ ↦ Nat.succ_lt_succ (lineFeeds_definitionLines_lt hv hw o f)
  have hmessages := List.sum_le_sum (l := includedMessages o d)
    (f := fun m ↦ lineFeeds (unlines (structLines o w m (messageMembers o m) (typeLiteral m))) + 1)
    (g := fun m ↦ lineFeeds (unlines (structLines o v m (messageMembers o m) (typeLiteral m))) + 1)
    fun m _ ↦ Nat.succ_le_succ (lineFeeds_structLines_le hv hw o m _ _)
  have hsum (u : String) :
      lineFeeds (unlines (bodyLines (fragmentLines o { d with version := u }))) + 1 =
      (d.fields.map fun f ↦ lineFeeds (unlines (definitionLines o u f)) + 1).sum +
      ((includedMessages o d).map fun m ↦
        lineFeeds (unlines (structLines o u m (messageMembers o m) (typeLiteral m))) + 1).sum := by
    rw [lineFeeds_unlines_bodyLines (hne u), fragmentLines, List.map_append, List.sum_append,
      List.map_map, List.map_map]
    rfl
  have hv' := hsum v
  have hw' := hsum w
  simp only [moduleLines, unlines_append, lineFeeds_append]
  omega

end

/-- A version with a line feed inside reaches the code of every module with a definition. -/
theorem generate_withoutComments_ne (o : Options) {now : LocalTime} {utc : DateTime} {d : Dictionary}
    {v w : String} (hv : '\n' ∈ Text.trim v.toList) (hw : '\n' ∉ Text.trim w.toList)
    (hd : d.fields ≠ []) (ht : ∀ f ∈ d.fields, TagInRange f.tag) (he : AreEncodable o d)
    (hnow : now.toUtc = .ok utc) :
    (generate o now { d with version := v }).result.map withoutComments ≠
      (generate o now { d with version := w }).result.map withoutComments := by
  intro h
  rw [generate_eq_unlines o (d := { d with version := v }) ht he hnow,
    generate_eq_unlines o (d := { d with version := w }) ht he hnow] at h
  have hcode := congrArg lineFeeds (Except.ok.inj h)
  rw [lineFeeds_withoutComments, lineFeeds_withoutComments] at hcode
  exact absurd hcode (lineFeeds_moduleLines_lt hv hw o utc hd).ne'

/-- A dictionary with one field. -/
def oneField (version : String) : Dictionary :=
  ⟨version, [⟨1, "Account", .string, []⟩], [], []⟩

/-- The comment with the address ends inside of it, and the rest of the address is code. -/
theorem generate_withoutComments_ne_oneField :
    (∀ version, ∀ f ∈ (oneField version).fields, TagInRange f.tag) ∧
    ∃ t₁ t₂,
      (generate {} ⟨⟨⟨2024, 3, 5⟩, 14, 30, 0⟩, 3600⟩ (oneField "FIX\n4")).result = .ok t₁ ∧
      (generate {} ⟨⟨⟨2024, 3, 5⟩, 14, 30, 0⟩, 3600⟩ (oneField "FIX.4.4")).result = .ok t₂ ∧
      withoutComments t₁ ≠ withoutComments t₂ := by
  have ht (version : String) : ∀ f ∈ (oneField version).fields, TagInRange f.tag := by
    rw [oneField, List.forall_mem_singleton]
    decide
  have hnow : LocalTime.toUtc ⟨⟨⟨2024, 3, 5⟩, 14, 30, 0⟩, 3600⟩ = .ok ⟨⟨2024, 3, 5⟩, 13, 30, 0⟩ := rfl
  have he (version : String) : AreEncodable {} (oneField version) := List.forall_mem_nil _
  have hok (version : String) := generate_eq_unlines {} (ht version) (he version) hnow
  refine ⟨ht, _, _, hok _, hok _, fun h ↦ ?_⟩
  refine generate_withoutComments_ne {} (d := oneField "") (v := "FIX\n4") (w := "FIX.4.4")
    (by decide) (by decide) (List.cons_ne_nil _ _) (ht "") (he "") hnow ?_
  exact (congrArg (Except.map withoutComments) (hok "FIX\n4")).trans <|
    (congrArg Except.ok h).trans (congrArg (Except.map withoutComments) (hok "FIX.4.4")).symm

end FixBindings.Rust
