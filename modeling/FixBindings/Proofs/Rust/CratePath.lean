import FixBindings.Proofs.Rust.Version

/-!
# Modules for different crates

The path of the runtime crate is put into a module at places that do not depend on the path: in the three
imports, and in the type of each constant and of each member that is one of the runtime crate. Nothing
looks at a text that holds the path, so the modules for any two crates are the same pieces of text with
one path or the other between them, whatever the names, the values and the version hold.
-/

namespace FixBindings.Rust

open Dictionary Calendar

/-! ## Texts with a path at some places -/

/-- The texts `f` are the same pieces with `n` times the path between them. -/
def HasPath {ι : Type} (path : ι → String) (n : Nat) (f : ι → String) : Prop :=
  ∃ pieces : List String, pieces.length = n + 1 ∧ ∀ i, f i = (path i).intercalate pieces

/-- Pieces up to a cut in one of them and the pieces from there on, each joined, make up all pieces
joined. -/
theorem intercalate_append_cons (sep s t : String) (before after : List String) :
    sep.intercalate (before ++ (s ++ t) :: after) =
      sep.intercalate (before ++ [s]) ++ sep.intercalate (t :: after) := by
  induction before with
  | nil =>
    cases after with
    | nil => simp
    | cons u after =>
      simp only [List.nil_append, String.intercalate_cons_cons, String.intercalate_singleton,
        String.append_assoc]
  | cons b before ih =>
    rw [List.cons_append, List.cons_append, String.intercalate_cons_of_ne_nil (by simp),
      String.intercalate_cons_of_ne_nil (by simp), ih]
    simp only [String.append_assoc]

namespace HasPath

variable {ι : Type} {path : ι → String} {m n : Nat} {f g : ι → String}

/-- A text without the path. -/
theorem const (s : String) : HasPath path 0 fun _ ↦ s :=
  ⟨[s], rfl, fun _ ↦ String.intercalate_singleton.symm⟩

/-- The path itself. -/
theorem self : HasPath path 1 path :=
  ⟨["", ""], rfl, fun i ↦ by simp [String.intercalate_cons_cons]⟩

/-- One text behind another. -/
theorem append (hf : HasPath path m f) (hg : HasPath path n g) :
    HasPath path (m + n) fun i ↦ f i ++ g i := by
  obtain ⟨ps, hps, hf⟩ := hf
  obtain ⟨qs, hqs, hg⟩ := hg
  obtain ⟨before, s, rfl⟩ := (List.eq_nil_or_concat ps).resolve_left
    (List.ne_nil_of_length_eq_add_one hps)
  obtain ⟨t, after, rfl⟩ := List.exists_cons_of_length_eq_add_one hqs
  refine ⟨before ++ (s ++ t) :: after, ?_, fun i ↦ ?_⟩
  · simp at hps hqs ⊢
    omega
  · simp only [hf, hg, List.concat_eq_append, intercalate_append_cons]

/-- A text without the path in front of another. -/
theorem constAppend (s : String) (hf : HasPath path n f) : HasPath path n fun i ↦ s ++ f i := by
  simpa using (const s).append hf

/-- A text without the path behind another. -/
theorem appendConst (hf : HasPath path n f) (s : String) : HasPath path n fun i ↦ f i ++ s := by
  simpa using hf.append (const s)

end HasPath

/-! ## Lines with a path at some places -/

/-- The lines `ls` are the same for all paths, but for `n` places in them that hold the path. -/
inductive LinesHavePath {ι : Type} (path : ι → String) : Nat → (ι → List String) → Prop where
  /-- There are no lines. -/
  | nil : LinesHavePath path 0 fun _ ↦ []
  /-- A line in front of others. -/
  | cons {m n : Nat} {f : ι → String} {ls : ι → List String} (hf : HasPath path m f)
    (hls : LinesHavePath path n ls) : LinesHavePath path (m + n) fun i ↦ f i :: ls i

namespace LinesHavePath

variable {ι : Type} {path : ι → String} {m n : Nat} {ls ms : ι → List String}

/-- A line without the path in front of others. -/
theorem constCons (l : String) (h : LinesHavePath path n ls) : LinesHavePath path n fun i ↦ l :: ls i := by
  simpa using cons (.const l) h

/-- Lines without the path. -/
theorem const (l : List String) : LinesHavePath path 0 fun _ ↦ l := by
  induction l with
  | nil => exact .nil
  | cons l ls ih => exact ih.constCons l

/-- Lines behind others. -/
theorem append (hls : LinesHavePath path m ls) (hms : LinesHavePath path n ms) :
    LinesHavePath path (m + n) fun i ↦ ls i ++ ms i := by
  induction hls with
  | nil => simpa using hms
  | cons hf _ ih =>
    rw [Nat.add_assoc]
    exact .cons hf ih

/-- Lines behind lines without the path. -/
theorem constAppend (l : List String) (h : LinesHavePath path n ls) :
    LinesHavePath path n fun i ↦ l ++ ls i := by
  simpa using (const l).append h

/-- The lines of each element of a list. -/
theorem flatMap {α : Type} (as : List α) {count : α → Nat} {ls : ι → α → List String}
    (h : ∀ a, LinesHavePath path (count a) fun i ↦ ls i a) :
    LinesHavePath path (as.map count).sum fun i ↦ as.flatMap (ls i) := by
  induction as with
  | nil => exact .nil
  | cons a as ih => exact (h a).append ih

/-- The text of the lines. -/
theorem unlines (h : LinesHavePath path n ls) : HasPath path n fun i ↦ unlines (ls i) := by
  induction h with
  | nil => exact .const ""
  | cons hf _ ih => exact (hf.appendConst "\n").append ih

/-- The lines of fragments with an empty line between two of them. -/
theorem bodyLines {fragments : List (ι → List String)} {counts : List Nat}
    (h : List.Forall₂ (LinesHavePath path) counts fragments) :
    LinesHavePath path counts.sum fun i ↦ bodyLines (fragments.map (· i)) := by
  induction h with
  | nil => exact .const [""]
  | @cons n ls counts fragments hls hrest ih =>
    cases hrest with
    | nil => simpa [Rust.bodyLines] using hls
    | cons =>
      simp only [List.map_cons, bodyLines_cons_cons, List.sum_cons] at ih ⊢
      exact hls.append (ih.constCons "")

end LinesHavePath

/-! ## Parts of a module -/

/-- How often the path of the runtime crate stands in a type. -/
def FieldType.pathCount : FieldType → Nat
  | checkSum | moment _ => 1
  | enumeration _ | decimal | bytes | byteArray _ | primitive _ => 0

/-- How often the path of the runtime crate stands in the types of the members of a message. -/
def memberPathCount (o : Options) (m : Message) : Nat :=
  ((memberFields [] (occurrences o.expandComponents true m.layout)).map fun x ↦
    (fieldType x.1).pathCount).sum

/-- How often the path of the runtime crate stands in the module of a dictionary: in three imports, and
in the types of constants and members. -/
def modulePathCount (o : Options) (d : Dictionary) : Nat :=
  3 + ((d.fields.map fun f ↦ (fieldType f).pathCount) ++
    (includedMessages o d).map (memberPathCount o)).sum

theorem FieldType.hasPath_spell {ι : Type} (path : ι → String) (mode : Mode) (t : FieldType) :
    HasPath path t.pathCount fun i ↦ t.spell mode (path i) := by
  cases t with
  | checkSum => exact (HasPath.self.appendConst _).appendConst _
  | moment name => exact (HasPath.self.appendConst _).appendConst _
  | enumeration name => exact .const _
  | decimal => exact .const _
  | bytes => exact .const _
  | byteArray length => exact .const _
  | primitive name => exact .const _

theorem hasPath_optional {ι : Type} {path : ι → String} {n : Nat} {type : ι → String}
    (h : HasPath path n type) (required : Bool) :
    HasPath path n fun i ↦ optional (type i) required := by
  cases required with
  | true => exact h
  | false => exact (h.constAppend _).appendConst _

/-- The options with the runtime crate at another place. -/
def relocated (o : Options) (i : ImportStyle × String) : Options :=
  { o with importStyle := i.1, runtimeCrate := i.2 }

/-- The path of the runtime crate at another place. -/
def relocatedPath (o : Options) (i : ImportStyle × String) : String :=
  (relocated o i).cratePath

section

variable (o : Options) (version : String)

/-- The definition of a field holds the path in its type. -/
theorem linesHavePath_definitionLines (f : Field) :
    LinesHavePath (relocatedPath o) (fieldType f).pathCount
      fun i ↦ definitionLines (relocated o i) version f := by
  have htype := FieldType.hasPath_spell (relocatedPath o) .owned (fieldType f)
  refine .append (n := 0) ?_ (.const (enumLines o f))
  refine .constCons _ <| .constCons _ <| .cons (n := 0) ?_ (.const _)
  exact (htype.constAppend _).appendConst _

/-- A member of a struct holds the path in its type. -/
theorem linesHavePath_memberLines (f : Field) (required : Bool) :
    LinesHavePath (relocatedPath o) (fieldType f).pathCount
      fun i ↦ memberLines version (.ofField (relocatedPath o i) f required) := by
  have htype := hasPath_optional
    (FieldType.hasPath_spell (relocatedPath o) .borrowed (fieldType f)) required
  simp only [memberLines, Member.identifier_ofField, Member.type_ofField, Member.field_ofField]
  refine .constCons _ <| .constCons _ <| .constCons _ <| .constCons _ <| .constCons _ <|
    .constCons _ <| .cons (n := 0) ?_ .nil
  exact (htype.constAppend _).appendConst _

/-- The struct of a message holds the path in the types of its members. -/
theorem linesHavePath_structLines (m : Message) :
    LinesHavePath (relocatedPath o) (memberPathCount o m)
      fun i ↦ structLines (relocated o i) version m (messageMembers (relocated o i) m) (typeLiteral m) := by
  have hmembers := LinesHavePath.flatMap
    (memberFields [] (occurrences o.expandComponents true m.layout))
    fun x ↦ linesHavePath_memberLines o version x.1 x.2
  have hderive (i : ImportStyle × String) :
      customDeriveLines (relocated o i) = customDeriveLines o := rfl
  simp only [messageMembers_eq_map, structLines, List.flatMap_map, hderive]
  exact (hmembers.constAppend _).append (.const _)

/-- The head of a module holds the path in three imports. -/
theorem linesHavePath_headLines (now : DateTime) :
    LinesHavePath (relocatedPath o) 3 fun i ↦ headLines (relocated o i) version now := by
  have himport (rest : String) : HasPath (relocatedPath o) 1 fun i ↦
      "use " ++ relocatedPath o i ++ rest :=
    (HasPath.self.constAppend _).appendConst _
  refine .constAppend _ <| .constCons _ <| .cons (n := 2) (himport _) <| .cons (n := 1) (himport _) <|
    .cons (n := 0) (himport _) (.const _)

/-- The head and the body of a module hold the path at so many places. -/
theorem linesHavePath_moduleLines (now : DateTime) (d : Dictionary) :
    LinesHavePath (relocatedPath o) (modulePathCount o d)
      fun i ↦ moduleLines (relocated o i) now d := by
  refine (linesHavePath_headLines o d.version now).append ?_
  have hfields : List.Forall₂ (LinesHavePath (relocatedPath o))
      (d.fields.map fun f ↦ (fieldType f).pathCount)
      (d.fields.map fun f i ↦ definitionLines (relocated o i) d.version f) := by
    rw [List.forall₂_map_left_iff, List.forall₂_map_right_iff, List.forall₂_same]
    exact fun f _ ↦ linesHavePath_definitionLines o d.version f
  have hmessages : List.Forall₂ (LinesHavePath (relocatedPath o))
      ((includedMessages o d).map (memberPathCount o))
      ((includedMessages o d).map fun m i ↦
        structLines (relocated o i) d.version m (messageMembers (relocated o i) m) (typeLiteral m)) := by
    rw [List.forall₂_map_left_iff, List.forall₂_map_right_iff, List.forall₂_same]
    exact fun m _ ↦ linesHavePath_structLines o d.version m
  have hbody := LinesHavePath.bodyLines (List.rel_append hfields hmessages)
  simp only [List.map_append, List.map_map, Function.comp_def] at hbody
  exact hbody

end

/-- The modules for all places of the runtime crate are the same pieces of text joined with the path. -/
theorem exists_pieces_generate (o : Options) (now : LocalTime) {d : Dictionary}
    (h : ∀ f ∈ d.fields, TagInRange f.tag) (he : AreEncodable o d) :
    ∃ pieces : List String, pieces.length = modulePathCount o d + 1 ∧
      ∀ (style : ImportStyle) (crate : String),
        (generate { o with importStyle := style, runtimeCrate := crate } now d).result =
          match now.toUtc with
          | .ok _ => .ok ((Options.cratePath
              { o with importStyle := style, runtimeCrate := crate }).intercalate pieces)
          | .error e => .error (.outOfCalendar e) := by
  cases hnow : now.toUtc with
  | error e =>
    refine ⟨List.replicate (modulePathCount o d + 1) "", List.length_replicate, fun style crate ↦ ?_⟩
    refine (generate_of_inRange (relocated o (style, crate)) h he).trans ?_
    rw [assemble, hnow]
    rfl
  | ok utc =>
    obtain ⟨pieces, hlength, hpieces⟩ := (linesHavePath_moduleLines o utc d).unlines
    refine ⟨pieces, hlength, fun style crate ↦ ?_⟩
    exact (generate_eq_unlines (relocated o (style, crate)) h he hnow).trans
      (congrArg Except.ok (hpieces (style, crate)))

/-- The modules of a dictionary with all tags in range, for all places of the runtime crate, are the same
pieces of text joined with the path at which the crate is found. At a time without a UTC date, and when the
type of a message cannot be encoded, there is no module for any of them. -/
theorem generate_eq_intercalate (o : Options) (now : LocalTime) {d : Dictionary}
    (h : ∀ f ∈ d.fields, TagInRange f.tag) :
    (AreEncodable o d → ∃ pieces : List String, pieces.length = modulePathCount o d + 1 ∧
      ∀ (style : ImportStyle) (crate : String),
        (generate { o with importStyle := style, runtimeCrate := crate } now d).result =
          match now.toUtc with
          | .ok _ => .ok ((Options.cratePath
              { o with importStyle := style, runtimeCrate := crate }).intercalate pieces)
          | .error e => .error (.outOfCalendar e)) ∧
    (¬AreEncodable o d → ∃ e, ∀ (style : ImportStyle) (crate : String),
      (generate { o with importStyle := style, runtimeCrate := crate } now d).result =
        .error (.encoding e)) := by
  refine ⟨fun he ↦ ?_, fun hnot ↦ ?_⟩
  · exact exists_pieces_generate o now h he
  · obtain hall | ⟨-, _, _, _, e, heq, hbefore, he⟩ := areEncodable_or_exists_first o d
    · exact absurd hall hnot
    · exact ⟨e, fun _ _ ↦ generate_of_unspelled _ h heq hbefore he⟩

/-- A dictionary whose texts look like paths of crates. -/
def pathlike : Dictionary where
  version := "crate::"
  fields := [⟨60, "use crate::TransactTime", .utcTimestamp, []⟩]
  components := []
  messages := [⟨"crate::Quote", "my::crate",
    [.field ⟨60, "use crate::TransactTime", .utcTimestamp, []⟩ false]⟩]

/-- Besides the three imports the constant and the member have the path in their types. -/
theorem generate_eq_intercalate_pathlike :
    ((∀ f ∈ pathlike.fields, TagInRange f.tag) ∧ AreEncodable { includeMessages := true } pathlike) ∧
    ∃ pieces : List String, pieces.length = 6 ∧
      (generate { importStyle := .internal, includeMessages := true }
        ⟨⟨⟨2024, 3, 5⟩, 14, 30, 0⟩, 3600⟩ pathlike).result = .ok ("crate".intercalate pieces) ∧
      (generate { runtimeCrate := "my::crate", includeMessages := true }
        ⟨⟨⟨2024, 3, 5⟩, 14, 30, 0⟩, 3600⟩ pathlike).result = .ok ("my::crate".intercalate pieces) := by
  have ht : ∀ f ∈ pathlike.fields, TagInRange f.tag := by decide
  have he : AreEncodable { includeMessages := true } pathlike := by
    intro m hm
    obtain rfl := List.mem_singleton.mp hm
    exact Text.isEncodable_of_notMem (by decide)
  have hcount : modulePathCount { includeMessages := true } pathlike = 5 := by
    simp [modulePathCount, memberPathCount, includedMessages, pathlike, occurrences, memberFields,
      fieldType, FieldType.resolve, checkSumTag, enumName?, FieldType.ofDataType, DataType.base,
      FieldType.pathCount]
  obtain ⟨pieces, hlength, h⟩ := (generate_eq_intercalate { includeMessages := true }
    ⟨⟨⟨2024, 3, 5⟩, 14, 30, 0⟩, 3600⟩ ht).1 he
  exact ⟨⟨ht, he⟩, pieces, hlength.trans (congrArg (· + 1) hcount), h .internal "fefix", h .external "my::crate"⟩

end FixBindings.Rust
