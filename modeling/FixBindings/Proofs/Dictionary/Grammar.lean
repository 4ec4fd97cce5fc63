import FixBindings.Proofs.Dictionary.Refusal

/-!
# The grammar of documents

Which documents describe a dictionary, in terms of the keys and names in the document alone. The
loader accepts exactly the documents of this grammar, provided that the integers in them can be
written, and refuses any other with an error that the program expects.
-/

namespace FixBindings.Dictionary

open Document Number

/-- There is a value under a key, and it is not null. -/
def HasValue (key : String) (entries : Entries) : Prop :=
  ∃ v, Holds key entries v

/-- A value is a mapping with entries that satisfy `P`. -/
def IsMapping (P : Entries → Prop) (v : Value) : Prop :=
  ∃ entries, v = .mapping entries ∧ P entries

/-- The list under a key has only items that satisfy `P`; there may be no list or null. -/
def ListsOnly (key : String) (P : Value → Prop) (entries : Entries) : Prop :=
  ∃ vs, HoldsList key entries vs ∧ ∀ v ∈ vs, P v

/-- The entries of a field: a name, a tag that denotes an integer, a type and perhaps values. -/
structure IsFieldEntry (entries : Entries) : Prop where
  /-- There is a name. -/
  name : HasValue "name" entries
  /-- The tag denotes an integer. -/
  tag : ∃ v n, Holds "tag" entries v ∧ DenotesTag v n
  /-- There is a type. -/
  type : HasValue "type" entries
  /-- The values are mappings with a value each. -/
  values : ListsOnly "values" (IsMapping (HasValue "value")) entries

/-- An item of a layout, where references to fields and to components must be among `fields` and
`components`. Of the keys `field`, `component` and `group` the first in this order that is present
decides. -/
inductive IsItem (fields components : List String) : Value → Prop where
  | field {entries : Entries} {v : Value} :
    Entries.get? "field" entries = some v → v.toText ∈ fields →
    IsItem fields components (.mapping entries)
  | component {entries : Entries} {v : Value} :
    Entries.get? "field" entries = none → Entries.get? "component" entries = some v →
    v.toText ∈ components → IsItem fields components (.mapping entries)
  | group {entries : Entries} {v : Value} {items : List Value} :
    Entries.get? "field" entries = none → Entries.get? "component" entries = none →
    Entries.get? "group" entries = some v → v.toText ∈ fields → HoldsList "layout" entries items →
    (∀ i ∈ items, IsItem fields components i) → IsItem fields components (.mapping entries)

/-- The entries of a component: a name and perhaps a layout. -/
structure IsComponentEntry (fields components : List String) (entries : Entries) : Prop where
  /-- There is a name. -/
  name : HasValue "name" entries
  /-- The layout has items only. -/
  layout : ListsOnly "layout" (IsItem fields components) entries

/-- The entries of a message: a name, a code and perhaps a layout. -/
structure IsMessageEntry (fields components : List String) (entries : Entries) : Prop where
  /-- There is a name. -/
  name : HasValue "name" entries
  /-- There is a code. -/
  msgType : HasValue "msg_type" entries
  /-- The layout has items only. -/
  layout : ListsOnly "layout" (IsItem fields components) entries

/-- The text of the name in an entry. -/
def entryName? : Value → Option String
  | .mapping entries =>
    ((Entries.get? "name" entries).filter fun v ↦ !v.isNull).map Value.toText
  | _ => none

/-- The names in entries. -/
def entryNames (vs : List Value) : List String :=
  vs.filterMap entryName?

/-- The lists of a document: fields, components that refer to fields and to components in front of
them, and messages that refer to fields and components. -/
structure AreEntries (fs cs ms : List Value) : Prop where
  /-- Each field is one. -/
  fields : ∀ v ∈ fs, IsMapping IsFieldEntry v
  /-- Each component is one behind those in front of it. -/
  components : ∀ before v after, cs = before ++ v :: after →
    IsMapping (IsComponentEntry (entryNames fs) (entryNames before)) v
  /-- Each message is one behind all components. -/
  messages : ∀ v ∈ ms, IsMapping (IsMessageEntry (entryNames fs) (entryNames cs)) v

/-- The documents that describe a dictionary: a version and the three lists. -/
structure IsDictionaryDocument (entries : Entries) : Prop where
  /-- There is a version. -/
  version : HasValue "version" entries
  /-- The lists may be missing or null, and their items are entries. -/
  lists : ∃ fs cs ms, HoldsList "fields" entries fs ∧ HoldsList "components" entries cs ∧
    HoldsList "messages" entries ms ∧ AreEntries fs cs ms

/-! ## Values that can be written -/

/-- A value that can be written has a text. -/
theorem hasText_toText {v : Value} (h : v.isPrintable) : HasText v v.toText :=
  ⟨h, rfl⟩

/-- There is a text under a key of entries that can be written if there is a value. -/
theorem exists_holdsText_iff {key : String} {entries : Entries}
    (hp : Value.areEntriesPrintable entries) :
    (∃ s, HoldsText key entries s) ↔ HasValue key entries := by
  constructor
  · rintro ⟨s, v, hv, -⟩
    exact ⟨v, hv⟩
  · rintro ⟨v, hv⟩
    exact ⟨v.toText, v, hv, hasText_toText (isPrintable_of_get? hp hv.1)⟩

/-! ## Entries that describe something -/

/-- There is a list of related elements if there is one for each element. -/
theorem exists_forall₂_iff {α β : Type _} {R : α → β → Prop} {as : List α} :
    (∃ bs, List.Forall₂ R as bs) ↔ ∀ a ∈ as, ∃ b, R a b := by
  induction as with
  | nil => simp
  | cons a as ih =>
    simp only [List.forall₂_cons_left_iff, List.forall_mem_cons, ← ih]
    constructor
    · rintro ⟨_, b, bs, hb, hbs, rfl⟩
      exact ⟨⟨b, hb⟩, bs, hbs⟩
    · rintro ⟨⟨b, hb⟩, bs, hbs⟩
      exact ⟨_, b, bs, hb, hbs, rfl⟩

theorem exists_ofMapping_iff {α : Type _} {R : Entries → α → Prop} {P : Entries → Prop} {v : Value}
    (h : ∀ entries, v = .mapping entries → ((∃ a, R entries a) ↔ P entries)) :
    (∃ a, OfMapping R v a) ↔ IsMapping P v := by
  constructor
  · rintro ⟨a, entries, rfl, ha⟩
    exact ⟨entries, rfl, (h entries rfl).mp ⟨a, ha⟩⟩
  · rintro ⟨entries, rfl, hp⟩
    obtain ⟨a, ha⟩ := (h entries rfl).mpr hp
    exact ⟨a, entries, rfl, ha⟩

/-- The name that an entry describes is the text of its name. -/
theorem entryName?_of_holdsText {entries : Entries} {s : String} (h : HoldsText "name" entries s) :
    entryName? (.mapping entries) = some s := by
  obtain ⟨v, ⟨hget, hnull⟩, -, rfl⟩ := h
  simp [entryName?, hget, hnull]

theorem exists_describesEnum_iff {entries : Entries} (hp : Value.areEntriesPrintable entries) :
    (∃ e, DescribesEnum entries e) ↔ HasValue "value" entries := by
  rw [← exists_holdsText_iff hp]
  constructor
  · rintro ⟨_, h | h⟩
    · exact ⟨_, h⟩
    · exact ⟨_, h⟩
  · rintro ⟨value, hvalue⟩
    by_cases hd : ∃ v, Entries.get? "description" entries = some v ∧ v.isTruthy
    · obtain ⟨v, hget, htrue⟩ := hd
      exact ⟨_, .described hvalue hget htrue (hasText_toText (isPrintable_of_get? hp hget))⟩
    · refine ⟨_, .plain hvalue fun v hget ↦ ?_⟩
      rw [Bool.eq_false_iff]
      exact fun htrue ↦ hd ⟨v, hget, htrue⟩

/-- Every type name stands for a data type. -/
theorem exists_describesType (typeName field : String) :
    ∃ t es, DescribesType typeName field t es := by
  cases h : DataType.ofName? typeName with
  | none => exact ⟨_, _, .unknown h⟩
  | some t => exact ⟨_, _, .known h⟩

theorem exists_describesField_iff {entries : Entries} (hp : Value.areEntriesPrintable entries) :
    (∃ f es, DescribesField entries f es) ↔ IsFieldEntry entries := by
  have hvalues {vs : List Value} (hvs : HoldsList "values" entries vs) :
      (∃ enums, List.Forall₂ (OfMapping DescribesEnum) vs enums) ↔
        ∀ v ∈ vs, IsMapping (HasValue "value") v := by
    rw [exists_forall₂_iff]
    refine forall₂_congr fun v hv ↦ exists_ofMapping_iff ?_
    rintro entries' rfl
    exact exists_describesEnum_iff (isPrintable_of_mem hp hvs _ hv)
  constructor
  · rintro ⟨f, es, hname, ⟨v, hv, htag⟩, ⟨s, htype, -⟩, vs, hvs, henums⟩
    exact ⟨(exists_holdsText_iff hp).mp ⟨_, hname⟩, ⟨v, f.tag, hv, htag⟩,
      (exists_holdsText_iff hp).mp ⟨_, htype⟩, ⟨vs, hvs, (hvalues hvs).mp ⟨_, henums⟩⟩⟩
  · rintro ⟨hname, ⟨v, n, hv, htag⟩, htype, vs, hvs, hall⟩
    obtain ⟨name, hname⟩ := (exists_holdsText_iff hp).mpr hname
    obtain ⟨typeName, htype⟩ := (exists_holdsText_iff hp).mpr htype
    obtain ⟨enums, henums⟩ := (hvalues hvs).mpr hall
    obtain ⟨t, es, ht⟩ := exists_describesType typeName name
    exact ⟨⟨n, name, t, enums⟩, es, hname, ⟨v, hv, htag⟩, ⟨typeName, htype, ht⟩, ⟨vs, hvs, henums⟩⟩

/-- The names of fields are those of the entries. -/
theorem DescribesFields.entryNames_eq {vs : List Value} {fs : List Field} {es : List Event}
    (h : DescribesFields vs fs es) : entryNames vs = fs.map Field.name := by
  induction h with
  | nil => rfl
  | cons hf _ ih =>
    rw [entryNames, List.filterMap_cons, entryName?_of_holdsText hf.name, List.map_cons]
    exact congrArg _ ih

theorem exists_describesFields_iff {vs : List Value} (hp : ∀ v ∈ vs, v.isPrintable) :
    (∃ fs es, DescribesFields vs fs es) ↔ ∀ v ∈ vs, IsMapping IsFieldEntry v := by
  induction vs with
  | nil => exact ⟨fun _ ↦ by simp, fun _ ↦ ⟨[], [], .nil⟩⟩
  | cons v vs ih =>
    rw [List.forall_mem_cons] at hp
    rw [List.forall_mem_cons, ← ih hp.2]
    constructor
    · rintro ⟨_, _, h⟩
      obtain @⟨⟩ | @⟨entries, f, _, fs, es, es', hf, hfs⟩ := h
      exact ⟨⟨entries, rfl, (exists_describesField_iff hp.1).mp ⟨f, es, hf⟩⟩, fs, es', hfs⟩
    · rintro ⟨⟨entries, rfl, hentry⟩, fs, es', hfs⟩
      obtain ⟨f, es, hf⟩ := (exists_describesField_iff hp.1).mpr hentry
      exact ⟨f :: fs, es ++ es', .cons hf hfs⟩

/-! ## Layouts -/

variable {fields : List Field} {built : List Component}

/-- A value describes an item if its references are among the names of fields and components. -/
theorem exists_describesItem_iff {v : Value} (hp : v.isPrintable) :
    (∃ i, DescribesItem fields built v i) ↔
      IsItem (fields.map Field.name) (built.map Component.name) v := by
  induction v using layoutInduction with
  | h v ih =>
    have hitems {entries : Entries} {items : List Value} (hv : v = .mapping entries)
        (hi : HoldsList "layout" entries items) :
        (∃ layout, List.Forall₂ (DescribesItem fields built) items layout) ↔
          ∀ i ∈ items, IsItem (fields.map Field.name) (built.map Component.name) i := by
      subst hv
      rw [exists_forall₂_iff]
      exact forall₂_congr fun i hm ↦ ih entries items rfl hi i hm (isPrintable_of_mem hp hi i hm)
    constructor
    · rintro ⟨_, h⟩
      cases h with
      | field hfield ht hlast => exact .field hfield (ht.2 ▸ exists_isLast_iff.mp ⟨_, hlast⟩)
      | component hfield hcomponent ht hlast =>
        exact .component hfield hcomponent (ht.2 ▸ exists_isLast_iff.mp ⟨_, hlast⟩)
      | group hfield hcomponent hgroup ht hlast hi hlayout =>
        exact .group hfield hcomponent hgroup (ht.2 ▸ exists_isLast_iff.mp ⟨_, hlast⟩) hi
          ((hitems rfl hi).mp ⟨_, hlayout⟩)
    · intro h
      cases h with
      | field hfield hmem =>
        obtain ⟨f, hf⟩ := exists_isLast_iff.mpr hmem
        exact ⟨_, .field hfield (hasText_toText (isPrintable_of_get? hp hfield)) hf⟩
      | component hfield hcomponent hmem =>
        obtain ⟨c, hc⟩ := exists_isLast_iff.mpr hmem
        have ht := hasText_toText (isPrintable_of_get? hp hcomponent)
        exact ⟨_, .component hfield hcomponent ht hc⟩
      | group hfield hcomponent hgroup hmem hi hall =>
        obtain ⟨f, hf⟩ := exists_isLast_iff.mpr hmem
        obtain ⟨layout, hlayout⟩ := (hitems rfl hi).mpr hall
        have ht := hasText_toText (isPrintable_of_get? hp hgroup)
        exact ⟨_, .group hfield hcomponent hgroup ht hf hi hlayout⟩

theorem exists_describesLayout_iff {entries : Entries} (hp : Value.areEntriesPrintable entries) :
    (∃ layout, DescribesLayout fields built entries layout) ↔
      ListsOnly "layout" (IsItem (fields.map Field.name) (built.map Component.name)) entries := by
  have hitems {items : List Value} (hi : HoldsList "layout" entries items) :
      (∃ layout, List.Forall₂ (DescribesItem fields built) items layout) ↔
        ∀ i ∈ items, IsItem (fields.map Field.name) (built.map Component.name) i := by
    rw [exists_forall₂_iff]
    exact forall₂_congr fun i hm ↦ exists_describesItem_iff (isPrintable_of_mem hp hi i hm)
  constructor
  · rintro ⟨layout, items, hi, hlayout⟩
    exact ⟨items, hi, (hitems hi).mp ⟨layout, hlayout⟩⟩
  · rintro ⟨items, hi, hall⟩
    obtain ⟨layout, hlayout⟩ := (hitems hi).mpr hall
    exact ⟨layout, items, hi, hlayout⟩

/-! ## Components and messages -/

theorem exists_describesComponent_iff {entries : Entries} (hp : Value.areEntriesPrintable entries) :
    (∃ c, DescribesComponent fields built entries c) ↔
      IsComponentEntry (fields.map Field.name) (built.map Component.name) entries := by
  constructor
  · rintro ⟨c, hname, hlayout⟩
    exact ⟨(exists_holdsText_iff hp).mp ⟨_, hname⟩, (exists_describesLayout_iff hp).mp ⟨_, hlayout⟩⟩
  · rintro ⟨hname, hlayout⟩
    obtain ⟨name, hname⟩ := (exists_holdsText_iff hp).mpr hname
    obtain ⟨layout, hlayout⟩ := (exists_describesLayout_iff hp).mpr hlayout
    exact ⟨⟨name, layout⟩, hname, hlayout⟩

theorem exists_describesMessage_iff {entries : Entries} (hp : Value.areEntriesPrintable entries) :
    (∃ m, DescribesMessage fields built entries m) ↔
      IsMessageEntry (fields.map Field.name) (built.map Component.name) entries := by
  constructor
  · rintro ⟨m, hname, htype, hlayout⟩
    exact ⟨(exists_holdsText_iff hp).mp ⟨_, hname⟩, (exists_holdsText_iff hp).mp ⟨_, htype⟩,
      (exists_describesLayout_iff hp).mp ⟨_, hlayout⟩⟩
  · rintro ⟨hname, htype, hlayout⟩
    obtain ⟨name, hname⟩ := (exists_holdsText_iff hp).mpr hname
    obtain ⟨msgType, htype⟩ := (exists_holdsText_iff hp).mpr htype
    obtain ⟨layout, hlayout⟩ := (exists_describesLayout_iff hp).mpr hlayout
    exact ⟨⟨name, msgType, layout⟩, hname, htype, hlayout⟩

/-- The names of components are those of the entries. -/
theorem DescribesComponents.entryNames_eq {vs : List Value} {cs : List Component}
    (h : DescribesComponents fields built vs cs) : entryNames vs = cs.map Component.name := by
  induction h with
  | nil => rfl
  | cons hc _ ih =>
    rw [entryNames, List.filterMap_cons, entryName?_of_holdsText hc.name, List.map_cons]
    exact congrArg _ ih

/-- Values describe components if each one does behind the names in front of it. -/
theorem exists_describesComponents_iff {vs : List Value} (hp : ∀ v ∈ vs, v.isPrintable) :
    (∃ cs, DescribesComponents fields built vs cs) ↔ ∀ before v after, vs = before ++ v :: after →
      IsMapping (IsComponentEntry (fields.map Field.name)
        (built.map Component.name ++ entryNames before)) v := by
  induction vs generalizing built with
  | nil =>
    refine ⟨fun _ before v after h ↦ ?_, fun _ ↦ ⟨[], .nil⟩⟩
    exact absurd h (by simp)
  | cons v vs ih =>
    rw [List.forall_mem_cons] at hp
    constructor
    · rintro ⟨_, h⟩
      obtain @⟨⟩ | @⟨_, cs, entries, _, c, hc, hcs⟩ := h
      intro before w after heq
      cases before with
      | nil =>
        obtain ⟨rfl, rfl⟩ := List.cons.inj heq
        have := (exists_describesComponent_iff hp.1).mp ⟨c, hc⟩
        exact ⟨entries, rfl, by simpa [entryNames] using this⟩
      | cons u before =>
        obtain ⟨rfl, rfl⟩ := List.cons.inj heq
        have := (ih hp.2).mp ⟨cs, hcs⟩ before w after rfl
        simpa [entryNames, entryName?_of_holdsText hc.name] using this
    · intro h
      obtain ⟨entries, rfl, hentry⟩ := h [] v vs rfl
      obtain ⟨c, hc⟩ := (exists_describesComponent_iff hp.1).mpr
        (by simpa [entryNames] using hentry)
      obtain ⟨cs, hcs⟩ : ∃ cs, DescribesComponents fields (built ++ [c]) vs cs := by
        -- The components behind the first one find its name among those that have been built.
        refine (ih hp.2).mpr fun before w after heq ↦ ?_
        have := h (.mapping entries :: before) w after (by rw [heq, List.cons_append])
        simpa [entryNames, entryName?_of_holdsText hc.name] using this
      exact ⟨c :: cs, .cons hc hcs⟩

/-! ## Documents -/

/-- What has been built has components with different names. -/
theorem exists_merges (built : List Component) : ∃ components, Merges built components := by
  induction built using List.reverseRecOn with
  | nil => exact ⟨[], merges_nil⟩
  | append_singleton built c ih =>
    obtain ⟨components, h⟩ := ih
    exact ⟨_, Merges.insert (s := ⟨[], components⟩) h c⟩

/-- A document whose integers can be written describes a dictionary if and only if it is one of the
grammar. -/
theorem exists_describes_iff {entries : Entries} (hp : Value.areEntriesPrintable entries) :
    (∃ d es, Describes entries d es) ↔ IsDictionaryDocument entries := by
  have hmessages {fs : List Field} {built : List Component} {vs : List Value}
      (hvs : HoldsList "messages" entries vs) :
      (∃ ms, List.Forall₂ (OfMapping (DescribesMessage fs built)) vs ms) ↔
        ∀ v ∈ vs, IsMapping
          (IsMessageEntry (fs.map Field.name) (built.map Component.name)) v := by
    rw [exists_forall₂_iff]
    refine forall₂_congr fun v hv ↦ exists_ofMapping_iff ?_
    rintro entries' rfl
    exact exists_describesMessage_iff (isPrintable_of_mem hp hvs _ hv)
  constructor
  · rintro ⟨d, es, hversion, ⟨fvs, hfvs, hfields⟩, cvs, mvs, built, hcvs, hbuilt, -, hmvs, hms⟩
    have hnames := hfields.entryNames_eq
    have hcnames := hbuilt.entryNames_eq
    refine ⟨(exists_holdsText_iff hp).mp ⟨_, hversion⟩, fvs, cvs, mvs, hfvs, hcvs, hmvs, ?_, ?_, ?_⟩
    · exact (exists_describesFields_iff (isPrintable_of_mem hp hfvs)).mp ⟨_, _, hfields⟩
    · rw [hnames]
      exact (exists_describesComponents_iff (isPrintable_of_mem hp hcvs)).mp ⟨_, hbuilt⟩
    · rw [hnames, hcnames]
      exact (hmessages hmvs).mp ⟨_, hms⟩
  · rintro ⟨hversion, fvs, cvs, mvs, hfvs, hcvs, hmvs, hf, hc, hm⟩
    obtain ⟨version, hversion⟩ := (exists_holdsText_iff hp).mpr hversion
    obtain ⟨fs, es, hfields⟩ :=
      (exists_describesFields_iff (isPrintable_of_mem hp hfvs)).mpr hf
    rw [hfields.entryNames_eq] at hc hm
    obtain ⟨built, hbuilt⟩ : ∃ built, DescribesComponents fs [] cvs built :=
      (exists_describesComponents_iff (isPrintable_of_mem hp hcvs)).mpr hc
    rw [hbuilt.entryNames_eq] at hm
    obtain ⟨ms, hms⟩ := (hmessages hmvs).mpr hm
    obtain ⟨components, hmerges⟩ := exists_merges built
    exact ⟨⟨version, fs, components, ms⟩, es, hversion, ⟨fvs, hfvs, hfields⟩,
      ⟨cvs, mvs, built, hcvs, hbuilt, hmerges, hmvs, hms⟩⟩

/-- A document whose integers can be written is accepted if and only if it is one of the grammar, and
any other one is refused with an error that the program expects. -/
theorem accepted_iff_isDictionaryDocument {entries : Entries}
    (hp : Value.areEntriesPrintable entries) :
    ((∃ d, (ofEntries entries).result = .ok d) ↔ IsDictionaryDocument entries) ∧
      ∀ e, (ofEntries entries).result = .error e → (LoadError.schema e).isExpected := by
  refine ⟨?_, explains_ofEntries hp⟩
  rw [← exists_describes_iff hp]
  constructor
  · rintro ⟨d, h⟩
    refine ⟨d, (ofEntries entries).events, ofEntries_eq_ok.mp ?_⟩
    rw [← h]
  · rintro ⟨d, es, h⟩
    exact ⟨d, by rw [ofEntries_eq_ok.mpr h]⟩

/-- A document with a component that refers to one behind it. -/
def forward : Entries :=
  let item (kind name : String) : Value := .mapping [(.text kind, .text name)]
  let named (name : String) (layout : List Value) : Value :=
    .mapping [(.text "name", .text name), (.text "layout", .list layout)]
  [(.text "version", .text "FIX.5.0"), (.text "messages", .scalar .null),
   (.text "components", .list [named "C" [item "component" "D"], named "D" []])]

theorem accepted_repeated_not_forward :
    (Value.areEntriesPrintable repeated ∧ IsDictionaryDocument repeated) ∧
      (Value.areEntriesPrintable forward ∧ ¬IsDictionaryDocument forward) := by
  have hr : Value.areEntriesPrintable repeated := rfl
  have hf : Value.areEntriesPrintable forward := rfl
  have hrefused : (ofEntries forward).result = .error (.unknownComponent "D" "C") := rfl
  refine ⟨⟨hr, (accepted_iff_isDictionaryDocument hr).1.mp ⟨ofRepeated, rfl⟩⟩, hf, fun h ↦ ?_⟩
  obtain ⟨d, hd⟩ := (accepted_iff_isDictionaryDocument hf).1.mpr h
  cases hrefused.symm.trans hd

end FixBindings.Dictionary
