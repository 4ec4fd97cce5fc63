import FixBindings.Proofs.Dictionary.Closure
import FixBindings.Proofs.Dictionary.Grammar

/-!
# Writing dictionaries as documents

A dictionary can be written as a document whose layouts refer to fields and components by their names.
When the names of the fields are different, and so are those of the components, and each layout holds
only what stands in front of it, then the document describes the dictionary that has been written, and
nothing is told about it. Dictionaries that have been loaded from documents without repeated names are of
this kind.
-/

namespace FixBindings.Dictionary

open Document

/-! ## Documents of dictionaries -/

/-- A value of a field as a document. -/
def EnumValue.toValue (v : EnumValue) : Value :=
  .mapping [(.text "value", .text v.value), (.text "description", .text v.description)]

/-- The entry with the values of a field, which is left out when there are none. -/
def enumEntries (f : Field) : Entries :=
  match f.enums with
  | [] => []
  | vs => [(.text "values", .list (vs.map EnumValue.toValue))]

/-- The entries of a field. -/
def Field.toEntries (f : Field) : Entries :=
  [(.text "tag", .scalar (.int f.tag)), (.text "name", .text f.name),
    (.text "type", .text f.dataType.spelling)] ++ enumEntries f

mutual

/-- An item of a layout as a document. An item of which only the kind is known refers to nothing. -/
def Item.toValue : Item → Value
  | .field f r => .mapping [(.text "field", .text f.name), (.text "required", .scalar (.bool r))]
  | .component name _ r =>
    .mapping [(.text "component", .text name), (.text "required", .scalar (.bool r))]
  | .group leader layout r =>
    .mapping [(.text "group", .text leader.name), (.text "required", .scalar (.bool r)),
      (.text "layout", .list (layoutValues layout))]
  | .bare _ r => .mapping [(.text "required", .scalar (.bool r))]

/-- The items of a layout as documents. -/
def layoutValues : List Item → List Value
  | [] => []
  | i :: is => i.toValue :: layoutValues is

end

/-- The entries of a component. -/
def Component.toEntries (c : Component) : Entries :=
  [(.text "name", .text c.name), (.text "layout", .list (layoutValues c.layout))]

/-- The entries of a message. -/
def Message.toEntries (m : Message) : Entries :=
  [(.text "name", .text m.name), (.text "msg_type", .text m.msgType),
    (.text "layout", .list (layoutValues m.layout))]

/-- The entries of a dictionary. -/
def toEntries (d : Dictionary) : Entries :=
  [(.text "version", .text d.version),
    (.text "fields", .list (d.fields.map fun f ↦ .mapping f.toEntries)),
    (.text "components", .list (d.components.map fun c ↦ .mapping c.toEntries)),
    (.text "messages", .list (d.messages.map fun m ↦ .mapping m.toEntries))]

theorem layoutValues_eq_map (is : List Item) : layoutValues is = is.map Item.toValue := by
  induction is with
  | nil => rfl
  | cons i is ih => rw [layoutValues, ih, List.map_cons]

/-! ## Dictionaries that can be written -/

/-- An item holds fields among `fields` and components among `components`, at every depth, so that a
name is enough to refer to them. -/
inductive InScope (fields : List Field) (components : List Component) : Item → Prop where
  | field {f : Field} {r : Bool} : f ∈ fields → InScope fields components (.field f r)
  | component {c : Component} {r : Bool} :
    c ∈ components → InScope fields components (.component c.name c.layout r)
  | group {f : Field} {layout : List Item} {r : Bool} :
    f ∈ fields → (∀ i ∈ layout, InScope fields components i) →
    InScope fields components (.group f layout r)

/-- A dictionary whose document describes it. -/
structure IsWritable (d : Dictionary) : Prop where
  /-- The fields have different names. -/
  fieldNames : (d.fields.map Field.name).Nodup
  /-- The components have different names. -/
  componentNames : (d.components.map Component.name).Nodup
  /-- The values of fields have descriptions. -/
  descriptions : ∀ f ∈ d.fields, ∀ v ∈ f.enums, v.description ≠ ""
  /-- A component holds fields of the dictionary and components in front of it. -/
  components : ∀ before c after, d.components = before ++ c :: after →
    ∀ i ∈ c.layout, InScope d.fields before i
  /-- A message holds fields and components of the dictionary. -/
  messages : ∀ m ∈ d.messages, ∀ i ∈ m.layout, InScope d.fields d.components i

/-! ## Names -/

/-- Where the keys are different, each element is the last one with its key. -/
theorem isLast_of_mem {α : Type _} {key : α → String} {as : List α} {a : α}
    (hn : (as.map key).Nodup) (ha : a ∈ as) : IsLast key as (key a) a := by
  obtain ⟨before, after, rfl⟩ := List.append_of_mem ha
  refine ⟨before, after, rfl, rfl, fun b hb he ↦ ?_⟩
  rw [List.map_append, List.map_cons] at hn
  have hnotMem := (List.nodup_cons.mp hn.of_append_right).1
  exact hnotMem (he ▸ List.mem_map_of_mem hb)

/-- Different names stay when repetitions are left out. -/
theorem eraseDups_of_nodup {names : List String} (h : names.Nodup) : names.eraseDups = names := by
  induction names using List.reverseRecOn with
  | nil => rfl
  | append_singleton names name ih =>
    obtain ⟨hnames, -, hdisjoint⟩ := List.nodup_append.mp h
    have hnew : name ∉ names := fun hm ↦ hdisjoint name hm name (by simp) rfl
    rw [eraseDups_concat, if_neg hnew, ih hnames]

/-- Components with different names are the components of their names. -/
theorem Merges.refl {cs : List Component} (h : (cs.map Component.name).Nodup) : Merges cs cs :=
  ⟨(eraseDups_of_nodup h).symm, fun _ ↦ isLast_of_mem h⟩

/-- The spelling of a data type in generated code is one of its names. -/
theorem DataType.ofName?_spelling (t : DataType) : DataType.ofName? t.spelling = some t := by
  cases t <;> rfl

/-! ## Entries -/

/-- Documents are related to what they have been written from when each one is. -/
theorem forall₂_map_left {α β : Type _} {R : β → α → Prop} {f : α → β} {as : List α}
    (h : ∀ a ∈ as, R (f a) a) : List.Forall₂ R (as.map f) as := by
  rwa [List.forall₂_map_left_iff, List.forall₂_same]

/-- A text has itself as its text. -/
theorem hasText_text (s : String) : HasText (.text s) s :=
  ⟨rfl, rfl⟩

theorem holdsText_of_get? {key s : String} {entries : Entries}
    (h : Entries.get? key entries = some (.text s)) : HoldsText key entries s :=
  ⟨_, ⟨h, rfl⟩, hasText_text s⟩

/-- The entries of a value with a description describe it. -/
theorem EnumValue.describesEnum {v : EnumValue} (h : v.description ≠ "") :
    OfMapping DescribesEnum v.toValue v := by
  refine ⟨_, rfl, .described (holdsText_of_get? rfl) rfl ?_ (hasText_text _)⟩
  simpa [Value.text, Value.isTruthy, Scalar.isTruthy] using h

/-- The list of values is missing or holds the values of the field. -/
theorem Field.holdsList_values (f : Field) :
    HoldsList "values" f.toEntries (f.enums.map EnumValue.toValue) := by
  unfold Field.toEntries enumEntries
  split
  · rename_i hnone
    rw [hnone]
    exact .missing rfl
  · exact .list rfl

/-- The entries of a field describe it, and nothing is told. -/
theorem Field.describesField {f : Field} (h : ∀ v ∈ f.enums, v.description ≠ "") :
    DescribesField f.toEntries f [] where
  name := holdsText_of_get? rfl
  tag := ⟨_, ⟨rfl, rfl⟩, .int _⟩
  dataType := ⟨_, holdsText_of_get? rfl, .known (DataType.ofName?_spelling _)⟩
  enums := ⟨_, f.holdsList_values, forall₂_map_left fun v hv ↦ v.describesEnum (h v hv)⟩

/-- The entries of fields describe them, and nothing is told. -/
theorem describesFields_map {fs : List Field} (h : ∀ f ∈ fs, ∀ v ∈ f.enums, v.description ≠ "") :
    DescribesFields (fs.map fun f ↦ .mapping f.toEntries) fs [] := by
  induction fs with
  | nil => exact .nil
  | cons f fs ih =>
    rw [List.forall_mem_cons] at h
    exact .cons (f.describesField h.1) (ih h.2)

/-! ## Layouts -/

section

variable {fields : List Field} {components : List Component}

theorem forall₂_layoutValues {R : Value → Item → Prop} {layout : List Item}
    (h : ∀ i ∈ layout, R i.toValue i) : List.Forall₂ R (layoutValues layout) layout := by
  rw [layoutValues_eq_map]
  exact forall₂_map_left h

/-- An item is described by its document where names are enough to refer to what it holds. -/
theorem InScope.describesItem (hf : (fields.map Field.name).Nodup)
    (hc : (components.map Component.name).Nodup) {i : Item} (h : InScope fields components i) :
    DescribesItem fields components i.toValue i := by
  induction h with
  | field hmem => exact .field rfl (hasText_text _) (isLast_of_mem hf hmem)
  | component hmem => exact .component rfl rfl (hasText_text _) (isLast_of_mem hc hmem)
  | group hmem _ ih =>
    exact .group rfl rfl rfl (hasText_text _) (isLast_of_mem hf hmem) (.list rfl)
      (forall₂_layoutValues ih)

/-- The layout under its key is described. -/
theorem describesLayout_of_get? (hf : (fields.map Field.name).Nodup)
    (hc : (components.map Component.name).Nodup) {entries : Entries} {layout : List Item}
    (hget : Entries.get? "layout" entries = some (.list (layoutValues layout)))
    (h : ∀ i ∈ layout, InScope fields components i) :
    DescribesLayout fields components entries layout :=
  ⟨_, .list hget, forall₂_layoutValues fun i hi ↦ (h i hi).describesItem hf hc⟩

/-- The places of a list with an element in front are the place of that element and those behind it. -/
theorem forall_places_cons {α : Type _} {P : List α → α → Prop} {a : α} {as : List α} :
    (∀ before b after, a :: as = before ++ b :: after → P before b) ↔
      P [] a ∧ ∀ before b after, as = before ++ b :: after → P (a :: before) b := by
  constructor
  · intro h
    exact ⟨h [] a as rfl, fun before b after heq ↦ h (a :: before) b after (by rw [heq]; rfl)⟩
  · rintro ⟨ha, has⟩ before b after heq
    obtain ⟨rfl, hnil⟩ | ⟨before, rfl, hrest⟩ := List.cons_eq_append_iff.mp heq
    · obtain ⟨rfl, -⟩ := List.cons.inj hnil
      exact ha
    · exact has before b after hrest

/-- Components are described when each holds only those in front of it. -/
theorem describesComponents_map (hf : (fields.map Field.name).Nodup) {built cs : List Component}
    (hc : ((built ++ cs).map Component.name).Nodup)
    (h : ∀ before c after, cs = before ++ c :: after →
      ∀ i ∈ c.layout, InScope fields (built ++ before) i) :
    DescribesComponents fields built (cs.map fun c ↦ .mapping c.toEntries) cs := by
  induction cs generalizing built with
  | nil => exact .nil
  | cons c cs ih =>
    obtain ⟨hlayout, hrest⟩ := forall_places_cons.mp h
    have hbuilt : (built.map Component.name).Nodup := by
      rw [List.map_append] at hc
      exact hc.of_append_left
    rw [List.append_nil] at hlayout
    refine .cons ⟨holdsText_of_get? rfl, describesLayout_of_get? hf hbuilt rfl hlayout⟩ (ih ?_ ?_)
    · simpa using hc
    · simpa using hrest

end

/-! ## Dictionaries -/

/-- A dictionary that can be written is described by its document, and nothing is told. -/
theorem IsWritable.describes {d : Dictionary} (h : IsWritable d) : Describes d.toEntries d [] where
  version := holdsText_of_get? rfl
  fields := ⟨_, .list rfl, describesFields_map h.descriptions⟩
  layouts := by
    refine ⟨_, _, d.components, .list rfl, ?_, .refl h.componentNames, .list rfl, ?_⟩
    · exact describesComponents_map h.fieldNames h.componentNames h.components
    · refine forall₂_map_left fun m hm ↦ ?_
      exact ⟨_, rfl, holdsText_of_get? rfl, holdsText_of_get? rfl,
        describesLayout_of_get? h.fieldNames h.componentNames rfl (h.messages m hm)⟩

/-- Loading undoes writing: the document of a dictionary is accepted without any event, and what is
loaded is the dictionary that has been written. -/
theorem ofEntries_toEntries {d : Dictionary} (h : IsWritable d) : ofEntries d.toEntries = ⟨[], .ok d⟩ :=
  ofEntries_eq_ok.mpr h.describes

/-- A component with a field whose name is empty. -/
def innerComponent : Component :=
  ⟨"", [.field ⟨0, "", .boolean, [⟨"", "NONE"⟩, ⟨"0", "No"⟩]⟩ false]⟩

/-- A component with a component and with a group within a group. -/
def outerComponent : Component :=
  ⟨"D", [.component "" innerComponent.layout true,
    .group ⟨0, "B", .utcDateOnly, []⟩ [.group ⟨0, "", .boolean, [⟨"", "NONE"⟩, ⟨"0", "No"⟩]⟩
      [.component "" innerComponent.layout false] true] false]⟩

/-- A dictionary with empty texts, a repeated tag, a repeated message and components. -/
def layered : Dictionary where
  version := ""
  fields := [⟨0, "", .boolean, [⟨"", "NONE"⟩, ⟨"0", "No"⟩]⟩, ⟨0, "B", .utcDateOnly, []⟩]
  components := [innerComponent, outerComponent]
  messages := [⟨"", "", []⟩,
    ⟨"", "", [.component "D" outerComponent.layout false, .field ⟨0, "B", .utcDateOnly, []⟩ true]⟩]

theorem ofEntries_toEntries_layered :
    IsWritable layered ∧ ofEntries layered.toEntries = ⟨[], .ok layered⟩ := by
  have hinner (cs : List Component) (r : Bool) :
      InScope layered.fields (innerComponent :: cs) (.component "" innerComponent.layout r) :=
    .component List.mem_cons_self
  have h : IsWritable layered := by
    refine ⟨by decide, by decide, by decide, ?_, ?_⟩
    · refine forall_places_cons.mpr ⟨?_, forall_places_cons.mpr ⟨?_, by simp⟩⟩
      · exact List.forall_mem_singleton.mpr (.field (by decide))
      · refine List.forall_mem_cons.mpr ⟨hinner _ _, List.forall_mem_singleton.mpr ?_⟩
        refine .group (by decide) (List.forall_mem_singleton.mpr ?_)
        exact .group (by decide) (List.forall_mem_singleton.mpr (hinner _ _))
    · refine List.forall_mem_cons.mpr ⟨by simp, List.forall_mem_singleton.mpr ?_⟩
      refine List.forall_mem_cons.mpr ⟨?_, List.forall_mem_singleton.mpr (.field (by decide))⟩
      exact .component (c := outerComponent) (List.mem_cons_of_mem _ List.mem_cons_self)
  exact ⟨h, ofEntries_toEntries h⟩

/-! ## Dictionaries that have been loaded -/

section

variable {fields : List Field} {built : List Component}

/-- An item that is described holds what its names refer to. -/
theorem DescribesItem.inScope {v : Value} {i : Item} (h : DescribesItem fields built v i) :
    InScope fields built i := by
  induction v using layoutInduction generalizing i with
  | h v ih =>
    cases h with
    | field _ _ hlast => exact .field hlast.mem
    | component _ _ _ hlast => exact .component hlast.mem
    | group _ _ _ _ hlast hlist hlayout =>
      exact .group hlast.mem (forall_mem_of_forall₂ hlayout fun v hv _ ↦ ih _ _ rfl hlist v hv)

theorem DescribesLayout.inScope {entries : Entries} {layout : List Item}
    (h : DescribesLayout fields built entries layout) : ∀ i ∈ layout, InScope fields built i := by
  obtain ⟨items, -, hlayout⟩ := h
  exact forall_mem_of_forall₂ hlayout fun _ _ _ ↦ DescribesItem.inScope

/-- Components that are described hold components in front of them. -/
theorem DescribesComponents.inScope {vs : List Value} {cs : List Component}
    (h : DescribesComponents fields built vs cs) :
    ∀ before c after, cs = before ++ c :: after →
      ∀ i ∈ c.layout, InScope fields (built ++ before) i := by
  induction h with
  | nil => simp
  | cons hc _ ih =>
    refine forall_places_cons.mpr ⟨?_, ?_⟩
    · rw [List.append_nil]
      exact hc.layout.inScope
    · simpa using ih

end

/-- A dictionary that is described by a document without repeated names of fields and of components can
be written, when no value of a field has an empty description. -/
theorem Describes.isWritable {entries : Entries} {d : Dictionary} {es : List Event}
    (h : Describes entries d es) (hf : (d.fields.map Field.name).Nodup)
    (hc : ∀ vs, HoldsList "components" entries vs → (entryNames vs).Nodup)
    (hd : ∀ f ∈ d.fields, ∀ v ∈ f.enums, v.description ≠ "") : IsWritable d := by
  obtain ⟨vs, ws, built, hvs, hbuilt, hmerges, -, hmessages⟩ := h.layouts
  have hnames : (built.map Component.name).Nodup := hbuilt.entryNames_eq ▸ hc vs hvs
  -- Nothing is merged, so the components are those that the entries describe.
  have hbuilt' : built = d.components := (Merges.refl hnames).unique hmerges
  subst hbuilt'
  refine ⟨hf, hnames, hd, hbuilt.inScope, ?_⟩
  refine forall_mem_of_forall₂ hmessages ?_
  rintro _ - m ⟨_, -, hm⟩
  exact hm.layout.inScope

/-- What has been loaded from a document without repeated names is loaded again from its own document. -/
theorem ofEntries_toEntries_of_result {entries : Entries} {d : Dictionary}
    (h : (ofEntries entries).result = .ok d) (hf : (d.fields.map Field.name).Nodup)
    (hc : ∀ vs, HoldsList "components" entries vs → (entryNames vs).Nodup)
    (hd : ∀ f ∈ d.fields, ∀ v ∈ f.enums, v.description ≠ "") :
    (ofEntries d.toEntries).result = .ok d := by
  have hdescribes : Describes entries d (ofEntries entries).events :=
    ofEntries_eq_ok.mp (by rw [← h])
  rw [ofEntries_eq_ok.mpr (hdescribes.isWritable hf hc hd).describes]

end FixBindings.Dictionary
