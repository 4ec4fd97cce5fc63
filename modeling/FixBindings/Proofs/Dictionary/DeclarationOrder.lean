import FixBindings.Proofs.Dictionary.Writing
import FixBindings.Rust.MessageStruct
import Mathlib.Data.List.Perm.Basic

/-!
# The order of declarations

Where names are different, the order of the fields in a document does not matter, and that of the
components matters only in that a component comes after those that it refers to. Documents that differ in
this order alone describe the same messages, and the same fields and components in their own order.

What an item means depends on its scope through the names that it refers to
(`DescribesItem.of_scope`). A component that comes after all that it refers to finds the same components
under these names in any order, so it is built as the same tree.
-/

namespace FixBindings.Dictionary

open Document

/-! ## Lists in another order -/

section

variable {α β : Type _} {R : α → β → Prop} {as as' : List α} {bs bs' : List β}

/-- The elements of two lists of one length are put in another order alike, so that each one keeps its
partner. -/
structure PermutedAlike (as as' : List α) (bs bs' : List β) : Prop where
  /-- The elements have partners at first. -/
  length : as.length = bs.length
  /-- They have partners afterwards. -/
  length' : as'.length = bs'.length
  /-- The pairs are permuted. -/
  pairs : (as.zip bs).Perm (as'.zip bs')

/-- Related lists stay related when one is permuted and the other is permuted alike. -/
theorem exists_permutedAlike (hp : as.Perm as') (h : List.Forall₂ R as bs) :
    ∃ bs', List.Forall₂ R as' bs' ∧ PermutedAlike as as' bs bs' := by
  suffices ∃ bs', List.Forall₂ R as' bs' ∧ (as.zip bs).Perm (as'.zip bs') by
    obtain ⟨bs', h', hpairs⟩ := this
    exact ⟨bs', h', h.length_eq, h'.length_eq, hpairs⟩
  induction hp generalizing bs with
  | nil => exact ⟨bs, h, .refl _⟩
  | cons a _ ih =>
    obtain @⟨⟩ | ⟨hab, hbs⟩ := h
    obtain ⟨bs', h', hpairs⟩ := ih hbs
    exact ⟨_, .cons hab h', hpairs.cons _⟩
  | swap a b as =>
    obtain @⟨⟩ | ⟨hb, @⟨⟩ | ⟨ha, has⟩⟩ := h
    exact ⟨_, .cons ha (.cons hb has), .swap _ _ _⟩
  | trans _ _ ih ih' =>
    obtain ⟨_, h', hpairs⟩ := ih h
    obtain ⟨bs'', h'', hpairs'⟩ := ih' h'
    exact ⟨bs'', h'', hpairs.trans hpairs'⟩

/-- What has been permuted alike has been permuted. -/
theorem PermutedAlike.perm (h : PermutedAlike as as' bs bs') : bs.Perm bs' := by
  have hsnd := h.pairs.map Prod.snd
  rwa [List.map_snd_zip h.length.ge, List.map_snd_zip h.length'.ge] at hsnd

/-- Where the keys are different, the last element with a key is so in any order. -/
theorem IsLast.perm {key : α → String} {k : String} {a : α} (hn : (as.map key).Nodup)
    (hp : as.Perm as') (h : IsLast key as k a) : IsLast key as' k a := by
  obtain ⟨before, after, rfl, rfl, -⟩ := h
  exact isLast_of_mem ((hp.map key).nodup_iff.mp hn) (hp.mem_iff.mp (by simp))

end

/-! ## References -/

/-- A value in a layout refers to the component `name`, by itself or by an item of a group. -/
inductive RefersTo (name : String) : Value → Prop where
  | component {entries : Entries} {v : Value} :
    Entries.get? "field" entries = none → Entries.get? "component" entries = some v →
    v.toText = name → RefersTo name (.mapping entries)
  | group {entries : Entries} {v i : Value} {items : List Value} :
    Entries.get? "field" entries = none → Entries.get? "component" entries = none →
    Entries.get? "group" entries = some v → HoldsList "layout" entries items → i ∈ items →
    RefersTo name i → RefersTo name (.mapping entries)

/-- An entry with a layout refers to the component `name`. -/
def EntryRefersTo (name : String) (entries : Entries) : Prop :=
  ∃ items, HoldsList "layout" entries items ∧ ∃ i ∈ items, RefersTo name i

/-- An entry refers to what the items of its layout refer to. -/
theorem EntryRefersTo.exists_mem {name : String} {entries : Entries} {items : List Value}
    (h : EntryRefersTo name entries) (hitems : HoldsList "layout" entries items) :
    ∃ i ∈ items, RefersTo name i := by
  obtain ⟨items', hitems', hmem⟩ := h
  exact hitems'.unique hitems ▸ hmem

/-- Each entry comes after those of the components that it refers to. -/
def ComeAfterReferences (vs : List Value) : Prop :=
  ∀ before v after, vs = before ++ v :: after →
    ∀ entries, v = .mapping entries → ∀ name, EntryRefersTo name entries → name ∈ entryNames before

/-! ## Scopes -/

section

variable {fields fields' : List Field} {built built' : List Component}

/-- An item means the same in every scope in which the names that it refers to mean the same. -/
theorem DescribesItem.of_scope
    (hf : ∀ name f, IsLast Field.name fields name f → IsLast Field.name fields' name f) {v : Value}
    {i : Item} (hc : ∀ name c, RefersTo name v → IsLast Component.name built name c →
      IsLast Component.name built' name c)
    (h : DescribesItem fields built v i) : DescribesItem fields' built' v i := by
  induction v using layoutInduction generalizing i with
  | h v ih =>
    cases h with
    | field hfield ht hlast => exact .field hfield ht (hf _ _ hlast)
    | component hfield hcomponent ht hlast =>
      exact .component hfield hcomponent ht (hc _ _ (.component hfield hcomponent ht.2) hlast)
    | group hfield hcomponent hgroup ht hlast hlist hlayout =>
      refine .group hfield hcomponent hgroup ht (hf _ _ hlast) hlist ?_
      refine forall₂_imp_of_mem hlayout fun w hw j hj ↦ ?_
      refine ih _ _ rfl hlist w hw (fun name c hr ↦ ?_) hj
      exact hc name c (.group hfield hcomponent hgroup hlist hw hr)

theorem DescribesLayout.of_scope
    (hf : ∀ name f, IsLast Field.name fields name f → IsLast Field.name fields' name f)
    {entries : Entries} {layout : List Item}
    (hc : ∀ name c, EntryRefersTo name entries → IsLast Component.name built name c →
      IsLast Component.name built' name c)
    (h : DescribesLayout fields built entries layout) :
    DescribesLayout fields' built' entries layout := by
  obtain ⟨items, hitems, hlayout⟩ := h
  refine ⟨items, hitems, forall₂_imp_of_mem hlayout fun v hv i hi ↦ ?_⟩
  exact hi.of_scope hf fun name c hr ↦ hc name c ⟨items, hitems, v, hv, hr⟩

end

/-! ## Fields -/

/-- Values describe fields, with some events, if each one describes its field. -/
theorem exists_describesFields_iff_forall₂ {vs : List Value} {fs : List Field} :
    (∃ es, DescribesFields vs fs es) ↔
      List.Forall₂ (fun v f ↦ ∃ es, OfMapping (DescribesField · · es) v f) vs fs := by
  constructor
  · rintro ⟨es, h⟩
    induction h with
    | nil => exact .nil
    | cons hf _ ih => exact .cons ⟨_, _, rfl, hf⟩ ih
  · intro h
    induction h with
    | nil => exact ⟨[], .nil⟩
    | cons hf _ ih =>
      obtain ⟨es, entries, rfl, hf⟩ := hf
      obtain ⟨es', hfs⟩ := ih
      exact ⟨es ++ es', .cons hf hfs⟩

/-! ## Components -/

section

variable {fields fields' : List Field} {built all cs : List Component} {vs : List Value}

/-- The value of a component describes it behind some of the components `all`. -/
def DescribesAmong (fields : List Field) (all : List Component) (v : Value) (c : Component) : Prop :=
  ∃ before ⊆ all, OfMapping (DescribesComponent fields before) v c

/-- Each component is described behind some of those that are built. -/
theorem DescribesComponents.describesAmong (h : DescribesComponents fields built vs cs)
    (hsub : built ++ cs ⊆ all) : List.Forall₂ (DescribesAmong fields all) vs cs := by
  induction h with
  | nil => exact .nil
  | cons hc _ ih =>
    refine .cons ⟨_, fun _ hb ↦ hsub (List.mem_append_left _ hb), _, rfl, hc⟩ (ih ?_)
    rwa [List.append_assoc, List.singleton_append]

/-- A component that comes after all that it refers to means the same behind other components, as long as
all are among the components `all` with different names. -/
theorem DescribesComponent.of_references (hn : (all.map Component.name).Nodup)
    (hf : ∀ name f, IsLast Field.name fields name f → IsLast Field.name fields' name f)
    {before : List Component} (hbefore : before ⊆ all) (hbuilt : built ⊆ all) {entries : Entries}
    {c : Component} (hr : ∀ name, EntryRefersTo name entries → name ∈ built.map Component.name)
    (h : DescribesComponent fields before entries c) : DescribesComponent fields' built entries c where
  name := h.name
  layout := by
    refine h.layout.of_scope hf fun name b hb hlast ↦ ?_
    obtain ⟨b', hlast'⟩ := exists_isLast_iff.mpr (hr name hb)
    -- There is one component of the name only.
    have heq : b' = b := List.inj_on_of_nodup_map hn (hbuilt hlast'.mem) (hbefore hlast.mem)
      (hlast'.key_eq.trans hlast.key_eq.symm)
    exact heq ▸ hlast'

/-- Components of which each comes after those that it refers to are described one after another. -/
theorem describesComponents_of_describesAmong (hn : (all.map Component.name).Nodup)
    (hf : ∀ name f, IsLast Field.name fields name f → IsLast Field.name fields' name f)
    (h : List.Forall₂ (DescribesAmong fields all) vs cs) (hsub : built ++ cs ⊆ all)
    (hr : ∀ before v after, vs = before ++ v :: after → ∀ entries, v = .mapping entries →
      ∀ name, EntryRefersTo name entries →
        name ∈ built.map Component.name ++ entryNames before) :
    DescribesComponents fields' built vs cs := by
  induction h generalizing built with
  | nil => exact .nil
  | @cons _ c _ _ hc _ ih =>
    obtain ⟨before, hbefore, entries, rfl, hc⟩ := hc
    obtain ⟨hfirst, hrest⟩ := forall_places_cons.mp hr
    refine .cons (hc.of_references hn hf hbefore ?_ fun name hname ↦ ?_) (ih ?_ ?_)
    · exact fun _ hb ↦ hsub (List.mem_append_left _ hb)
    · simpa [entryNames] using hfirst entries rfl name hname
    · rwa [List.append_assoc, List.singleton_append]
    · simpa [entryNames, entryName?_of_holdsText hc.name] using hrest

end

/-! ## Documents -/

/-- The document `entries'` differs from `entries` in the order of the fields and of the components, which
are the lists `fs` and `cs` in the one and `fs'` and `cs'` in the other. -/
structure Reorders (entries entries' : Entries) (fs fs' cs cs' : List Value) : Prop where
  /-- The version is the same. -/
  version : Entries.get? "version" entries' = Entries.get? "version" entries
  /-- The messages are the same. -/
  messages : Entries.get? "messages" entries' = Entries.get? "messages" entries
  /-- The fields of the one document. -/
  fields : HoldsList "fields" entries fs
  /-- The fields of the other one. -/
  fields' : HoldsList "fields" entries' fs'
  /-- The components of the one document. -/
  components : HoldsList "components" entries cs
  /-- The components of the other one. -/
  components' : HoldsList "components" entries' cs'
  /-- The fields are permuted. -/
  fieldsPerm : fs.Perm fs'
  /-- The components are permuted. -/
  componentsPerm : cs.Perm cs'

/-- What a document without repeated names describes, another order of its declarations describes as well,
in that order and with the same messages. -/
theorem Describes.reorder {entries entries' : Entries} {fs fs' cs cs' : List Value} {d : Dictionary}
    {es : List Event} (h : Describes entries d es) (hr : Reorders entries entries' fs fs' cs cs')
    (hf : (entryNames fs).Nodup) (hc : (entryNames cs).Nodup) (hcs : ComeAfterReferences cs') :
    ∃ fields components es',
      Describes entries' { d with fields := fields, components := components } es' ∧
      PermutedAlike fs fs' d.fields fields ∧ PermutedAlike cs cs' d.components components := by
  obtain ⟨vs, hvs, hfields⟩ := h.fields
  obtain rfl := hvs.unique hr.fields
  obtain ⟨us, ws, built, hus, hbuilt, hmerges, hws, hmessages⟩ := h.layouts
  obtain rfl := hus.unique hr.components
  -- Nothing is merged, so the components are those that the entries describe.
  have hnames : (built.map Component.name).Nodup := hbuilt.entryNames_eq ▸ hc
  obtain rfl : built = d.components := (Merges.refl hnames).unique hmerges
  obtain ⟨fields, hfields', hfieldsAlike⟩ :=
    exists_permutedAlike hr.fieldsPerm (exists_describesFields_iff_forall₂.mp ⟨_, hfields⟩)
  obtain ⟨es', hfields'⟩ := exists_describesFields_iff_forall₂.mpr hfields'
  obtain ⟨components, hcomponents, hcomponentsAlike⟩ := exists_permutedAlike hr.componentsPerm
    (hbuilt.describesAmong (by rw [List.nil_append]; exact List.Subset.refl _))
  have hfield (name : String) (f : Field) (hlast : IsLast Field.name d.fields name f) :
      IsLast Field.name fields name f :=
    hlast.perm (hfields.entryNames_eq ▸ hf) hfieldsAlike.perm
  have hcomponent (name : String) (c : Component)
      (hlast : IsLast Component.name d.components name c) : IsLast Component.name components name c :=
    hlast.perm hnames hcomponentsAlike.perm
  have hbuilt' : DescribesComponents fields [] cs' components :=
    describesComponents_of_describesAmong hnames hfield hcomponents
      (by rw [List.nil_append]; exact hcomponentsAlike.perm.symm.subset) hcs
  have hnames' : (components.map Component.name).Nodup :=
    (hcomponentsAlike.perm.map Component.name).nodup_iff.mp hnames
  refine ⟨fields, components, es', ⟨?_, ⟨fs', hr.fields', hfields'⟩, ?_⟩, hfieldsAlike, hcomponentsAlike⟩
  · obtain ⟨v, ⟨hget, hnull⟩, ht⟩ := h.version
    exact ⟨v, ⟨hr.version.trans hget, hnull⟩, ht⟩
  · refine ⟨cs', ws, components, hr.components', hbuilt', .refl hnames', hws.of_get?_eq hr.messages, ?_⟩
    refine hmessages.imp fun v m ⟨entries, hv, hm⟩ ↦ ⟨entries, hv, hm.name, hm.msgType, ?_⟩
    exact hm.layout.of_scope hfield fun name c _ ↦ hcomponent name c

/-- The order of the declarations does not matter. From a document without repeated names that is
accepted, a document with the fields in another order, and with the components in another order in which
each comes after those that it refers to, is accepted as well: the messages are the same, and the fields
and components are the same in the order of their entries. So the structs of messages are the same. -/
theorem ofEntries_of_reorders {entries entries' : Entries} {fs fs' cs cs' : List Value} {d : Dictionary}
    (h : (ofEntries entries).result = .ok d) (hr : Reorders entries entries' fs fs' cs cs')
    (hf : (entryNames fs).Nodup) (hc : (entryNames cs).Nodup) (hcs : ComeAfterReferences cs') :
    ∃ d', (ofEntries entries').result = .ok d' ∧ d'.version = d.version ∧ d'.messages = d.messages ∧
      PermutedAlike fs fs' d.fields d'.fields ∧ PermutedAlike cs cs' d.components d'.components ∧
      ∀ o : Options, d'.messages.map (Rust.messageStruct o d'.version) =
        d.messages.map (Rust.messageStruct o d.version) := by
  have hd : Describes entries d (ofEntries entries).events := ofEntries_eq_ok.mp (by rw [← h])
  obtain ⟨fields, components, es, hd', hfields, hcomponents⟩ := hd.reorder hr hf hc hcs
  refine ⟨{ d with fields := fields, components := components }, ?_, rfl, rfl, hfields, hcomponents,
    fun _ ↦ rfl⟩
  rw [ofEntries_eq_ok.mpr hd']

/-- The entries of a document with the message `M`, which holds the component `Y`. -/
def holdingY (fs cs : List Value) : Entries :=
  [(.text "version", .text "FIX.4.4"), (.text "fields", .list fs), (.text "components", .list cs),
   (.text "messages", .list [.mapping [(.text "name", .text "M"), (.text "msg_type", .text "0"),
     (.text "layout", .list [.mapping [(.text "component", .text "Y")]])]])]

/-- The component `Y` refers to the component `X` within a group. -/
theorem ofEntries_of_reorders_holdingY :
    let field (name : String) (tag : Int) : Value :=
      .mapping [(.text "name", .text name), (.text "tag", .scalar (.int tag)), (.text "type", .text "INT")]
    let named (name : String) (layout : List Value) : Value :=
      .mapping [(.text "name", .text name), (.text "layout", .list layout)]
    let x := named "X" [.mapping [(.text "field", .text "A")]]
    let y := named "Y" [.mapping [(.text "group", .text "B"),
      (.text "layout", .list [.mapping [(.text "component", .text "X")]])]]
    let z := named "Z" []
    let a : Field := ⟨1, "A", .int, []⟩
    let b : Field := ⟨2, "B", .int, []⟩
    let layout : List Item := [.group b [.component "X" [.field a false] false] false]
    let d : Dictionary := ⟨"FIX.4.4", [a, b], [⟨"X", [.field a false]⟩, ⟨"Y", layout⟩, ⟨"Z", []⟩],
      [⟨"M", "0", [.component "Y" layout false]⟩]⟩
    (ofEntries (holdingY [field "A" 1, field "B" 2] [x, y, z])).result = .ok d ∧
      ∃ d', (ofEntries (holdingY [field "B" 2, field "A" 1] [z, x, y])).result = .ok d' ∧
        d'.messages = d.messages := by
  intro field named x y z a b layout d
  have hok : (ofEntries (holdingY [field "A" 1, field "B" 2] [x, y, z])).result = .ok d := rfl
  have hr : Reorders (holdingY [field "A" 1, field "B" 2] [x, y, z])
      (holdingY [field "B" 2, field "A" 1] [z, x, y]) [field "A" 1, field "B" 2]
      [field "B" 2, field "A" 1] [x, y, z] [z, x, y] :=
    { version := rfl
      messages := rfl
      fields := .list rfl
      fields' := .list rfl
      components := .list rfl
      components' := .list rfl
      fieldsPerm := .swap _ _ _
      componentsPerm := ((List.Perm.swap z y []).cons x).trans (.swap z x [y]) }
  have hcs : ComeAfterReferences [z, x, y] := by
    refine forall_places_cons.mpr ⟨?_, forall_places_cons.mpr ⟨?_, forall_places_cons.mpr ⟨?_, ?_⟩⟩⟩
    · intro entries heq name hname
      obtain rfl := Value.mapping.inj heq
      obtain ⟨i, hi, -⟩ := hname.exists_mem (.list rfl)
      cases hi
    · intro entries heq name hname
      obtain rfl := Value.mapping.inj heq
      obtain ⟨i, hi, hname⟩ := hname.exists_mem (.list rfl)
      obtain rfl := List.mem_singleton.mp hi
      cases hname with
      | component hfield => cases hfield
      | group hfield => cases hfield
    · intro entries heq name hname
      obtain rfl := Value.mapping.inj heq
      obtain ⟨i, hi, hname⟩ := hname.exists_mem (.list rfl)
      obtain rfl := List.mem_singleton.mp hi
      cases hname with
      | component _ hcomponent => cases hcomponent
      | group _ _ _ hlayout hj hname =>
        obtain rfl := hlayout.unique (.list rfl)
        obtain rfl := List.mem_singleton.mp hj
        cases hname with
        | component _ hcomponent hname =>
          cases hcomponent
          subst hname
          decide
        | group _ hcomponent => cases hcomponent
    · simp
  obtain ⟨d', hd', -, hmessages, -⟩ := ofEntries_of_reorders hok hr (by decide) (by decide) hcs
  exact ⟨hok, d', hd', hmessages⟩

end FixBindings.Dictionary
