import FixBindings.Proofs.Dictionary.Writing

/-!
# Looking up by name what layouts hold

A layout keeps what its references meant when it was read: the last field of a name, and the last
component of a name in front of the reference. A dictionary looks up the first field of a name and the
component that a name stands for in the end. The two agree where the first and the last field of a name
are equal, for the components of messages, and for components that have not been replaced within others.
-/

namespace FixBindings.Dictionary

open Document

/-! ## Items at any depth -/

/-- The item `x` stands in an item outside of components: it is that item, or it stands in the layout of
a group. -/
inductive StandsIn (x : Item) : Item → Prop where
  | self : StandsIn x x
  | group {leader : Field} {layout : List Item} {r : Bool} {i : Item} :
    i ∈ layout → StandsIn x i → StandsIn x (.group leader layout r)

/-- The item `x` stands in an item at any depth, perhaps within components. -/
inductive Within (x : Item) : Item → Prop where
  | standsIn {i : Item} : StandsIn x i → Within x i
  | component {i j : Item} {name : String} {layout : List Item} {r : Bool} :
    StandsIn (.component name layout r) i → j ∈ layout → Within x j → Within x i

/-- The field that an item refers to: that of the item, or that in front of a group. -/
def Item.field? : Item → Option Field
  | .field f _ | .group f _ _ => some f
  | .component .. | .bare .. => none

/-- The layouts of messages and of components. -/
def layouts (d : Dictionary) : List (List Item) :=
  d.messages.map Message.layout ++ d.components.map Component.layout

/-- An item stands in a layout of a dictionary at any depth. -/
def HasItem (d : Dictionary) (x : Item) : Prop :=
  ∃ layout ∈ d.layouts, ∃ i ∈ layout, Within x i

/-! ## First elements -/

section

variable {α : Type _} {key : α → String} {as : List α} {k : String} {a : α}

/-- The first element with a key. -/
def IsFirstOf (key : α → String) (as : List α) (k : String) (a : α) : Prop :=
  ∃ before after, as = before ++ a :: after ∧ key a = k ∧ ∀ b ∈ before, key b ≠ k

theorem find?_eq_some_iff_isFirstOf : (as.find? fun a ↦ key a == k) = some a ↔ IsFirstOf key as k a := by
  simp only [List.find?_eq_some_iff_append, beq_iff_eq, Bool.not_eq_true', beq_eq_false_iff_ne]
  constructor
  · rintro ⟨hk, before, after, heq, hne⟩
    exact ⟨before, after, heq, hk, hne⟩
  · rintro ⟨before, after, heq, hk, hne⟩
    exact ⟨hk, before, after, heq, hne⟩

end

/-! ## What stands in a layout is described -/

section

variable {fields : List Field} {built : List Component} {v : Value} {x i : Item}

/-- Components are built when the entries of each one describe it behind those in front of it. -/
def AreBuilt (fields : List Field) (built : List Component) : Prop :=
  ∀ before c after, built = before ++ c :: after →
    ∃ entries, DescribesComponent fields before entries c

/-- The first of components that are built are built. -/
theorem AreBuilt.of_append {before after : List Component} (h : AreBuilt fields (before ++ after)) :
    AreBuilt fields before := by
  rintro first c rest rfl
  exact h first c (rest ++ after) (by simp)

/-- Each of components that are described is described behind those in front of it. -/
theorem DescribesComponents.describesComponent {vs : List Value} {cs : List Component}
    (h : DescribesComponents fields built vs cs) :
    ∀ before c after, cs = before ++ c :: after →
      ∃ entries, DescribesComponent fields (built ++ before) entries c := by
  induction h with
  | nil => simp
  | @cons _ _ entries _ _ hc _ ih =>
    refine forall_places_cons.mpr ⟨⟨entries, ?_⟩, ?_⟩
    · rwa [List.append_nil]
    · simpa using ih

/-- An item of a list that is described is described by itself. -/
theorem exists_describesItem_of_mem {vs : List Value} {layout : List Item}
    (h : List.Forall₂ (DescribesItem fields built) vs layout) (hi : i ∈ layout) :
    ∃ w, DescribesItem fields built w i :=
  forall_mem_of_forall₂ (P := fun i ↦ ∃ w, DescribesItem fields built w i) h
    (fun w _ _ hw ↦ ⟨w, hw⟩) i hi

theorem DescribesItem.of_standsIn (h : DescribesItem fields built v i) (hx : StandsIn x i) :
    ∃ w, DescribesItem fields built w x := by
  induction hx generalizing v with
  | self => exact ⟨v, h⟩
  | group hi _ ih =>
    cases h with
    | group _ _ _ _ _ _ hlayout =>
      obtain ⟨w, hw⟩ := exists_describesItem_of_mem hlayout hi
      exact ih hw

/-- What stands in an item that is described is described itself, behind some of the components in front
of the item. -/
theorem DescribesItem.of_within (hb : AreBuilt fields built) (h : DescribesItem fields built v i)
    (hx : Within x i) : ∃ before w, before <+: built ∧ DescribesItem fields before w x := by
  induction hx generalizing v built with
  | standsIn hx =>
    obtain ⟨w, hw⟩ := h.of_standsIn hx
    exact ⟨built, w, List.prefix_rfl, hw⟩
  | component hs hj _ ih =>
    obtain ⟨w, hw⟩ := h.of_standsIn hs
    cases hw with
    | component _ _ _ hlast =>
      -- The component was described when fewer components were built.
      obtain ⟨before, after, rfl, -, -⟩ := hlast
      obtain ⟨entries, -, items, -, hlayout⟩ := hb before _ after rfl
      obtain ⟨u, hu⟩ := exists_describesItem_of_mem hlayout hj
      obtain ⟨first, w', hfirst, hw'⟩ := ih hb.of_append hu
      exact ⟨first, w', hfirst.trans (List.prefix_append _ _), hw'⟩

/-- The field that an item refers to is the last one of its name. -/
theorem DescribesItem.isLast_field (h : DescribesItem fields built v x) {f : Field}
    (hf : x.field? = some f) : IsLast Field.name fields f.name f := by
  cases h with
  | field _ _ hlast =>
    obtain rfl := Option.some.inj hf
    exact hlast.key_eq ▸ hlast
  | component => cases hf
  | group _ _ _ _ hlast =>
    obtain rfl := Option.some.inj hf
    exact hlast.key_eq ▸ hlast

/-- The component that an item refers to is the last one of its name in front of the item. -/
theorem DescribesItem.isLast_component {c : Component} {r : Bool}
    (h : DescribesItem fields built v (.component c.name c.layout r)) :
    IsLast Component.name built c.name c := by
  obtain ⟨name, layout⟩ := c
  cases h with
  | component _ _ _ hlast => exact hlast.key_eq ▸ hlast

/-- What stands in a layout that is described is described behind some of the components in front of
it. -/
theorem DescribesLayout.of_within (hb : AreBuilt fields built) {entries : Entries} {layout : List Item}
    (h : DescribesLayout fields built entries layout) (hi : i ∈ layout) (hx : Within x i) :
    ∃ before w, before <+: built ∧ DescribesItem fields before w x := by
  obtain ⟨items, -, hlayout⟩ := h
  obtain ⟨w, hw⟩ := exists_describesItem_of_mem hlayout hi
  exact hw.of_within hb hx

end

/-! ## Dictionaries -/

section

variable {d : Dictionary} {built : List Component} {vs ws : List Value} {x : Item}

/-- The layout of a message is described behind all components. -/
theorem describesLayout_of_mem_messages
    (h : List.Forall₂ (OfMapping (DescribesMessage d.fields built)) ws d.messages) {m : Message}
    (hm : m ∈ d.messages) : ∃ entries, DescribesLayout d.fields built entries m.layout :=
  forall_mem_of_forall₂ (P := fun m ↦ ∃ entries, DescribesLayout d.fields built entries m.layout) h
    (fun _ _ _ ⟨entries, _, hm⟩ ↦ ⟨entries, hm.layout⟩) m hm

/-- What stands in the layouts of a dictionary is described behind some of its components. -/
theorem HasItem.exists_describesItem (hbuilt : DescribesComponents d.fields [] vs built)
    (hmerges : Merges built d.components)
    (hmessages : List.Forall₂ (OfMapping (DescribesMessage d.fields built)) ws d.messages)
    (hx : d.HasItem x) : ∃ before w, before <+: built ∧ DescribesItem d.fields before w x := by
  have hb : AreBuilt d.fields built := hbuilt.describesComponent
  obtain ⟨layout, hlayout, i, hi, hx⟩ := hx
  rw [layouts, List.mem_append, List.mem_map, List.mem_map] at hlayout
  rcases hlayout with ⟨m, hm, rfl⟩ | ⟨c, hc, rfl⟩
  · obtain ⟨entries, hlayout⟩ := describesLayout_of_mem_messages hmessages hm
    exact hlayout.of_within hb hi hx
  · obtain ⟨before, after, rfl, -, -⟩ := hmerges.last c hc
    obtain ⟨entries, -, hlayout⟩ := hb before c after rfl
    obtain ⟨first, w, hfirst, hw⟩ := hlayout.of_within hb.of_append hi hx
    exact ⟨first, w, hfirst.trans (List.prefix_append _ _), hw⟩

/-- A dictionary looks up the last component of a name that has been built. -/
theorem componentByName?_eq_some (h : Merges built d.components) {name : String} {c : Component} :
    d.componentByName? name = some c ↔ IsLast Component.name built name c :=
  Scope.component?_eq_some (s := ⟨d.fields, d.components⟩) h

/-- A dictionary looks up the last field of a name when the first one is equal to it. -/
theorem fieldByName?_eq_some_iff {f : Field} (hlast : IsLast Field.name d.fields f.name f) :
    d.fieldByName? f.name = some f ↔
      ∀ g g', IsFirstOf Field.name d.fields f.name g → IsLast Field.name d.fields f.name g' →
        g = g' := by
  constructor
  · intro hfound g g' hg hg'
    have hfirst : d.fieldByName? f.name = some g := find?_eq_some_iff_isFirstOf.mpr hg
    obtain rfl := Option.some.inj (hfound.symm.trans hfirst)
    exact hlast.unique hg'
  · intro heq
    obtain ⟨g, hg⟩ : ∃ g, d.fieldByName? f.name = some g := by
      rw [← Option.isSome_iff_exists, fieldByName?, List.find?_isSome]
      exact ⟨f, hlast.mem, by simp⟩
    rw [hg, heq g f (find?_eq_some_iff_isFirstOf.mp hg) hlast]

/-- A component whose name has been given once is the last one of its name. -/
theorem IsLast.of_prefix {before : List Component} {c : Component} (hp : before <+: built)
    (h : IsLast Component.name before c.name c) (hc : (built.map Component.name).count c.name = 1) :
    IsLast Component.name built c.name c := by
  obtain ⟨rest, rfl⟩ := hp
  refine h.append fun b hb hname ↦ ?_
  have hbefore : 0 < (before.map Component.name).count c.name :=
    List.count_pos_iff.mpr (List.mem_map_of_mem h.mem)
  have hrest : 0 < (rest.map Component.name).count c.name :=
    List.count_pos_iff.mpr (hname ▸ List.mem_map_of_mem hb)
  rw [List.map_append, List.count_append] at hc
  omega

end

/-- The items of a dictionary that has been loaded, and what is found under the names of the fields and
components in them. A field is found just when the first and the last field of its name are equal. The
components of messages are always found. A component at any depth is found just when it is among those of
the dictionary, and it is when one entry of the document only has its name. -/
theorem byName_of_result_eq_ok {entries : Entries} {d : Dictionary}
    (h : (ofEntries entries).result = .ok d) :
    (∀ x f, d.HasItem x → x.field? = some f →
      (d.fieldByName? f.name = some f ↔
        ∀ g g', IsFirstOf Field.name d.fields f.name g → IsLast Field.name d.fields f.name g' → g = g')) ∧
    (∀ m ∈ d.messages, ∀ i ∈ m.layout, ∀ c r, StandsIn (.component c.name c.layout r) i →
      d.componentByName? c.name = some c) ∧
    ∃ vs, HoldsList "components" entries vs ∧
      ∀ c r, d.HasItem (.component c.name c.layout r) →
        (d.componentByName? c.name = some c ↔ c ∈ d.components) ∧
        ((entryNames vs).count c.name = 1 → c ∈ d.components) := by
  have hd : Describes entries d (ofEntries entries).events := ofEntries_eq_ok.mp (by rw [← h])
  obtain ⟨vs, ws, built, hvs, hbuilt, hmerges, -, hmessages⟩ := hd.layouts
  have hfound {c : Component} : d.componentByName? c.name = some c ↔ c ∈ d.components :=
    ⟨List.mem_of_find?_eq_some, fun hc ↦ (componentByName?_eq_some hmerges).mpr (hmerges.last c hc)⟩
  refine ⟨fun x f hx hf ↦ ?_, fun m hm i hi c r hx ↦ ?_, vs, hvs, fun c r hx ↦ ⟨hfound, fun hc ↦ ?_⟩⟩
  · obtain ⟨before, w, -, hw⟩ := HasItem.exists_describesItem hbuilt hmerges hmessages hx
    exact fieldByName?_eq_some_iff (hw.isLast_field hf)
  · obtain ⟨_, items, -, hlayout⟩ := describesLayout_of_mem_messages hmessages hm
    obtain ⟨v, hv⟩ := exists_describesItem_of_mem hlayout hi
    obtain ⟨w, hw⟩ := hv.of_standsIn hx
    exact (componentByName?_eq_some hmerges).mpr hw.isLast_component
  · obtain ⟨before, w, hp, hw⟩ := HasItem.exists_describesItem hbuilt hmerges hmessages hx
    rw [hbuilt.entryNames_eq] at hc
    exact hfound.mp ((componentByName?_eq_some hmerges).mpr (hw.isLast_component.of_prefix hp hc))

theorem result_repeated : (ofEntries repeated).result = .ok ofRepeated := by
  rfl

/-- In the dictionary with names that are used more than once, the field and the component inside of the
replaced component are not the ones that their names find. -/
theorem not_forall_byName_repeated :
    (ofEntries repeated).result = .ok ofRepeated ∧
    (¬∀ x f, ofRepeated.HasItem x → x.field? = some f → ofRepeated.fieldByName? f.name = some f) ∧
    ¬∀ c r, ofRepeated.HasItem (.component c.name c.layout r) →
      ofRepeated.componentByName? c.name = some c := by
  let a : Field := ⟨3, "A", .string, []⟩
  let inner : Item := .component "C" [.field a false] false
  have hinner {x : Item} (hx : Within x inner) : ofRepeated.HasItem x :=
    ⟨_, List.mem_append_right _ List.mem_cons_self, inner, List.mem_cons_self, hx⟩
  refine ⟨result_repeated, fun h ↦ ?_, fun h ↦ ?_⟩
  · have hx : Within (.field a false) inner :=
      .component .self List.mem_cons_self (.standsIn .self)
    have hfound : some ⟨10, "A", .int, []⟩ = some a := h _ a (hinner hx) rfl
    exact absurd hfound (by decide)
  · have hfound := h ⟨"C", [.field a false]⟩ false (hinner (.standsIn .self))
    cases hfound

theorem byName_of_result_repeated :
    let b : Field := ⟨12, "B", .string, []⟩
    let nested : Item := .group ⟨3, "A", .string, []⟩ [.component "D" [] false] false
    let c : Component := ⟨"C", [.component "C" [.field ⟨3, "A", .string, []⟩ false] false,
      .group b [nested] false]⟩
    (ofEntries repeated).result = .ok ofRepeated ∧
    (ofRepeated.HasItem (.group b [nested] false) ∧ ofRepeated.fieldByName? "B" = some b) ∧
    ofRepeated.componentByName? "C" = some c ∧
    (ofRepeated.HasItem (.component "D" [] false) ∧ ⟨"D", []⟩ ∈ ofRepeated.components) := by
  intro b nested c
  obtain ⟨hfields, hmessages, vs, hvs, hcomponents⟩ := byName_of_result_eq_ok result_repeated
  have hhas {x : Item} (hx : Within x (.group b [nested] false)) : ofRepeated.HasItem x :=
    ⟨c.layout, List.mem_append_right _ List.mem_cons_self, _,
      List.mem_cons_of_mem _ List.mem_cons_self, hx⟩
  have hgroup := hhas (.standsIn .self)
  have hD : ofRepeated.HasItem (.component "D" [] false) :=
    hhas (.standsIn (.group List.mem_cons_self (.group List.mem_cons_self .self)))
  refine ⟨result_repeated, ⟨hgroup, (hfields _ b hgroup rfl).mpr fun g g' hg hg' ↦ ?_⟩, ?_, hD, ?_⟩
  · have hfirst : some b = some g := find?_eq_some_iff_isFirstOf.mpr hg
    have hlast : some b = some g' := find?_reverse_eq_some_iff.mpr hg'
    exact Option.some.inj (hfirst.symm.trans hlast)
  · exact hmessages _ List.mem_cons_self _ List.mem_cons_self c false .self
  · refine (hcomponents ⟨"D", []⟩ false hD).2 ?_
    cases hvs with
    | missing hget => cases hget
    | null hget => cases hget
    | list hget =>
      cases hget
      rfl

end FixBindings.Dictionary
