import FixBindings.Proofs.Dictionary.Loading

/-!
# Layouts draw on the fields of their dictionary

Every field that a layout of a loaded dictionary holds, as an item or in front of a group, at any depth
and inside of components, is one of the fields of the dictionary. This does not depend on the names
being different: a component keeps the layout that it was built with.
-/

namespace FixBindings.Dictionary

open Document

/-- The fields of an item, at any depth, are among `fields`. -/
inductive DrawsOn (fields : List Field) : Item → Prop where
  | field {f : Field} {r : Bool} : f ∈ fields → DrawsOn fields (.field f r)
  | group {f : Field} {layout : List Item} {r : Bool} :
    f ∈ fields → (∀ i ∈ layout, DrawsOn fields i) → DrawsOn fields (.group f layout r)
  | component {name : String} {layout : List Item} {r : Bool} :
    (∀ i ∈ layout, DrawsOn fields i) → DrawsOn fields (.component name layout r)
  | bare {kind : ItemKind} {r : Bool} : DrawsOn fields (.bare kind r)

/-- The layouts of components draw on `fields`. -/
def ComponentsDrawOn (fields : List Field) (cs : List Component) : Prop :=
  ∀ c ∈ cs, ∀ i ∈ c.layout, DrawsOn fields i

/-- What holds of all that is related to the elements of a list holds of the elements of every related
list. -/
theorem forall_mem_of_forall₂ {α β : Type _} {R : α → β → Prop} {P : β → Prop} {as : List α}
    {bs : List β} (h : List.Forall₂ R as bs) (hp : ∀ a ∈ as, ∀ b, R a b → P b) : ∀ b ∈ bs, P b := by
  induction h with
  | nil => simp
  | cons hab _ ih =>
    rw [List.forall_mem_cons]
    exact ⟨hp _ List.mem_cons_self _ hab, ih fun a ha ↦ hp a (List.mem_cons_of_mem _ ha)⟩

/-- The last element with a key is an element. -/
theorem IsLast.mem {α : Type _} {key : α → String} {as : List α} {k : String} {a : α}
    (h : IsLast key as k a) : a ∈ as := by
  obtain ⟨before, after, rfl, -⟩ := h
  simp

variable {fields : List Field} {built : List Component}

/-- An item that is described draws on the fields of the document when the components in front of it
do. -/
theorem DescribesItem.drawsOn (hb : ComponentsDrawOn fields built) {v : Value} {i : Item}
    (h : DescribesItem fields built v i) : DrawsOn fields i := by
  induction v using layoutInduction generalizing i with
  | h v ih =>
    cases h with
    | field _ _ hlast => exact .field hlast.mem
    | component _ _ _ hlast => exact .component (hb _ hlast.mem)
    | group _ _ _ _ hlast hlist hlayout =>
      exact .group hlast.mem
        (forall_mem_of_forall₂ hlayout fun v hv _ ↦ ih _ _ rfl hlist v hv)

theorem DescribesLayout.drawsOn (hb : ComponentsDrawOn fields built) {entries : Entries}
    {layout : List Item} (h : DescribesLayout fields built entries layout) :
    ∀ i ∈ layout, DrawsOn fields i := by
  obtain ⟨items, -, hlayout⟩ := h
  exact forall_mem_of_forall₂ hlayout fun _ _ _ ↦ DescribesItem.drawsOn hb

/-- Components draw on the fields of the document one after another. -/
theorem DescribesComponents.drawOn {vs : List Value} {cs : List Component}
    (h : DescribesComponents fields built vs cs) (hb : ComponentsDrawOn fields built) :
    ComponentsDrawOn fields (built ++ cs) := by
  induction h with
  | nil => rwa [List.append_nil]
  | @cons built cs _ _ c hc _ ih =>
    have hbc : ComponentsDrawOn fields (built ++ [c]) := by
      intro d hd
      rcases List.mem_append.mp hd with hd | hd
      · exact hb d hd
      · obtain rfl := List.mem_singleton.mp hd
        exact hc.layout.drawsOn hb
    simpa using ih hbc

/-- The layouts of a dictionary that is described draw on its fields. -/
theorem Describes.drawsOn {entries : Entries} {d : Dictionary} {es : List Event}
    (h : Describes entries d es) :
    ComponentsDrawOn d.fields d.components ∧
      ∀ m ∈ d.messages, ∀ i ∈ m.layout, DrawsOn d.fields i := by
  obtain ⟨cvs, mvs, built, -, hbuilt, hmerges, -, hmessages⟩ := h.layouts
  have hb : ComponentsDrawOn d.fields built := hbuilt.drawOn (by simp [ComponentsDrawOn])
  refine ⟨fun c hc ↦ hb c (hmerges.last c hc).mem, ?_⟩
  refine forall_mem_of_forall₂ hmessages ?_
  rintro _ - m ⟨_, -, hm⟩
  exact hm.layout.drawsOn hb

end FixBindings.Dictionary
