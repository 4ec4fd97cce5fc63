import FixBindings.Proofs.Dictionary.Lookup
import FixBindings.Proofs.Traced

/-!
# Loading as description

A dictionary is loaded from a document, with certain events, if and only if the document describes it
with these events: one statement for each function of the loader, up to the whole document.
-/

namespace FixBindings.Dictionary

open Document Number

/-! ## Parts of documents -/

theorem textOf_eq_ok {v : Value} {s : String} : textOf v = .ok s ↔ HasText v s := by
  unfold textOf HasText
  split <;> simp_all

theorem entriesOf_eq_ok {place : Place} {v : Value} {entries : Entries} :
    entriesOf place v = .ok entries ↔ v = .mapping entries := by
  cases v <;> simp [entriesOf]

/-- A value is required of a mapping in which the key holds it. -/
theorem required_eq_ok {key : String} {place : Place} {v w : Value} :
    required key place v = .ok w ↔ OfMapping (Holds key) v w := by
  simp only [required, bind_eq_ok, entriesOf_eq_ok, OfMapping, Holds]
  refine exists_congr fun entries ↦ and_congr_right fun _ ↦ ?_
  cases hget : Entries.get? key entries with
  | none => simp
  | some u =>
    simp only [Option.some.injEq]
    split
    · rename_i hnull
      constructor
      · intro h
        cases h
      · rintro ⟨rfl, h⟩
        cases h.symm.trans hnull
    · rename_i hnull
      rw [Bool.not_eq_true] at hnull
      constructor
      · intro h
        cases h
        exact ⟨rfl, hnull⟩
      · rintro ⟨rfl, -⟩
        rfl

theorem listAt_eq_ok {key : String} {place : Place} {entries : Entries} {vs : List Value} :
    listAt key place entries = .ok vs ↔ HoldsList key entries vs := by
  constructor
  · intro h
    cases hget : Entries.get? key entries with
    | none =>
      obtain rfl : [] = vs := by simpa [listAt, hget, itemsOf, Value.null] using h
      exact .missing hget
    | some v =>
      simp only [listAt, hget, Option.getD_some, itemsOf] at h
      split at h
      · obtain rfl : [] = vs := Except.ok.inj h
        exact .null hget
      · obtain rfl := Except.ok.inj h
        exact .list hget
      · cases h
  · rintro (hget | hget | hget)
    · simp [listAt, hget, itemsOf, Value.null]
    · simp [listAt, hget, itemsOf, Value.null]
    · simp [listAt, hget, itemsOf]

/-- There is one list under a key. -/
theorem HoldsList.unique {key : String} {entries : Entries} {vs ws : List Value}
    (h : HoldsList key entries vs) (h' : HoldsList key entries ws) : vs = ws := by
  have hvs : listAt key .document entries = .ok vs := listAt_eq_ok.mpr h
  have hws : listAt key .document entries = .ok ws := listAt_eq_ok.mpr h'
  exact Except.ok.inj (hvs.symm.trans hws)

/-- The list under a key depends on what is under the key only. -/
theorem HoldsList.of_get?_eq {key : String} {entries entries' : Entries} {vs : List Value}
    (heq : Entries.get? key entries' = Entries.get? key entries) (h : HoldsList key entries vs) :
    HoldsList key entries' vs := by
  cases h with
  | missing hget => exact .missing (heq.trans hget)
  | null hget => exact .null (heq.trans hget)
  | list hget => exact .list (heq.trans hget)

/-! ## Fields -/

theorem tagOf?_eq_some {v : Value} {n : Int} : tagOf? v = some n ↔ DenotesTag v n := by
  have hread {cs : List Char} : (readInteger cs).toOption = some n ↔ IntegerText cs n := by
    rw [← readInteger_eq_ok_iff]
    cases readInteger cs <;> simp [Except.toOption]
  constructor
  · intro h
    unfold tagOf? at h
    split at h
    · exact Option.some.inj h ▸ .int _
    · exact .float (Binary64.toInt?_eq_some_iff.mp h)
    · exact .text (hread.mp h)
    · exact .bytes (hread.mp h)
    · cases h
  · rintro (_ | h | h | h)
    · rfl
    · exact Binary64.toInt?_eq_some_iff.mpr h
    · exact hread.mpr h
    · exact hread.mpr h

/-- A tag can be written when the value that denotes it can. -/
theorem DenotesTag.isPrintableInt {v : Value} {n : Int} (h : DenotesTag v n) (hv : v.isPrintable) :
    Number.isPrintableInt n := by
  rcases h with _ | h | h | h
  · exact hv
  · exact Binary64.isPrintableInt_of_toInt? (Binary64.toInt?_eq_some_iff.mpr h)
  · exact isPrintableInt_of_integerText h
  · exact isPrintableInt_of_integerText h

theorem enumOf_eq_ok {field : String} {v : Value} {e : EnumValue} :
    enumOf field v = .ok e ↔ OfMapping DescribesEnum v e := by
  simp only [enumOf, bind_eq_ok, required_eq_ok, textOf_eq_ok, entriesOf_eq_ok]
  constructor
  · rintro ⟨w, ⟨entries, rfl, hw⟩, value, ht, _, ⟨⟩, h⟩
    refine ⟨entries, rfl, ?_⟩
    split at h
    · rename_i w hw
      simp only [bind_eq_ok, textOf_eq_ok, pure_eq_ok] at h
      obtain ⟨description, hd, rfl⟩ := h
      obtain ⟨hget, htrue⟩ := Option.filter_eq_some_iff.mp hw
      exact .described ⟨_, ‹_›, ht⟩ hget htrue hd
    · rename_i hnone
      obtain rfl := pure_eq_ok.mp h
      refine .plain ⟨w, hw, ht⟩ fun u hget ↦ ?_
      simpa using Option.filter_eq_none_iff.mp hnone u hget
  · rintro ⟨entries, rfl, h⟩
    rcases h with @⟨value, description, u, ⟨w, hw, ht⟩, hget, htrue, hd⟩ | @⟨value, ⟨w, hw, ht⟩, hd⟩
    · refine ⟨w, ⟨entries, rfl, hw⟩, value, ht, entries, rfl, ?_⟩
      have hsome : (Entries.get? "description" entries).filter Value.isTruthy = some u :=
        Option.filter_eq_some_iff.mpr ⟨hget, htrue⟩
      simp only [hsome, bind_eq_ok, textOf_eq_ok, pure_eq_ok]
      exact ⟨description, hd, rfl⟩
    · refine ⟨w, ⟨entries, rfl, hw⟩, value, ht, entries, rfl, ?_⟩
      have hnone : (Entries.get? "description" entries).filter Value.isTruthy = none :=
        Option.filter_eq_none_iff.mpr fun u hget ↦ by simp [hd u hget]
      simp only [hnone, pure_eq_ok]

/-- The last step of reading a field adds the values to its other parts. -/
theorem field_withValues_eq_ok {entries : Entries} {place : Place} {tag : Int} {name : String}
    {t : DataType} {f : Field} {es : List Event} :
    ((Traced.ofExcept (entriesOf place (.mapping entries))).andThen fun entries ↦
      (Traced.ofExcept (listAt "values" place entries)).andThen fun vs ↦
      (Traced.ofExcept (vs.mapM (enumOf name))).andThen fun enums ↦
      Traced.ok ⟨tag, name, t, enums⟩) = ⟨es, .ok f⟩ ↔
    (∃ vs, HoldsList "values" entries vs ∧ List.Forall₂ (OfMapping DescribesEnum) vs f.enums) ∧
      f.tag = tag ∧ f.name = name ∧ f.dataType = t ∧ es = [] := by
  simp only [Traced.ofExcept_andThen_eq_ok, entriesOf_eq_ok, listAt_eq_ok, mapM_eq_ok, enumOf_eq_ok,
    Traced.ok_eq_ok]
  constructor
  · rintro ⟨_, ⟨⟩, vs, hvs, enums, henums, rfl, rfl⟩
    exact ⟨⟨vs, hvs, henums⟩, rfl, rfl, rfl, rfl⟩
  · rintro ⟨⟨vs, hvs, henums⟩, rfl, rfl, rfl, rfl⟩
    exact ⟨entries, rfl, vs, hvs, f.enums, henums, rfl, rfl⟩

theorem fieldOf_eq_ok {v : Value} {f : Field} {es : List Event} :
    fieldOf v = ⟨es, .ok f⟩ ↔ OfMapping (DescribesField · · es) v f := by
  simp only [fieldOf, Traced.bind_eq_andThen, Traced.ofExcept_andThen_eq_ok, bind_eq_ok,
    required_eq_ok, textOf_eq_ok]
  constructor
  · rintro ⟨name, ⟨w, ⟨entries, rfl, hw⟩, ht⟩, tagValue, ⟨_, ⟨⟩, htagValue⟩, h⟩
    refine ⟨entries, rfl, ?_⟩
    split at h
    · cases h
    rename_i tag htag
    simp only [Traced.ofExcept_andThen_eq_ok, bind_eq_ok, required_eq_ok, textOf_eq_ok] at h
    obtain ⟨typeName, ⟨u, ⟨_, ⟨⟩, hu⟩, htype⟩, h⟩ := h
    split at h
    · rename_i t hknown
      rw [Traced.pure_eq_ok, Traced.ok_andThen] at h
      obtain ⟨henums, rfl, rfl, rfl, rfl⟩ := field_withValues_eq_ok.mp h
      exact ⟨⟨w, hw, ht⟩, ⟨tagValue, htagValue, tagOf?_eq_some.mp htag⟩,
        ⟨typeName, ⟨u, hu, htype⟩, .known hknown⟩, henums⟩
    · rename_i hunknown
      obtain ⟨es', hrest, rfl⟩ := Traced.tell_andThen_eq_ok.mp h
      rw [Traced.pure_eq_ok, Traced.ok_andThen] at hrest
      obtain ⟨henums, rfl, rfl, htext, rfl⟩ := field_withValues_eq_ok.mp hrest
      have htype' : DescribesType typeName f.name f.dataType [.unknownType typeName f.name] :=
        htext ▸ .unknown hunknown
      exact ⟨⟨w, hw, ht⟩, ⟨tagValue, htagValue, tagOf?_eq_some.mp htag⟩,
        ⟨typeName, ⟨u, hu, htype⟩, htype'⟩, henums⟩
  · rintro ⟨entries, rfl, ⟨w, hw, ht⟩, ⟨tagValue, htagValue, htag⟩, ⟨typeName, ⟨u, hu, htype⟩, h⟩,
      henums⟩
    refine ⟨f.name, ⟨w, ⟨entries, rfl, hw⟩, ht⟩, tagValue, ⟨entries, rfl, htagValue⟩, ?_⟩
    rw [tagOf?_eq_some.mpr htag]
    simp only [Traced.ofExcept_andThen_eq_ok, bind_eq_ok, required_eq_ok, textOf_eq_ok]
    refine ⟨typeName, ⟨u, ⟨entries, rfl, hu⟩, htype⟩, ?_⟩
    obtain ⟨t, hknown, ht', rfl⟩ | ⟨hunknown, ht', rfl⟩ := h.cases
    · rw [hknown, Traced.pure_eq_ok, Traced.ok_andThen]
      exact field_withValues_eq_ok.mpr ⟨henums, rfl, rfl, ht', rfl⟩
    · rw [hunknown]
      refine Traced.tell_andThen_eq_ok.mpr ⟨[], ?_, rfl⟩
      rw [Traced.pure_eq_ok, Traced.ok_andThen]
      exact field_withValues_eq_ok.mpr ⟨henums, rfl, rfl, ht', rfl⟩

theorem fieldsOf_eq_ok {vs : List Value} {fs : List Field} {es : List Event} :
    fieldsOf vs = ⟨es, .ok fs⟩ ↔ DescribesFields vs fs es := by
  induction vs generalizing fs es with
  | nil =>
    rw [fieldsOf, Traced.ok_eq_ok]
    constructor
    · rintro ⟨rfl, rfl⟩
      exact .nil
    · rintro ⟨⟩
      exact ⟨rfl, rfl⟩
  | cons v vs ih =>
    simp only [fieldsOf, Traced.bind_eq_andThen, Traced.andThen_eq_ok, fieldOf_eq_ok, ih,
      Traced.pure_eq_ok, Traced.ok_eq_ok]
    constructor
    · rintro ⟨f, es₁, es₂, ⟨entries, rfl, hf⟩, ⟨fs', es₃, es₄, hfs, ⟨rfl, rfl⟩, rfl⟩, rfl⟩
      rw [List.append_nil]
      exact .cons hf hfs
    · intro h
      obtain @⟨⟩ | @⟨entries, f, _, fs, es₁, es₂, hf, hfs⟩ := h
      exact ⟨f, es₁, es₂, ⟨entries, rfl, hf⟩, ⟨fs, es₂, [], hfs, ⟨rfl, rfl⟩, by simp⟩, rfl⟩

/-! ## Layouts -/

variable {built : List Component} {s : Scope}

theorem Scope.fieldOf_eq_ok {owner : String} {v : Value} {f : Field} :
    s.fieldOf owner v = .ok f ↔ ∃ name, HasText v name ∧ IsLast Field.name s.fields name f := by
  simp only [Scope.fieldOf, bind_eq_ok, textOf_eq_ok, ← Scope.field?_eq_some]
  refine exists_congr fun name ↦ and_congr_right fun _ ↦ ?_
  cases s.field? name with
  | none => simp [throw, throwThe, MonadExceptOf.throw]
  | some g => simp [pure_eq_ok]

theorem Scope.componentOf_eq_ok (h : Merges built s.components) {owner : String} {v : Value}
    {c : Component} :
    s.componentOf owner v = .ok c ↔ ∃ name, HasText v name ∧ IsLast Component.name built name c := by
  simp only [Scope.componentOf, bind_eq_ok, textOf_eq_ok, ← Scope.component?_eq_some h]
  refine exists_congr fun name ↦ and_congr_right fun _ ↦ ?_
  cases s.component? name with
  | none => simp [throw, throwThe, MonadExceptOf.throw]
  | some d => simp [pure_eq_ok]

/-- The items of a layout are described one by one. -/
theorem layoutOf_eq_mapM (owner : String) (vs : List Value) :
    layoutOf s owner vs = vs.mapM (itemOf s owner) := by
  induction vs with
  | nil => rfl
  | cons v vs ih => rw [layoutOf, List.mapM_cons, ih]

/-- The layout of a group is read as that of a component or message. -/
theorem groupLayout_eq (owner leader : String) (entries : Entries) :
    groupLayout s owner leader entries =
      listAt "layout" (.group leader) entries >>= layoutOf s owner := by
  induction entries with
  | nil => rfl
  | cons p entries ih =>
    obtain ⟨k, v⟩ := p
    rw [groupLayout, listAt, Entries.get?]
    split
    · cases v with
      | scalar c => cases c <;> rfl
      | list items => rfl
      | mapping entries => rfl
    · exact ih

/-- A value under a key is smaller than the mapping. -/
theorem sizeOf_lt_of_get? {key : String} {entries : Entries} {v : Value}
    (h : Entries.get? key entries = some v) : sizeOf v < sizeOf entries := by
  induction entries with
  | nil => cases h
  | cons p entries ih =>
    obtain ⟨k, w⟩ := p
    rw [Entries.get?] at h
    split at h
    · obtain rfl := Option.some.inj h
      simp
      omega
    · have := ih h
      simp
      omega

/-- What holds of a value when it holds of the items of its layout, if it has one, holds of all
values. -/
theorem layoutInduction {P : Value → Prop}
    (h : ∀ v, (∀ entries items, v = .mapping entries → HoldsList "layout" entries items →
      ∀ i ∈ items, P i) → P v) (v : Value) : P v := by
  refine h v ?_
  rintro entries items rfl (hget | hget | hget) i hi
  · cases hi
  · cases hi
  · have hlist := sizeOf_lt_of_get? hget
    have hitem := List.sizeOf_lt_of_mem hi
    exact layoutInduction h i
termination_by sizeOf v
decreasing_by
  subst_vars
  simp only [Value.list.sizeOf_spec, Value.mapping.sizeOf_spec] at *
  omega

/-- What follows for each element of one list from its relation to the other follows for the lists. -/
theorem forall₂_imp_of_mem {α β : Type _} {R S : α → β → Prop} {as : List α} {bs : List β}
    (h : List.Forall₂ R as bs) (hs : ∀ a ∈ as, ∀ b, R a b → S a b) : List.Forall₂ S as bs := by
  have hmem := (List.forall₂_and_left (p := (· ∈ as)) as bs).mpr ⟨fun _ ha ↦ ha, h⟩
  exact hmem.imp fun a b ⟨ha, hab⟩ ↦ hs a ha b hab

/-- Relations that agree on the elements of a list relate the same lists to it. -/
theorem forall₂_congr_of_mem {α β : Type _} {R S : α → β → Prop} {as : List α} {bs : List β}
    (h : ∀ a ∈ as, ∀ b, R a b ↔ S a b) : List.Forall₂ R as bs ↔ List.Forall₂ S as bs :=
  ⟨fun hR ↦ forall₂_imp_of_mem hR fun a ha b ↦ (h a ha b).mp,
    fun hS ↦ forall₂_imp_of_mem hS fun a ha b ↦ (h a ha b).mpr⟩

/-- An item is read from the values that describe it. -/
theorem itemOf_eq_ok (h : Merges built s.components) (owner : String) {v : Value} {i : Item} :
    itemOf s owner v = .ok i ↔ DescribesItem s.fields built v i := by
  induction v using layoutInduction generalizing i with
  | h v ih =>
    cases v with
    | scalar c => constructor <;> rintro ⟨⟩
    | list items => constructor <;> rintro ⟨⟩
    | mapping entries =>
      -- The items of a group are read by the same function, to which the induction applies.
      have hitems {items : List Value} {layout : List Item}
          (hi : HoldsList "layout" entries items) : items.mapM (itemOf s owner) = .ok layout ↔
            List.Forall₂ (DescribesItem s.fields built) items layout :=
        mapM_eq_ok.trans (forall₂_congr_of_mem fun v hv _ ↦ ih entries items rfl hi v hv)
      constructor
      · intro hok
        simp only [itemOf, groupLayout_eq] at hok
        split at hok
        · rename_i v hfield
          simp only [bind_eq_ok, Scope.fieldOf_eq_ok, pure_eq_ok] at hok
          obtain ⟨f, ⟨name, ht, hlast⟩, rfl⟩ := hok
          exact .field hfield ht hlast
        rename_i hfield
        split at hok
        · rename_i v hcomponent
          simp only [bind_eq_ok, Scope.componentOf_eq_ok h, pure_eq_ok] at hok
          obtain ⟨c, ⟨name, ht, hlast⟩, rfl⟩ := hok
          exact .component hfield hcomponent ht hlast
        rename_i hcomponent
        split at hok
        · rename_i v hgroup
          simp only [bind_eq_ok, Scope.fieldOf_eq_ok, listAt_eq_ok, layoutOf_eq_mapM,
            pure_eq_ok] at hok
          obtain ⟨f, ⟨name, ht, hlast⟩, layout, ⟨items, hlist, hlayout⟩, rfl⟩ := hok
          exact .group hfield hcomponent hgroup ht hlast hlist ((hitems hlist).mp hlayout)
        · cases hok
      · intro hdescribes
        cases hdescribes with
        | field hfield ht hlast =>
          simp only [itemOf, hfield, bind_eq_ok, Scope.fieldOf_eq_ok, pure_eq_ok]
          exact ⟨_, ⟨_, ht, hlast⟩, rfl⟩
        | component hfield hcomponent ht hlast =>
          simp only [itemOf, hfield, hcomponent, bind_eq_ok, Scope.componentOf_eq_ok h, pure_eq_ok]
          exact ⟨_, ⟨_, ht, hlast⟩, rfl⟩
        | group hfield hcomponent hgroup ht hlast hlist hlayout =>
          simp only [itemOf, hfield, hcomponent, hgroup, groupLayout_eq, layoutOf_eq_mapM,
            bind_eq_ok, Scope.fieldOf_eq_ok, listAt_eq_ok, pure_eq_ok]
          exact ⟨_, ⟨_, ht, hlast⟩, _, ⟨_, hlist, (hitems hlist).mpr hlayout⟩, rfl⟩

/-- A layout under its key is read from the list that describes it. -/
theorem layoutOf_listAt_eq_ok (h : Merges built s.components) (owner : String) {place : Place}
    {entries : Entries} {layout : List Item} :
    (∃ items, listAt "layout" place entries = .ok items ∧ layoutOf s owner items = .ok layout) ↔
      DescribesLayout s.fields built entries layout := by
  simp only [listAt_eq_ok, layoutOf_eq_mapM, mapM_eq_ok, itemOf_eq_ok h, DescribesLayout]

/-! ## Components and messages -/

theorem componentOf_eq_ok (h : Merges built s.components) {v : Value} {c : Component} :
    componentOf s v = .ok c ↔ OfMapping (DescribesComponent s.fields built) v c := by
  simp only [componentOf, bind_eq_ok, required_eq_ok, textOf_eq_ok, entriesOf_eq_ok, pure_eq_ok]
  constructor
  · rintro ⟨w, ⟨entries, rfl, hw⟩, name, ht, _, ⟨⟩, items, hitems, layout, hlayout, rfl⟩
    exact ⟨entries, rfl, ⟨w, hw, ht⟩, (layoutOf_listAt_eq_ok h _).mp ⟨items, hitems, hlayout⟩⟩
  · rintro ⟨entries, rfl, ⟨w, hw, ht⟩, hlayout⟩
    obtain ⟨items, hitems, hlayout⟩ := (layoutOf_listAt_eq_ok h c.name).mpr hlayout
    exact ⟨w, ⟨entries, rfl, hw⟩, c.name, ht, entries, rfl, items, hitems, c.layout, hlayout, rfl⟩

theorem messageOf_eq_ok (h : Merges built s.components) {v : Value} {m : Message} :
    messageOf s v = .ok m ↔ OfMapping (DescribesMessage s.fields built) v m := by
  simp only [messageOf, bind_eq_ok, required_eq_ok, textOf_eq_ok, entriesOf_eq_ok, pure_eq_ok]
  constructor
  · rintro ⟨w, ⟨entries, rfl, hw⟩, name, ht, u, ⟨_, ⟨⟩, hu⟩, msgType, htype, _, ⟨⟩, items, hitems,
      layout, hlayout, rfl⟩
    exact ⟨entries, rfl, ⟨w, hw, ht⟩, ⟨u, hu, htype⟩,
      (layoutOf_listAt_eq_ok h _).mp ⟨items, hitems, hlayout⟩⟩
  · rintro ⟨entries, rfl, ⟨w, hw, ht⟩, ⟨u, hu, htype⟩, hlayout⟩
    obtain ⟨items, hitems, hlayout⟩ := (layoutOf_listAt_eq_ok h m.name).mpr hlayout
    exact ⟨w, ⟨entries, rfl, hw⟩, m.name, ht, u, ⟨entries, rfl, hu⟩, m.msgType, htype, entries, rfl,
      items, hitems, m.layout, hlayout, rfl⟩

/-- Behind the components of a list the scope holds those with different names. -/
theorem scopeOf_eq_ok (h : Merges built s.components) {vs : List Value} {t : Scope} :
    scopeOf s vs = .ok t ↔ t.fields = s.fields ∧
      ∃ cs, DescribesComponents s.fields built vs cs ∧ Merges (built ++ cs) t.components := by
  induction vs generalizing s built with
  | nil =>
    rw [scopeOf, Except.ok.injEq]
    constructor
    · rintro rfl
      exact ⟨rfl, [], .nil, by simpa using h⟩
    · rintro ⟨hfields, cs, ⟨⟩, ht⟩
      rw [List.append_nil] at ht
      -- What has been built determines its components with different names.
      obtain ⟨fields, components⟩ := t
      obtain rfl : components = s.components := ht.unique h
      obtain rfl : fields = s.fields := hfields
      rfl
  | cons v vs ih =>
    simp only [scopeOf, bind_eq_ok, componentOf_eq_ok h]
    constructor
    · rintro ⟨c, ⟨entries, rfl, hc⟩, hrest⟩
      obtain ⟨hfields, cs, hcs, ht⟩ := (ih (h.insert c)).mp hrest
      rw [Scope.fields_insert] at hfields hcs
      rw [List.append_assoc, List.singleton_append] at ht
      exact ⟨hfields, c :: cs, .cons hc hcs, ht⟩
    · rintro ⟨hfields, _, hcs, ht⟩
      obtain @⟨⟩ | @⟨_, cs, entries, _, c, hc, hcs⟩ := hcs
      refine ⟨c, ⟨entries, rfl, hc⟩, (ih (h.insert c)).mpr ⟨?_, cs, ?_, ?_⟩⟩
      · rw [hfields, Scope.fields_insert]
      · rwa [Scope.fields_insert]
      · rwa [List.append_assoc, List.singleton_append]

/-! ## Dictionaries -/

/-- The scope behind all components of a document. -/
theorem scopeOf_fields_eq_ok {fields : List Field} {vs : List Value} {t : Scope} :
    scopeOf ⟨fields, []⟩ vs = .ok t ↔ t.fields = fields ∧
      ∃ built, DescribesComponents fields [] vs built ∧ Merges built t.components :=
  scopeOf_eq_ok (s := ⟨fields, []⟩) merges_nil

/-- A dictionary is loaded with the events that the document describes, and no other one is. -/
theorem ofEntries_eq_ok {entries : Entries} {d : Dictionary} {es : List Event} :
    ofEntries entries = ⟨es, .ok d⟩ ↔ Describes entries d es := by
  simp only [ofEntries, Traced.bind_eq_andThen, Traced.ofExcept_andThen_eq_ok, required_eq_ok,
    listAt_eq_ok]
  constructor
  · rintro ⟨w, ⟨_, ⟨⟩, hw⟩, fvs, hfvs, h⟩
    obtain ⟨fields, es₁, es₂, hfields, hrest, rfl⟩ := Traced.andThen_eq_ok.mp h
    simp only [Traced.ofExcept_andThen_eq_ok, listAt_eq_ok, scopeOf_fields_eq_ok, mapM_eq_ok,
      textOf_eq_ok, Traced.pure_eq_ok, Traced.ok_eq_ok] at hrest
    obtain ⟨cvs, hcvs, scope, ⟨rfl, built, hbuilt, hmerges⟩, mvs, hmvs, messages, hmessages,
      version, ht, rfl, rfl⟩ := hrest
    rw [List.append_nil]
    simp only [messageOf_eq_ok hmerges] at hmessages
    exact ⟨⟨w, hw, ht⟩, ⟨fvs, hfvs, fieldsOf_eq_ok.mp hfields⟩,
      ⟨cvs, mvs, built, hcvs, hbuilt, hmerges, hmvs, hmessages⟩⟩
  · rintro ⟨⟨w, hw, ht⟩, ⟨fvs, hfvs, hfields⟩, cvs, mvs, built, hcvs, hbuilt, hmerges, hmvs,
      hmessages⟩
    refine ⟨w, ⟨entries, rfl, hw⟩, fvs, hfvs, Traced.andThen_eq_ok.mpr
      ⟨d.fields, es, [], fieldsOf_eq_ok.mpr hfields, ?_, by rw [List.append_nil]⟩⟩
    replace hmessages := hmessages.imp fun _ _ ↦
      (messageOf_eq_ok (s := ⟨d.fields, d.components⟩) hmerges).mpr
    simp only [Traced.ofExcept_andThen_eq_ok, listAt_eq_ok, scopeOf_fields_eq_ok, mapM_eq_ok,
      textOf_eq_ok]
    exact ⟨cvs, hcvs, ⟨d.fields, d.components⟩, ⟨rfl, built, hbuilt, hmerges⟩, mvs, hmvs,
      d.messages, hmessages, d.version, ht, rfl⟩

/-- A document that is accepted describes its dictionary: the entries correspond to its parts one to
one and in order, each reference means the last field or the last component in front of it, and all
that is told is one event for each field of an unknown type. -/
theorem describes_of_result_eq_ok {entries : Entries} {d : Dictionary}
    (h : (ofEntries entries).result = .ok d) : Describes entries d (ofEntries entries).events := by
  apply ofEntries_eq_ok.mp
  rw [← h]

/-- A document in which names are used more than once: of the fields, of the components, and of a
component within another one of its name. -/
def repeated : Entries :=
  let field (name tag type : String) : Value :=
    .mapping [(.text "name", .text name), (.text "tag", .text tag), (.text "type", .text type)]
  let item (kind name : String) : Value := .mapping [(.text kind, .text name)]
  let named (name : String) (layout : List Value) : Value :=
    .mapping [(.text "name", .text name), (.text "layout", .list layout)]
  let group (name : String) (layout : List Value) : Value :=
    .mapping [(.text "layout", .list layout), (.text "group", .text name)]
  [(.text "version", .text "FIX.5.0"),
   (.text "fields", .list [field "A" "1_0" "INT", field "B" " +12" "TEXT", field "A" "3" "?"]),
   (.text "components", .list [named "C" [item "field" "A"], named "D" [],
     named "C" [item "component" "C", group "B" [group "A" [item "component" "D"]]]]),
   (.text "messages", .list [.mapping [(.text "name", .text "M"), (.text "msg_type", .scalar (.bool true)),
     (.text "layout", .list [item "component" "C"])]])]

/-- The dictionary of the document with names that are used more than once. -/
def ofRepeated : Dictionary :=
  let a : Field := ⟨3, "A", .string, []⟩
  let b : Field := ⟨12, "B", .string, []⟩
  let layout := [.component "C" [.field a false] false,
    .group b [.group a [.component "D" [] false] false] false]
  ⟨"FIX.5.0", [⟨10, "A", .int, []⟩, b, a], [⟨"C", layout⟩, ⟨"D", []⟩],
    [⟨"M", "True", [.component "C" layout false]⟩]⟩

theorem describes_repeated : (ofEntries repeated).result = .ok ofRepeated ∧
    Describes repeated ofRepeated [.unknownType "TEXT" "B", .unknownType "?" "A"] := by
  have h : (ofEntries repeated).result = .ok ofRepeated := rfl
  exact ⟨h, describes_of_result_eq_ok h⟩

end FixBindings.Dictionary
