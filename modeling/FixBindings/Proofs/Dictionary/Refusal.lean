import FixBindings.Dictionary.Load
import FixBindings.Proofs.Dictionary.Loading

/-!
# Refusals

Why a document is refused whose integers can be written: always for a reason that the program expects
and reports, never because a value cannot be written.
-/

namespace FixBindings.Dictionary

open Document

/-! ## Values that can be written -/

/-- A value under a key of entries that can be written can be written. -/
theorem isPrintable_of_get? {key : String} {entries : Entries} {v : Value}
    (hp : Value.areEntriesPrintable entries) (h : Entries.get? key entries = some v) :
    v.isPrintable := by
  induction entries with
  | nil => cases h
  | cons p entries ih =>
    obtain ⟨k, w⟩ := p
    simp only [Value.areEntriesPrintable, Bool.and_eq_true] at hp
    rw [Entries.get?] at h
    split at h
    · obtain rfl := Option.some.inj h
      exact hp.1.2
    · exact ih hp.2 h

/-- The items of a list can be written if and only if each of them can. -/
theorem arePrintable_iff {vs : List Value} :
    Value.arePrintable vs ↔ ∀ v ∈ vs, v.isPrintable := by
  induction vs with
  | nil => simp [Value.arePrintable]
  | cons v vs ih => simp [Value.arePrintable, ih]

/-- The items of a list under a key of entries that can be written can be written. -/
theorem isPrintable_of_mem {key : String} {entries : Entries} {vs : List Value}
    (hp : Value.areEntriesPrintable entries) (h : HoldsList key entries vs) :
    ∀ v ∈ vs, v.isPrintable := by
  rcases h with h | h | h
  · simp
  · simp
  · have := isPrintable_of_get? hp h
    rw [Value.isPrintable] at this
    exact arePrintable_iff.mp this

/-! ## Expected errors -/

/-- A computation ends in a result or in an error that the program expects. -/
def Explains {α : Type} (x : Except SchemaError α) : Prop :=
  ∀ e, x = .error e → (LoadError.schema e).isExpected

namespace Explains

variable {α β : Type} {x : Except SchemaError α} {f : α → Except SchemaError β} {e : SchemaError}

theorem ok (a : α) : Explains (.ok a : Except SchemaError α) :=
  fun _ h ↦ nomatch h

theorem error (h : (LoadError.schema e).isExpected) : Explains (.error e : Except SchemaError α) := by
  intro e' he
  cases he
  exact h

/-- One computation after another. -/
theorem bind (hx : Explains x) (hf : ∀ a, x = .ok a → Explains (f a)) : Explains (x >>= f) := by
  cases x with
  | error e => exact .error (hx e rfl)
  | ok a => exact hf a rfl

/-- The refusal of a value that can be written shows the value. -/
theorem refusal {v : Value} {e : Value → SchemaError} (hp : v.isPrintable)
    (he : (LoadError.schema (e v)).isExpected) :
    Explains (.error (refusal v e) : Except SchemaError α) := by
  rw [Dictionary.refusal, if_pos hp]
  exact .error he

/-- A computation on each element of a list. -/
theorem mapM {as : List α} (h : ∀ a ∈ as, Explains (f a)) : Explains (as.mapM f) := by
  induction as with
  | nil => exact .ok _
  | cons a as ih =>
    rw [List.mapM_cons]
    refine (h a List.mem_cons_self).bind fun b _ ↦ ?_
    exact (ih fun a' ha' ↦ h a' (List.mem_cons_of_mem _ ha')).bind fun _ _ ↦ .ok _

/-- One computation with events after another. -/
theorem andThen {t : Traced SchemaError α} {f : α → Traced SchemaError β} (ht : Explains t.result)
    (hf : ∀ a, t.result = .ok a → Explains (f a).result) : Explains (t.andThen f).result := by
  rw [Traced.result_andThen]
  exact ht.bind hf

end Explains

/-! ## Parts of documents -/

theorem explains_textOf {v : Value} (hp : v.isPrintable) : Explains (textOf v) := by
  rw [textOf, if_pos hp]
  exact .ok _

theorem explains_entriesOf {place : Place} {v : Value} (hp : v.isPrintable) :
    Explains (entriesOf place v) := by
  unfold entriesOf
  split
  · exact .ok _
  · exact .refusal hp rfl

theorem explains_required {key : String} {place : Place} {v : Value} (hp : v.isPrintable) :
    Explains (required key place v) := by
  refine (explains_entriesOf hp).bind fun entries _ ↦ ?_
  split
  · split
    · exact .refusal hp rfl
    · exact .ok _
  · exact .refusal hp rfl

/-- A required value can be written when the whole can. -/
theorem isPrintable_of_required {key : String} {place : Place} {v w : Value} (hp : v.isPrintable)
    (h : required key place v = .ok w) : w.isPrintable := by
  obtain ⟨entries, rfl, hget, -⟩ := required_eq_ok.mp h
  exact isPrintable_of_get? hp hget

theorem explains_required_textOf {key : String} {place : Place} {v : Value} (hp : v.isPrintable) :
    Explains (required key place v >>= textOf) :=
  (explains_required hp).bind fun _ hw ↦ explains_textOf (isPrintable_of_required hp hw)

theorem explains_listAt {key : String} {place : Place} {entries : Entries}
    (hp : Value.areEntriesPrintable entries) : Explains (listAt key place entries) := by
  rw [listAt]
  cases hget : Entries.get? key entries with
  | none => exact .ok _
  | some v =>
    have hv := isPrintable_of_get? hp hget
    rw [Option.getD_some]
    unfold itemsOf
    split
    · exact .ok _
    · exact .ok _
    · exact .refusal hv rfl

/-- The items of a list can be written when the whole can. -/
theorem isPrintable_of_listAt {key : String} {place : Place} {entries : Entries} {vs : List Value}
    (hp : Value.areEntriesPrintable entries) (h : listAt key place entries = .ok vs) :
    ∀ v ∈ vs, v.isPrintable :=
  isPrintable_of_mem hp (listAt_eq_ok.mp h)

/-! ## Fields -/

theorem explains_enumOf {field : String} {v : Value} (hp : v.isPrintable) :
    Explains (enumOf field v) := by
  refine (explains_required hp).bind fun w hw ↦ ?_
  refine (explains_textOf (isPrintable_of_required hp hw)).bind fun value _ ↦ ?_
  refine (explains_entriesOf hp).bind fun entries hentries ↦ ?_
  obtain rfl := entriesOf_eq_ok.mp hentries
  split
  · rename_i d hd
    obtain ⟨hget, -⟩ := Option.filter_eq_some_iff.mp hd
    exact (explains_textOf (isPrintable_of_get? hp hget)).bind fun _ _ ↦ .ok _
  · exact .ok _

theorem explains_fieldOf {v : Value} (hp : v.isPrintable) : Explains (fieldOf v).result := by
  refine .andThen (explains_required_textOf hp) fun name _ ↦ ?_
  refine .andThen (explains_required hp) fun tagValue htag ↦ ?_
  have hvalues (tag : Int) (t : DataType) :
      Explains ((Traced.ofExcept (entriesOf (.fieldNamed name) v)).andThen fun entries ↦
        (Traced.ofExcept (listAt "values" (.fieldNamed name) entries)).andThen fun vs ↦
        (Traced.ofExcept (vs.mapM (enumOf name))).andThen fun enums ↦
        Traced.ok (⟨tag, name, t, enums⟩ : Field)).result := by
    refine .andThen (explains_entriesOf hp) fun entries hentries ↦ ?_
    obtain rfl := entriesOf_eq_ok.mp hentries
    refine .andThen (explains_listAt hp) fun vs hvs ↦ ?_
    have hprintable := isPrintable_of_listAt hp hvs
    exact .andThen (.mapM fun v hv ↦ explains_enumOf (hprintable v hv)) fun _ _ ↦ .ok _
  split
  · exact .refusal (isPrintable_of_required hp htag) rfl
  · refine .andThen (explains_required_textOf hp) fun typeName _ ↦ ?_
    split
    · exact hvalues _ _
    · exact .andThen (.ok _) fun _ _ ↦ hvalues _ _

theorem explains_fieldsOf {vs : List Value} (hp : ∀ v ∈ vs, v.isPrintable) :
    Explains (fieldsOf vs).result := by
  induction vs with
  | nil => exact .ok _
  | cons v vs ih =>
    rw [List.forall_mem_cons] at hp
    refine .andThen (explains_fieldOf hp.1) fun f _ ↦ ?_
    exact .andThen (ih hp.2) fun _ _ ↦ .ok _

/-! ## Layouts -/

variable {s : Scope} {owner : String}

theorem Scope.explains_fieldOf {v : Value} (hp : v.isPrintable) : Explains (s.fieldOf owner v) := by
  refine (explains_textOf hp).bind fun name _ ↦ ?_
  split
  · exact .ok _
  · exact .error rfl

theorem Scope.explains_componentOf {v : Value} (hp : v.isPrintable) :
    Explains (s.componentOf owner v) := by
  refine (explains_textOf hp).bind fun name _ ↦ ?_
  split
  · exact .ok _
  · exact .error rfl

theorem explains_itemOf {v : Value} (hp : v.isPrintable) : Explains (itemOf s owner v) := by
  induction v using layoutInduction with
  | h v ih =>
    cases v with
    | scalar c => exact .refusal hp rfl
    | list items => exact .refusal hp rfl
    | mapping entries =>
      simp only [itemOf]
      split
      · rename_i v hget
        exact (Scope.explains_fieldOf (isPrintable_of_get? hp hget)).bind fun _ _ ↦ .ok _
      split
      · rename_i v hget
        exact (Scope.explains_componentOf (isPrintable_of_get? hp hget)).bind fun _ _ ↦ .ok _
      split
      · rename_i v hget
        refine (Scope.explains_fieldOf (isPrintable_of_get? hp hget)).bind fun f _ ↦ ?_
        rw [groupLayout_eq]
        refine (explains_listAt hp |>.bind fun items hitems ↦ ?_).bind fun _ _ ↦ .ok _
        rw [layoutOf_eq_mapM]
        exact .mapM fun i hi ↦
          ih entries items rfl (listAt_eq_ok.mp hitems) i hi (isPrintable_of_listAt hp hitems i hi)
      · exact .refusal hp rfl

theorem explains_layoutOf {vs : List Value} (hp : ∀ v ∈ vs, v.isPrintable) :
    Explains (layoutOf s owner vs) := by
  rw [layoutOf_eq_mapM]
  exact .mapM fun v hv ↦ explains_itemOf (hp v hv)

/-! ## Documents -/

theorem explains_componentOf {v : Value} (hp : v.isPrintable) : Explains (componentOf s v) := by
  refine (explains_required hp).bind fun w hw ↦ ?_
  refine (explains_textOf (isPrintable_of_required hp hw)).bind fun name _ ↦ ?_
  refine (explains_entriesOf hp).bind fun entries hentries ↦ ?_
  obtain rfl := entriesOf_eq_ok.mp hentries
  refine (explains_listAt hp).bind fun items hitems ↦ ?_
  exact (explains_layoutOf (isPrintable_of_listAt hp hitems)).bind fun _ _ ↦ .ok _

theorem explains_scopeOf {vs : List Value} (hp : ∀ v ∈ vs, v.isPrintable) :
    Explains (scopeOf s vs) := by
  induction vs generalizing s with
  | nil => exact .ok _
  | cons v vs ih =>
    rw [List.forall_mem_cons] at hp
    exact (explains_componentOf hp.1).bind fun c _ ↦ ih hp.2

theorem explains_messageOf {v : Value} (hp : v.isPrintable) : Explains (messageOf s v) := by
  refine (explains_required hp).bind fun w hw ↦ ?_
  refine (explains_textOf (isPrintable_of_required hp hw)).bind fun name _ ↦ ?_
  refine (explains_required hp).bind fun u hu ↦ ?_
  refine (explains_textOf (isPrintable_of_required hp hu)).bind fun msgType _ ↦ ?_
  refine (explains_entriesOf hp).bind fun entries hentries ↦ ?_
  obtain rfl := entriesOf_eq_ok.mp hentries
  refine (explains_listAt hp).bind fun items hitems ↦ ?_
  exact (explains_layoutOf (isPrintable_of_listAt hp hitems)).bind fun _ _ ↦ .ok _

/-- A document whose integers can be written is read or refused for a reason that is expected. -/
theorem explains_ofEntries {entries : Entries} (hp : Value.areEntriesPrintable entries) :
    Explains (ofEntries entries).result := by
  have hdocument : (Value.mapping entries).isPrintable := hp
  refine .andThen (explains_required hdocument) fun version hversion ↦ ?_
  refine .andThen (explains_listAt hp) fun fvs hfvs ↦ ?_
  refine .andThen (explains_fieldsOf (isPrintable_of_listAt hp hfvs)) fun fields _ ↦ ?_
  refine .andThen (explains_listAt hp) fun cvs hcvs ↦ ?_
  refine .andThen (explains_scopeOf (isPrintable_of_listAt hp hcvs)) fun scope _ ↦ ?_
  refine .andThen (explains_listAt hp) fun mvs hmvs ↦ ?_
  have hprintable := isPrintable_of_listAt hp hmvs
  refine .andThen (.mapM fun v hv ↦ explains_messageOf (hprintable v hv)) fun messages _ ↦ ?_
  refine .andThen (explains_textOf (isPrintable_of_required hdocument hversion)) fun _ _ ↦ ?_
  exact .ok _

end FixBindings.Dictionary
