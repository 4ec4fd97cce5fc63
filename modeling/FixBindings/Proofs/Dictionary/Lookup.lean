import FixBindings.Proofs.Dictionary.Description

/-!
# Look-up in a scope

A scope finds the last field of a name and the last component of a name among those that have been
built, although it keeps the components with different names only.
-/

namespace FixBindings.Dictionary

/-! ## Look-up -/

section

variable {α : Type _} {key : α → String} {as bs : List α} {k : String} {a b : α}

/-- The last element with a key is the first one from the end. -/
theorem find?_reverse_eq_some_iff :
    (as.reverse.find? fun a ↦ key a == k) = some a ↔ IsLast key as k a := by
  simp only [List.find?_eq_some_iff_append, beq_iff_eq, Bool.not_eq_true', beq_eq_false_iff_ne]
  constructor
  · rintro ⟨hk, after, before, heq, hne⟩
    refine ⟨before.reverse, after.reverse, ?_, hk, fun b hb ↦ hne b (List.mem_reverse.mp hb)⟩
    rw [← List.reverse_reverse as, heq]
    simp
  · rintro ⟨before, after, rfl, hk, hne⟩
    exact ⟨hk, after.reverse, before.reverse, by simp, fun b hb ↦ hne b (List.mem_reverse.mp hb)⟩

/-- There is one last element with a key at most. -/
theorem IsLast.unique (ha : IsLast key as k a) (hb : IsLast key as k b) : a = b :=
  Option.some.inj ((find?_reverse_eq_some_iff.mpr ha).symm.trans (find?_reverse_eq_some_iff.mpr hb))

/-- There is a last element with each key of the elements. -/
theorem exists_isLast_iff : (∃ a, IsLast key as k a) ↔ k ∈ as.map key := by
  simp only [← find?_reverse_eq_some_iff, ← Option.isSome_iff_exists, List.find?_isSome,
    List.mem_reverse, beq_iff_eq, List.mem_map]

/-- A further element is the last one with its key. -/
theorem isLast_append_self : IsLast key (as ++ [a]) (key a) a :=
  ⟨as, [], rfl, rfl, by simp⟩

/-- The last element with a key has that key. -/
theorem IsLast.key_eq (h : IsLast key as k a) : key a = k := by
  obtain ⟨_, _, -, hk, -⟩ := h
  exact hk

/-- Further elements with other keys change nothing. -/
theorem IsLast.append (h : IsLast key as k a) (hne : ∀ b ∈ bs, key b ≠ k) :
    IsLast key (as ++ bs) k a := by
  obtain ⟨before, after, rfl, hk, hafter⟩ := h
  refine ⟨before, after ++ bs, by simp, hk, fun b hb ↦ ?_⟩
  exact (List.mem_append.mp hb).elim (hafter b) (hne b)

/-- A further element with another key changes nothing. -/
theorem IsLast.append_of_ne (h : IsLast key as k a) (hne : key b ≠ k) :
    IsLast key (as ++ [b]) k a :=
  h.append (List.forall_mem_singleton.mpr hne)

end

/-! ## Components with different names -/

variable {built components : List Component} {s : Scope}

/-- A name among those that have been built is a name of the components. -/
theorem Merges.mem_names_iff (h : Merges built components) {name : String} :
    name ∈ components.map Component.name ↔ name ∈ built.map Component.name := by
  rw [h.names, List.mem_eraseDups]

/-- The component of a name is the last one that has been built. -/
theorem Scope.component?_eq_some (h : Merges built s.components) {name : String} {c : Component} :
    s.component? name = some c ↔ IsLast Component.name built name c := by
  have hlast {c : Component} (hc : s.component? name = some c) :
      IsLast Component.name built name c := by
    have hname : c.name = name := by simpa using List.find?_some hc
    exact hname ▸ h.last c (List.mem_of_find?_eq_some hc)
  constructor
  · exact hlast
  · intro hc
    have hmem : name ∈ s.components.map Component.name :=
      h.mem_names_iff.mpr (exists_isLast_iff.mp ⟨c, hc⟩)
    obtain ⟨c', hc'⟩ : ∃ c', s.component? name = some c' := by
      rw [← Option.isSome_iff_exists, Scope.component?, List.find?_isSome]
      simpa using hmem
    rw [hc', (hlast hc').unique hc]

theorem Scope.field?_eq_some {name : String} {f : Field} :
    s.field? name = some f ↔ IsLast Field.name s.fields name f :=
  find?_reverse_eq_some_iff

/-- Whether a further name is new decides whether it adds to the different names. -/
theorem eraseDups_concat {names : List String} {name : String} :
    (names ++ [name]).eraseDups =
      if name ∈ names then names.eraseDups else names.eraseDups ++ [name] := by
  rw [List.eraseDups_append]
  split <;> rename_i h <;> simp [List.removeAll, List.eraseDups_cons, h]

@[simp] theorem Scope.fields_insert (s : Scope) (c : Component) : (s.insert c).fields = s.fields := by
  unfold Scope.insert
  split <;> rfl

/-- A further component takes the place of the one that had its name, or the last place. -/
theorem Merges.insert (h : Merges built s.components) (c : Component) :
    Merges (built ++ [c]) (s.insert c).components := by
  have hmem : (s.components.any fun d ↦ d.name == c.name) = true ↔
      c.name ∈ built.map Component.name := by
    rw [← h.mem_names_iff]
    simp
  have hkeep {d : Component} (hd : d ∈ s.components) (hne : d.name ≠ c.name) :
      IsLast Component.name (built ++ [c]) d.name d :=
    (h.last d hd).append_of_ne (Ne.symm hne)
  unfold Scope.insert
  split
  · rename_i hany
    refine ⟨?_, fun d hd ↦ ?_⟩
    · have hnames : (s.components.map fun d ↦ if d.name == c.name then c else d).map Component.name =
          s.components.map Component.name := by
        rw [List.map_map]
        refine List.map_congr_left fun d _ ↦ ?_
        by_cases hd : d.name = c.name <;> simp [hd]
      rw [hnames, h.names, List.map_append, List.map_singleton, eraseDups_concat,
        if_pos (hmem.mp hany)]
    · obtain ⟨d', hd', rfl⟩ := List.mem_map.mp hd
      by_cases hname : d'.name = c.name
      · simpa [hname] using isLast_append_self
      · simpa [hname] using hkeep hd' hname
  · rename_i hany
    have hnew := mt hmem.mpr hany
    refine ⟨?_, fun d hd ↦ ?_⟩
    · rw [List.map_append, h.names, List.map_append, List.map_singleton, eraseDups_concat,
        if_neg hnew]
    · rcases List.mem_append.mp hd with hd | hd
      · refine hkeep hd fun hname ↦ hnew ?_
        rw [← h.mem_names_iff, ← hname]
        exact List.mem_map_of_mem hd
      · obtain rfl := List.mem_singleton.mp hd
        exact isLast_append_self

theorem merges_nil : Merges [] [] :=
  ⟨rfl, by simp⟩

/-- What has been built has one list of components with different names. -/
theorem Merges.unique {components' : List Component} (h : Merges built components)
    (h' : Merges built components') : components = components' := by
  have hnames := h.names.trans h'.names.symm
  refine List.ext_getElem (by simpa using congrArg List.length hnames) fun i hi hi' ↦ ?_
  have hname : components[i].name = components'[i].name := by
    have := congrArg (·[i]?) hnames
    simpa [hi, hi'] using this
  have hlast := h.last _ (List.getElem_mem hi)
  rw [hname] at hlast
  exact hlast.unique (h'.last _ (List.getElem_mem hi'))

end FixBindings.Dictionary
