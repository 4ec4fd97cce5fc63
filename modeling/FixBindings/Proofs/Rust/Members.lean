import FixBindings.Rust.MessageStruct

/-!
# Members of structs

A member of a struct is that of the first field of its name that a walk over the layout meets; whether
it is required is what the walk tells of this first one.
-/

namespace FixBindings.Rust

open Dictionary

@[simp] theorem Member.identifier_ofField (crate : String) (f : Field) (required : Bool) :
    (ofField crate f required).identifier = memberIdentifier f := by
  simp only [ofField]

@[simp] theorem Member.type_ofField (crate : String) (f : Field) (required : Bool) :
    (ofField crate f required).type = optional ((fieldType f).spell .borrowed crate) required := by
  simp only [ofField]

@[simp] theorem Member.field_ofField (crate : String) (f : Field) (required : Bool) :
    (ofField crate f required).field = f := by
  simp only [ofField]

@[simp] theorem Outcome.member?_member (x : Member) : (member x).member? = some x := rfl

@[simp] theorem Outcome.member?_omitted (e : Event) : (omitted e).member? = none := rfl

@[simp] theorem Outcome.event?_member (x : Member) : (member x).event? = none := rfl

@[simp] theorem Outcome.event?_omitted (e : Event) : (omitted e).event? = some e := rfl

/-- A walk meets a field, and no field of the same member name before it. -/
def IsFirst (os : List Occurrence) (f : Field) (required : Bool) : Prop :=
  ∃ before after, os = before ++ .field f required :: after ∧
    ∀ g r, .field g r ∈ before → memberIdentifier g ≠ memberIdentifier f

/-- The first field of its name is so behind something that is no field of this name. -/
theorem IsFirst.cons {os : List Occurrence} {f : Field} {required : Bool} (h : IsFirst os f required)
    {x : Occurrence} (hx : ∀ g r, x = .field g r → memberIdentifier g ≠ memberIdentifier f) :
    IsFirst (x :: os) f required := by
  obtain ⟨before, after, rfl, hbefore⟩ := h
  refine ⟨x :: before, after, rfl, fun g r hg ↦ ?_⟩
  rcases List.mem_cons.mp hg with hg | hg
  · exact hx g r hg.symm
  · exact hbefore g r hg

theorem IsFirst.mem {os : List Occurrence} {f : Field} {required : Bool} (h : IsFirst os f required) :
    .field f required ∈ os := by
  obtain ⟨before, after, rfl, -⟩ := h
  simp

/-- A member among the outcomes of a walk is that of the first field of a name that is not yet in
use. -/
theorem exists_isFirst_of_mem_outcomes {crate message : String} {seen : List String}
    {os : List Occurrence} {x : Member} (hx : .member x ∈ outcomes crate message seen os) :
    ∃ f required, IsFirst os f required ∧ memberIdentifier f ∉ seen ∧
      x = .ofField crate f required := by
  fun_induction outcomes crate message seen os with
  | case1 => simp at hx
  | case2 seen kind os ih =>
    obtain ⟨f, r, hf, hseen, rfl⟩ := ih (by simpa using hx)
    exact ⟨f, r, hf.cons (by simp), hseen, rfl⟩
  | case3 seen f r os name hs ih =>
    obtain ⟨g, r', hg, hseen, rfl⟩ := ih (by simpa using hx)
    refine ⟨g, r', hg.cons ?_, hseen, rfl⟩
    -- The name of the field that is left out is in use, and that of the member is not.
    rintro _ _ ⟨⟩ heq
    exact hseen (heq ▸ by simpa using hs)
  | case4 seen f r os name hs ih =>
    rcases List.mem_cons.mp hx with hx | hx
    · exact ⟨f, r, ⟨[], os, rfl, by simp⟩, by simpa using hs, Outcome.member.inj hx⟩
    · obtain ⟨g, r', hg, hseen, rfl⟩ := ih hx
      rw [List.mem_cons, not_or] at hseen
      refine ⟨g, r', hg.cons ?_, hseen.2, rfl⟩
      rintro _ _ ⟨⟩
      exact Ne.symm hseen.1

/-- A member of a struct is that of the first field of its name in the layout of the message. -/
theorem exists_of_mem_messageMembers {o : Options} {m : Message} {x : Member}
    (hx : x ∈ messageMembers o m) :
    ∃ f required, IsFirst (occurrences o.expandComponents true m.layout) f required ∧
      x = .ofField o.cratePath f required := by
  obtain ⟨y, hy, he⟩ := List.mem_filterMap.mp hx
  cases y with
  | omitted e => cases he
  | member z =>
    obtain rfl : z = x := Option.some.inj he
    obtain ⟨f, r, hf, -, rfl⟩ := exists_isFirst_of_mem_outcomes hy
    exact ⟨f, r, hf, rfl⟩

/-! ## Members for different crates -/

/-- The fields that become members when the names `seen` are in use, with whether they are required. -/
def memberFields (seen : List String) : List Occurrence → List (Field × Bool)
  | [] => []
  | .other _ :: os => memberFields seen os
  | .field f required :: os =>
    if seen.contains (memberIdentifier f) then memberFields seen os
    else (f, required) :: memberFields (memberIdentifier f :: seen) os

/-- Which fields become members does not depend on where the runtime crate is found. -/
theorem filterMap_outcomes (crate message : String) (seen : List String) (os : List Occurrence) :
    (outcomes crate message seen os).filterMap Outcome.member? =
      (memberFields seen os).map fun x ↦ Member.ofField crate x.1 x.2 := by
  fun_induction outcomes crate message seen os with
  | case1 => rfl
  | case2 seen kind os ih => rw [memberFields, ← ih, List.filterMap_cons_none rfl]
  | case3 seen f r os name hs ih =>
    rw [memberFields, if_pos hs, ← ih, List.filterMap_cons_none rfl]
  | case4 seen f r os name hs ih =>
    rw [memberFields, if_neg hs, List.map_cons, ← ih]
    rfl

/-- The members of a struct are those of the fields that become members. -/
theorem messageMembers_eq_map (o : Options) (m : Message) :
    messageMembers o m =
      (memberFields [] (occurrences o.expandComponents true m.layout)).map fun x ↦
        Member.ofField o.cratePath x.1 x.2 :=
  filterMap_outcomes o.cratePath m.name [] _

end FixBindings.Rust
