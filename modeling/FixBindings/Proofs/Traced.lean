import FixBindings.Traced
import Mathlib.Data.List.Forall2

/-!
# Results of computations in sequence

What it takes for a computation that is put together from others to end in a result, with and without
events: each part does, and the events are those of the parts one after another.
-/

namespace FixBindings

variable {ε α β : Type _}

/-- Two computations end in a result if the first does and the second on its result. -/
theorem bind_eq_ok {x : Except ε α} {f : α → Except ε β} {b : β} :
    x >>= f = .ok b ↔ ∃ a, x = .ok a ∧ f a = .ok b := by
  cases x with
  | error e =>
    constructor
    · intro h
      cases h
    · rintro ⟨_, h, _⟩
      cases h
  | ok a =>
    constructor
    · intro h
      exact ⟨a, rfl, h⟩
    · rintro ⟨_, h, hf⟩
      cases h
      exact hf

theorem pure_eq_ok {a b : α} : (pure a : Except ε α) = .ok b ↔ a = b :=
  Except.ok.injEq a b ▸ Iff.rfl

/-- Telling of an error in another way does not change a result. -/
theorem mapError_eq_ok {ε' : Type _} {x : Except ε α} {f : ε → ε'} {a : α} :
    x.mapError f = .ok a ↔ x = .ok a := by
  cases x <;> simp [Except.mapError]

/-- A computation on each element of a list ends in a list of the results. -/
theorem mapM_eq_ok {f : α → Except ε β} {as : List α} {bs : List β} :
    as.mapM f = .ok bs ↔ List.Forall₂ (fun a b ↦ f a = .ok b) as bs := by
  induction as generalizing bs with
  | nil =>
    rw [List.mapM_nil, pure_eq_ok, List.forall₂_nil_left_iff]
    exact eq_comm
  | cons a as ih =>
    simp only [List.mapM_cons, bind_eq_ok, pure_eq_ok, ih, List.forall₂_cons_left_iff]
    constructor
    · rintro ⟨b, hb, bs, hbs, rfl⟩
      exact ⟨b, bs, hb, hbs, rfl⟩
    · rintro ⟨b, bs, hb, hbs, rfl⟩
      exact ⟨b, hb, bs, hbs, rfl⟩

namespace Traced

variable {x : Except ε α} {t : Traced ε α} {f : α → Traced ε β} {a : α} {b : β} {es : List Event}

theorem ok_eq_ok {a' : α} : (ok a : Traced ε α) = ⟨es, .ok a'⟩ ↔ a = a' ∧ es = [] := by
  simp [ok, eq_comm, and_comm]

/-- A computation without events in front of another adds none. -/
theorem ofExcept_andThen_eq_ok :
    (ofExcept x).andThen f = ⟨es, .ok b⟩ ↔ ∃ a, x = .ok a ∧ f a = ⟨es, .ok b⟩ := by
  cases x with
  | error e => simp [ofExcept, andThen]
  | ok a =>
    rcases h : f a with ⟨es', r⟩
    simp [ofExcept, andThen, h]

theorem ok_andThen : (ok a).andThen f = f a := rfl

/-- An event in front of a computation is the first of its events. -/
theorem tell_andThen_eq_ok {e : Event} {f : Unit → Traced ε β} :
    (tell e).andThen f = ⟨es, .ok b⟩ ↔ ∃ es', f () = ⟨es', .ok b⟩ ∧ es = e :: es' := by
  rcases h : f () with ⟨es', r⟩
  simp only [tell, andThen, h, mk.injEq, List.singleton_append]
  constructor
  · rintro ⟨rfl, rfl⟩
    exact ⟨es', ⟨rfl, rfl⟩, rfl⟩
  · rintro ⟨_, ⟨rfl, rfl⟩, rfl⟩
    exact ⟨rfl, rfl⟩

/-- The events of two computations are those of the first and then those of the second. -/
theorem andThen_eq_ok : t.andThen f = ⟨es, .ok b⟩ ↔
    ∃ a es₁ es₂, t = ⟨es₁, .ok a⟩ ∧ f a = ⟨es₂, .ok b⟩ ∧ es = es₁ ++ es₂ := by
  rcases t with ⟨es', e | a⟩
  · simp [andThen]
  · rcases h : f a with ⟨es₂, r⟩
    simp only [andThen, h, mk.injEq, Except.ok.injEq]
    constructor
    · rintro ⟨rfl, rfl⟩
      exact ⟨a, es', es₂, ⟨rfl, rfl⟩, h, rfl⟩
    · rintro ⟨_, _, _, ⟨rfl, rfl⟩, hf, rfl⟩
      rw [h] at hf
      obtain ⟨rfl, rfl⟩ := mk.inj hf
      exact ⟨rfl, rfl⟩

end Traced

end FixBindings
