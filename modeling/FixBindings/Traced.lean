import FixBindings.Event

/-!
# Computations that tell events

A result or an error together with the events that were told on the way to it. The events before an
error are kept.
-/

namespace FixBindings

/-- A result or an error, and the events told before it. -/
structure Traced (ε α : Type _) where
  /-- The events, in order. -/
  events : List Event
  /-- The result or the error. -/
  result : Except ε α

namespace Traced

variable {ε : Type _} {α β : Type _}

/-- A result without events. -/
def ok (a : α) : Traced ε α := ⟨[], .ok a⟩

/-- An error. -/
def fail (e : ε) : Traced ε α := ⟨[], .error e⟩

/-- An event. -/
def tell (e : Event) : Traced ε Unit := ⟨[e], .ok ()⟩

/-- A result or an error without events. -/
def ofExcept (x : Except ε α) : Traced ε α := ⟨[], x⟩

/-- One computation after another, unless the first one ends in an error. -/
def andThen (x : Traced ε α) (f : α → Traced ε β) : Traced ε β :=
  match x.result with
  | .error e => ⟨x.events, .error e⟩
  | .ok a => ⟨x.events ++ (f a).events, (f a).result⟩

instance : Monad (Traced ε) where
  pure := ok
  bind := andThen

/-- The computation with its error put in other words. -/
def mapError {ε' : Type _} (f : ε → ε') (x : Traced ε α) : Traced ε' α :=
  ⟨x.events, x.result.mapError f⟩

@[simp] theorem events_ok (a : α) : (ok a : Traced ε α).events = [] := rfl

@[simp] theorem result_ok (a : α) : (ok a : Traced ε α).result = .ok a := rfl

@[simp] theorem pure_eq_ok (a : α) : (pure a : Traced ε α) = ok a := rfl

@[simp] theorem bind_eq_andThen (x : Traced ε α) (f : α → Traced ε β) : x >>= f = x.andThen f := rfl

/-- The result of two computations is that of the second on the result of the first. -/
theorem result_andThen (x : Traced ε α) (f : α → Traced ε β) :
    (x.andThen f).result = x.result.bind fun a ↦ (f a).result := by
  rcases x with ⟨es, _ | a⟩ <;> rfl

instance : LawfulMonad (Traced ε) := LawfulMonad.mk' (Traced ε)
  (fun x ↦ by
    rcases x with ⟨es, _ | a⟩
    · rfl
    · simp [Functor.map, andThen, ok])
  (fun a f ↦ by simp [andThen])
  (fun x f g ↦ by
    rcases x with ⟨es, _ | a⟩
    · rfl
    · simp only [bind_eq_andThen, andThen]
      rcases f a with ⟨fs, _ | b⟩
      · rfl
      · simp)

end Traced

end FixBindings
