/-!
# Runs and pieces of a list

Two ways to cut a list: into the maximal runs of elements that satisfy a predicate, with the other
elements dropped, and into pieces at the positions that a cutting rule names, with nothing dropped.
-/

namespace FixBindings.Text

variable {α : Type _}

/-- Put `a` in front of the first list. -/
def consHead (a : α) : List (List α) → List (List α)
  | [] => [[a]]
  | l :: ls => (a :: l) :: ls

/-- The maximal runs of consecutive elements that satisfy `p`, in order. -/
def runs (p : α → Bool) : List α → List (List α)
  | [] => []
  | [a] => if p a then [[a]] else []
  | a :: b :: as =>
    if p a then
      if p b then consHead a (runs p (b :: as)) else [a] :: runs p (b :: as)
    else runs p (b :: as)

/-- The list cut before each element `b` for which `cut a b as` holds, where `a` stands before `b`
and `as` after it. -/
def pieces (cut : α → α → List α → Bool) : List α → List (List α)
  | [] => []
  | [a] => [[a]]
  | a :: b :: as =>
    if cut a b as then [a] :: pieces cut (b :: as) else consHead a (pieces cut (b :: as))

@[simp] theorem runs_nil (p : α → Bool) : runs p [] = [] := rfl

@[simp] theorem pieces_nil (cut : α → α → List α → Bool) : pieces cut [] = [] := rfl

@[simp] theorem flatten_consHead (a : α) (ls : List (List α)) :
    (consHead a ls).flatten = a :: ls.flatten := by
  cases ls <;> rfl

end FixBindings.Text
