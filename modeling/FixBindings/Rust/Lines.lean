/-!
# Lines of code

Generated code is a list of lines.
-/

namespace FixBindings.Rust

/-- The text of lines, each of which ends with a line feed. -/
def unlines : List String → String
  | [] => ""
  | l :: ls => l ++ "\n" ++ unlines ls

@[simp] theorem unlines_nil : unlines [] = "" := rfl

@[simp] theorem unlines_cons (l : String) (ls : List String) :
    unlines (l :: ls) = l ++ "\n" ++ unlines ls := rfl

/-- The text of two lists of lines is the text of the first before the text of the second. -/
theorem unlines_append (xs ys : List String) : unlines (xs ++ ys) = unlines xs ++ unlines ys := by
  induction xs with
  | nil => simp
  | cons x xs ih => simp [ih, String.append_assoc]

end FixBindings.Rust
