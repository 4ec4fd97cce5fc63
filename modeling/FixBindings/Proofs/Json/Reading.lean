import FixBindings.Json.Reader
import FixBindings.Proofs.Dictionary.Refusal
import FixBindings.Proofs.Number.Numeral

/-!
# Values of JSON texts

What may come of a JSON text. The integers of its value have no more digits than can be written. When
an integer has too many digits, they stand in the text one after another. Both are carried through the
reader by one property of what reading a part of a text comes to.
-/

namespace FixBindings.Json

open Document Number

/-- The text has `n` digits one after another. -/
def HasDigits (n : Nat) (text : List Char) : Prop :=
  ∃ ds, ds <:+: text ∧ (∀ c ∈ ds, c.isDigit) ∧ ds.length = n

/-- Reading a part of a text comes to a result with a property and leaves an end of the text, or the
text is malformed, or it has too many digits one after another. -/
def Reads {α : Type} (P : α → Prop) (text : List Char) : Except Error (α × Cursor) → Prop
  | .ok (a, k) => P a ∧ k.rest <:+ text
  | .error (.integerTooLong n) => maxIntegerDigits < n ∧ HasDigits n text
  | .error (.malformed _ _) => True

namespace Reads

variable {α β : Type} {P : α → Prop} {Q : β → Prop} {text rest : List Char}
  {x : Except Error (α × Cursor)} {f : α × Cursor → Except Error (β × Cursor)}

/-- Nothing has been read. -/
theorem fail (c : Cursor) (fault : Fault) : Reads P text (c.fail fault) :=
  trivial

/-- What an end of a text comes to. -/
theorem mono (h : Reads P rest x) (hrest : rest <:+ text) : Reads P text x := by
  match x, h with
  | .ok _, ⟨ha, hk⟩ => exact ⟨ha, hk.trans hrest⟩
  | .error (.integerTooLong _), ⟨hn, ds, hds, hdigits⟩ =>
    exact ⟨hn, ds, hds.trans hrest.isInfix, hdigits⟩
  | .error (.malformed _ _), _ => trivial

/-- One part after another. -/
theorem bind (hx : Reads P text x) (hf : ∀ a k, P a → Reads Q k.rest (f (a, k))) :
    Reads Q text (x >>= f) := by
  match x, hx with
  | .ok (a, k), ⟨ha, hk⟩ => exact (hf a k ha).mono hk
  | .error (.integerTooLong _), hdigits => exact hdigits
  | .error (.malformed _ _), _ => trivial

/-- A part that starts behind `n` characters and ends what is read. -/
theorem map {g : α → β} (n : Nat) (hx : Reads P (text.drop n) x) (hg : ∀ a, P a → Q (g a)) :
    Reads Q text (do let (a, k) ← x; return (g a, k)) :=
  (hx.mono (List.drop_suffix n text)).bind fun a _ ha ↦ ⟨hg a ha, List.suffix_rfl⟩

end Reads

end FixBindings.Json
