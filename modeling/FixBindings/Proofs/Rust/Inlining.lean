import FixBindings.Rust.Module

/-!
# Inlined components

A layout in which every component is replaced by its own items, each of which is required only if the
component is. To expand components while the members of a struct are collected comes to the same as to
collect the members of the inlined layout: the code and the events are the same, for a message and for
a whole module.
-/

namespace FixBindings.Dictionary

/-- The items of a layout with those of each component in its place, at any depth, where `required`
tells whether the items around the layout are required. Groups, and items of which only the kind is
known, are kept as they are. -/
def inlined (required : Bool) : List Item → List Item
  | [] => []
  | .field f r :: items => .field f (required && r) :: inlined required items
  | .component _ layout r :: items => inlined (required && r) layout ++ inlined required items
  | .group leader layout r :: items => .group leader layout r :: inlined required items
  | .bare kind r :: items => .bare kind r :: inlined required items

/-- The message with its components inlined. -/
def Message.inlined (m : Message) : Message :=
  { m with layout := Dictionary.inlined true m.layout }

end Dictionary

/-- The dictionary with the components of its messages inlined. -/
def Dictionary.inlineMessages (d : Dictionary) : Dictionary :=
  { d with messages := d.messages.map Dictionary.Message.inlined }

namespace Rust

open Dictionary Calendar

/-! ## Walks -/

/-- A walk over two layouts meets the items of the first and then those of the second. -/
theorem occurrences_append (expand required : Bool) (xs ys : List Item) :
    occurrences expand required (xs ++ ys) =
      occurrences expand required xs ++ occurrences expand required ys := by
  induction xs with
  | nil => simp [occurrences]
  | cons x xs ih => cases x <;> simp [occurrences, ih]

/-- A walk over an inlined layout meets what a walk that expands components meets in the layout,
whether or not it would expand components itself. -/
theorem occurrences_inlined (expand required : Bool) (items : List Item) :
    occurrences expand true (inlined required items) = occurrences true required items := by
  fun_induction inlined required items with
  | case1 => simp [occurrences]
  | case2 required f r items ih => rw [occurrences, occurrences, ih, Bool.true_and]
  | case3 required name layout r items ihl ih =>
    rw [occurrences_append, occurrences, if_pos rfl, ihl, ih]
  | case4 required leader layout r items ih => rw [occurrences, occurrences, ih]
  | case5 required kind r items ih => rw [occurrences, occurrences, ih]

/-! ## Messages -/

variable (o : Options) (version : String) (m : Message)

/-- The members of a message and its events come out of the same walk. -/
theorem messageOutcomes_inlined (expand : Bool) :
    messageOutcomes { o with expandComponents := expand } m.inlined =
      messageOutcomes { o with expandComponents := true } m := by
  rw [messageOutcomes, messageOutcomes, Message.inlined, occurrences_inlined]
  rfl

/-- The struct of a message and the events about it are the same when its components are expanded and
when its components are inlined and not expanded. -/
theorem messageStruct_inlined :
    messageStruct { o with expandComponents := true } version m =
      messageStruct { o with expandComponents := false } version m.inlined ∧
    messageEvents { o with expandComponents := true } m =
      messageEvents { o with expandComponents := false } m.inlined := by
  have h := messageOutcomes_inlined o m false
  constructor
  · have htext : structText { o with expandComponents := true } version m =
        structText { o with expandComponents := false } version m.inlined := by
      funext literal
      rw [structText, structText, messageMembers, messageMembers, h]
      rfl
    rw [messageStruct, messageStruct, htext]
    rfl
  · rw [messageEvents, messageEvents, h]

/-! ## Modules -/

/-- The definitions of fields do not depend on whether components are expanded. -/
theorem fieldFragments_expandComponents (expand : Bool) (fs : List Field) :
    fieldFragments { o with expandComponents := expand } version fs = fieldFragments o version fs := by
  induction fs with
  | nil => rfl
  | cons f fs ih =>
    rw [fieldFragments, fieldFragments, ih]
    rfl

/-- The structs of messages, and the events about them, are those of the inlined messages. -/
theorem messageFragments_inlined (ms : List Message) :
    messageFragments { o with expandComponents := true } version ms =
      messageFragments { o with expandComponents := false } version (ms.map Message.inlined) := by
  induction ms with
  | nil => rfl
  | cons m ms ih =>
    obtain ⟨hstruct, hevents⟩ := messageStruct_inlined o version m
    rw [List.map_cons, messageFragments, messageFragments, ih, tracedStruct, tracedStruct, hstruct,
      hevents]

/-- The module of a dictionary with its components expanded, and all that is told on the way to it, is
that of the dictionary with its components inlined. -/
theorem generate_inlineMessages (now : LocalTime) (d : Dictionary) :
    generate { o with expandComponents := true } now d =
      generate { o with expandComponents := false } now d.inlineMessages := by
  have hmessages : includedMessages { o with expandComponents := false } d.inlineMessages =
      (includedMessages { o with expandComponents := true } d).map Message.inlined := by
    simp only [includedMessages, Dictionary.inlineMessages]
    split <;> rfl
  rw [generate, generate, fieldFragments_expandComponents o _ true,
    fieldFragments_expandComponents o _ false, hmessages, ← messageFragments_inlined]
  rfl

end Rust

end FixBindings
