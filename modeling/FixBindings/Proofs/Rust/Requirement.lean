import FixBindings.Proofs.Rust.StructText

/-!
# Layouts that require more

One layout requires more than another when their items are the same but for required flags that are set,
of any items at any depth. A walk then meets the same things in both, and a field that is required in the first
is so in the second, since the flags on the path to it are only and-ed together. So nothing about the struct
changes but that the types of some members are no options any more.
-/

namespace FixBindings.Dictionary

/-- The second layout has the items of the first, and each item that is required in the first is required in
the second, at any depth. -/
inductive RequiresMore : List Item → List Item → Prop
  /-- Layouts without items. -/
  | nil : RequiresMore [] []
  /-- A field in front. -/
  | field (f : Field) {r s : Bool} {xs ys : List Item} (hr : r ≤ s) (h : RequiresMore xs ys) :
    RequiresMore (.field f r :: xs) (.field f s :: ys)
  /-- A component in front, with its layout. -/
  | component (name : String) {r s : Bool} {layout layout' xs ys : List Item} (hr : r ≤ s)
    (hlayout : RequiresMore layout layout') (h : RequiresMore xs ys) :
    RequiresMore (.component name layout r :: xs) (.component name layout' s :: ys)
  /-- A group in front, with its layout. -/
  | group (leader : Field) {r s : Bool} {layout layout' xs ys : List Item} (hr : r ≤ s)
    (hlayout : RequiresMore layout layout') (h : RequiresMore xs ys) :
    RequiresMore (.group leader layout r :: xs) (.group leader layout' s :: ys)
  /-- An item of which only the kind is known in front. -/
  | bare (kind : ItemKind) {r s : Bool} {xs ys : List Item} (hr : r ≤ s) (h : RequiresMore xs ys) :
    RequiresMore (.bare kind r :: xs) (.bare kind s :: ys)

end FixBindings.Dictionary

namespace FixBindings.Rust

open Dictionary Identifier

/-! ## Walks -/

/-- Two walks meet the same thing, and a field that is required in the first is required in the second. -/
inductive Occurrence.RequiresMore : Occurrence → Occurrence → Prop
  /-- A field. -/
  | field (f : Field) {r s : Bool} (hr : r ≤ s) : RequiresMore (.field f r) (.field f s)
  /-- An item without a member. -/
  | other (kind : ItemKind) : RequiresMore (.other kind) (.other kind)

/-- A walk over a layout that requires more meets the same things in the same order. -/
theorem forall₂_occurrences (expand : Bool) {xs ys : List Item} (h : Dictionary.RequiresMore xs ys)
    {r s : Bool} (hr : r ≤ s) :
    List.Forall₂ Occurrence.RequiresMore (occurrences expand r xs) (occurrences expand s ys) := by
  induction h generalizing r s with
  | nil =>
    rw [occurrences, occurrences]
    exact .nil
  | field f hf _ ih =>
    rw [occurrences, occurrences]
    exact .cons (.field f (inf_le_inf hr hf)) (ih hr)
  | component name hf _ _ ihlayout ih =>
    rw [occurrences, occurrences]
    refine List.rel_append ?_ (ih hr)
    split
    · exact ihlayout (inf_le_inf hr hf)
    · exact .cons (.other .component) .nil
  | group leader _ _ _ _ ih =>
    rw [occurrences, occurrences]
    exact .cons (.other .group) (ih hr)
  | bare kind _ _ ih =>
    rw [occurrences, occurrences]
    exact .cons (.other kind) (ih hr)

/-! ## Members -/

/-- The lines that document a member. -/
def documentationLines (version : String) (x : Member) : List String :=
  (memberLines version x).dropLast

/-- A member is documented and then declared. -/
theorem memberLines_eq (version : String) (x : Member) :
    memberLines version x = documentationLines version x ++ [declarationLine x] := rfl

/-- The member `y` is the member `x`, perhaps without the option around its type. -/
structure Member.Unwraps (version : String) (x y : Member) : Prop where
  /-- The name is the same. -/
  identifier : y.identifier = x.identifier
  /-- The documentation is the same. -/
  documentation : documentationLines version y = documentationLines version x
  /-- The type is the same or that in the option. -/
  type : y.type = x.type ∨ x.type = "::std::option::Option<" ++ y.type ++ ">"
  /-- The type has not become an option. -/
  isOption : IsOption y.type → IsOption x.type

/-- The member of a field that is required more is the same but for an option that is taken away. -/
theorem Member.unwraps_ofField (version crate : String) (f : Field) {r s : Bool} (hr : r ≤ s) :
    Unwraps version (ofField crate f r) (ofField crate f s) where
  identifier := by rw [identifier_ofField, identifier_ofField]
  documentation := by simp only [documentationLines, memberLines, field_ofField, List.dropLast]
  type := by
    rw [type_ofField, type_ofField]
    cases r with
    | true => exact .inl (by rw [Bool.eq_true_of_true_le hr])
    | false =>
      cases s with
      | true => exact .inr rfl
      | false => exact .inl rfl
  isOption := by
    simp only [type_ofField, isOption_optional (getLast?_spell_ne crate f)]
    rintro rfl
    exact Bool.eq_false_of_le_false hr

/-- Something becomes the same member, perhaps without the option around its type, or the same event. -/
inductive Outcome.Unwraps (version : String) : Outcome → Outcome → Prop
  /-- A member. -/
  | member {x y : Member} (h : x.Unwraps version y) : Unwraps version (.member x) (.member y)
  /-- Nothing but an event. -/
  | omitted (e : Event) : Unwraps version (.omitted e) (.omitted e)

/-- Which fields become members does not depend on what is required. -/
theorem forall₂_outcomes (version crate message : String) {os ps : List Occurrence}
    (h : List.Forall₂ Occurrence.RequiresMore os ps) (seen : List String) :
    List.Forall₂ (Outcome.Unwraps version) (outcomes crate message seen os)
      (outcomes crate message seen ps) := by
  induction h generalizing seen with
  | nil => exact .nil
  | cons hx _ ih =>
    cases hx with
    | other kind => exact .cons (.omitted _) (ih seen)
    | field f hr =>
      rw [outcomes, outcomes]
      split
      · exact .cons (.omitted _) (ih seen)
      · exact .cons (.member (Member.unwraps_ofField version crate f hr)) (ih _)

/-- The members among outcomes are the same, perhaps without options. -/
theorem forall₂_filterMap_member? {version : String} {xs ys : List Outcome}
    (h : List.Forall₂ (Outcome.Unwraps version) xs ys) :
    List.Forall₂ (Member.Unwraps version) (xs.filterMap Outcome.member?)
      (ys.filterMap Outcome.member?) := by
  refine List.rel_filterMap ?_ h
  rintro _ _ (h | e)
  · exact .some h
  · exact .none

/-- The events among outcomes are the same. -/
theorem filterMap_event?_eq {version : String} {xs ys : List Outcome}
    (h : List.Forall₂ (Outcome.Unwraps version) xs ys) :
    xs.filterMap Outcome.event? = ys.filterMap Outcome.event? := by
  induction h with
  | nil => rfl
  | cons hx _ ih =>
    cases hx with
    | member =>
      rw [List.filterMap_cons_none (Outcome.event?_member _),
        List.filterMap_cons_none (Outcome.event?_member _), ih]
    | omitted e =>
      rw [List.filterMap_cons_some (Outcome.event?_omitted e),
        List.filterMap_cons_some (Outcome.event?_omitted e), ih]

/-! ## Structs -/

/-- The lines that are written for members. -/
theorem structBodyLines_eq (version : String) (xs : List Member) : structBodyLines version xs =
    markerLine :: xs.flatMap fun x ↦ documentationLines version x ++ [declarationLine x] := by
  rw [structBodyLines, funext (memberLines_eq version)]

/-- The structs of a message with two layouts, where the second requires more, have the same lines but for
those that declare members, or the type of the message cannot be encoded for either. They have the same members in the same order with the same documentation, and the
type of each is the same or that in the option; the events about both are the same. -/
theorem messageStruct_of_requiresMore (o : Options) (version : String) (m : Message) {layout : List Item}
    (h : Dictionary.RequiresMore m.layout layout) :
    let m' : Message := { m with layout := layout }
    (∃ front, ∃ rest : String → List String, ∀ p ∈ [m, m'],
      messageStruct o version p = (byteLiteral m.msgType).map fun literal ↦
        unlines (front ++ ("pub struct " ++ typeName m.name ++ "<'a> \x7b") :: markerLine ::
          ((messageMembers o p).flatMap (fun x ↦ documentationLines version x ++ [declarationLine x]) ++
            "\x7d" :: rest literal))) ∧
    List.Forall₂ (Member.Unwraps version) (messageMembers o m) (messageMembers o m') ∧
    messageEvents o m = messageEvents o m' := by
  intro m'
  have hwalk := forall₂_occurrences o.expandComponents h le_rfl (r := true)
  have houtcomes := forall₂_outcomes version o.cratePath m.name hwalk []
  obtain ⟨front, rest, htext⟩ := exists_messageStruct_eq o version m
  simp only [structBodyLines_eq] at htext
  refine ⟨⟨front, rest, ?_⟩, forall₂_filterMap_member? houtcomes, filterMap_event?_eq houtcomes⟩
  exact List.forall_mem_cons.mpr ⟨htext m.layout, List.forall_mem_singleton.mpr (htext layout)⟩

/-- A message with a component, of which a field comes again behind a group. -/
def order (required : Bool) : Message where
  name := "NewOrderSingle"
  msgType := "D"
  layout := [
    .component "Instrument" [
      .field ⟨55, "Symbol", .string, []⟩ true,
      .component "Leg" [.field ⟨687, "LegQty", .qty, []⟩ false] required] required,
    .group ⟨453, "NoPartyIDs", .numInGroup, []⟩ [.field ⟨448, "PartyID", .string, []⟩ required] false,
    .field ⟨55, "SYMBOL", .string, []⟩ required]

/-- Of the two members in the component that has become required one is required and the other is not. -/
theorem messageStruct_of_requiresMore_order :
    Dictionary.RequiresMore (order false).layout (order true).layout ∧
    (∃ front rest, ∀ p ∈ [order false, order true],
      messageStruct { expandComponents := true } "FIX.4.4" p =
        .ok (unlines (front ++ "pub struct NewOrderSingle<'a> \x7b" :: markerLine ::
          ((messageMembers { expandComponents := true } p).flatMap (fun x ↦
            documentationLines "FIX.4.4" x ++ [declarationLine x]) ++ "\x7d" :: rest)))) ∧
    List.Forall₂ (Member.Unwraps "FIX.4.4") (messageMembers { expandComponents := true } (order false))
      (messageMembers { expandComponents := true } (order true)) ∧
    messageEvents { expandComponents := true } (order false) =
      messageEvents { expandComponents := true } (order true) ∧
    (messageMembers { expandComponents := true } (order false)).map declarationLine =
      ["    pub symbol: ::std::option::Option<&'a [u8]>,",
        "    pub leg_qty: ::std::option::Option<rust_decimal::Decimal>,"] ∧
    (messageMembers { expandComponents := true } (order true)).map declarationLine =
      ["    pub symbol: &'a [u8],", "    pub leg_qty: ::std::option::Option<rust_decimal::Decimal>,"] := by
  have h : Dictionary.RequiresMore (order false).layout (order true).layout :=
    .component _ (by decide) (.field _ (by decide) <|
        .component _ (by decide) (.field _ (by decide) .nil) .nil) <|
      .group _ (by decide) (.field _ (by decide) .nil) <| .field _ (by decide) .nil
  obtain ⟨⟨front, rest, htext⟩, hmembers, hevents⟩ :=
    messageStruct_of_requiresMore { expandComponents := true } "FIX.4.4" (order false) h
  have htype : byteLiteral (order false).msgType = .ok "D" := rfl
  refine ⟨h, ⟨front, rest "D", fun p hp ↦ ?_⟩, hmembers, hevents, ?_, ?_⟩
  · rw [htext p hp, htype]
    rfl
  · simp only [messageMembers_eq_map, order, occurrences]
    decide +kernel
  · simp only [messageMembers_eq_map, order, occurrences]
    decide +kernel

end FixBindings.Rust
