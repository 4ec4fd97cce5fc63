import FixBindings.Proofs.Rust.StructText

/-!
# Nothing in a layout is lost

A walk over the layout of a message meets its items in order, and those of a component in the place of the
component when components are expanded. Each item that is met comes to exactly one thing: a member, the record
that a second member of one name has been left out, or the record that an item of its kind has been skipped.
So the members and the records of a message are all that its layout comes to, in the order of the walk, and
the items of groups, which are not met, come to nothing.
-/

namespace FixBindings.Rust

open Dictionary Identifier

/-! ## Items that are met -/

/-- The items that a walk meets, in order. The items of a component are met in its place, when components are
expanded, and the items of a group are not met. -/
def itemsMet (expand : Bool) : List Item → List Item
  | [] => []
  | .field f r :: items => .field f r :: itemsMet expand items
  | .component name layout r :: items =>
    (if expand then itemsMet expand layout else [.component name layout r]) ++ itemsMet expand items
  | .group leader layout r :: items => .group leader layout r :: itemsMet expand items
  | .bare kind r :: items => .bare kind r :: itemsMet expand items

/-- A layout in which groups have no items. -/
def emptyGroups : List Item → List Item
  | [] => []
  | .field f r :: items => .field f r :: emptyGroups items
  | .component name layout r :: items => .component name (emptyGroups layout) r :: emptyGroups items
  | .group leader _ r :: items => .group leader [] r :: emptyGroups items
  | .bare kind r :: items => .bare kind r :: emptyGroups items

/-- What a walk tells of an item that it meets. -/
inductive Tells : Item → Occurrence → Prop
  /-- The field, which may be less required than the item. -/
  | field (f : Field) (r required : Bool) : Tells (.field f r) (.field f required)
  /-- The kind of an item that is no field. -/
  | other {item : Item} (h : ∀ f r, item ≠ .field f r) : Tells item (.other item.kind)

/-- A walk tells of each item that it meets, in order. -/
theorem forall₂_tells_occurrences (expand required : Bool) (items : List Item) :
    List.Forall₂ Tells (itemsMet expand items) (occurrences expand required items) := by
  fun_induction occurrences expand required items with
  | case1 =>
    rw [itemsMet]
    exact .nil
  | case2 required f r items ih =>
    rw [itemsMet]
    exact .cons (.field f r _) ih
  | case3 required name layout r items ihlayout ih =>
    rw [itemsMet]
    refine List.rel_append ?_ ih
    split
    · exact ihlayout
    · exact .cons (.other fun _ _ h ↦ Item.noConfusion h) .nil
  | case4 required leader layout r items ih =>
    rw [itemsMet]
    exact .cons (.other fun _ _ h ↦ Item.noConfusion h) ih
  | case5 required kind r items ih =>
    rw [itemsMet]
    exact .cons (.other fun _ _ h ↦ Item.noConfusion h) ih

/-- A walk tells nothing of the items of groups. -/
theorem occurrences_emptyGroups (expand required : Bool) (items : List Item) :
    occurrences expand required (emptyGroups items) = occurrences expand required items := by
  fun_induction occurrences expand required items with
  | case1 => rw [emptyGroups, occurrences]
  | case2 required f r items ih => rw [emptyGroups, occurrences, ih]
  | case3 required name layout r items ihlayout ih => rw [emptyGroups, occurrences, ihlayout, ih]
  | case4 required leader layout r items ih => rw [emptyGroups, occurrences, ih]
  | case5 required kind r items ih => rw [emptyGroups, occurrences, ih]

/-! ## What items come to -/

/-- The record of a text about a message. -/
def messageRecord (text : String) : String :=
  "DEBUG fix_codegen.generator.message_generator: " ++ text

/-- An event of the same level and source is recorded like this. -/
theorem line_eq_messageRecord {e : Event} (hlevel : e.level = .debug)
    (hsource : e.source = "fix_codegen.generator.message_generator") :
    e.line = messageRecord e.message := by
  have hfront : "DEBUG" ++ " " ++ "fix_codegen.generator.message_generator" ++ ": " =
      "DEBUG fix_codegen.generator.message_generator: " := rfl
  rw [Event.line, hlevel, hsource]
  exact congrArg (· ++ e.message) hfront

/-- What an item comes to in a message, where the items that were met before came to `earlier`. -/
inductive ComesTo (message : String) (earlier : List Outcome) : Item → Outcome → Prop
  /-- A field comes to a member, when there is no member of its name. -/
  | member {f : Field} {r : Bool} {x : Member} (hname : x.identifier = memberIdentifier f)
    (hfield : x.field = f) (hnew : ∀ y, .member y ∈ earlier → y.identifier ≠ x.identifier) :
    ComesTo message earlier (.field f r) (.member x)
  /-- A field comes to the record that it is left out, when there is a member of its name. -/
  | duplicate {f : Field} {r : Bool} {y : Member} {e : Event} (hy : .member y ∈ earlier)
    (hname : y.identifier = memberIdentifier f)
    (he : e.line =
      messageRecord ("Dropping duplicate member " ++ y.identifier ++ " in message " ++ message)) :
    ComesTo message earlier (.field f r) (.omitted e)
  /-- Another item comes to the record that it is skipped. -/
  | skipped {item : Item} {e : Event} (hitem : ∀ f r, item ≠ .field f r)
    (he : e.line =
      messageRecord ("Skipping " ++ item.kind.label ++ " item in message " ++ message)) :
    ComesTo message earlier item (.omitted e)

/-- What items come to in a message one after another, where those before came to `earlier`. -/
inductive ComeTo (message : String) : List Outcome → List Item → List Outcome → Prop
  /-- No items come to nothing. -/
  | nil {earlier : List Outcome} : ComeTo message earlier [] []
  /-- The first item comes to one thing, which the others come behind. -/
  | cons {earlier ys : List Outcome} {x : Item} {xs : List Item} {y : Outcome}
    (h : ComesTo message earlier x y) (hs : ComeTo message (earlier ++ [y]) xs ys) :
    ComeTo message earlier (x :: xs) (y :: ys)

/-- The names of the members among outcomes. -/
def memberNames (ys : List Outcome) : List String :=
  (ys.filterMap Outcome.member?).map Member.identifier

theorem mem_memberNames {ys : List Outcome} {name : String} :
    name ∈ memberNames ys ↔ ∃ x, .member x ∈ ys ∧ x.identifier = name := by
  simp only [memberNames, List.mem_map, List.mem_filterMap]
  constructor
  · rintro ⟨x, ⟨y, hy, hx⟩, hname⟩
    cases y with
    | omitted e => cases hx
    | member z => exact ⟨x, Option.some.inj hx ▸ hy, hname⟩
  · rintro ⟨x, hx, hname⟩
    exact ⟨x, ⟨_, hx, rfl⟩, hname⟩

@[simp] theorem memberNames_append_member (ys : List Outcome) (x : Member) :
    memberNames (ys ++ [.member x]) = memberNames ys ++ [x.identifier] := by
  rw [memberNames, List.filterMap_append, List.map_append]
  rfl

@[simp] theorem memberNames_append_omitted (ys : List Outcome) (e : Event) :
    memberNames (ys ++ [.omitted e]) = memberNames ys := by
  rw [memberNames, List.filterMap_append, List.map_append]
  exact List.append_nil _

/-- Items come to what becomes of all that a walk tells of them, when the names in use are those of the
members that items came to before. -/
theorem comeTo_outcomes (crate message : String) {items : List Item} {os : List Occurrence}
    (h : List.Forall₂ Tells items os) {seen : List String} {earlier : List Outcome}
    (hseen : ∀ name, name ∈ seen ↔ name ∈ memberNames earlier) :
    ComeTo message earlier items (outcomes crate message seen os) := by
  induction h generalizing seen earlier with
  | nil => exact .nil
  | cons htells _ ih =>
    cases htells with
    | other hitem => exact .cons (.skipped hitem (line_eq_messageRecord rfl rfl)) (ih (by simpa using hseen))
    | field f r required =>
      rw [outcomes]
      split
      · rename_i hused
        obtain ⟨y, hy, hname⟩ := mem_memberNames.mp ((hseen _).mp (List.contains_iff_mem.mp hused))
        refine .cons (.duplicate hy hname ?_) (ih (by simpa using hseen))
        rw [hname]
        exact line_eq_messageRecord rfl rfl
      · rename_i hfree
        have hnew : ∀ y, .member y ∈ earlier → y.identifier ≠ memberIdentifier f := fun y hy hname ↦
          hfree (List.contains_iff_mem.mpr ((hseen _).mpr (mem_memberNames.mpr ⟨y, hy, hname⟩)))
        refine .cons (.member (Member.identifier_ofField ..) (Member.field_ofField ..) ?_) (ih ?_)
        · rwa [Member.identifier_ofField]
        · intro name
          rw [memberNames_append_member, Member.identifier_ofField, List.mem_append,
            List.mem_singleton, List.mem_cons, hseen, or_comm]

/-- Items come to as many members and records as there are items. -/
theorem ComeTo.length_eq {message : String} {earlier ys : List Outcome} {items : List Item}
    (h : ComeTo message earlier items ys) :
    items.length = (ys.filterMap Outcome.member?).length + (ys.filterMap Outcome.event?).length := by
  induction h with
  | nil => rfl
  | cons h _ ih =>
    rename_i earlier ys x xs y _
    cases y with
    | member z =>
      rw [List.filterMap_cons_some (Outcome.member?_member z),
        List.filterMap_cons_none (Outcome.event?_member z), List.length_cons, List.length_cons, ih]
      omega
    | omitted e =>
      rw [List.filterMap_cons_none (Outcome.member?_omitted e),
        List.filterMap_cons_some (Outcome.event?_omitted e), List.length_cons, List.length_cons, ih]
      omega

/-! ## Messages -/

variable (o : Options) (m : Message)

/-- The items of groups make no difference to a message. -/
theorem messageOutcomes_emptyGroups :
    messageOutcomes o { m with layout := emptyGroups m.layout } = messageOutcomes o m := by
  rw [messageOutcomes, messageOutcomes, occurrences_emptyGroups]

/-- A message has a struct just when its type can be encoded; the records do not depend on it. Each item
that a walk over the layout of the message meets comes to a member, to the record that a second
member has been left out or to the record that the item has been skipped. The members that they come to, in
order, are those of the struct, besides the one that every struct has, and the records that they come to, in
order, are those of the message, so that there are as many of both as items are met. Without the items of its
groups the message has the same struct and the same records. -/
theorem messageStruct_comeTo (version : String) :
    ((∃ text, messageStruct o version m = .ok text) ↔ Text.IsEncodable m.msgType) ∧ ∃ ys : List Outcome,
    ComeTo m.name [] (itemsMet o.expandComponents m.layout) ys ∧
    (∀ text, messageStruct o version m = .ok text →
      HasBody (typeName m.name) (structBodyLines version (ys.filterMap Outcome.member?)) text) ∧
    messageEvents o m = ys.filterMap Outcome.event? ∧
    (itemsMet o.expandComponents m.layout).length = (messageMembers o m).length + (messageEvents o m).length ∧
    messageStruct o version { m with layout := emptyGroups m.layout } = messageStruct o version m ∧
    messageEvents o { m with layout := emptyGroups m.layout } = messageEvents o m := by
  have hcome : ComeTo m.name [] (itemsMet o.expandComponents m.layout) (messageOutcomes o m) :=
    comeTo_outcomes o.cratePath m.name (forall₂_tells_occurrences _ true m.layout)
      (fun name ↦ by simp [memberNames])
  refine ⟨exists_messageStruct_iff o version, messageOutcomes o m, hcome,
    fun text ↦ hasBody_of_messageStruct, rfl, hcome.length_eq, ?_, ?_⟩
  · have htext : structText o version { m with layout := emptyGroups m.layout } =
        structText o version m := by
      funext literal
      rw [structText, structText, messageMembers, messageMembers, messageOutcomes_emptyGroups]
      rfl
    rw [messageStruct, messageStruct, htext]
  · rw [messageEvents, messageEvents, messageOutcomes_emptyGroups]

end FixBindings.Rust
