import FixBindings.Proofs.Rust.Fragments
import Mathlib.Logic.Relation

/-!
# Modules of any fragments

A module can be put together from any texts, not just from the definitions and structs that are written for a
dictionary. Two notions of what is around a text are at work: a fragment that holds white space only, of
whatever kind, is left out, and of the others nothing but the line feeds at both ends is. So blank fragments
and outer line feeds have no effect (`body_of_sameContent`), every other fragment is in the body without
a change, and the body of two lists of fragments has one empty line between their bodies (`body_append`).
-/

namespace FixBindings.Rust

open Calendar

/-- What changes a list of fragments, but not the module of them. -/
inductive Pads : List String → List String → Prop where
  /-- A blank fragment, at any place. -/
  | blank (before after : List String) {gap : String} (h : Text.isBlankText gap) :
    Pads (before ++ after) (before ++ gap :: after)
  /-- Line feeds at both ends of a fragment that is not blank. -/
  | lineFeeds (before after : List String) {fragment front back : String}
    (h : Text.isBlankText fragment = false) (hf : ∀ c ∈ front.toList, c = '\n')
    (hb : ∀ c ∈ back.toList, c = '\n') :
    Pads (before ++ fragment :: after) (before ++ (front ++ fragment ++ back) :: after)

/-- Two lists of fragments differ in blank fragments, and in line feeds at the ends of the others. -/
def SameContent : List String → List String → Prop :=
  Relation.EqvGen Pads

/-- Neither blank fragments nor outer line feeds have an effect on the body. -/
theorem body_of_pads {fs gs : List String} (h : Pads fs gs) : body fs = body gs := by
  cases h with
  | blank before after hgap =>
    rw [body, body, List.filter_append, List.filter_append, List.filter_cons_of_neg (by simp [hgap])]
  | lineFeeds before after hblank hf hb =>
    rename_i fragment front back
    have hkept : Text.isBlankText (front ++ fragment ++ back) = false := by
      rw [Text.isBlankText_append, Text.isBlankText_append, hblank, Bool.and_false, Bool.false_and]
    rw [body, body, List.filter_append, List.filter_append, List.filter_cons_of_pos (by simp [hblank]),
      List.filter_cons_of_pos (by simp [hkept]), List.map_append, List.map_append, List.map_cons,
      List.map_cons, Text.trimLineFeeds_append_append hf hb]

theorem body_of_sameContent {fs gs : List String} (h : SameContent fs gs) : body fs = body gs := by
  induction h with
  | rel _ _ h => exact body_of_pads h
  | refl => rfl
  | symm _ _ _ ih => exact ih.symm
  | trans _ _ _ _ _ ih ih' => exact ih.trans ih'

/-- The body of one fragment is the fragment without its outer line feeds. -/
theorem stripsTo_body_singleton {f : String} (h : Text.isBlankText f = false) :
    Text.StripsTo f (body [f]) := by
  have hbody : body [f] = Text.trimLineFeeds f := by
    rw [body_of_not_blank (by simpa using h), List.map_singleton, String.intercalate_singleton]
  rw [hbody]
  exact Text.stripsTo_trimLineFeeds h

/-- The head of a module does not depend on the fragments, nor whether it can be written. -/
theorem assemble_eq_map (o : Options) (version : String) (now : LocalTime) (fragments : List String) :
    assemble o version now fragments =
      now.toUtc.map fun utc ↦ unlines (headLines o version utc) ++ body fragments ++ "\n" := by
  unfold assemble
  cases now.toUtc <;> rfl

/-- A module of any fragments. Blank fragments can be put in and taken out, and so can line feeds at the ends
of the others. The module is a head, which the fragments have no effect on, their body and a line feed. There
is nothing in the body of no fragments, and one fragment without its outer line feeds in the body of one. The
body of two lists that are not all blank is their bodies with an empty line between them. -/
theorem assemble_sameContent_and_append (o : Options) (version : String) (now : LocalTime) :
    (∀ fs gs, SameContent fs gs → assemble o version now fs = assemble o version now gs) ∧
      (∀ fs, assemble o version now fs =
        now.toUtc.map fun utc ↦ unlines (headLines o version utc) ++ body fs ++ "\n") ∧
      body [] = "" ∧ (∀ f, Text.isBlankText f = false → Text.StripsTo f (body [f])) ∧
      ∀ xs ys, (∃ x ∈ xs, Text.isBlankText x = false) → (∃ y ∈ ys, Text.isBlankText y = false) →
        body (xs ++ ys) = body xs ++ "\n\n" ++ body ys := by
  refine ⟨fun fs gs h ↦ ?_, assemble_eq_map o version now, rfl, fun f ↦ stripsTo_body_singleton,
    fun xs ys ↦ body_append⟩
  rw [assemble_eq_map, assemble_eq_map, body_of_sameContent h]

/-- A fragment of a no-break space goes away, and so do three line feeds. -/
theorem assemble_sameContent_and_append_padded :
    (SameContent ["\u00a0", "\n" ++ "const A" ++ "\n\n", "mod b"] ["const A", "mod b"] ∧
      Text.isBlankText "const A" = false ∧ Text.isBlankText "mod b" = false) ∧
    assemble {} "FIX.4.4" ⟨⟨⟨2024, 3, 5⟩, 14, 30, 0⟩, 3600⟩ ["\u00a0", "\n" ++ "const A" ++ "\n\n", "mod b"] =
      assemble {} "FIX.4.4" ⟨⟨⟨2024, 3, 5⟩, 14, 30, 0⟩, 3600⟩ ["const A", "mod b"] ∧
    Text.StripsTo "const A" (body ["const A"]) ∧
    body (["const A"] ++ ["mod b"]) = body ["const A"] ++ "\n\n" ++ body ["mod b"] := by
  have hfeeds : Pads ["const A", "mod b"] ["\n" ++ "const A" ++ "\n\n", "mod b"] :=
    .lineFeeds [] ["mod b"] rfl (by simp) (by simp)
  have hblank : Pads ["\n" ++ "const A" ++ "\n\n", "mod b"]
      ["\u00a0", "\n" ++ "const A" ++ "\n\n", "mod b"] :=
    .blank [] ["\n" ++ "const A" ++ "\n\n", "mod b"] rfl
  have hsame : SameContent ["\u00a0", "\n" ++ "const A" ++ "\n\n", "mod b"] ["const A", "mod b"] :=
    .symm _ _ (.trans _ _ _ (.rel _ _ hfeeds) (.rel _ _ hblank))
  have hcode : Text.isBlankText "const A" = false ∧ Text.isBlankText "mod b" = false := ⟨rfl, rfl⟩
  obtain ⟨hunchanged, -, -, hone, happend⟩ :=
    assemble_sameContent_and_append {} "FIX.4.4" ⟨⟨⟨2024, 3, 5⟩, 14, 30, 0⟩, 3600⟩
  exact ⟨⟨hsame, hcode⟩, hunchanged _ _ hsame, hone _ hcode.1,
    happend _ _ ⟨_, List.mem_singleton_self _, hcode.1⟩ ⟨_, List.mem_singleton_self _, hcode.2⟩⟩

end FixBindings.Rust
