import FixBindings.Text.Runs

/-!
# Runs and pieces

Cutting a list brings no element in: a run holds elements of the list that satisfy its predicate, and
the pieces of a list are the list in parts. The runs on the two sides of an element that does not satisfy
the predicate are those of the two sides on their own (`runs_append_cons`), and a piece starts just where
the list is cut (`startsAt_pieces_iff`). Lists that are not empty are known from what they are in a row and
from the places where they start (`eq_of_startsAt`).
-/

namespace FixBindings.Text

variable {α : Type _}

/-- Putting an element in front of the first list adds that element only. -/
theorem mem_consHead {a x : α} {l : List α} {ls : List (List α)}
    (hl : l ∈ consHead a ls) (hx : x ∈ l) : x = a ∨ ∃ m ∈ ls, x ∈ m := by
  cases ls with
  | nil => simp_all [consHead]
  | cons m ls =>
    rcases List.mem_cons.mp hl with rfl | hl
    · rcases List.mem_cons.mp hx with rfl | hx
      · exact .inl rfl
      · exact .inr ⟨m, by simp, hx⟩
    · exact .inr ⟨l, by simp [hl], hx⟩

/-- A run holds only elements that satisfy the predicate. -/
theorem of_mem_runs {p : α → Bool} {as r : List α} (hr : r ∈ runs p as) {x : α} (hx : x ∈ r) :
    p x := by
  fun_induction runs p as generalizing r with
  | case1 => simp at hr
  | case2 a ha => simp_all
  | case3 a ha => simp at hr
  | case4 a b as ha hb ih =>
    rcases mem_consHead hr hx with rfl | ⟨m, hm, hx⟩
    · exact ha
    · exact ih hm hx
  | case5 a b as ha hb ih =>
    rcases List.mem_cons.mp hr with rfl | hr
    · simp_all
    · exact ih hr hx
  | case6 a b as ha ih => exact ih hr hx

/-- The runs of a list hold all elements that satisfy the predicate. -/
@[simp] theorem flatten_runs (p : α → Bool) (as : List α) : (runs p as).flatten = as.filter p := by
  fun_induction runs p as with
  | case1 => rfl
  | case2 a ha => simp [ha]
  | case3 a ha => simp [ha]
  | case4 a b as ha hb ih => rw [flatten_consHead, ih, List.filter_cons_of_pos ha]
  | case5 a b as ha hb ih => simp [ha, ih]
  | case6 a b as ha ih => rw [ih, List.filter_cons_of_neg ha]

/-- Putting an element in front of the first list leaves no list empty. -/
theorem ne_nil_of_mem_consHead {a : α} {l : List α} {ls : List (List α)} (h : ∀ m ∈ ls, m ≠ [])
    (hl : l ∈ consHead a ls) : l ≠ [] := by
  cases ls with
  | nil => simp_all [consHead]
  | cons m ls =>
    rcases List.mem_cons.mp hl with rfl | hl
    · exact List.cons_ne_nil _ _
    · exact h l (List.mem_cons_of_mem _ hl)

/-- No run is empty. -/
theorem ne_nil_of_mem_runs {p : α → Bool} {as r : List α} (hr : r ∈ runs p as) : r ≠ [] := by
  fun_induction runs p as generalizing r with
  | case1 => cases hr
  | case2 a ha => simp_all
  | case3 a ha => cases hr
  | case4 a b as ha hb ih => exact ne_nil_of_mem_consHead (fun _ ↦ ih) hr
  | case5 a b as ha hb ih =>
    rcases List.mem_cons.mp hr with rfl | hr
    · exact List.cons_ne_nil _ _
    · exact ih hr
  | case6 a b as ha ih => exact ih hr

/-- The runs are what is between the elements that do not satisfy the predicate, where anything is. -/
theorem runs_eq_filter_splitOnP (p : α → Bool) (as : List α) :
    runs p as = (as.splitOnP fun a ↦ !p a).filter fun r ↦ !r.isEmpty := by
  fun_induction runs p as with
  | case1 => rfl
  | case2 a ha => simp [List.splitOnP_cons_eq_if_modifyHead, ha]
  | case3 a ha => simp [List.splitOnP_cons_eq_if_modifyHead, ha]
  | case4 a b as ha hb ih =>
    obtain ⟨r, rs, hparts⟩ := List.exists_cons_of_ne_nil (List.splitOnP_ne_nil (fun a ↦ !p a) as)
    rw [ih]
    simp [List.splitOnP_cons_eq_if_modifyHead, ha, hb, hparts, consHead]
  | case5 a b as ha hb ih =>
    rw [ih]
    simp [List.splitOnP_cons_eq_if_modifyHead, ha, hb]
  | case6 a b as ha ih =>
    rw [ih, List.splitOnP_cons_eq_if_modifyHead a, if_pos (by simpa using ha)]
    rfl

/-! ## Runs of a list in parts -/

/-- An element goes in front of the first list, whatever lists are behind. -/
theorem consHead_append (a : α) {ls : List (List α)} (h : ls ≠ []) (ms : List (List α)) :
    consHead a (ls ++ ms) = consHead a ls ++ ms := by
  cases ls with
  | nil => contradiction
  | cons l ls => rfl

/-- An element that satisfies the predicate belongs to a run. -/
theorem runs_cons_ne_nil {p : α → Bool} {a : α} (ha : p a) (as : List α) : runs p (a :: as) ≠ [] := by
  intro h
  have hflatten := flatten_runs p (a :: as)
  rw [h, List.filter_cons_of_pos ha] at hflatten
  cases hflatten

/-- An element that does not satisfy the predicate belongs to no run. -/
theorem runs_cons_of_neg {p : α → Bool} {x : α} (hx : p x = false) (as : List α) :
    runs p (x :: as) = runs p as := by
  cases as with
  | nil => simp [runs, hx]
  | cons a as => simp [runs, hx]

/-- No run goes beyond an element that does not satisfy the predicate. -/
theorem runs_append_cons {p : α → Bool} {x : α} (hx : p x = false) (as bs : List α) :
    runs p (as ++ x :: bs) = runs p as ++ runs p bs := by
  fun_induction runs p as with
  | case1 => exact runs_cons_of_neg hx bs
  | case2 a ha =>
    rw [List.singleton_append, runs, if_pos ha, if_neg (by simp [hx]), runs_cons_of_neg hx]
    rfl
  | case3 a ha =>
    rw [List.singleton_append, runs_cons_of_neg (by simpa using ha), runs_cons_of_neg hx]
    rfl
  | case4 a b as ha hb ih =>
    rw [List.cons_append, List.cons_append, runs, if_pos ha, if_pos hb, ← List.cons_append, ih,
      consHead_append a (runs_cons_ne_nil hb as)]
  | case5 a b as ha hb ih =>
    rw [List.cons_append, List.cons_append, runs, if_pos ha, if_neg hb, ← List.cons_append, ih]
    rfl
  | case6 a b as ha ih =>
    rw [List.cons_append, List.cons_append, runs, if_neg ha, ← List.cons_append, ih]

/-- A list is one run when all its elements satisfy the predicate. -/
theorem runs_of_forall {p : α → Bool} {as : List α} (hne : as ≠ []) (h : ∀ a ∈ as, p a) :
    runs p as = [as] := by
  fun_induction runs p as with
  | case1 => contradiction
  | case2 a ha => rfl
  | case3 a ha => exact absurd (h a (by simp)) ha
  | case4 a b as ha hb ih =>
    rw [ih (List.cons_ne_nil b as) fun c hc ↦ h c (List.mem_cons_of_mem a hc)]
    rfl
  | case5 a b as ha hb ih => exact absurd (h b (by simp)) hb
  | case6 a b as ha ih => exact absurd (h a (by simp)) ha

/-- Elements that do not satisfy the predicate belong to no run. -/
theorem runs_of_forall_not {p : α → Bool} {as : List α} (h : ∀ a ∈ as, p a = false) :
    runs p as = [] := by
  induction as with
  | nil => rfl
  | cons a as ih =>
    rw [List.forall_mem_cons] at h
    rw [runs_cons_of_neg h.1, ih h.2]

/-- Lists that satisfy the predicate are the runs of what they are when they are joined by an element that
does not. -/
theorem runs_intercalate {p : α → Bool} {x : α} (hx : p x = false) {rs : List (List α)}
    (h : ∀ r ∈ rs, r ≠ [] ∧ ∀ a ∈ r, p a) : runs p ([x].intercalate rs) = rs := by
  induction rs with
  | nil => rfl
  | cons r rs ih =>
    rw [List.forall_mem_cons] at h
    have hr : runs p r = [r] := runs_of_forall h.1.1 h.1.2
    cases rs with
    | nil => rw [List.intercalate_singleton, hr]
    | cons s rs =>
      rw [List.intercalate_cons_cons, List.append_assoc, List.singleton_append, runs_append_cons hx, hr,
        ih h.2, List.singleton_append]

/-- A part of a list between `before` and `after` holds elements that satisfy a predicate, and is as long
as it can be: the elements next to it do not satisfy the predicate. -/
structure IsMaximalRun (p : α → Bool) (before run after : List α) : Prop where
  /-- The elements of the part satisfy the predicate. -/
  all : ∀ a ∈ run, p a
  /-- The element in front of it does not. -/
  left : ∀ a ∈ before.getLast?, ¬p a
  /-- The element behind it does not. -/
  right : ∀ a ∈ after.head?, ¬p a

/-- No run goes beyond the front of a list that starts with an element that does not satisfy the
predicate. -/
theorem runs_append_of_head? {p : α → Bool} {as bs : List α} (h : ∀ b ∈ bs.head?, ¬p b) :
    runs p (as ++ bs) = runs p as ++ runs p bs := by
  cases bs with
  | nil => rw [List.append_nil, runs_nil, List.append_nil]
  | cons b bs =>
    have hb : p b = false := by simpa using h b rfl
    rw [runs_append_cons hb, runs_cons_of_neg hb]

/-- No run goes beyond the end of a list that ends with an element that does not satisfy the predicate. -/
theorem runs_append_of_getLast? {p : α → Bool} {as bs : List α} (h : ∀ a ∈ as.getLast?, ¬p a) :
    runs p (as ++ bs) = runs p as ++ runs p bs := by
  obtain rfl | ⟨as, a, rfl⟩ := as.eq_nil_or_concat
  · rfl
  · have ha : p a = false := by simpa using h a (by simp)
    rw [List.concat_eq_append, List.append_assoc, List.singleton_append, runs_append_cons ha,
      runs_append_cons ha, runs_nil, List.append_nil]

/-- No run goes beyond elements that do not satisfy the predicate. -/
theorem runs_append_append {p : α → Bool} {gap : List α} (hne : gap ≠ []) (h : ∀ a ∈ gap, p a = false)
    (as bs : List α) : runs p (as ++ gap ++ bs) = runs p as ++ runs p bs := by
  have hlast : ∀ a ∈ (as ++ gap).getLast?, ¬p a := by
    intro a ha
    rw [List.getLast?_append, Option.or_eq_left_of_isSome (by simpa using hne)] at ha
    simp [h a (List.mem_of_getLast? ha)]
  have hhead : ∀ a ∈ gap.head?, ¬p a := fun a ha ↦ by
    simp [h a (List.mem_of_head? ha)]
  rw [runs_append_of_getLast? hlast, runs_append_of_head? hhead, runs_of_forall_not h, List.append_nil]

/-- The runs around a maximal run do not depend on it. -/
theorem IsMaximalRun.runs_eq {p : α → Bool} {before run after : List α}
    (h : IsMaximalRun p before run after) :
    runs p (before ++ run ++ after) = runs p before ++ runs p run ++ runs p after := by
  rw [runs_append_of_head? h.right, runs_append_of_getLast? h.left]

/-- A maximal run is what can be taken from where it starts. -/
theorem IsMaximalRun.takeWhile_eq {p : α → Bool} {before run after : List α}
    (h : IsMaximalRun p before run after) : (run ++ after).takeWhile p = run := by
  rw [List.takeWhile_append_of_pos h.all]
  cases after with
  | nil => simp
  | cons a after =>
    rw [List.takeWhile_cons_of_neg (h.right a rfl), List.append_nil]

/-- What can be taken from a place is a maximal run when nothing in front of the place belongs to it. -/
theorem isMaximalRun_takeWhile {p : α → Bool} {before : List α} (h : ∀ a ∈ before.getLast?, ¬p a)
    (as : List α) : IsMaximalRun p before (as.takeWhile p) (as.dropWhile p) where
  all := List.all_eq_true.mp List.all_takeWhile
  left := h
  right a ha := by
    have hhead := List.head?_dropWhile_not p as
    rw [Option.mem_def.mp ha] at hhead
    simpa using hhead

/-! ## Pieces -/

/-- The pieces of a list are the list in parts. -/
@[simp] theorem flatten_pieces (cut : α → α → List α → Bool) (as : List α) :
    (pieces cut as).flatten = as := by
  fun_induction pieces cut as with
  | case1 => rfl
  | case2 a => rfl
  | case3 a b as h ih => simp [ih]
  | case4 a b as h ih => simp [ih]

/-- No piece is empty. -/
theorem ne_nil_of_mem_pieces {cut : α → α → List α → Bool} {as l : List α} (hl : l ∈ pieces cut as) :
    l ≠ [] := by
  fun_induction pieces cut as generalizing l with
  | case1 => cases hl
  | case2 a => simp_all
  | case3 a b as h ih =>
    rcases List.mem_cons.mp hl with rfl | hl
    · exact List.cons_ne_nil _ _
    · exact ih hl
  | case4 a b as h ih => exact ne_nil_of_mem_consHead (fun _ ↦ ih) hl

/-- A piece of a list holds only elements of the list. -/
theorem mem_of_mem_pieces {cut : α → α → List α → Bool} {as l : List α} (hl : l ∈ pieces cut as)
    {x : α} (hx : x ∈ l) : x ∈ as := by
  rw [← flatten_pieces cut as]
  exact List.mem_flatten.mpr ⟨l, hl, hx⟩

/-- A list with an element has a piece. -/
theorem pieces_cons_ne_nil (cut : α → α → List α → Bool) (a : α) (as : List α) :
    pieces cut (a :: as) ≠ [] := by
  intro h
  have hflatten := flatten_pieces cut (a :: as)
  rw [h] at hflatten
  cases hflatten

/-- A list is one piece when it is cut nowhere. -/
theorem pieces_of_forall {cut : α → α → List α → Bool} {as : List α} (hne : as ≠ [])
    (h : ∀ b ∈ as, ∀ a bs, cut a b bs = false) : pieces cut as = [as] := by
  fun_induction pieces cut as with
  | case1 => contradiction
  | case2 a => rfl
  | case3 a b as hcut ih =>
    rw [h b (by simp) a as] at hcut
    contradiction
  | case4 a b as hcut ih =>
    rw [ih (List.cons_ne_nil b as) fun c hc ↦ h c (List.mem_cons_of_mem a hc)]
    rfl

/-! ## Where lists start -/

/-- One of the lists starts with the element that is at the place `i` when the lists are put in a row. -/
inductive StartsAt : List (List α) → Nat → Prop where
  | head (l : List α) (ls : List (List α)) : StartsAt (l :: ls) 0
  | tail (l : List α) {ls : List (List α)} {i : Nat} : StartsAt ls i → StartsAt (l :: ls) (l.length + i)

theorem StartsAt.ne_nil {ls : List (List α)} {i : Nat} (h : StartsAt ls i) : ls ≠ [] := by
  cases h <;> exact List.cons_ne_nil _ _

theorem startsAt_zero {ls : List (List α)} (h : ls ≠ []) : StartsAt ls 0 := by
  obtain ⟨l, ls, rfl⟩ := List.exists_cons_of_ne_nil h
  exact .head l ls

/-- A place behind a list that is not empty is a place of the lists behind it. -/
theorem startsAt_cons_iff {l : List α} {ls : List (List α)} {i : Nat} :
    StartsAt (l :: ls) (i + 1) ↔ ∃ j, StartsAt ls j ∧ l.length + j = i + 1 := by
  constructor
  · intro h
    generalize hi : i + 1 = k at h
    cases h with
    | head => contradiction
    | tail l h => exact ⟨_, h, rfl⟩
  · rintro ⟨j, h, hj⟩
    rw [← hj]
    exact .tail l h

/-- Behind the first list the places are those of the lists behind it. -/
theorem startsAt_cons_length_iff {l : List α} (ls : List (List α)) {i : Nat} :
    StartsAt (l :: ls) (l.length + i + 1) ↔ StartsAt ls (i + 1) := by
  rw [startsAt_cons_iff]
  constructor
  · rintro ⟨j, h, hj⟩
    rw [Nat.add_assoc, Nat.add_left_cancel_iff] at hj
    rwa [← hj]
  · intro h
    exact ⟨i + 1, h, rfl⟩

/-- An element in front of the first list moves the lists behind it one place on. -/
theorem startsAt_consHead_iff {a : α} {ls : List (List α)} {i : Nat} :
    StartsAt (consHead a ls) (i + 2) ↔ StartsAt ls (i + 1) := by
  cases ls with
  | nil =>
    constructor
    · intro h
      obtain ⟨j, h, -⟩ := startsAt_cons_iff.mp h
      exact absurd rfl h.ne_nil
    · intro h
      exact absurd rfl h.ne_nil
  | cons l ls =>
    rw [consHead, startsAt_cons_iff, startsAt_cons_iff]
    refine exists_congr fun j ↦ and_congr_right fun _ ↦ ?_
    rw [List.length_cons]
    omega

/-- No list starts at the place between the first two elements of the first list. -/
theorem not_startsAt_consHead_one {a : α} {ls : List (List α)} (hne : ls ≠ []) (h : ∀ l ∈ ls, l ≠ []) :
    ¬StartsAt (consHead a ls) 1 := by
  obtain ⟨l, ls, rfl⟩ := List.exists_cons_of_ne_nil hne
  rw [consHead, startsAt_cons_iff]
  rintro ⟨j, -, hj⟩
  have hlength := List.length_pos_iff.mpr (h l List.mem_cons_self)
  rw [List.length_cons] at hj
  omega

/-- Behind a list of one element, places are one further on. -/
theorem startsAt_singleton_cons_iff {a : α} {ls : List (List α)} {i : Nat} :
    StartsAt ([a] :: ls) (i + 1) ↔ StartsAt ls i := by
  rw [startsAt_cons_iff]
  constructor
  · rintro ⟨j, h, hj⟩
    rw [List.length_singleton, Nat.add_comm] at hj
    rwa [← Nat.add_right_cancel hj]
  · intro h
    exact ⟨i, h, Nat.add_comm 1 i⟩

/-- A piece starts behind the front of a list just where the list is cut. -/
theorem startsAt_pieces_iff {cut : α → α → List α → Bool} {as : List α} {i : Nat} :
    StartsAt (pieces cut as) (i + 1) ↔ ∃ a b bs, as.drop i = a :: b :: bs ∧ cut a b bs := by
  fun_induction pieces cut as generalizing i with
  | case1 =>
    constructor
    · intro h
      exact absurd rfl h.ne_nil
    · rintro ⟨a, b, bs, h, -⟩
      rw [List.drop_nil] at h
      cases h
  | case2 a =>
    rw [startsAt_singleton_cons_iff]
    constructor
    · intro h
      exact absurd rfl h.ne_nil
    · rintro ⟨b, c, bs, h, -⟩
      cases i with
      | zero => cases h
      | succ i =>
        rw [List.drop_succ_cons, List.drop_nil] at h
        cases h
  | case3 a b as hcut ih =>
    rw [startsAt_singleton_cons_iff]
    cases i with
    | zero =>
      have hne : pieces cut (b :: as) ≠ [] := pieces_cons_ne_nil cut b as
      exact iff_of_true (startsAt_zero hne) ⟨a, b, as, rfl, hcut⟩
    | succ i => exact ih
  | case4 a b as hcut ih =>
    cases i with
    | zero =>
      constructor
      · intro h
        have hne : pieces cut (b :: as) ≠ [] := pieces_cons_ne_nil cut b as
        exact absurd h (not_startsAt_consHead_one hne fun _ ↦ ne_nil_of_mem_pieces)
      · rintro ⟨_, _, _, ⟨⟩, h⟩
        exact absurd h hcut
    | succ i => rw [startsAt_consHead_iff, List.drop_succ_cons, ih]

/-- A list that is not empty starts in front of the end. -/
theorem StartsAt.lt_length {ls : List (List α)} {i : Nat} (h : StartsAt ls i) (hne : ∀ l ∈ ls, l ≠ []) :
    i < ls.flatten.length := by
  induction h with
  | head l ls =>
    have hlength := List.length_pos_iff.mpr (hne l List.mem_cons_self)
    rw [List.flatten_cons, List.length_append]
    omega
  | tail l h ih =>
    have hlt := ih fun m hm ↦ hne m (List.mem_cons_of_mem l hm)
    rw [List.flatten_cons, List.length_append]
    omega

/-- Two neighbours stand at a place of a list in front of its end. -/
theorem exists_neighbours {as : List α} {i : Nat} (h : i + 1 < as.length) :
    ∃ front a b back, as = front ++ a :: b :: back ∧ front.length = i := by
  refine ⟨as.take i, as[i], as[i + 1], as.drop (i + 2), ?_, ?_⟩
  · rw [← List.drop_eq_getElem_cons h, ← List.drop_eq_getElem_cons, List.take_append_drop]
  · rw [List.length_take]
    omega

/-- The first of some lists is not longer than the first of others, when each list starts where one of the
others does. -/
theorem length_le_of_startsAt {l m : List α} {ls ms : List (List α)} (hm : m ≠ [])
    (hflatten : l ++ ls.flatten = m ++ ms.flatten)
    (h : ∀ i, StartsAt (m :: ms) (i + 1) → StartsAt (l :: ls) (i + 1)) : l.length ≤ m.length := by
  refine Nat.not_lt.mp fun hlt ↦ ?_
  have hne : ms ≠ [] := by
    rintro rfl
    have hlength := congrArg List.length hflatten
    simp only [List.length_append, List.flatten_nil, List.length_nil] at hlength
    omega
  obtain ⟨k, hk⟩ := Nat.exists_eq_add_one.mpr (List.length_pos_iff.mpr hm)
  have hstart : StartsAt (m :: ms) (k + 1) := startsAt_cons_iff.mpr ⟨0, startsAt_zero hne, hk⟩
  obtain ⟨j, -, hj⟩ := startsAt_cons_iff.mp (h k hstart)
  omega

/-- Lists that are not empty are the same when they give the same list in a row and start at the same
places. -/
theorem eq_of_startsAt {ls ms : List (List α)} (hl : ∀ l ∈ ls, l ≠ []) (hm : ∀ m ∈ ms, m ≠ [])
    (hflatten : ls.flatten = ms.flatten) (h : ∀ i, StartsAt ls (i + 1) ↔ StartsAt ms (i + 1)) :
    ls = ms := by
  induction ls generalizing ms with
  | nil =>
    refine (List.eq_nil_iff_forall_not_mem.mpr fun m hmem ↦ ?_).symm
    exact hm m hmem (List.flatten_eq_nil_iff.mp hflatten.symm m hmem)
  | cons l ls ih =>
    cases ms with
    | nil =>
      have hempty : l = [] := List.flatten_eq_nil_iff.mp hflatten l List.mem_cons_self
      exact absurd hempty (hl l List.mem_cons_self)
    | cons m ms =>
      rw [List.forall_mem_cons] at hl hm
      rw [List.flatten_cons, List.flatten_cons] at hflatten
      have hlength : l.length = m.length := Nat.le_antisymm
        (length_le_of_startsAt hm.1 hflatten fun i ↦ (h i).mpr)
        (length_le_of_startsAt hl.1 hflatten.symm fun i ↦ (h i).mp)
      obtain ⟨rfl, hrest⟩ := List.append_inj hflatten hlength
      rw [ih hl.2 hm.2 hrest fun i ↦ ?_]
      exact (startsAt_cons_length_iff ls).symm.trans ((h _).trans (startsAt_cons_length_iff ms))

end FixBindings.Text
