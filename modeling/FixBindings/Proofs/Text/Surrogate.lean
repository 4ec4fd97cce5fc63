import FixBindings.Proofs.Text.Characters
import FixBindings.Text.Surrogate
import Mathlib.Data.List.TakeWhile

/-!
# Spellings are read back

Each sequence of code points has a spelling of its own, and a text of characters is spelled so that it
is read back character by character. A text can be encoded if and only if none of its code points is a
surrogate; otherwise the error tells the first run of surrogates.
-/

namespace FixBindings.Text

variable {n : Nat} {s t : String} {cs : List Char} {p : CodePoint} {ps : List CodePoint}

/-! ## Code points of characters -/

theorem toNat_mark : mark.toNat = 0x10FFFF := toNat_ofNat (by decide)

theorem toNat_lt (c : Char) : c.toNat < 0x110000 := by
  have h : c.toNat < 0xD800 ∨ 0xDFFF < c.toNat ∧ c.toNat < 0x110000 := c.valid
  omega

@[simp] theorem val_pointOf (c : Char) : (pointOf c).val = c.toNat :=
  Nat.mod_eq_of_lt (toNat_lt c)

/-- No character is a surrogate. -/
theorem not_isSurrogate_toNat (c : Char) : ¬isSurrogate c.toNat := by
  have h : c.toNat < 0xD800 ∨ 0xDFFF < c.toNat ∧ c.toNat < 0x110000 := c.valid
  simp only [isSurrogate, Bool.and_eq_true, decide_eq_true_eq]
  omega

/-- A code point that is no surrogate is that of its character. -/
theorem toNat_ofNat_val (h : ¬isSurrogate p.val) : (Char.ofNat p.val).toNat = p.val := by
  have hlt := p.isLt
  simp only [isSurrogate, Bool.and_eq_true, decide_eq_true_eq] at h
  refine toNat_ofNat ?_
  simp only [Nat.isValidChar]
  omega

theorem pointOf_ofNat (h : ¬isSurrogate p.val) : pointOf (Char.ofNat p.val) = p :=
  Fin.ext ((val_pointOf _).trans (toNat_ofNat_val h))

theorem pointOf_injective : pointOf.Injective := by
  intro c d h
  rw [← Char.ofNat_toNat c, ← Char.ofNat_toNat d, ← val_pointOf, h, val_pointOf]

/-! ## Spellings -/

theorem pointsOf_cons_of_ne {c : Char} (h : c ≠ mark) (cs : List Char) :
    pointsOf (c :: cs) = pointOf c :: pointsOf cs := by
  cases cs with
  | nil => rfl
  | cons d cs => rw [pointsOf, if_neg h]

theorem pointsOf_mark_mark (cs : List Char) :
    pointsOf (mark :: mark :: cs) = pointOf mark :: pointsOf cs := by
  rw [pointsOf, if_pos rfl, if_pos rfl]

/-- A character stands in for one surrogate, behind the mark. -/
theorem pointsOf_mark_standIn (h : isSurrogate p.val) (cs : List Char) :
    pointsOf (mark :: standIn p.val :: cs) = p :: pointsOf cs := by
  simp only [isSurrogate, Bool.and_eq_true, decide_eq_true_eq] at h
  have hnat : (standIn p.val).toNat = 0xF0000 + (p.val - 0xD800) := by
    refine toNat_ofNat ?_
    simp only [Nat.isValidChar]
    omega
  have hne : standIn p.val ≠ mark := by
    intro heq
    rw [heq, toNat_mark] at hnat
    omega
  have hstands : standsFor? (standIn p.val) = some p := by
    unfold standsFor?
    rw [hnat]
    dsimp only
    rw [if_pos (by omega)]
    refine congrArg some (Fin.ext ?_)
    simp only [Fin.ofNat]
    omega
  rw [pointsOf, if_pos rfl, if_neg hne, hstands]

/-- A code point is read back by itself. -/
theorem pointsOf_spellNumber (p : CodePoint) (cs : List Char) :
    pointsOf (spellNumber p.val ++ cs) = p :: pointsOf cs := by
  unfold spellNumber
  split
  · exact pointsOf_mark_standIn ‹_› cs
  rename_i hplain
  split
  · rename_i hp
    have hmark : pointOf mark = p := Fin.ext (by rw [val_pointOf, toNat_mark, hp])
    rw [List.cons_append, List.cons_append, List.nil_append, pointsOf_mark_mark, hmark]
  · rename_i hp
    have hne : Char.ofNat p.val ≠ mark := by
      intro heq
      rw [← toNat_ofNat_val hplain, heq, toNat_mark] at hp
      exact hp rfl
    rw [List.cons_append, List.nil_append, pointsOf_cons_of_ne hne, pointOf_ofNat hplain]

/-- Code points that have been spelled are read back. -/
@[simp] theorem points_spell (ps : List CodePoint) : points (spell ps) = ps := by
  rw [points, spell, String.toList_ofList]
  induction ps with
  | nil => rfl
  | cons p ps ih => rw [List.flatMap_cons, pointsOf_spellNumber, ih]

/-- Each sequence of code points has a spelling of its own. -/
theorem spell_injective : spell.Injective :=
  Function.LeftInverse.injective points_spell

/-- Each character is spelled as its code point. -/
theorem spellNumber_toNat (c : Char) : spellNumber c.toNat = spellChar c := by
  unfold spellNumber spellChar
  rw [if_neg (not_isSurrogate_toNat c), Char.ofNat_toNat]
  refine if_congr ?_ rfl rfl
  rw [← toNat_mark, ← Char.val_inj, ← UInt32.toNat_inj]
  rfl

theorem spell_map_pointOf (cs : List Char) :
    spell (cs.map pointOf) = String.ofList (cs.flatMap spellChar) := by
  rw [spell, List.flatMap_map]
  simp only [val_pointOf, spellNumber_toNat]

@[simp] theorem points_spellText (s : String) : points (spellText s) = s.toList.map pointOf := by
  rw [spellText, ← spell_map_pointOf, points_spell]

/-- A text without a mark is spelled as it is. -/
theorem points_of_notMem (h : mark ∉ s.toList) : points s = s.toList.map pointOf := by
  unfold points
  generalize s.toList = cs at h
  induction cs with
  | nil => rfl
  | cons c cs ih =>
    rw [List.mem_cons, not_or] at h
    rw [pointsOf_cons_of_ne (Ne.symm h.1), ih h.2, List.map_cons]

/-! ## Encoding -/

/-- An error tells the first run of surrogates that holds a code point which is refused, from that code
point on. -/
inductive EncodeError.Tells (isRefused : CodePoint → Bool) (ps : List CodePoint) : EncodeError → Prop
    where
  /-- Nothing before the code point `p` is refused, and a maximal run of surrogates follows it. -/
  | intro {before run after : List CodePoint} {p : CodePoint} (hps : ps = before ++ p :: (run ++ after))
    (hbefore : ∀ q ∈ before, isRefused q = false) (hp : isRefused p)
    (hrun : ∀ q ∈ run, isSurrogate q.val) (hafter : ∀ q ∈ after.head?, ¬isSurrogate q.val) :
    Tells isRefused ps ⟨before.length, run.length, p⟩

theorem encodeError?_eq_none {isRefused : CodePoint → Bool} :
    encodeError? isRefused ps = none ↔ ∀ p ∈ ps, isRefused p = false := by
  unfold encodeError?
  split
  · rename_i h
    simpa using h
  · rename_i p rest h
    have hne : (ps.dropWhile fun p ↦ !isRefused p) ≠ [] := by simp [h]
    simpa using hne

/-- The error of a text is the one that tells its first run. -/
theorem encodeError?_eq_some {isRefused : CodePoint → Bool} {e : EncodeError} :
    encodeError? isRefused ps = some e ↔ e.Tells isRefused ps := by
  constructor
  · intro h
    unfold encodeError? at h
    split at h
    · cases h
    rename_i p rest hdrop
    obtain rfl := Option.some.inj h
    have hp : isRefused p := by
      have hhead := List.head?_dropWhile_not (fun p ↦ !isRefused p) ps
      rw [hdrop] at hhead
      simpa using hhead
    have hrun : IsMaximalRun (fun q : CodePoint ↦ isSurrogate q.val) [] _ _ :=
      isMaximalRun_takeWhile (by simp) rest
    refine .intro ?_ (fun q hq ↦ ?_) hp hrun.all hrun.right
    · rw [List.takeWhile_append_dropWhile, ← hdrop, List.takeWhile_append_dropWhile]
    · simpa using List.mem_takeWhile_imp hq
  · intro h
    obtain @⟨before, run, after, p, rfl, hbefore, hp, hrun, hafter⟩ := h
    have hrun' : IsMaximalRun (fun q : CodePoint ↦ isSurrogate q.val) [] run after :=
      ⟨hrun, by simp, hafter⟩
    have hall : ∀ q ∈ before, (!isRefused q) = true := fun q hq ↦ by simp [hbefore q hq]
    unfold encodeError?
    rw [List.dropWhile_append_of_pos hall, List.takeWhile_append_of_pos hall,
      List.dropWhile_cons_of_neg (by simp [hp]), List.takeWhile_cons_of_neg (by simp [hp])]
    simp only [List.append_nil, hrun'.takeWhile_eq]

/-- A text of characters is what a text is read as. -/
theorem unspelled_eq_ok : unspelled s = .ok t ↔ points s = t.toList.map pointOf := by
  have hplain (h : ∀ p ∈ points s, ¬isSurrogate p.val) :
      ((points s).map fun p ↦ Char.ofNat p.val).map pointOf = points s := by
    rw [List.map_map]
    exact (List.map_congr_left fun p hp ↦ pointOf_ofNat (h p hp)).trans (List.map_id _)
  unfold unspelled
  split
  · rename_i e he
    refine ⟨(fun h ↦ nomatch h), fun h ↦ ?_⟩
    obtain ⟨hps, -, hp, -, -⟩ := encodeError?_eq_some.mp he
    rw [h] at hps
    obtain ⟨c, -, rfl⟩ := List.mem_map.mp (hps ▸ List.mem_append_right _ List.mem_cons_self)
    rw [val_pointOf] at hp
    exact absurd hp (not_isSurrogate_toNat c)
  · rename_i hnone
    have h : ∀ p ∈ points s, ¬isSurrogate p.val := fun p hp ↦ by
      simp [encodeError?_eq_none.mp hnone p hp]
    rw [Except.ok.injEq, ← String.toList_inj, String.toList_ofList,
      ← (List.map_injective_iff.mpr pointOf_injective).eq_iff, hplain h]

/-- The error of a text that cannot be encoded tells its first run of surrogates. -/
theorem unspelled_eq_error {e : EncodeError} :
    unspelled s = .error e ↔ e.Tells (fun p ↦ isSurrogate p.val) (points s) := by
  rw [← encodeError?_eq_some]
  unfold unspelled
  split <;> simp [*]

/-- A text can be encoded if and only if it spells characters. -/
theorem isEncodable_iff : IsEncodable s ↔ ∃ t, unspelled s = .ok t := by
  unfold IsEncodable unspelled
  split
  · rename_i e he
    obtain ⟨hps, -, hp, -, -⟩ := encodeError?_eq_some.mp he
    refine ⟨fun h ↦ absurd hp (h _ (hps ▸ List.mem_append_right _ List.mem_cons_self)), ?_⟩
    rintro ⟨t, ht⟩
    cases ht
  · rename_i hnone
    exact ⟨fun _ ↦ ⟨_, rfl⟩, fun _ p hp ↦ by simp [encodeError?_eq_none.mp hnone p hp]⟩

/-- A text of characters is read back from its spelling. -/
theorem unspelled_spellText (s : String) : unspelled (spellText s) = .ok s :=
  unspelled_eq_ok.mpr (points_spellText s)

theorem unspelled_of_notMem (h : mark ∉ s.toList) : unspelled s = .ok s :=
  unspelled_eq_ok.mpr (points_of_notMem h)

theorem isEncodable_of_notMem (h : mark ∉ s.toList) : IsEncodable s :=
  isEncodable_iff.mpr ⟨s, unspelled_of_notMem h⟩

end FixBindings.Text
