import FixBindings.Proofs.Identifier.Characters

/-!
# The words of a name

How a name is cut into words, said without the loop that cuts it. The words hold the letters and digits of
the name in order, and none of them is empty. What stands on the two sides of a separator has its words on
its own. In a run of letters and digits a word starts at a capital that follows a small letter or a digit, and
at the last capital of an acronym in front of a small word. No other way to cut names has these properties
(`IsSegmentation.eq_words`).
-/

namespace FixBindings.Identifier

open Text

/-- The words of a name hold all its letters and digits. -/
@[simp] theorem flatten_words (name : List Char) :
    (words name).flatten = name.filter Char.isAlphanum := by
  rw [words, List.flatMap_def, List.flatten_flatten, List.map_map]
  have hpieces : List.flatten ∘ pieces startsWord = id := funext fun _ ↦ flatten_pieces _ _
  rw [hpieces, List.map_id, flatten_runs]
  rfl

/-- No word is empty. -/
theorem ne_nil_of_mem_words {name w : List Char} (hw : w ∈ words name) : w ≠ [] := by
  obtain ⟨r, -, hw⟩ := List.mem_flatMap.mp hw
  exact ne_nil_of_mem_pieces hw

/-- A name has no words when it has no letters and digits. -/
theorem words_eq_nil_iff {name : List Char} : words name = [] ↔ ∀ c ∈ name, ¬c.isAlphanum := by
  rw [← List.filter_eq_nil_iff, ← flatten_words]
  refine ⟨fun h ↦ by rw [h, List.flatten_nil], fun h ↦ ?_⟩
  refine List.eq_nil_iff_forall_not_mem.mpr fun w hw ↦ ?_
  exact ne_nil_of_mem_words hw (List.flatten_eq_nil_iff.mp h w hw)

/-- What holds of the image of each letter and digit holds of the characters of the words of a name that are
mapped, and none of these is empty. -/
theorem of_mem_map_words {P : Char → Prop} {f : Char → Char} (hf : ∀ c, c.isAlphanum → P (f c))
    {name w : List Char} (hw : w ∈ (words name).map (List.map f)) : w ≠ [] ∧ ∀ c ∈ w, P c := by
  obtain ⟨v, hv, rfl⟩ := List.mem_map.mp hw
  refine ⟨by simpa using ne_nil_of_mem_words hv, fun c hc ↦ ?_⟩
  obtain ⟨d, hd, rfl⟩ := List.mem_map.mp hc
  exact hf d (isAlphanum_of_mem_words hv hd)

/-! ## Separators -/

/-- What stands on the two sides of a separator has its words on its own. -/
theorem words_append_cons {c : Char} (hc : ¬c.isAlphanum) (before after : List Char) :
    words (before ++ c :: after) = words before ++ words after := by
  have hword : isWordChar c = false := by simpa [isWordChar] using hc
  rw [words, runs_append_cons hword, List.flatMap_append]
  rfl

/-- The words around a maximal run of letters and digits do not depend on it. -/
theorem words_append_of_isMaximalRun {before run after : List Char}
    (h : IsMaximalRun Char.isAlphanum before run after) :
    words (before ++ run ++ after) = words before ++ words run ++ words after := by
  have hruns : runs isWordChar (before ++ run ++ after) =
      runs isWordChar before ++ runs isWordChar run ++ runs isWordChar after := h.runs_eq
  rw [words, hruns, List.flatMap_append, List.flatMap_append]
  rfl

/-- The words of letters and digits are the pieces between the places where words start. -/
theorem words_of_forall {run : List Char} (h : ∀ c ∈ run, c.isAlphanum) :
    words run = pieces startsWord run := by
  cases run with
  | nil => rfl
  | cons c run =>
    have hruns : runs isWordChar (c :: run) = [c :: run] := runs_of_forall (List.cons_ne_nil c run) h
    rw [words, hruns, List.flatMap_singleton]

/-! ## Places where words start -/

/-- A word starts at `current`, where `previous` stands in front of it and `after` behind it. It is a capital,
and it follows a small letter or a digit, or it follows a capital and the maximal run of small letters behind
it is neither empty nor a plural `s`. -/
def StartsWord (previous current : Char) (after : List Char) : Prop :=
  current.isUpper ∧
    (previous.isLower ∨ previous.isDigit ∨
      previous.isUpper ∧ ∃ small rest, after = small ++ rest ∧
        IsMaximalRun Char.isLower [current] small rest ∧ small ≠ [] ∧ small ≠ ['s'])

/-- A small word stands at the front of a list when the maximal run there is a word. -/
theorem startsLowerWord_iff {current : Char} (hc : current.isUpper) {after : List Char} :
    startsLowerWord after ↔ ∃ small rest, after = small ++ rest ∧
      IsMaximalRun Char.isLower [current] small rest ∧ small ≠ [] ∧ small ≠ ['s'] := by
  unfold startsLowerWord
  constructor
  · intro h
    have hleft : ∀ c ∈ [current].getLast?, ¬c.isLower := by
      simpa using not_isLower_of_isUpper hc
    refine ⟨_, _, (List.takeWhile_append_dropWhile).symm, isMaximalRun_takeWhile hleft after, ?_⟩
    simpa using h
  · rintro ⟨small, rest, rfl, hmax, hne, hs⟩
    simp [hmax.takeWhile_eq, hne, hs]

/-- The look at the neighbours of a character tells whether a word starts there. -/
theorem startsWord_iff {previous current : Char} {after : List Char} :
    startsWord previous current after ↔ StartsWord previous current after := by
  by_cases hc : current.isUpper
  · simp [startsWord, StartsWord, hc, startsLowerWord_iff hc, or_assoc]
  · simp [startsWord, StartsWord, hc]

/-- Behind the front of a run of letters and digits words start where they have to, and nowhere else. -/
theorem startsAt_words_iff {front back : List Char} {previous current : Char}
    (h : ∀ c ∈ front ++ previous :: current :: back, c.isAlphanum) :
    StartsAt (words (front ++ previous :: current :: back)) (front.length + 1) ↔
      StartsWord previous current back := by
  rw [words_of_forall h, startsAt_pieces_iff, List.drop_left, ← startsWord_iff]
  constructor
  · rintro ⟨_, _, _, ⟨⟩, hstart⟩
    exact hstart
  · intro hstart
    exact ⟨previous, current, back, rfl, hstart⟩

/-! ## Segmentation -/

/-- The rules by which names are cut into words. -/
structure IsSegmentation (split : List Char → List (List Char)) : Prop where
  /-- Words are not empty, and hold letters and digits only. -/
  isWord : ∀ name, ∀ w ∈ split name, w ≠ [] ∧ ∀ c ∈ w, c.isAlphanum
  /-- In a row they are the letters and digits of the name. -/
  flatten_eq : ∀ name, (split name).flatten = name.filter Char.isAlphanum
  /-- What stands on the two sides of a separator is cut on its own. -/
  append_cons : ∀ before c after, ¬c.isAlphanum →
    split (before ++ c :: after) = split before ++ split after
  /-- In a maximal run of letters and digits words start where they have to, and nowhere else. -/
  startsAt_iff : ∀ before run after, IsMaximalRun Char.isAlphanum before run after →
    ∃ ws, split (before ++ run ++ after) = split before ++ ws ++ split after ∧ ws.flatten = run ∧
      ∀ front previous current back, run = front ++ previous :: current :: back →
        (StartsAt ws (front.length + 1) ↔ StartsWord previous current back)

/-- Names are cut into words by the rules. -/
theorem isSegmentation_words : IsSegmentation words where
  isWord name w hw := ⟨ne_nil_of_mem_words hw, fun _ hc ↦ isAlphanum_of_mem_words hw hc⟩
  flatten_eq := flatten_words
  append_cons before c after hc := words_append_cons hc before after
  startsAt_iff before run after hmax := by
    refine ⟨words run, words_append_of_isMaximalRun hmax, ?_, ?_⟩
    · rw [flatten_words]
      exact List.filter_eq_self.mpr hmax.all
    · rintro front previous current back rfl
      exact startsAt_words_iff hmax.all

section

variable {split : List Char → List (List Char)} (h : IsSegmentation split)
include h

theorem IsSegmentation.split_nil : split [] = [] := by
  refine List.eq_nil_iff_forall_not_mem.mpr fun w hw ↦ ?_
  have hempty : w = [] := List.flatten_eq_nil_iff.mp (h.flatten_eq []) w hw
  exact (h.isWord [] w hw).1 hempty

/-- The rules leave one way to cut a run of letters and digits. -/
theorem IsSegmentation.eq_words_of_forall {run : List Char} (hrun : ∀ c ∈ run, c.isAlphanum) :
    split run = words run := by
  obtain ⟨ws, hws, hflatten, hstarts⟩ := h.startsAt_iff [] run [] ⟨hrun, by simp, by simp⟩
  obtain rfl : split run = ws := by simpa [h.split_nil] using hws
  have hword : ∀ w ∈ split run, w ≠ [] := fun w hw ↦ (h.isWord run w hw).1
  refine eq_of_startsAt hword (fun _ ↦ ne_nil_of_mem_words) ?_ fun i ↦ ?_
  · rw [h.flatten_eq, flatten_words]
  by_cases hi : i + 1 < run.length
  · obtain ⟨front, previous, current, back, rfl, rfl⟩ := exists_neighbours hi
    rw [hstarts front previous current back rfl, startsAt_words_iff hrun]
  · -- No word starts where the run has come to its end.
    refine iff_of_false (fun hs ↦ hi ?_) fun hs ↦ hi ?_
    · have hlt := hs.lt_length hword
      rwa [hflatten] at hlt
    · have hlt := hs.lt_length fun _ ↦ ne_nil_of_mem_words
      rwa [flatten_words, List.filter_eq_self.mpr hrun] at hlt

/-- The rules leave one way to cut a name. -/
theorem IsSegmentation.eq_words (name : List Char) : split name = words name := by
  suffices ∀ front, (∀ c ∈ front, c.isAlphanum) → split (front ++ name) = words (front ++ name) from
    this [] (by simp)
  -- The letters and digits since the last separator are in `front`.
  induction name with
  | nil =>
    intro front hfront
    rw [List.append_nil]
    exact h.eq_words_of_forall hfront
  | cons c name ih =>
    intro front hfront
    by_cases hc : c.isAlphanum
    · rw [List.append_cons]
      apply ih
      rw [List.forall_mem_append]
      exact ⟨hfront, by simpa using hc⟩
    · have hname : split name = words name := ih [] (by simp)
      rw [h.append_cons front c name hc, words_append_cons hc, hname, h.eq_words_of_forall hfront]

end

/-- Names are cut into words by the rules, and there is no other way to keep all of them. -/
theorem isSegmentation_words_and_unique :
    IsSegmentation words ∧ ∀ split, IsSegmentation split → split = words := by
  refine ⟨isSegmentation_words, fun split h ↦ ?_⟩
  funext name
  exact h.eq_words name

example : (words "NoPartyIDs, MDReqID2nd".toList).map String.ofList =
    ["No", "Party", "IDs", "MD", "Req", "ID2nd"] := by decide

end FixBindings.Identifier
