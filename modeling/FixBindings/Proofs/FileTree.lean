import FixBindings.FileTree
import FixBindings.Proofs.Path

/-!
# What stays when files are written

Making the directories on the way to a file adds directories to a tree and changes nothing that is there,
also when it fails on the way. Writing a file then changes what stands at its place and nothing else, and
the file is read back as it was written. This holds of paths from the root as of those from the working
directory, and of paths that lead up and down again.
-/

namespace FixBindings.FileTree

variable {t u v : FileTree} {q start : Place} {p : Path}

/-! ## Places -/

theorem entry_insert_of_ne {r : Place} (e : Entry) (h : r ≠ q) :
    entry? (t.insert q e) r = t.entry? r := by
  unfold entry? insert
  rw [lookup_put_of_ne e t.entries h]

/-- What is put at a place where no directory is stands there. -/
theorem entry_insert_self (e : Entry) (h : t.entry? q ≠ some .directory) :
    entry? (t.insert q e) q = some e := by
  have hbelow : ¬q <+: t.workingDirectory := fun hprefix ↦ h (if_pos hprefix)
  unfold entry? insert
  rw [if_neg hbelow, lookup_put_self]

/-- The place below or above a place that a name leads to, unless the name is too long. -/
def stepTo (start : Place) (name : List UInt8) : Except Fault Place :=
  if name = upward then .ok start.dropLast
  else if maxNameBytes < name.length then .error .nameTooLong
  else .ok (start ++ [name])

/-- Names lead on from a directory only, and from there from the place that the first of them leads to. -/
theorem placeFrom_cons_eq_ok {name : List UInt8} {names : List (List UInt8)} :
    t.placeFrom start (name :: names) = .ok q ↔
      t.entry? start = some .directory ∧
        ∃ next, stepTo start name = .ok next ∧ t.placeFrom next names = .ok q := by
  rw [placeFrom]
  split
  · simp [*]
  · simp [*]
  · rename_i hdir
    simp only [hdir, true_and, stepTo]
    split
    · simp
    split <;> simp

/-- The tree `u` has the directories of `t` and perhaps more, around the same working directory. -/
structure HasDirectories (t u : FileTree) : Prop where
  /-- The working directory is the same. -/
  workingDirectory : u.workingDirectory = t.workingDirectory
  /-- The directories of `t` are there. -/
  directory : ∀ r, t.entry? r = some .directory → u.entry? r = some .directory

namespace HasDirectories

variable (h : HasDirectories t u)

include h

theorem startOf_eq (p : Path) : u.startOf p = t.startOf p := by
  rw [startOf, startOf, h.workingDirectory]

/-- Names lead to the same place in a tree that has the same directories and perhaps more. -/
theorem placeFrom {names : List (List UInt8)} (hp : t.placeFrom start names = .ok q) :
    u.placeFrom start names = .ok q := by
  induction names generalizing start with
  | nil => exact hp
  | cons name names ih =>
    obtain ⟨hdir, next, hnext, hrest⟩ := placeFrom_cons_eq_ok.mp hp
    exact placeFrom_cons_eq_ok.mpr ⟨h.directory start hdir, next, hnext, ih hrest⟩

/-- What the names of a path lead to stays there. -/
theorem placeFrom_startOf {names : List (List UInt8)} (hp : t.placeFrom (t.startOf p) names = .ok q) :
    u.placeFrom (u.startOf p) names = .ok q := by
  rw [h.startOf_eq]
  exact h.placeFrom hp

end HasDirectories

theorem exists_isNoName_iff {s : String} :
    (∃ p ∈ Text.points s, Text.isNoName p) ↔ ∃ e, Text.nameError? s = some e := by
  have hnone : Text.nameError? s = none ↔ ∀ p ∈ Text.points s, Text.isNoName p = false :=
    Text.encodeError?_eq_none
  rw [← Option.isSome_iff_exists, ← Option.ne_none_iff_isSome, ne_eq, hnone]
  simp

/-- A path leads to a place when its text names something and is not too long, and its names lead there. -/
theorem place_eq_ok : t.place p = .ok q ↔
    (¬Path.NamesNothing p.text ∧ (Text.fileBytes p.text).length ≤ maxPathBytes) ∧
      t.placeFrom (t.startOf p) (namesOf p) = .ok q := by
  unfold place Path.NamesNothing
  rw [exists_isNoName_iff]
  split
  · simp [*]
  split
  · simp_all
  split
  · simp only [reduceCtorEq, false_iff, not_and]
    omega
  · simp_all

theorem HasDirectories.place (h : HasDirectories t u) (hp : t.place p = .ok q) : u.place p = .ok q := by
  obtain ⟨htext, hnames⟩ := place_eq_ok.mp hp
  exact place_eq_ok.mpr ⟨htext, h.placeFrom_startOf hnames⟩

/-- A text of characters leads where the names of its path do, unless it is too long or holds a NUL. -/
theorem place_ofText {path : String} (hmark : Text.mark ∉ path.toList) (hnul : '\x00' ∉ path.toList)
    (hlength : (Text.fileBytes (Path.ofText path).text).length ≤ maxPathBytes)
    (h : t.placeFrom (t.startOf (Path.ofText path)) (namesOf (Path.ofText path)) = .ok q) :
    t.place (Path.ofText path) = .ok q := by
  refine place_eq_ok.mpr ⟨⟨fun hnothing ↦ ?_, hlength⟩, h⟩
  rw [Path.namesNothing_text_ofText, Path.namesNothing_of_notMem hmark] at hnothing
  exact hnul hnothing

/-- All names on the way but the last lead to directories. -/
theorem exists_directory_of_placeFrom {front rest : List (List UInt8)} (hrest : rest ≠ [])
    (h : t.placeFrom start (front ++ rest) = .ok q) :
    ∃ r, t.placeFrom start front = .ok r ∧ t.entry? r = some .directory := by
  induction front generalizing start with
  | nil =>
    obtain ⟨name, rest, rfl⟩ := List.exists_cons_of_ne_nil hrest
    exact ⟨start, rfl, (placeFrom_cons_eq_ok.mp h).1⟩
  | cons name front ih =>
    obtain ⟨hdir, next, hnext, hnames⟩ := placeFrom_cons_eq_ok.mp h
    obtain ⟨r, hr, hentry⟩ := ih hnames
    exact ⟨r, placeFrom_cons_eq_ok.mpr ⟨hdir, next, hnext, hr⟩, hentry⟩

/-! ## Making directories -/

/-- A place is on the way along a path: some of its names, from the first on, lead there. -/
def IsOnWay (t : FileTree) (way : Path) (r : Place) : Prop :=
  ∃ names, names <+: namesOf way ∧ t.placeFrom (t.startOf way) names = .ok r

theorem IsOnWay.of_hasDirectories {way : Path} {r : Place} (hr : IsOnWay t way r)
    (h : HasDirectories t u) : IsOnWay u way r := by
  obtain ⟨names, hnames, hplace⟩ := hr
  exact ⟨names, hnames, h.placeFrom_startOf hplace⟩

/-- What is on the way along a path is on the way along a longer one. -/
theorem IsOnWay.mono {way way' : Path} {r : Place} (hr : IsOnWay t way r)
    (hroot : way.root = way'.root) (hway : way.names <+: way'.names) : IsOnWay t way' r := by
  obtain ⟨names, hnames, hplace⟩ := hr
  have hstart : t.startOf way' = t.startOf way := by
    rw [startOf, startOf, Path.isAbsolute, Path.isAbsolute, hroot]
  exact ⟨names, hnames.trans (hway.map Text.fileBytes), by rwa [hstart]⟩

/-- The tree `u` has what `t` has, and besides only directories, each on the way along a path. -/
structure GrowsAlong (way : Path) (t u : FileTree) : Prop where
  /-- The working directory is the same. -/
  workingDirectory : u.workingDirectory = t.workingDirectory
  /-- What is in `t` stays. -/
  kept : ∀ r e, t.entry? r = some e → u.entry? r = some e
  /-- What is not in `t` is a directory on the way. -/
  added : ∀ r e, t.entry? r = none → u.entry? r = some e → e = .directory ∧ IsOnWay u way r

namespace GrowsAlong

variable {way : Path}

theorem hasDirectories (h : GrowsAlong way t u) : HasDirectories t u :=
  ⟨h.workingDirectory, fun r ↦ h.kept r .directory⟩

theorem refl (way : Path) (t : FileTree) : GrowsAlong way t t where
  workingDirectory := rfl
  kept _ _ h := h
  added r e hnone h := by
    rw [hnone] at h
    cases h

theorem trans (h : GrowsAlong way t u) (h' : GrowsAlong way u v) : GrowsAlong way t v where
  workingDirectory := h'.workingDirectory.trans h.workingDirectory
  kept r e hr := h'.kept r e (h.kept r e hr)
  added r e hnone hr := by
    cases hu : u.entry? r with
    | none => exact h'.added r e hu hr
    | some d =>
      obtain ⟨rfl, hway⟩ := h.added r d hnone hu
      rw [h'.kept r _ hu] at hr
      exact ⟨(Option.some.inj hr).symm, hway.of_hasDirectories h'.hasDirectories⟩

theorem mono {way' : Path} (h : GrowsAlong way t u) (hroot : way.root = way'.root)
    (hway : way.names <+: way'.names) : GrowsAlong way' t u where
  workingDirectory := h.workingDirectory
  kept := h.kept
  added r e hnone hr := by
    obtain ⟨he, hr⟩ := h.added r e hnone hr
    exact ⟨he, hr.mono hroot hway⟩

end GrowsAlong

/-- Making a directory adds it. -/
theorem growsAlong_of_makeDirectory (h : t.makeDirectory p = .ok u) : GrowsAlong p t u := by
  unfold makeDirectory at h
  split at h
  · cases h
  rename_i place hplace
  split at h
  · cases h
  rename_i hnone
  obtain rfl := Except.ok.inj h
  have hkept (r : Place) (e : Entry) (hr : t.entry? r = some e) :
      entry? (t.insert place .directory) r = some e := by
    rw [entry_insert_of_ne _ fun heq ↦ ?_]
    · exact hr
    · rw [heq, hnone] at hr
      cases hr
  have hdirectories : HasDirectories t (t.insert place .directory) :=
    ⟨rfl, fun r ↦ hkept r .directory⟩
  refine ⟨rfl, hkept, fun r e hr he ↦ ?_⟩
  by_cases heq : r = place
  · subst heq
    rw [entry_insert_self _ (by simp [hnone])] at he
    have hway : IsOnWay t p r := ⟨namesOf p, List.prefix_rfl, (place_eq_ok.mp hplace).2⟩
    exact ⟨(Option.some.inj he).symm, hway.of_hasDirectories hdirectories⟩
  · rw [entry_insert_of_ne _ heq, hr] at he
    cases he

/-- Making the directories on a way adds directories on the way, whether or not it ends in an error. -/
theorem growsAlong_makeDirectories (t : FileTree) (root : String) (names : List String) :
    GrowsAlong ⟨root, names.reverse⟩ t (t.makeDirectories root names).1 := by
  induction names with
  | nil => exact .refl _ t
  | cons name names ih =>
    have hway : GrowsAlong ⟨root, (name :: names).reverse⟩ t (t.makeDirectories root names).1 := by
      refine ih.mono rfl ?_
      rw [List.reverse_cons]
      exact List.prefix_append _ _
    simp only [makeDirectories]
    split
    · exact growsAlong_of_makeDirectory ‹_›
    · split
      · rwa [‹t.makeDirectories root names = _›] at hway
      · rename_i s hs
        rw [hs] at hway
        split
        · exact hway.trans (growsAlong_of_makeDirectory ‹_›)
        · exact hway
        · exact hway
    · exact .refl _ t

/-- The last directory on a way is the only one to make when the others are there. -/
theorem makeWay_of_makeDirectory (hne : p.parent.names ≠ []) (h : t.makeDirectory p.parent = .ok u) :
    t.makeWay p = (u, none) := by
  unfold makeWay
  cases hnames : p.parent.names.reverse with
  | nil => exact absurd (List.reverse_eq_nil_iff.mp hnames) hne
  | cons name names =>
    have hpath : (⟨p.root, (name :: names).reverse⟩ : Path) = p.parent := by
      rw [← hnames, List.reverse_reverse]
      rfl
    rw [makeDirectories, hpath]
    simp only [h]

theorem growsAlong_makeWay (t : FileTree) (p : Path) : GrowsAlong p.parent t (t.makeWay p).1 := by
  have hgrows := growsAlong_makeDirectories t p.root p.parent.names.reverse
  rwa [List.reverse_reverse] at hgrows

/-! ## Writing files -/

/-- The tree `u` is `t` with bytes written to the file at a path, and with the directories on the way to
it. -/
structure Writes (out : Path) (bytes : List UInt8) (t u : FileTree) : Prop where
  /-- The working directory is the same. -/
  workingDirectory : u.workingDirectory = t.workingDirectory
  /-- The file holds the bytes. -/
  written : u.read out = .ok bytes
  /-- The way to the file is a way through directories. -/
  parents : ∀ names, names <+: namesOf out → names ≠ namesOf out →
    ∃ r, u.placeFrom (u.startOf out) names = .ok r ∧ u.entry? r = some .directory
  /-- What is in `t` stays, but for the file. -/
  kept : ∀ r e, u.place out ≠ .ok r → t.entry? r = some e → u.entry? r = some e
  /-- What is not in `t`, but for the file, is a directory on the way. -/
  added : ∀ r e, u.place out ≠ .ok r → t.entry? r = none → u.entry? r = some e →
    e = .directory ∧ IsOnWay u out r

/-- Writing a file puts its bytes at the place of its path and changes no other place. -/
theorem exists_place_of_write {bytes : List UInt8} (h : t.write p bytes = .ok u) :
    ∃ r, t.place p = .ok r ∧ t.entry? r ≠ some .directory ∧ u = t.insert r (.file bytes) := by
  unfold write at h
  split at h
  · cases h
  rename_i r hr
  split at h
  · cases h
  rename_i hdir
  exact ⟨r, hr, hdir, (Except.ok.inj h).symm⟩

/-- Making the directories on the way and then writing the file leaves the tree with the file. -/
theorem writes_of_makeWay {bytes : List UInt8} (hway : t.makeWay p = (u, none))
    (h : u.write p bytes = .ok v) : Writes p bytes t v := by
  have hgrows : GrowsAlong p.parent t u := by
    have hmade := growsAlong_makeWay t p
    rwa [hway] at hmade
  obtain ⟨place, hplace, hdir, rfl⟩ := exists_place_of_write h
  have hother {r : Place} (hr : r ≠ place) :
      entry? (u.insert place (.file bytes)) r = u.entry? r := entry_insert_of_ne _ hr
  have hdirectories : HasDirectories u (u.insert place (.file bytes)) :=
    ⟨rfl, fun r hr ↦ (hother fun heq ↦ hdir (heq ▸ hr)).trans hr⟩
  have hfile := entry_insert_self (.file bytes) hdir
  have hto : (u.insert place (.file bytes)).place p = .ok place := hdirectories.place hplace
  have hne {r : Place} (hr : (u.insert place (.file bytes)).place p ≠ .ok r) : r ≠ place := by
    rintro rfl
    exact hr hto
  refine ⟨hgrows.workingDirectory, ?_, fun names hnames hproper ↦ ?_, fun r e hr he ↦ ?_,
    fun r e hr hnone he ↦ ?_⟩
  · simp only [read, hto, hfile]
  · obtain ⟨rest, hrest⟩ := hnames
    have hnamed := (place_eq_ok.mp hto).2
    rw [← hrest] at hnamed
    refine exists_directory_of_placeFrom ?_ hnamed
    rintro rfl
    rw [List.append_nil] at hrest
    exact hproper hrest
  · rw [hother (hne hr)]
    exact hgrows.kept r e he
  · rw [hother (hne hr)] at he
    obtain ⟨rfl, hway⟩ := hgrows.added r e hnone he
    exact ⟨rfl, (hway.mono (Eq.refl p.root) p.names.dropLast_prefix).of_hasDirectories hdirectories⟩

/-! ## Reading files -/

end FixBindings.FileTree
