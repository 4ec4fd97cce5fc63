import FixBindings.CommandLine.Run
import FixBindings.Proofs.Dictionary.Outcome
import FixBindings.Proofs.FileTree
import FixBindings.Proofs.Rust.Lines
import FixBindings.Proofs.Rust.Version
import FixBindings.Proofs.Traced
import FixBindings.Yaml.Standard

/-!
# What a run leaves behind

A run that comes to no code, because the dictionary is not loaded or the module is not generated, leaves
all files and directories as they are. A run that ends without a failure leaves the code in the output
file, also when this is the file of the dictionary, and besides it only the directories on the way. When
the file cannot be written, the directories that have been made are all that is new; when the code cannot
be encoded, an empty file is there as well.
-/

namespace FixBindings.CommandLine

open Calendar FileTree

/-! ## The code of a run -/

/-- The dictionary in the file that a text names, or why it is not loaded. -/
def loadFile (yaml : Dictionary.YamlReader) (t : FileTree) (path : String) :
    Except Failure Dictionary :=
  match t.read (Path.ofText path) with
  | .error e => .error (.file e)
  | .ok bytes => (Dictionary.load yaml path bytes).result.mapError .load

/-- The code of a dictionary that has been loaded, or why there is none. -/
def codeFrom (job : Job) (now : LocalTime) (d : Dictionary) : Except Failure String := do
  let _ ← outputLine (loadedLine d)
  moduleCode job d (Rust.generate job.allOptions now d).result

/-- The code that a run writes, or why there is none. -/
def codeOf (yaml : Dictionary.YamlReader) (job : Job) (now : LocalTime) (t : FileTree) :
    Except Failure String := do
  let path ← pathText job.dictionary
  let d ← loadFile yaml t path
  codeFrom job now d

/-- The dictionary of a job is loaded and its module is generated: `code` is the module. -/
inductive Produces (yaml : Dictionary.YamlReader) (job : Job) (now : LocalTime) (t : FileTree)
    (code : String) : Prop where
  /-- The file that the job names is read, the dictionary is loaded from its bytes, the line that tells so
  can be encoded, and the module is generated from the dictionary with the options of the job; the further
  attribute line has a text if there are structs to put it on. -/
  | intro {path : String} {bytes : List UInt8} {d : Dictionary} (hpath : job.dictionary = .text path)
    (hread : t.read (Path.ofText path) = .ok bytes)
    (hload : (Dictionary.load yaml path bytes).result = .ok d)
    (hline : Text.IsEncodable (loadedLine d))
    (hgenerate : (Rust.generate job.allOptions now d).result = .ok code)
    (hderive : job.derive = .nothing → job.options.includeMessages → d.messages = [])

variable {yaml : Dictionary.YamlReader} {job : Job} {now : LocalTime} {t : FileTree} {code : String}

theorem pathText_eq_ok {value : OptionValue} {s : String} :
    pathText value = .ok s ↔ value = .text s := by
  cases value <;> simp [pathText]

theorem loadFile_eq_ok {path : String} {d : Dictionary} :
    loadFile yaml t path = .ok d ↔ ∃ bytes,
      t.read (Path.ofText path) = .ok bytes ∧ (Dictionary.load yaml path bytes).result = .ok d := by
  unfold loadFile
  split
  · simp [*]
  · simp [*, mapError_eq_ok]

/-- A line is put out if and only if it can be encoded. -/
theorem exists_outputLine_iff {line : String} :
    (∃ s, outputLine line = .ok s) ↔ Text.IsEncodable line := by
  simp only [outputLine, mapError_eq_ok, Text.isEncodable_iff]

theorem moduleCode_eq_ok {d : Dictionary} {generated : Except Rust.GenerateError String} :
    moduleCode job d generated = .ok code ↔
      generated = .ok code ∧
        (job.derive = .nothing → job.options.includeMessages → d.messages = []) := by
  unfold moduleCode
  split
  · simp
  · simp only [Bool.and_eq_true, Bool.not_eq_true', List.isEmpty_eq_false_iff, beq_iff_eq]
    split
    · simp_all
    · rw [mapError_eq_ok]
      grind

/-- A run has a code if and only if its dictionary is loaded and the module is generated. -/
theorem codeOf_eq_ok : codeOf yaml job now t = .ok code ↔ Produces yaml job now t code := by
  simp only [codeOf, codeFrom, bind_eq_ok, pathText_eq_ok, loadFile_eq_ok, moduleCode_eq_ok]
  constructor
  · rintro ⟨path, hpath, d, ⟨bytes, hread, hload⟩, line, hline, hgenerate, hderive⟩
    exact ⟨hpath, hread, hload, exists_outputLine_iff.mp ⟨line, hline⟩, hgenerate, hderive⟩
  · rintro ⟨hpath, hread, hload, hline, hgenerate, hderive⟩
    obtain ⟨line, hline⟩ := exists_outputLine_iff.mpr hline
    exact ⟨_, hpath, _, ⟨_, hread, hload⟩, line, hline, hgenerate, hderive⟩

/-! ## Runs -/

theorem code_planOf (job : Job) (now : LocalTime) (told : List String) (d : Dictionary) :
    (planOf job now told d).code = codeFrom job now d := by
  unfold planOf codeFrom
  cases outputLine (loadedLine d) <;> rfl

/-- The plan of a run has the code of the run, or the reason why there is none. -/
theorem code_plan (yaml : Dictionary.YamlReader) (job : Job) (now : LocalTime) (path : String)
    (t : FileTree) : (plan yaml job now path (t.read (Path.ofText path))).code =
      (loadFile yaml t path >>= codeFrom job now) := by
  unfold plan loadFile
  cases t.read (Path.ofText path) with
  | error e => rfl
  | ok bytes =>
    dsimp only
    cases (Dictionary.load yaml path bytes).result with
    | error e => rfl
    | ok d =>
      have hok : Except.mapError Failure.load (.ok d) = pure d := rfl
      rw [hok, pure_bind, ← code_planOf]

/-- The code of a run is that of its plan, unless the job names no dictionary. -/
theorem codeOf_of_pathText {path : String} (hpath : pathText job.dictionary = .ok path) :
    codeOf yaml job now t = (plan yaml job now path (t.read (Path.ofText path))).code := by
  have hok : (Except.ok path : Except Failure String) = pure path := rfl
  rw [codeOf, hpath, hok, pure_bind, code_plan]

/-- A run without code ends before it writes. -/
theorem run_of_codeOf_eq_error {f : Failure} (h : codeOf yaml job now t = .error f) :
    ∃ r, run yaml job now t = ⟨r, .error f, t⟩ := by
  cases hpath : pathText job.dictionary with
  | error g =>
    rw [codeOf, hpath] at h
    cases h
    exact ⟨_, by rw [run, hpath]⟩
  | ok path =>
    rw [codeOf_of_pathText hpath] at h
    rw [run, hpath]
    simp only [h]
    exact ⟨_, rfl⟩

/-- A run with code writes it to the file that the job names. -/
theorem run_of_codeOf_eq_ok (h : codeOf yaml job now t = .ok code) :
    ∃ r, run yaml job now t =
      match pathText job.out with
      | .error f => ⟨r, .error f, t⟩
      | .ok out => writeModule r t (Path.ofText out) code := by
  cases hpath : pathText job.dictionary with
  | error g =>
    rw [codeOf, hpath] at h
    cases h
  | ok path =>
    rw [codeOf_of_pathText hpath] at h
    rw [run, hpath]
    simp only [h]
    exact ⟨_, rfl⟩

/-- A module is written in UTF-8, with the directories on the way to its file. -/
theorem writes_writeModule {r : Report} {out p : Path} (h : (writeModule r t out code).result = .ok p) :
    p = out ∧ ∃ text, Text.unspelled code = .ok text ∧
      Writes out (Rust.utf8Bytes text) t (writeModule r t out code).tree := by
  unfold writeModule at h
  split at h
  · cases h
  rename_i u hway
  split at h
  · rename_i text htext
    split at h
    · rename_i v hwrite
      cases h
      refine ⟨rfl, text, htext, ?_⟩
      simp only [writeModule, hway, htext, hwrite]
      exact writes_of_makeWay hway hwrite
    · cases h
  · split at h <;> cases h

/-- When a module cannot be written, only directories on the way have been made, or the code cannot be
encoded and an empty file has been written. -/
theorem growsAlong_or_writes_writeModule {r : Report} {out : Path} {f : Failure}
    (h : (writeModule r t out code).result = .error f) :
    GrowsAlong out.parent t (writeModule r t out code).tree ∨
      ¬Text.IsEncodable code ∧ Writes out [] t (writeModule r t out code).tree := by
  have hgrows := growsAlong_makeWay t out
  cases hway : t.makeWay out with
  | mk u error =>
  rw [hway] at hgrows
  unfold writeModule at h ⊢
  rw [hway] at h ⊢
  cases error with
  | some e => exact .inl hgrows
  | none =>
    dsimp only at h ⊢
    cases hcode : Text.unspelled code with
    | ok text =>
      rw [hcode] at h
      cases hwrite : u.write out (Rust.utf8Bytes text) with
      | ok v =>
        simp only [hwrite, reduceCtorEq] at h
      | error e =>
        simp only [hwrite]
        exact .inl hgrows
    | error e =>
      have hnot : ¬Text.IsEncodable code := fun hencodable ↦ by
        obtain ⟨text, htext⟩ := Text.isEncodable_iff.mp hencodable
        rw [hcode] at htext
        cases htext
      cases hwrite : u.write out [] with
      | ok v => exact .inr ⟨hnot, writes_of_makeWay hway hwrite⟩
      | error e => exact .inl hgrows

/-- A run with no code changes nothing. A run without a failure has written its code in UTF-8 to the output
file, with the directories on the way, and changed nothing else. A run with code and a failure has at most
made some of these directories, or left the output file empty because the code cannot be encoded. -/
theorem run_effect (yaml : Dictionary.YamlReader) (job : Job) (now : LocalTime) (t : FileTree) :
    ((∀ code, ¬Produces yaml job now t code) → ∃ r f, run yaml job now t = ⟨r, .error f, t⟩) ∧
      (∀ p, (run yaml job now t).result = .ok p → ∃ code text out, Produces yaml job now t code ∧
        Text.unspelled code = .ok text ∧ job.out = .text out ∧ p = Path.ofText out ∧
        Writes p (Rust.utf8Bytes text) t (run yaml job now t).tree) ∧
      ∀ f, (run yaml job now t).result = .error f → (run yaml job now t).tree = t ∨
        ∃ code out, Produces yaml job now t code ∧ job.out = .text out ∧
          (GrowsAlong (Path.ofText out).parent t (run yaml job now t).tree ∨
            ¬Text.IsEncodable code ∧ Writes (Path.ofText out) [] t (run yaml job now t).tree) := by
  cases hcode : codeOf yaml job now t with
  | error f =>
    obtain ⟨r, hrun⟩ := run_of_codeOf_eq_error hcode
    rw [hrun]
    refine ⟨fun _ ↦ ⟨r, f, rfl⟩, fun p h ↦ ?_, fun _ _ ↦ .inl rfl⟩
    cases h
  | ok code =>
    have hproduces := codeOf_eq_ok.mp hcode
    obtain ⟨r, hrun⟩ := run_of_codeOf_eq_ok hcode
    rw [hrun]
    refine ⟨fun h ↦ absurd hproduces (h code), ?_⟩
    cases hout : pathText job.out with
    | error f =>
      refine ⟨fun p h ↦ ?_, fun _ _ ↦ .inl rfl⟩
      cases h
    | ok out =>
      have hname := pathText_eq_ok.mp hout
      refine ⟨fun p h ↦ ?_, fun _ h ↦ .inr ⟨code, out, hproduces, hname, ?_⟩⟩
      · obtain ⟨rfl, text, htext, hwrites⟩ := writes_writeModule h
        exact ⟨code, text, out, hproduces, htext, hname, rfl, hwrites⟩
      · exact growsAlong_or_writes_writeModule h

/-- Whether what is read is a mapping of the text `key` to the text `value` and of nothing else. Unlike the
equation of values this can be decided. -/
def isEntry (key value : String) : Except Json.Error Document.Value → Bool
  | .ok (.mapping [(.text k, .scalar (.text v))]) => k == key && v == value
  | _ => false

theorem eq_of_isEntry {key value : String} {x : Except Json.Error Document.Value}
    (h : isEntry key value x) : x = .ok (.mapping [(.text key, .text value)]) := by
  unfold isEntry at h
  split at h
  · simp only [Bool.and_eq_true, beq_iff_eq] at h
    rw [h.1, h.2]
    rfl
  · cases h

/-- A dictionary with nothing but a version. -/
def withVersion (version : String) : Dictionary := ⟨version, [], [], []⟩

/-- A JSON text with nothing but a version is loaded as such. -/
theorem load_of_isEntry (yaml : Dictionary.YamlReader) {path document version : String}
    (hpath : Dictionary.IsJson path)
    (h : isEntry "version" version (Json.read (Text.unifyLineEndings document.toList))) :
    (Dictionary.load yaml path (Rust.utf8Bytes document)).result = .ok (withVersion version) := by
  rw [Dictionary.load_of_isJson rfl hpath, Dictionary.loadJson, eq_of_isEntry h]
  rfl

/-- Each line of its module is one of characters. -/
theorem exists_generate_withVersion :
    ∃ code, (Rust.generate {} ⟨⟨⟨2024, 3, 5⟩, 14, 30, 0⟩, 3600⟩ (withVersion "FIX.4.4")).result = .ok code ∧
      Text.unspelled code = .ok code := by
  have hnow : LocalTime.toUtc ⟨⟨⟨2024, 3, 5⟩, 14, 30, 0⟩, 3600⟩ = .ok ⟨⟨2024, 3, 5⟩, 13, 30, 0⟩ := rfl
  have hgenerate := Rust.generate_eq_unlines {} (d := withVersion "FIX.4.4") (List.forall_mem_nil _)
    (List.forall_mem_nil _) hnow
  refine ⟨_, hgenerate, Text.unspelled_of_notMem (Rust.notMem_unlines (by decide) ?_)⟩
  decide +kernel

/-- A document with nothing but a version. -/
def versionDocument : String := "\x7b\"version\": \"FIX.4.4\"\x7d"

/-- The directory `w` at the root, which is the working directory, with entries in it. -/
def inW (entries : List (String × Entry)) : FileTree where
  workingDirectory := [Rust.utf8Bytes "w"]
  entries := entries.map fun e ↦ ([Rust.utf8Bytes "w", Rust.utf8Bytes e.1], e.2)

/-- The document as a file. -/
def documentFile : String × Entry := ("d.json", .file (Rust.utf8Bytes versionDocument))

section

variable (entries : List (String × Entry))

/-- The working directory and the root are there whatever else is. -/
theorem entry_inW {place : Place} (h : place <+: [Rust.utf8Bytes "w"]) :
    entry? (inW entries) place = some .directory :=
  if_pos h

/-- The path from the root leads to the file of the dictionary, whether or not it is there. -/
theorem place_inW : (inW entries).place (Path.ofText "/w/d.json") =
    .ok [Rust.utf8Bytes "w", Rust.utf8Bytes "d.json"] := by
  have hstart : (inW entries).startOf (Path.ofText "/w/d.json") = [] := if_pos (by decide +kernel)
  have hnames : namesOf (Path.ofText "/w/d.json") = [Rust.utf8Bytes "w", Rust.utf8Bytes "d.json"] := by
    decide +kernel
  refine place_ofText (by decide) (by decide) (by decide +kernel) ?_
  rw [hstart, hnames]
  refine placeFrom_cons_eq_ok.mpr ⟨entry_inW _ (by decide), _, rfl, ?_⟩
  exact placeFrom_cons_eq_ok.mpr ⟨entry_inW _ (by decide), _, rfl, rfl⟩

/-- The way up from the working directory and down to it again leads nowhere else. -/
theorem placeFrom_upward_inW {names : List (List UInt8)} {q : Place}
    (h : (inW entries).placeFrom [Rust.utf8Bytes "w"] names = .ok q) :
    (inW entries).placeFrom [Rust.utf8Bytes "w"] (upward :: Rust.utf8Bytes "w" :: names) = .ok q := by
  refine placeFrom_cons_eq_ok.mpr ⟨entry_inW _ (by decide), _, rfl, ?_⟩
  exact placeFrom_cons_eq_ok.mpr ⟨entry_inW _ (by decide), _, rfl, h⟩

/-- The path leads to the directory of the output file, whether or not it is there. -/
theorem place_gen : (inW entries).place (Path.ofText "../w/gen") =
    .ok [Rust.utf8Bytes "w", Rust.utf8Bytes "gen"] := by
  have hnames : namesOf (Path.ofText "../w/gen") =
      [upward, Rust.utf8Bytes "w", Rust.utf8Bytes "gen"] := by decide +kernel
  refine place_ofText (by decide) (by decide) (by decide +kernel) ?_
  rw [hnames]
  refine placeFrom_upward_inW _ ?_
  exact placeFrom_cons_eq_ok.mpr ⟨entry_inW _ (by decide), _, rfl, rfl⟩

/-- The path leads to the output file once its directory is there. -/
theorem place_out
    (h : entry? (inW entries) [Rust.utf8Bytes "w", Rust.utf8Bytes "gen"] = some .directory) :
    (inW entries).place (Path.ofText "../w/gen/d.rs") =
      .ok [Rust.utf8Bytes "w", Rust.utf8Bytes "gen", Rust.utf8Bytes "d.rs"] := by
  have hnames : namesOf (Path.ofText "../w/gen/d.rs") =
      [upward, Rust.utf8Bytes "w", Rust.utf8Bytes "gen", Rust.utf8Bytes "d.rs"] := by decide +kernel
  refine place_ofText (by decide) (by decide) (by decide +kernel) ?_
  rw [hnames]
  refine placeFrom_upward_inW _ ?_
  refine placeFrom_cons_eq_ok.mpr ⟨entry_inW _ (by decide), _, rfl, ?_⟩
  exact placeFrom_cons_eq_ok.mpr ⟨h, _, rfl, rfl⟩

end

/-- The document is read from its path, which starts at the root. -/
theorem read_inW : (inW [documentFile]).read (Path.ofText "/w/d.json") =
    .ok (Rust.utf8Bytes versionDocument) := by
  have hentry : entry? (inW [documentFile]) [Rust.utf8Bytes "w", Rust.utf8Bytes "d.json"] =
      some (.file (Rust.utf8Bytes versionDocument)) := by decide +kernel
  simp only [FileTree.read, place_inW, hentry]

/-- A file is written into a directory that has to be made for it, on a way up and down again. -/
theorem writeModule_inW (r : Report) {code text : String} (h : Text.unspelled code = .ok text) :
    (writeModule r (inW [documentFile]) (Path.ofText "../w/gen/d.rs") code).result =
      .ok (Path.ofText "../w/gen/d.rs") := by
  have hparent : (Path.ofText "../w/gen/d.rs").parent = Path.ofText "../w/gen" := by decide +kernel
  have hmade : (inW [documentFile]).makeDirectory (Path.ofText "../w/gen") =
      .ok (inW [documentFile, ("gen", .directory)]) := by
    have hnone : entry? (inW [documentFile]) [Rust.utf8Bytes "w", Rust.utf8Bytes "gen"] = none := by
      decide +kernel
    simp only [makeDirectory, place_gen, hnone]
    decide +kernel
  have hdirectory : entry? (inW [documentFile, ("gen", .directory)])
      [Rust.utf8Bytes "w", Rust.utf8Bytes "gen"] = some .directory := by decide +kernel
  have hnone : entry? (inW [documentFile, ("gen", .directory)])
      [Rust.utf8Bytes "w", Rust.utf8Bytes "gen", Rust.utf8Bytes "d.rs"] = none := by decide +kernel
  rw [← hparent] at hmade
  have hway := makeWay_of_makeDirectory (by decide +kernel) hmade
  simp only [writeModule, hway, h, write, place_out _ hdirectory, hnone]

/-- Without the file of the dictionary nothing is made. With it the output file is written, in a
directory that was not there. -/
theorem run_effect_versionDocument :
    let job : Job := { dictionary := .text "/w/d.json", out := .text "../w/gen/d.rs" }
    let now : LocalTime := ⟨⟨⟨2024, 3, 5⟩, 14, 30, 0⟩, 3600⟩
    let t : FileTree := inW [("d.json", .file (Rust.utf8Bytes versionDocument))]
    ((∀ code, ¬Produces Yaml.standard job now (inW []) code) ∧
        (run Yaml.standard job now (inW [])).tree = inW []) ∧
      (run Yaml.standard job now t).result = .ok (Path.ofText "../w/gen/d.rs") ∧
        ∃ text, Writes (Path.ofText "../w/gen/d.rs") (Rust.utf8Bytes text) t
          (run Yaml.standard job now t).tree := by
  intro job now t
  have hnot (code : String) : ¬Produces Yaml.standard job now (inW []) code := by
    rintro ⟨hname, hread, -, -, -, -⟩
    obtain rfl := OptionValue.text.inj hname
    have hnone : entry? (inW []) [Rust.utf8Bytes "w", Rust.utf8Bytes "d.json"] = none := by
      decide +kernel
    simp only [FileTree.read, place_inW, hnone, reduceCtorEq] at hread
  have hsuccess : (run Yaml.standard job now t).result = .ok (Path.ofText "../w/gen/d.rs") := by
    have hsuffix : Dictionary.IsJson "/w/d.json" := by
      unfold Dictionary.IsJson
      decide +kernel
    have hload : (Dictionary.load Yaml.standard "/w/d.json" (Rust.utf8Bytes versionDocument)).result =
        .ok (withVersion "FIX.4.4") := load_of_isEntry Yaml.standard hsuffix (by decide +kernel)
    have hline : Text.IsEncodable (loadedLine (withVersion "FIX.4.4")) :=
      Text.isEncodable_of_notMem (by decide +kernel)
    obtain ⟨code, hgenerate, hcode⟩ := exists_generate_withVersion
    have hproduces : Produces Yaml.standard job now t code :=
      ⟨rfl, read_inW, hload, hline, hgenerate, fun _ _ ↦ rfl⟩
    obtain ⟨r, hrun⟩ := run_of_codeOf_eq_ok (codeOf_eq_ok.mpr hproduces)
    rw [hrun]
    exact writeModule_inW r hcode
  obtain ⟨r, f, hrun⟩ := (run_effect Yaml.standard job now (inW [])).1 hnot
  obtain ⟨code, text, out, -, -, -, -, hwrites⟩ := (run_effect Yaml.standard job now t).2.1 _ hsuccess
  exact ⟨⟨hnot, by rw [hrun]⟩, hsuccess, text, hwrites⟩

end FixBindings.CommandLine
