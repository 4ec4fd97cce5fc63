import FixBindings.CommandLine.Usage
import FixBindings.Dictionary.Load
import FixBindings.FileTree
import FixBindings.Rust.Module

/-!
# Runs of the program

What the program does with its arguments: it loads a dictionary, generates a module and writes it. A
run is a plan made without touching anything, whose last step is the only one that writes.

Both outputs are in UTF-8. A surrogate in a line of the standard output is an error; the error output
shows it as an escape.
-/

namespace FixBindings.CommandLine

open Calendar

/-- What an option needs a value for. -/
inductive ValueUse where
  /-- To name a file. -/
  | path
  /-- To be written on a line of its own. -/
  | line
  deriving DecidableEq, Repr

/-- The wording of the failure of an option that has no value. -/
def ValueUse.message : ValueUse → String
  | .path => "expected str, bytes or os.PathLike object, not list"
  | .line => "'list' object has no attribute 'strip'"

/-- Why a run fails. -/
inductive Failure where
  /-- An option has no value. -/
  | noValue (use : ValueUse)
  /-- A file or directory is not as it must be. -/
  | file (e : FileTree.Error)
  /-- The dictionary is not loaded. -/
  | load (e : Dictionary.LoadError)
  /-- The module is not generated. -/
  | generate (e : Rust.GenerateError)
  /-- A line of the standard output or the code cannot be encoded. -/
  | encoding (e : Text.EncodeError)
  deriving Repr

/-- The wording of a failure. -/
def Failure.message : Failure → String
  | .noValue use => use.message
  | .file e => e.message
  | .load e => e.message
  | .generate e => e.message
  | .encoding e => e.message

/-- Whether a failure is one that the program expects and reports. -/
def Failure.isExpected : Failure → Bool
  | .noValue _ => false
  | .file e => e.isOfSystem
  | .load e => e.isExpected
  | .generate (.invalidTag (.outOfRange _ _)) => true
  | .generate (.invalidTag .unprintable) | .generate (.encoding _) => false
  | .generate (.outOfCalendar _) | .encoding _ => false

/-- The line that tells what has been loaded. -/
def loadedLine (d : Dictionary) : String :=
  "Loaded " ++ d.version ++ ": " ++ toString d.fields.length ++ " field(s), " ++
    toString d.messages.length ++ " message(s)"

/-- The line that tells where the module has been written. -/
def generatedLine (out : Path) : String :=
  "Generated: " ++ out.text

/-- The text that tells why a run has failed. -/
def fatalLine (f : Failure) : String :=
  Text.backslashed ("FATAL: " ++ f.message)

/-- Whether an event is told. Without `verbose` only warnings are. -/
def isTold (verbose : Bool) (e : Event) : Bool :=
  verbose || e.level == .warning

/-- The lines of the events that are told. -/
def eventLines (verbose : Bool) (es : List Event) : List String :=
  (es.filter (isTold verbose)).map fun e ↦ Text.backslashed e.line

/-- What the program has put out. -/
structure Report where
  /-- The lines of the standard output. -/
  output : List String
  /-- The lines of the error output. -/
  errors : List String
  deriving Repr

/-- What a run comes to before anything is written: its report so far, and the code or a failure. -/
structure Plan where
  /-- The report so far. -/
  report : Report
  /-- The code, or why there is none. -/
  code : Except Failure String

/-- The module of a dictionary, or why there is none. The further attribute line is looked at when the
first struct is written, behind all fields and before the type of the message. -/
def moduleCode (job : Job) (d : Dictionary) (generated : Except Rust.GenerateError String) :
    Except Failure String :=
  let usesLine := job.options.includeMessages && !d.messages.isEmpty
  match generated with
  | .error (.invalidTag e) => .error (.generate (.invalidTag e))
  | x =>
    if usesLine && job.derive == .nothing then .error (.noValue .line)
    else x.mapError .generate

/-- A line for the standard output. -/
def outputLine (line : String) : Except Failure String :=
  (Text.unspelled line).mapError .encoding

/-- The plan of a run on a dictionary that has been loaded, behind the lines `told`. -/
def planOf (job : Job) (now : LocalTime) (told : List String) (d : Dictionary) : Plan :=
  match outputLine (loadedLine d) with
  | .error f => ⟨⟨[], told⟩, .error f⟩
  | .ok line =>
    let generated := Rust.generate job.allOptions now d
    ⟨⟨[line], told ++ eventLines job.verbose generated.events⟩,
      moduleCode job d generated.result⟩

/-- The plan of a run on the bytes of the file `dictionary`, or on the reason why they cannot be
read. -/
def plan (yaml : Dictionary.YamlReader) (job : Job) (now : LocalTime) (dictionary : String)
    (bytes : Except FileTree.Error (List UInt8)) : Plan :=
  match bytes with
  | .error e => ⟨⟨[], []⟩, .error (.file e)⟩
  | .ok bytes =>
    let loaded := Dictionary.load yaml dictionary bytes
    let told := eventLines job.verbose loaded.events
    match loaded.result with
    | .error e => ⟨⟨[], told⟩, .error (.load e)⟩
    | .ok d => planOf job now told d

/-- The path that the value of an option names. -/
def pathText (value : OptionValue) : Except Failure String :=
  match value with
  | .text s => .ok s
  | .nothing => .error (.noValue .path)

/-- The end of a run. -/
structure Outcome where
  /-- The report. -/
  report : Report
  /-- The path of the file that has been written, or why the run has failed. -/
  result : Except Failure Path
  /-- The files and directories behind the run. -/
  tree : FileTree

/-- Write a module to the file at a path, behind the report `r`. The directories that have been made stay
when the file cannot be written. The file is empty before the code is put into it, and stays so when the
code cannot be encoded. -/
def writeModule (r : Report) (t : FileTree) (out : Path) (code : String) : Outcome :=
  match t.makeWay out with
  | (t, some e) => ⟨r, .error (.file e), t⟩
  | (t, none) =>
    match Text.unspelled code with
    | .ok code =>
      match t.write out (Rust.utf8Bytes code) with
      | .ok t => ⟨r, .ok out, t⟩
      | .error e => ⟨r, .error (.file e), t⟩
    | .error e =>
      match t.write out [] with
      | .ok t => ⟨r, .error (.encoding e), t⟩
      | .error e => ⟨r, .error (.file e), t⟩

/-- A run among the files `t`. A run that fails before it writes leaves them as they are. -/
def run (yaml : Dictionary.YamlReader) (job : Job) (now : LocalTime) (t : FileTree) : Outcome :=
  match pathText job.dictionary with
  | .error f => ⟨⟨[], []⟩, .error f, t⟩
  | .ok dictionary =>
    let p := plan yaml job now dictionary (t.read (Path.ofText dictionary))
    match p.code with
    | .error f => ⟨p.report, .error f, t⟩
    | .ok code =>
      match pathText job.out with
      | .error f => ⟨p.report, .error f, t⟩
      | .ok out => writeModule p.report t (Path.ofText out) code

/-- What the program leaves behind: its exit status, its two outputs and the files. -/
structure Exit where
  /-- The exit status. -/
  status : Nat
  /-- The standard output. -/
  output : String
  /-- The error output. -/
  errors : String
  /-- The files and directories. -/
  tree : FileTree

/-- The end of the program after a run; a failure that is not expected has no report. -/
def Outcome.exit (o : Outcome) : Except Failure Exit :=
  match o.result with
  | .ok out => do
    let line ← outputLine (generatedLine out)
    return ⟨0, Rust.unlines (o.report.output ++ [line]), Rust.unlines o.report.errors, o.tree⟩
  | .error f =>
    if f.isExpected then
      .ok ⟨1, Rust.unlines o.report.output, Rust.unlines (o.report.errors ++ [fatalLine f]), o.tree⟩
    else .error f

/-- The program on its arguments among the files `t`. -/
def execute (yaml : Dictionary.YamlReader) (now : LocalTime) (t : FileTree)
    (arguments : List String) : Except Failure Exit :=
  match request arguments with
  | .error e => .ok ⟨2, "", Text.backslashed (refusal e), t⟩
  | .ok .help => .ok ⟨0, helpText, "", t⟩
  | .ok (.generate job) => (run yaml job now t).exit

end FixBindings.CommandLine
