import FixBindings.CommandLine.Run
import FixBindings.Yaml.Standard
import Std.Time.DateTime

/-!
# The program

The command line on real files: it reads the dictionary, makes the plan of the run, and writes the
module when the plan has one. The names of files are given in UTF-8.
-/

namespace FixBindings.CommandLine

open Calendar

/-- The fault that an error of the system stands for. -/
def faultOf : IO.Error → FileTree.Fault
  | .alreadyExists .. => .exists
  | .invalidArgument _ 36 _ => .nameTooLong
  | .inappropriateType _ code _ =>
    if code == 20 then .notDirectory else .isDirectory
  | _ => .missing

/-- An action on a path, with its error as a value. -/
def attempt {α : Type} (p : Path) (action : String → IO α) : IO (Except FileTree.Error α) := do
  match Text.unspelled p.text with
  | .error e => return .error ⟨.encoding e, p⟩
  | .ok name =>
    if name.contains '\x00' then return .error ⟨.nul, p⟩
    try
      return .ok (← action name)
    catch e =>
      return .error ⟨faultOf e, p⟩

/-- The bytes of the file at a path. -/
def readFile (p : Path) : IO (Except FileTree.Error (List UInt8)) :=
  attempt p fun name ↦ return (← IO.FS.readBinFile name).data.toList

/-- Write a text to the file at a path, and make the directories on the way. -/
def writeFile (p : Path) (text : String) : IO (Except FileTree.Error Unit) := do
  match ← attempt p.parent fun name ↦ IO.FS.createDirAll name with
  | .error e => return .error e
  | .ok _ => attempt p fun name ↦ IO.FS.writeFile name text

/-- The UTC time of the system clock. -/
def currentTime : IO LocalTime := do
  let seconds : Int := (← Std.Time.Timestamp.now).toSecondsSinceUnixEpoch.val
  let day := Std.Time.PlainDate.ofEpochDay ⟨seconds.fdiv secondsPerDay⟩
  let date : Date := ⟨day.year.toInt.toNat, day.month.val.toNat, day.day.val.toNat⟩
  return ⟨.ofSecondOfDay date (seconds.fmod secondsPerDay).toNat, 0⟩

/-- Put lines out. -/
def putLines (lines : List String) (put : String → IO Unit) : IO Unit :=
  lines.forM put

/-- Report a failure; the answer is the exit status. -/
def reportFailure (f : Failure) : IO UInt32 := do
  IO.eprintln (if f.isExpected then fatalLine f else f.message)
  return 1

/-- Write a module to a file; the answer is the exit status. A module that cannot be encoded leaves an
empty file. -/
def writeCode (out : Path) (code : String) : IO UInt32 := do
  let encoded := Text.unspelled code
  match ← writeFile out (encoded.toOption.getD ""), encoded, outputLine (generatedLine out) with
  | .error e, _, _ => reportFailure (.file e)
  | .ok _, .error e, _ => reportFailure (.encoding e)
  | .ok _, .ok _, .error f => reportFailure f
  | .ok _, .ok _, .ok line =>
    IO.println line
    return 0

/-- Do a job; the answer is the exit status. -/
def runJob (job : Job) : IO UInt32 := do
  match pathText job.dictionary with
  | .error f => reportFailure f
  | .ok dictionary =>
    let bytes ← readFile (Path.ofText dictionary)
    let p := plan Yaml.standard job (← currentTime) dictionary bytes
    putLines p.report.output IO.println
    putLines p.report.errors IO.eprintln
    match p.code, pathText job.out with
    | .error f, _ => reportFailure f
    | .ok _, .error f => reportFailure f
    | .ok code, .ok out => writeCode (Path.ofText out) code

end FixBindings.CommandLine

open FixBindings.CommandLine in
/-- The program on its arguments. -/
def main (arguments : List String) : IO UInt32 := do
  match request (arguments.map FixBindings.Text.spellText) with
  | .error e =>
    IO.eprint (FixBindings.Text.backslashed (refusal e))
    return 2
  | .ok .help =>
    IO.print helpText
    return 0
  | .ok (.generate job) => runJob job
