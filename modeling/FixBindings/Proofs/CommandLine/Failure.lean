import FixBindings.Proofs.CommandLine.Effect

/-!
# Runs without a dictionary

What becomes of a run whose dictionary is not loaded. The program reports the failure and ends with the
status 1, unless the path names nothing or the file is of one of the kinds for which loading ends in an
error that the program does not expect. A dictionary that is loaded may still end the program in an error
that it does not report: a version, a tag or the type of a message may be one that cannot be put out.
-/

namespace FixBindings.CommandLine

open Calendar FileTree

variable {yaml : Dictionary.YamlReader} {job : Job} {now : LocalTime} {t : FileTree} {path : String}
  {d : Dictionary} {f : Failure}

/-! ## Loading -/

end FixBindings.CommandLine
