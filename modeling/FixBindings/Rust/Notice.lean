import FixBindings.Calendar.Instant
import FixBindings.Rust.Lines

/-!
# The notice of generated code

The comment at the top of every generated module, which tells the version of the generator and the
UTC time.
-/

namespace FixBindings.Rust

open Calendar

/-- The name of the generator. -/
def generatorName : String := "fix-codegen"

/-- The version of the generator, as the metadata of its package tells it. The version `0.0.0` that stands
in for missing metadata is left out. -/
def generatorVersion : String := "0.1.0"

/-- The lines of the notice at a UTC time. -/
def noticeLines (now : DateTime) : List String :=
  ["// Generated automatically by " ++ generatorName ++ " " ++ generatorVersion ++ " on " ++
     now.mailText ++ ".",
   "//",
   "// DO NOT MODIFY MANUALLY.",
   "// DO NOT COMMIT TO VERSION CONTROL.",
   "// ALL CHANGES WILL BE OVERWRITTEN."]

/-- The notice at a local time. -/
def notice (now : LocalTime) : Except OutOfCalendar String :=
  now.toUtc.map fun t ↦ unlines (noticeLines t)

end FixBindings.Rust
