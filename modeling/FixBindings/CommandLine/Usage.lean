import FixBindings.CommandLine.Arguments
import FixBindings.Rust.Lines

/-!
# Usage and help

The texts that tell how the command line is used.
-/

namespace FixBindings.CommandLine

open Rust

/-- The name of the program. -/
def programName : String := "fix-codegen"

/-- The lines that list the options. -/
def usageLines : List String :=
  ["usage: fix-codegen [-h] --dictionary DICTIONARY --out OUT [--internal]",
   "                   [--runtime-crate RUNTIME_CRATE]",
   "                   [--derive-attribute DERIVE_ATTRIBUTE] [--messages]",
   "                   [--derive DERIVE] [--expand-components] [--verbose]"]

/-- The lines that explain the options. -/
def explanationLines : List String :=
  ["",
   "Generate Rust field and message definitions from a FIX dictionary",
   "",
   "options:",
   "  -h, --help            show this help message and exit",
   "  --dictionary DICTIONARY",
   "                        Path to the dictionary document (.json, .yaml or .yml)",
   "  --out OUT             Path of the generated .rs file",
   "  --internal            Emit crate:: import paths for code compiled inside the",
   "                        runtime crate",
   "  --runtime-crate RUNTIME_CRATE",
   "                        Name of the runtime crate (default: fefix)",
   "  --derive-attribute DERIVE_ATTRIBUTE",
   "                        Helper attribute name on enum variants (default:",
   "                        fefix)",
   "  --messages            Also generate one struct per message",
   "  --derive DERIVE       Extra attribute line added to every message struct,",
   "                        e.g. '#[derive(Clone)]'",
   "  --expand-components   Inline component fields into message structs",
   "  --verbose             Enable debug logging"]

/-- The help text. -/
def helpText : String :=
  unlines (usageLines ++ explanationLines)

/-- The text that refuses arguments. -/
def refusal (e : UsageError) : String :=
  unlines (usageLines ++ [programName ++ ": error: " ++ e.message])

end FixBindings.CommandLine
