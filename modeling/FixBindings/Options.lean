/-!
# Options of the generated code

What may be chosen about the code that is generated from a dictionary.
-/

namespace FixBindings

/-- Where the generated code is compiled. -/
inductive ImportStyle where
  /-- Inside of the runtime crate. -/
  | internal
  /-- In a crate that depends on the runtime crate. -/
  | external
  deriving DecidableEq, Repr

/-- The options of the generated code. -/
structure Options where
  /-- Where the code is compiled. -/
  importStyle : ImportStyle := .external
  /-- The name of the runtime crate. -/
  runtimeCrate : String := "fefix"
  /-- The name of the helper attribute on enum variants. -/
  deriveAttribute : String := "fefix"
  /-- A further attribute line on message structs. -/
  customDeriveLine : String := ""
  /-- Whether a struct is written for every message. -/
  includeMessages : Bool := false
  /-- Whether the fields of components become members of message structs. -/
  expandComponents : Bool := false
  deriving DecidableEq, Repr

/-- The path at which the generated code finds the runtime crate. -/
def Options.cratePath (o : Options) : String :=
  match o.importStyle with
  | .internal => "crate"
  | .external => o.runtimeCrate

end FixBindings
