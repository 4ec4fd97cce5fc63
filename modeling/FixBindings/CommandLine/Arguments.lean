import FixBindings.Options
import FixBindings.Text.Digit
import FixBindings.Text.Quoted

/-!
# Arguments

What the arguments of the command line ask for. An option may be shortened to any beginning that no
other option shares, and takes its value from behind an equals sign or from the next argument. Two
hyphens behind an equals sign stand for no value at all.
-/

namespace FixBindings.CommandLine

/-! ## Options -/

/-- An option. -/
inductive Flag where
  | help
  | dictionary
  | out
  | internal
  | runtimeCrate
  | deriveAttribute
  | messages
  | derive
  | expandComponents
  | verbose
  deriving DecidableEq, Repr

namespace Flag

/-- All spellings of options, in the order in which they are listed. -/
def spellings : List (String × Flag) :=
  [("-h", help), ("--help", help), ("--dictionary", dictionary), ("--out", out),
    ("--internal", internal), ("--runtime-crate", runtimeCrate),
    ("--derive-attribute", deriveAttribute), ("--messages", messages), ("--derive", derive),
    ("--expand-components", expandComponents), ("--verbose", verbose)]

/-- The name of an option in messages: all its spellings. -/
def label (f : Flag) : String :=
  "/".intercalate ((spellings.filter fun s ↦ s.2 == f).map (·.1))

/-- Whether an option takes a value. -/
def takesValue : Flag → Bool
  | dictionary | out | runtimeCrate | deriveAttribute | derive => true
  | help | internal | messages | expandComponents | verbose => false

/-- The options that must be given. -/
def needed : List Flag :=
  [dictionary, out]

end Flag

/-- Why the arguments are refused. -/
inductive UsageError where
  /-- An argument may be short for several options. -/
  | ambiguous (argument : String) (candidates : List String)
  /-- An option lacks its value. -/
  | expectedValue (flag : Flag)
  /-- An option that takes no value has one. -/
  | ignoredValue (flag : Flag) (value : String)
  /-- Options that must be given are missing. -/
  | missing (flags : List Flag)
  /-- There are arguments that mean nothing. -/
  | unrecognized (arguments : List String)
  deriving DecidableEq, Repr

/-- The wording of an error. -/
def UsageError.message : UsageError → String
  | ambiguous argument candidates =>
    "ambiguous option: " ++ argument ++ " could match " ++ ", ".intercalate candidates
  | expectedValue flag => "argument " ++ flag.label ++ ": expected one argument"
  | ignoredValue flag value =>
    "argument " ++ flag.label ++ ": ignored explicit argument " ++ Text.quoted value
  | missing flags =>
    "the following arguments are required: " ++ ", ".intercalate (flags.map Flag.label)
  | unrecognized arguments => "unrecognized arguments: " ++ " ".intercalate arguments

/-! ## The form of one argument -/

/-- What an argument is by its form. -/
inductive Form where
  /-- A value. -/
  | value
  /-- The mark behind which all arguments are values. -/
  | mark
  /-- An option with the value behind its equals sign, if there is one. -/
  | flag (f : Flag) (value : Option String)
  /-- The one-letter option for the help text with further letters or a value behind it. -/
  | cluster (more : List Char)
  /-- An option that does not exist. -/
  | unknown
  deriving DecidableEq, Repr

/-- The parts of an argument before and behind its first equals sign. -/
def splitEquals (cs : List Char) : List Char × Option (List Char) :=
  (cs.takeWhile (· != '='), (cs.dropWhile (· != '=')).tail?)

/-- The rest behind a point and decimal digits, of any script. -/
def isPointDigits (cs : List Char) : Bool :=
  match cs with
  | '.' :: ds => !ds.isEmpty && ds.all Text.isDecimalDigit
  | _ => false

/-- Whether an argument has the form of a negative number; a line feed may stand at its end. -/
def isNegativeNumber (cs : List Char) : Bool :=
  let cs := if cs.getLast? == some '\n' then cs.dropLast else cs
  match cs with
  | '-' :: ds =>
    (!ds.isEmpty && ds.all Text.isDecimalDigit) ||
      isPointDigits (ds.dropWhile Text.isDecimalDigit)
  | _ => false

/-- The options that an argument may be short for, with their spellings. -/
def candidates (name : List Char) : List (String × Flag) :=
  Flag.spellings.filter fun s ↦ name.isPrefixOf s.1.toList

/-- The form of an argument that starts with a hyphen and is no option in full. -/
def shortForm (argument : String) : Except UsageError Form :=
  let cs := argument.toList
  let (name, value) := splitEquals cs
  let value := value.map String.ofList
  let fallback : Form :=
    if isNegativeNumber cs || cs.contains ' ' then .value else .unknown
  match cs with
  | '-' :: '-' :: _ =>
    match candidates name with
    | [] => .ok fallback
    | [(_, f)] => .ok (.flag f value)
    | several => .error (.ambiguous argument (several.map (·.1)))
  | '-' :: 'h' :: more => .ok (.cluster more)
  | _ => .ok fallback

/-- The form of an argument. -/
def form (argument : String) : Except UsageError Form :=
  let cs := argument.toList
  let (name, value) := splitEquals cs
  if argument == "--" then .ok .mark
  else if cs.head? != some '-' then .ok .value
  else
    match Flag.spellings.lookup argument with
    | some f => .ok (.flag f none)
    | none =>
      if cs.length == 1 then .ok .value
      else
        match value, Flag.spellings.lookup (String.ofList name) with
        | some (c :: cs), some f =>
          if name == ['-', 'h'] then .ok (.cluster (c :: cs))
          else .ok (.flag f (some (String.ofList (c :: cs))))
        | some [], some f => .ok (.flag f (some ""))
        | _, _ => shortForm argument

/-- The arguments with their forms. Behind a mark all are values. -/
def forms : List String → Except UsageError (List (String × Form))
  | [] => .ok []
  | a :: as => do
    match ← form a with
    | .mark => return (a, .mark) :: as.map fun b ↦ (b, Form.value)
    | f => return (a, f) :: (← forms as)

/-! ## All arguments -/

/-- The value of an option. -/
inductive OptionValue where
  /-- A text. -/
  | text (s : String)
  /-- No value, as a list of none. -/
  | nothing
  deriving DecidableEq, Repr

/-- The value that stands behind an equals sign. -/
def OptionValue.ofAttached (s : String) : OptionValue :=
  if s == "--" then .nothing else .text s

/-- The value where it is put into a text. -/
def OptionValue.spelled : OptionValue → String
  | .text s => s
  | .nothing => "[]"

/-- What has been read of the arguments. -/
structure Given where
  /-- The dictionary. -/
  dictionary : Option OptionValue := none
  /-- The file to write. -/
  out : Option OptionValue := none
  /-- The further attribute line on message structs. -/
  derive : OptionValue := .text ""
  /-- The other options of the generated code. -/
  options : Options := {}
  /-- Whether all events are to be told. -/
  verbose : Bool := false
  deriving Repr

/-- What has been read, with one more option that takes no value. -/
def Given.set (g : Given) : Flag → Given
  | .internal => { g with options.importStyle := .internal }
  | .messages => { g with options.includeMessages := true }
  | .expandComponents => { g with options.expandComponents := true }
  | .verbose => { g with verbose := true }
  | _ => g

/-- What has been read, with the value of one more option. -/
def Given.setValue (g : Given) (value : OptionValue) : Flag → Given
  | .dictionary => { g with dictionary := some value }
  | .out => { g with out := some value }
  | .runtimeCrate => { g with options.runtimeCrate := value.spelled }
  | .deriveAttribute => { g with options.deriveAttribute := value.spelled }
  | .derive => { g with derive := value }
  | _ => g

/-- What a run of the program is told to do. -/
structure Job where
  /-- The dictionary. -/
  dictionary : OptionValue
  /-- The file to write. -/
  out : OptionValue
  /-- The further attribute line on message structs. -/
  derive : OptionValue := .text ""
  /-- The other options of the generated code. -/
  options : Options := {}
  /-- Whether all events are to be told. -/
  verbose : Bool := false
  deriving Repr

/-- The options of the generated code. -/
def Job.allOptions (j : Job) : Options :=
  { j.options with customDeriveLine := j.derive.spelled }

/-- What the arguments ask for. -/
inductive Request where
  /-- The help text. -/
  | help
  /-- A run. -/
  | generate (job : Job)
  deriving Repr

/-- What the letters behind the option for the help text ask for. They may repeat that option, which
takes no value. -/
def clusterRequest : List Char → Except UsageError Request
  | [] => .ok .help
  | 'h' :: cs => clusterRequest cs
  | cs => .error (.ignoredValue .help (String.ofList cs))

/-- What the arguments ask for, where `g` has been read and `extras` mean nothing. The help text is
asked for as soon as its option is met. -/
def requestFrom (g : Given) (extras : List String) :
    List (String × Form) → Except UsageError Request
  | [] =>
    match g.dictionary, g.out with
    | some dictionary, some out =>
      if extras.isEmpty then .ok (.generate ⟨dictionary, out, g.derive, g.options, g.verbose⟩)
      else .error (.unrecognized extras)
    | dictionary, out =>
      .error (.missing (Flag.needed.filter fun f ↦
        (f == .dictionary && dictionary.isNone) || (f == .out && out.isNone)))
  | (a, .value) :: as | (a, .mark) :: as | (a, .unknown) :: as =>
    requestFrom g (extras ++ [a]) as
  | (_, .cluster more) :: _ => clusterRequest more
  | (_, .flag f (some value)) :: as =>
    if f.takesValue then requestFrom (g.setValue (.ofAttached value) f) extras as
    else .error (.ignoredValue f value)
  | (_, .flag f none) :: as =>
    if f.takesValue then
      match as with
      | (value, .value) :: as => requestFrom (g.setValue (.text value) f) extras as
      | _ => .error (.expectedValue f)
    else if f = .help then .ok .help
    else requestFrom (g.set f) extras as

/-- What the arguments ask for. -/
def request (arguments : List String) : Except UsageError Request := do
  requestFrom {} [] (← forms arguments)

end FixBindings.CommandLine
