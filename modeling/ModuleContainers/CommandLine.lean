import ModuleContainers.Files.Path

/-!
# The command line

What the arguments of the program ask for. Options have a long name, some a
letter too; letters can be written together. A value follows its option, or is
attached to it: after an equals sign, or, for a letter, at once. An argument that
starts with a hyphen is an option, unless it is the hyphen alone or comes after
two hyphens that stand alone. All other arguments are the inputs.

`Request.ofArguments?` gives the request, or nothing when the arguments are not
used rightly. Arguments are read in order: help and version are answered when they
come, whatever follows.
-/

namespace ModuleContainers.CommandLine

open ModuleContainers.Files (Path)

/-! ## Requests -/

/-- The settings of a generation. -/
structure Options where
  inputs : List Path
  output : Path
  config? : Option Path
  indent? : Option Nat
  dryRun : Bool
  verbosity : Nat
  deriving Repr, DecidableEq

/-- What the arguments ask for. -/
inductive Request where
  | generate (options : Options)
  | help
  | version
  deriving Repr, DecidableEq

/-! ## Options -/

inductive Setting where
  | output
  | config
  | indent
  deriving Repr, DecidableEq

inductive Choice where
  | setting (setting : Setting)
  | dryRun
  | verbose
  | help
  | version
  deriving Repr, DecidableEq

namespace Choice

def ofName? : String → Option Choice
  | "output" => some (.setting .output)
  | "config" => some (.setting .config)
  | "indent" => some (.setting .indent)
  | "dry-run" => some .dryRun
  | "verbose" => some .verbose
  | "help" => some .help
  | "version" => some .version
  | _ => none

def ofLetter? : Char → Option Choice
  | 'o' => some (.setting .output)
  | 'v' => some .verbose
  | 'h' => some .help
  | 'V' => some .version
  | _ => none

end Choice

/-! ## Reading arguments -/

/-- One more than the greatest width of an indentation. -/
def widthBound : Nat := Nat.pow 2 64

/-- A number in base ten; a plus sign may stand before it. -/
def width? (text : String) : Option Nat :=
  let digits := match text.toList with
    | '+' :: digits => digits
    | digits => digits
  if digits = [] ∨ ¬digits.all Char.isDigit then none
  else
    let value := digits.foldl (fun n d => n * 10 + (d.toNat - '0'.toNat)) 0
    if value < widthBound then some value else none

/-- A path has to name something. -/
def path? (text : String) : Option Path := if text = "" then none else some ⟨text⟩

/-- What the arguments read so far have set. -/
structure Given where
  inputs : List Path := []
  output? : Option Path := none
  config? : Option Path := none
  indent? : Option Nat := none
  dryRun : Bool := false
  verbosity : Nat := 0
  deriving Repr, DecidableEq

namespace Given

/-- Takes the value of a setting, which may be given once. -/
def set (given : Given) (setting : Setting) (value : String) : Option Given :=
  match setting with
  | .output =>
      if given.output?.isSome then none
      else (path? value).map fun path => { given with output? := some path }
  | .config =>
      if given.config?.isSome then none
      else (path? value).map fun path => { given with config? := some path }
  | .indent =>
      if given.indent?.isSome then none
      else (width? value).map fun width => { given with indent? := some width }

def addInput (given : Given) (value : String) : Option Given :=
  (path? value).map fun path => { given with inputs := given.inputs ++ [path] }

/-- The directory that files are written to unless another one is given. -/
def standardOutput : Path := ⟨"generated"⟩

/-- The request at the end of the arguments; some input is needed. -/
def finish (given : Given) : Option Request :=
  if given.inputs = [] then none
  else some (.generate
    { inputs := given.inputs
      output := given.output?.getD standardOutput
      config? := given.config?
      indent? := given.indent?
      dryRun := given.dryRun
      verbosity := given.verbosity })

end Given

/-- Where reading stands after an option. -/
inductive Step where
  /-- It goes on; the next argument may have to be the value of a setting. -/
  | more (given : Given) (waiting : Option Setting)
  | done (request : Request)
  deriving Repr, DecidableEq

/-- Takes an option with the value that is attached to it, if there is one. -/
def takeChoice (given : Given) : Choice → Option String → Option Step
  | .setting setting, some value => (given.set setting value).map fun given => .more given none
  | .setting setting, none => some (.more given (some setting))
  | .dryRun, none => if given.dryRun then none else some (.more { given with dryRun := true } none)
  | .verbose, none => some (.more { given with verbosity := given.verbosity + 1 } none)
  | .help, none => some (.done .help)
  | .version, none => some (.done .version)
  | _, some _ => none

def takeLong (given : Given) (text : List Char) : Option Step := do
  let name := text.takeWhile (· != '=')
  let value := if name = text then none else some (String.ofList (text.drop (name.length + 1)))
  let choice ← Choice.ofName? (String.ofList name)
  takeChoice given choice value

/-- Options by letter, after their hyphen. What follows the letter of a setting is
its value. -/
def takeLetters (given : Given) : List Char → Option Step
  | [] => some (.more given none)
  | letter :: rest =>
      match Choice.ofLetter? letter with
      | none => none
      | some (.setting setting) =>
          let value := if rest.head? = some '=' then rest.drop 1 else rest
          takeChoice given (.setting setting)
            (if rest = [] then none else some (String.ofList value))
      | some choice =>
          match takeChoice given choice none with
          | some (.more given _) => takeLetters given rest
          | other => other

def takeOption (given : Given) : List Char → Option Step
  | '-' :: '-' :: text => takeLong given text
  | '-' :: text => takeLetters given text
  | _ => none

def isOption (argument : String) : Bool :=
  match argument.toList with
  | '-' :: _ :: _ => true
  | _ => false

/-- Reads the arguments. `waiting` is the setting that the next one is the value
of. -/
def readArguments (given : Given) : Option Setting → List String → Option Request
  | none, [] => given.finish
  | some _, [] => none
  | waiting, argument :: rest =>
      if isOption argument then
        if waiting.isSome then none
        else if argument = "--" then do
          let given ← rest.foldlM Given.addInput given
          given.finish
        else do
          match ← takeOption given argument.toList with
          | .more given waiting => readArguments given waiting rest
          | .done request => pure request
      else do
        let given ← match waiting with
          | some setting => given.set setting argument
          | none => given.addInput argument
        readArguments given none rest

def Request.ofArguments? (arguments : List String) : Option Request :=
  readArguments {} none arguments

/-! ## Texts -/

def versionText : String := "registrar-gen 0.1.0\n"

def usageText : String := "Usage: registrar-gen [OPTIONS] <INPUTS>...\n"

def helpText : String :=
  "Code generator for registrar module containers\n\n" ++ usageText
    ++ "\nArguments:\n"
    ++ "  <INPUTS>...  Module definition files (.json, .yaml or .yml)\n"
    ++ "\nOptions:\n"
    ++ "  -o, --output <OUTPUT>  Output directory for generated sources [default: generated]\n"
    ++ "      --config <CONFIG>  Generator configuration file (TOML)\n"
    ++ "      --indent <INDENT>  Indentation width in spaces (overrides the configuration)\n"
    ++ "      --dry-run          Print generated code without writing files\n"
    ++ "  -v, --verbose...       Report the inputs that are loaded\n"
    ++ "  -h, --help             Print help\n"
    ++ "  -V, --version          Print version\n"

end ModuleContainers.CommandLine
