import ModuleContainers.CommandLine
import ModuleContainers.Files.Access
import ModuleContainers.Generation
import ModuleContainers.Loading

/-!
# The program

`Program.run` is the whole program over any world that has files and a console:
it reads the configuration and then the inputs, in order, generates the files of
all modules and writes or shows them. Results go to the output of the console, news
of the progress to its messages.

`Session` is such a world held in memory.
-/

namespace ModuleContainers

open ModuleContainers.CommandLine (Options Request)
open ModuleContainers.Files (FileSystem FileTree Naming Path)
open ModuleContainers.Metadata (Module)

/-! ## The console -/

structure Console (m : Type → Type) where
  /-- Prints results. -/
  print : String → m Unit
  /-- Reports progress. -/
  report : String → m Unit
  coloured : Bool

inductive Emphasis where
  | read
  | written
  | finished
  | rehearsed
  deriving Repr, DecidableEq

namespace Emphasis

def code : Emphasis → String
  | .read => "36"
  | .written => "32"
  | .finished => "1;32"
  | .rehearsed => "1;33"

def apply (emphasis : Emphasis) (coloured : Bool) (word : String) : String :=
  if coloured then "\x1b[" ++ emphasis.code ++ "m" ++ word ++ "\x1b[0m" else word

end Emphasis

/-! ## Messages -/

def loadedMessage (coloured : Bool) (path : Path) (count : Nat) : String :=
  Emphasis.read.apply coloured "Loaded" ++ " " ++ path.text ++ " (" ++ toString count
    ++ " modules)\n"

def wroteMessage (coloured : Bool) (path : Path) : String :=
  "  " ++ Emphasis.written.apply coloured "wrote" ++ " " ++ path.text ++ "\n"

def generatedMessage (coloured : Bool) (count : Nat) (output : Path) : String :=
  Emphasis.finished.apply coloured "Generated" ++ " " ++ toString count ++ " files to "
    ++ output.text ++ "\n"

def rehearsedMessage (coloured : Bool) (count : Nat) : String :=
  Emphasis.rehearsed.apply coloured "Generated" ++ " " ++ toString count
    ++ " files (dry run, nothing written)\n"

/-! ## Running -/

inductive Outcome where
  | success
  | failed (failure : Failure)
  | misused
  deriving Repr, DecidableEq

def Outcome.status : Outcome → Nat
  | .success => 0
  | .failed _ => 1
  | .misused => 2

namespace Program

variable {m : Type → Type} [Monad m]

def settings (files : FileSystem m) (options : Options) : ExceptT Failure m Configuration := do
  let configuration ← match options.config? with
    | some path => ExceptT.mk (loadConfiguration files path)
    | none => pure .standard
  return match options.indent? with
    | some width => configuration.withIndentWidth width
    | none => configuration

def readInput (files : FileSystem m) (console : Console m) (verbose : Bool) (path : Path) :
    ExceptT Failure m (List Module) := do
  let modules ← ExceptT.mk (loadModules files path)
  if verbose then
    ExceptT.lift (console.report (loadedMessage console.coloured path modules.length))
  return modules

/-- Generates what the options ask for. -/
def generate (files : FileSystem m) (console : Console m) (options : Options) :
    ExceptT Failure m Unit := do
  let configuration ← settings files options
  let loaded ← options.inputs.mapM (readInput files console (0 < options.verbosity))
  let emitter :=
    if options.dryRun then Emitter.dryRun console.print else Emitter.directory files options.output
  let written ← ExceptT.mk (emitter.generateAll configuration loaded.flatten)
  if options.dryRun then
    console.report (rehearsedMessage console.coloured written.length)
  else
    for path in written do
      console.report (wroteMessage console.coloured path)
    console.report (generatedMessage console.coloured written.length options.output)

/-- Does what the arguments ask for. -/
def run (files : FileSystem m) (console : Console m) (arguments : List String) : m Outcome :=
  match Request.ofArguments? arguments with
  | none => do
      console.report CommandLine.usageText
      pure .misused
  | some .help => do
      console.print CommandLine.helpText
      pure .success
  | some .version => do
      console.print CommandLine.versionText
      pure .success
  | some (.generate options) => do
      match ← (generate files console options).run with
      | .ok () => pure .success
      | .error failure => pure (.failed failure)

end Program

/-! ## Runs in memory -/

/-- A world held in memory: files, the directory in them that a run starts in, how new
files are named, what has been printed and what has been reported. -/
structure Session where
  files : FileTree
  current : List String := []
  naming : Naming := .longer
  printed : String := ""
  reported : String := ""

namespace Session

/-- Does something with the files of a session. -/
def onFiles (α : Type) (step : StateM FileTree α) : StateM Session α := do
  let session ← get
  let (result, files) := step.run session.files
  set { session with files := files }
  return result

def fileSystem (session : Session) : FileSystem (StateM Session) :=
  (FileTree.fileSystem session.current session.naming).map onFiles

def console (coloured : Bool) : Console (StateM Session) where
  print text := modify fun session => { session with printed := session.printed ++ text }
  report text := modify fun session => { session with reported := session.reported ++ text }
  coloured := coloured

def run (session : Session) (coloured : Bool) (arguments : List String) : Outcome × Session :=
  (Program.run session.fileSystem (console coloured) arguments).run session

end Session

end ModuleContainers
