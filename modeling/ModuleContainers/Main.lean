import ModuleContainers.Program

/-!
# The executable

The program over the files and the console of the operating system.
-/

namespace ModuleContainers.Executable

open ModuleContainers.Files (Fault FileSystem Path)

/-! ## Files -/

def fault (error : IO.Error) : Fault :=
  match error with
  | .noFileOrDirectory .. | .noSuchThing .. => .missing
  | .alreadyExists .. => .taken
  | .inappropriateType _ code _ => if code = 20 then .notDirectory else .isDirectory
  | other => .other (toString other)

/-- Does something, or says why it cannot be done. -/
def attempt {α : Type} (action : IO α) : IO (Except Fault α) := do
  try
    return .ok (← action)
  catch error => return .error (fault error)

def readText (path : Path) : IO (Except Fault String) := do
  match ← attempt (IO.FS.readBinFile path.text) with
  | .error cause => return .error cause
  | .ok contents =>
      match String.fromUTF8? contents with
      | some text => return .ok text
      | none => return .error .notText

def leads (path : Path) : IO Bool := do
  match ← attempt (IO.FS.realPath path.text) with
  | .ok _ => return true
  | .error _ => return false

/-- Makes a file that is named by the clock, and none that is there already. -/
def createIn (directory : Path) : IO (Except Fault Path) := do
  let file := directory.join ⟨".new" ++ toString (← IO.monoNanosNow)⟩
  attempt do
    let _ ← IO.FS.Handle.mk file.text .writeNew
    return file

def fileSystem : FileSystem IO where
  readText := readText
  leads := leads
  makeDirectories path := attempt (IO.FS.createDirAll path.text)
  createIn := createIn
  fill path text := attempt (IO.FS.writeFile path.text text)
  rename source target := attempt (IO.FS.rename source.text target.text)
  remove path := attempt (IO.FS.removeFile path.text)

/-! ## The console -/

/-- A variable of the environment is set to something else than zero. -/
def isSet (value : Option String) : Bool := value.any fun value => value != "0"

/-- Messages are coloured, by what the environment says and on a terminal
unless it says otherwise. -/
def wantsColour : IO Bool := do
  if isSet (← IO.getEnv "CLICOLOR_FORCE") then return true
  if (← IO.getEnv "NO_COLOR").isSome then return false
  let allowed := isSet (some ((← IO.getEnv "CLICOLOR").getD "1"))
  return allowed && (← (← IO.getStdout).isTty)

def console (coloured : Bool) : Console IO where
  print text := do (← IO.getStdout).putStr text
  report text := do (← IO.getStderr).putStr text
  coloured := coloured

end ModuleContainers.Executable

open ModuleContainers in
def main (arguments : List String) : IO UInt32 := do
  let console := Executable.console (← Executable.wantsColour)
  let outcome ← Program.run Executable.fileSystem console arguments
  if let .failed failure := outcome then
    console.report ("Error: " ++ failure.message ++ "\n")
  return outcome.status.toUInt32
