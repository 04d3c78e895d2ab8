import ModuleContainers.Container.Class
import ModuleContainers.Validation

/-!
# Generating files

One file is generated for each module. A whole list of modules is prepared before
the first file is handed out: every module is checked and rendered, and no two of
them may generate the same class. So a bad module is found while nothing has been
written.

Where a file goes is up to an `Emitter`. It takes the files in the order of the
modules and says where each one went; the first that it cannot take ends the
generation.
-/

namespace ModuleContainers

open ModuleContainers.Files (Path FileSystem)
open ModuleContainers.Java (ClassName)
open ModuleContainers.Metadata (Module)

/-! ## One file -/

/-- The path of a class below the root of the sources: a directory for each part
of the package. -/
def sourcePath (package typeName : String) : Path :=
  let directories := (Text.splitOn '.' package).filter (· != "")
  (directories.map Files.Path.mk ++ [Files.Path.mk (typeName ++ ".java")]).foldl Files.Path.join ⟨""⟩

structure GeneratedFile where
  package : String
  typeName : String
  source : String
  deriving Repr, DecidableEq

def GeneratedFile.path (file : GeneratedFile) : Path := sourcePath file.package file.typeName

def GeneratedFile.className (file : GeneratedFile) : String := file.package ++ "." ++ file.typeName

/-- The file of a module, for a runtime whose classes are known. -/
def renderModule (configuration : Configuration) (runtime : Runtime ClassName) (module : Module) :
    Except Failure GeneratedFile := do
  module.validate
  let unit ← Container.unit runtime configuration.banner module
  return ⟨unit.package, unit.typeName, unit.render configuration.indent⟩

def generate (configuration : Configuration) (module : Module) : Except Failure GeneratedFile := do
  renderModule configuration (← configuration.resolve) module

/-! ## Many files -/

/-- The first file that declares the class of a file before it, as a failure that
names the two modules. -/
def clash? : List (GeneratedFile × String) → List (Module × GeneratedFile) → Option Failure
  | _, [] => none
  | seen, (module, file) :: rest =>
      match seen.find? fun other =>
          other.1.package == file.package && other.1.typeName == file.typeName with
      | some (_, first) => some (.duplicateEntranceClass file.className first module.name)
      | none => clash? ((file, module.name) :: seen) rest

/-- The files of all modules, when every module is good and all classes differ. -/
def prepare (configuration : Configuration) (modules : List Module) :
    Except Failure (List GeneratedFile) := do
  let runtime ← configuration.resolve
  let files ← modules.mapM (renderModule configuration runtime)
  match clash? [] (modules.zip files) with
  | some failure => throw failure
  | none => return files

/-- Takes a file, given by package, type and contents, and says where it went. -/
structure Emitter (m : Type → Type) where
  emit : String → String → String → m (Except Failure Path)

namespace Emitter

variable {m : Type → Type} [Monad m]

/-- Hands files out in order, up to the first that is not taken. -/
def emitAll (emitter : Emitter m) : List GeneratedFile → m (Except Failure (List Path))
  | [] => pure (.ok [])
  | file :: rest => do
      match ← emitter.emit file.package file.typeName file.source with
      | .error failure => pure (.error failure)
      | .ok path =>
          match ← emitAll emitter rest with
          | .error failure => pure (.error failure)
          | .ok paths => pure (.ok (path :: paths))

/-- Generates the files of all modules and hands them out. -/
def generateAll (emitter : Emitter m) (configuration : Configuration) (modules : List Module) :
    m (Except Failure (List Path)) :=
  match prepare configuration modules with
  | .error failure => pure (.error failure)
  | .ok files => emitter.emitAll files

/-! ## Emitters -/

def directory (files : FileSystem m) (root : Path) : Emitter m where
  emit package typeName contents := do
    let path := root.join (sourcePath package typeName)
    match ← files.writeAtomic path contents with
    | .error error => pure (.error (.unwritable error))
    | .ok () => pure (.ok path)

/-- What a dry run shows of a file. -/
def announcement (path : Path) (contents : String) : String :=
  "=== " ++ path.text ++ " ===\n" ++ contents ++ "\n"

def dryRun (print : String → m Unit) : Emitter m where
  emit package typeName contents := do
    let path := sourcePath package typeName
    print (announcement path contents)
    pure (.ok path)

end Emitter

/-! ## Files in memory -/

/-- Files by path, in the order of their paths. -/
abbrev FileMap := List (Path × String)

namespace FileMap

def get? : FileMap → Path → Option String
  | [], _ => none
  | (p, contents) :: rest, path =>
      if p.same path then some contents else FileMap.get? rest path

/-- The map with a file. A path that the map has keeps its spelling and gets the
new contents. -/
def insert : FileMap → Path → String → FileMap
  | [], path, contents => [(path, contents)]
  | (p, old) :: rest, path, contents =>
      match Path.order path p with
      | .lt => (path, contents) :: (p, old) :: rest
      | .eq => (p, contents) :: rest
      | .gt => (p, old) :: FileMap.insert rest path contents

end FileMap

def Emitter.memory : Emitter (StateM FileMap) where
  emit package typeName contents := do
    let path := sourcePath package typeName
    modify fun files => FileMap.insert files path contents
    return .ok path

end ModuleContainers
