import ModuleContainers.Configuration.Reader
import ModuleContainers.Document.Json.Reader
import ModuleContainers.Document.Toml.Reader
import ModuleContainers.Document.Yaml.Reader
import ModuleContainers.Failure
import ModuleContainers.Metadata.Reader

/-!
# Loading modules and configuration

Modules come from JSON and YAML documents; the file name tells which one a
document is. A document holds one module or a list of them. The configuration
comes from a TOML document.

A text that is not of its format is told apart from one that is and holds
something else (`DocumentFault`).
-/

namespace ModuleContainers

open ModuleContainers.Document
open ModuleContainers.Files (Path FileSystem)
open ModuleContainers.Metadata (Module)

/-! ## Formats -/

inductive DocumentFormat where
  | json
  | yaml
  deriving Repr, DecidableEq

namespace DocumentFormat

/-- The format that a file extension stands for, in capitals or not. -/
def ofExtension? (extension : String) : Option DocumentFormat :=
  let extension := extension.toLower
  if extension = "json" then some .json
  else if extension = "yaml" ∨ extension = "yml" then some .yaml
  else none

def ofPath? (path : Path) : Option DocumentFormat := path.extension?.bind ofExtension?

def name : DocumentFormat → String
  | .json => "json"
  | .yaml => "yaml"

def rules : DocumentFormat → Rules
  | .json => .json
  | .yaml => .yaml

def read? : DocumentFormat → String → Option Datum
  | .json, text => (Json.read? text).map Datum.ofJson
  | .yaml, text => Yaml.read? text

end DocumentFormat

/-! ## Documents -/

def readModules (format : DocumentFormat) (text : String) : Except DocumentFault (List Module) :=
  match format.read? text with
  | none => .error .malformed
  | some value => (Module.readDocument format.rules value).mapError .unfit

def readConfiguration (text : String) : Except DocumentFault Configuration :=
  match Toml.read? text with
  | none => .error .malformed
  | some value => (Configuration.read .toml value).mapError .unfit

/-! ## Files -/

section

variable {m : Type → Type} [Monad m]

/-- The modules of the file at a path. A file whose name does not tell its format
is not read. -/
def loadModules (files : FileSystem m) (path : Path) : m (Except Failure (List Module)) :=
  match DocumentFormat.ofPath? path with
  | none => pure (.error (.badDocument path .unknownFormat))
  | some format => do
      match ← files.readText path with
      | .error cause => pure (.error (.unreadable path cause))
      | .ok text => pure ((readModules format text).mapError (.badDocument path))

def loadConfiguration (files : FileSystem m) (path : Path) : m (Except Failure Configuration) := do
  match ← files.readText path with
  | .error cause => pure (.error (.unreadable path cause))
  | .ok text =>
      pure ((readConfiguration text).mapError fun fault => .badConfiguration (.file path fault))

end

end ModuleContainers
