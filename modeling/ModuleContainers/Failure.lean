import ModuleContainers.Configuration
import ModuleContainers.Document.Reading
import ModuleContainers.Files.FileSystem

/-!
# Failures

Everything that can end a generation, from an input that cannot be read to a
file that cannot be written. A failure carries its cause; `Failure.message` says
it in words.
-/

namespace ModuleContainers

open ModuleContainers.Java (ClassName)
open ModuleContainers.Files (Fault Path WriteError)

/-- Why a document gives no modules or no configuration. -/
inductive DocumentFault where
  | unknownFormat
  /-- The text is not of the format. -/
  | malformed
  /-- The text is of the format and holds something else. -/
  | unfit (error : Document.ReadError)
  deriving Repr, DecidableEq

def DocumentFault.message : DocumentFault → String
  | .unknownFormat => "unsupported file extension, expected .json, .yaml or .yml"
  | .malformed => "malformed document"
  | .unfit error => error.message

/-- Why a configuration is not used. -/
inductive ConfigurationFault where
  | document (fault : DocumentFault)
  | file (path : Path) (fault : DocumentFault)
  | runtimeName (bad : Runtime.BadName)
  deriving Repr, DecidableEq

/-- Why a generation fails. -/
inductive Failure where
  | badDocument (path : Path) (fault : DocumentFault)
  | unreadable (path : Path) (cause : Fault)
  | unwritable (error : WriteError)
  | badConfiguration (fault : ConfigurationFault)
  | malformedEntranceClass (moduleName entranceClass : String)
  | invalidClassName (cause : ClassName.Invalid)
  /-- The name cannot stand where the role says. -/
  | invalidIdentifier (name role : String)
  | duplicateEntranceClass (entranceClass first second : String)
  | emptyModuleName (entranceClass : String)
  | duplicateTaskName (moduleName taskName : String)
  /-- The service or output that the owner describes is registered as nothing. -/
  | missingServiceTypes (moduleName owner : String)
  deriving Repr, DecidableEq

def inQuotes (text : String) : String := "'" ++ text ++ "'"

def invalidClassNameMessage (cause : ClassName.Invalid) : String :=
  "Invalid class name " ++ inQuotes cause.name ++ ": " ++ cause.fault.reason

def ConfigurationFault.message : ConfigurationFault → String
  | .document fault => fault.message
  | .file path fault => path.text ++ ": " ++ fault.message
  | .runtimeName bad =>
      "runtime." ++ bad.key ++ " is invalid: " ++ invalidClassNameMessage bad.cause

def Failure.message : Failure → String
  | .badDocument path fault =>
      "Failed to parse module metadata " ++ inQuotes path.text ++ ": " ++ fault.message
  | .unreadable path cause =>
      "Failed to read " ++ inQuotes path.text ++ ": " ++ cause.words
  | .unwritable error =>
      "Failed to write output file " ++ inQuotes error.path.text ++ ": " ++ error.cause.words
  | .badConfiguration fault => "Invalid configuration: " ++ fault.message
  | .malformedEntranceClass moduleName entranceClass =>
      "Module " ++ inQuotes moduleName ++ " has entrance class " ++ inQuotes entranceClass
        ++ " without a package; use a fully-qualified name such as "
        ++ inQuotes ("com.example." ++ entranceClass)
  | .invalidClassName cause => invalidClassNameMessage cause
  | .invalidIdentifier name role =>
      "Invalid " ++ role ++ " " ++ inQuotes name ++ ": not a Java identifier"
  | .duplicateEntranceClass entranceClass first second =>
      "Modules " ++ inQuotes first ++ " and " ++ inQuotes second
        ++ " both use entrance class " ++ inQuotes entranceClass
  | .emptyModuleName entranceClass =>
      "Module with entrance class " ++ inQuotes entranceClass ++ " has an empty name"
  | .duplicateTaskName moduleName taskName =>
      "Module " ++ inQuotes moduleName ++ " declares task " ++ inQuotes taskName
        ++ " more than once"
  | .missingServiceTypes moduleName owner =>
      "Module " ++ inQuotes moduleName ++ ": " ++ owner ++ " declares no service types"

/-! ## Names in metadata -/

def classNamed (name : String) : Except Failure ClassName :=
  (ClassName.parse name).mapError .invalidClassName

def typeNamed (name : String) : Except Failure Java.TypeName :=
  (Java.TypeName.parse name).mapError .invalidClassName

/-- A name that is spliced into code as it stands has to be an identifier. -/
def checkMemberName (name role : String) : Except Failure Unit :=
  if Java.isIdentifier name then .ok () else .error (.invalidIdentifier name role)

def Configuration.resolve (configuration : Configuration) : Except Failure (Runtime ClassName) :=
  configuration.runtime.resolve.mapError fun bad => .badConfiguration (.runtimeName bad)

end ModuleContainers
