import ModuleContainers.Configuration
import ModuleContainers.Document.Reading

/-!
# Configuration from documents

A document of the configuration overrides what it names: a key that is absent
keeps its standard setting, and a key that is not known is an error.
-/

namespace ModuleContainers

open ModuleContainers.Document

namespace Runtime

/-- A class of the runtime by its key; it has a standard name. -/
def nameField (key standardName : String) : Record String := .defaulted key .text standardName

def record : Record (Runtime String) :=
  Record.pure Runtime.mk <*> nameField keys.moduleContainer standard.moduleContainer
    <*> nameField keys.moduleData standard.moduleData
    <*> nameField keys.moduleTaskOptions standard.moduleTaskOptions
    <*> nameField keys.moduleActivator standard.moduleActivator
    <*> nameField keys.defaultActivator standard.defaultActivator
    <*> nameField keys.bootstrapMode standard.bootstrapMode
    <*> nameField keys.serviceCentral standard.serviceCentral
    <*> nameField keys.registry standard.registry
    <*> nameField keys.taskContainer standard.taskContainer
    <*> nameField keys.threadMode standard.threadMode
    <*> nameField keys.serviceDependency standard.serviceDependency
    <*> nameField keys.defaultLauncher standard.defaultLauncher
    <*> nameField keys.builtins standard.builtins
    <*> nameField keys.provider standard.provider
    <*> nameField keys.pair standard.pair
    <*> nameField keys.tuples standard.tuples

def read : Reader (Runtime String) := record.reader "RuntimeApi" true

end Runtime

namespace Configuration

def record : Record Configuration :=
  Record.pure Configuration.mk <*> .defaulted "indent" .text standard.indent
    <*> .defaulted "banner" .text standard.banner
    <*> .defaulted "runtime" Runtime.read standard.runtime

def read : Reader Configuration := record.reader "GeneratorConfig" true

end Configuration

end ModuleContainers
