import ModuleContainers.Document.Reading
import ModuleContainers.Metadata.Module

/-!
# Metadata from documents

How each kind of metadata is written in a document: its fields in order, which
of them have to be there, and what stands for one that is absent. A document
holds one module or a list of modules.

A dependency is told apart by its form alone. A text names a task, and anything
that reads as a service dependency is one, whatever the format of the document:
inside a dependency a list or a mapping means the same everywhere, and tags mean
nothing.
-/

namespace ModuleContainers.Metadata

open ModuleContainers.Document

def constant {α : Type} [Constant α] : Reader α :=
  Reader.choice ((Constant.all (α := α)).map fun c => (Constant.name c, .bare c))

namespace Attribute

def record : Record Attribute :=
  Record.pure Attribute.mk <*> .required "name" .text <*> .required "value" .text

def read : Reader Attribute := record.reader "Attribute" false

end Attribute

namespace ServiceDependency

def record : Record ServiceDependency :=
  Record.pure ServiceDependency.mk <*> .required "class_name" .text <*> .required "service_name" .text
    <*> .defaulted "kind" constant default <*> .defaulted "optional" .boolean false

def read : Reader ServiceDependency := record.reader "ServiceDependency" false

end ServiceDependency

def Dependency.read : Reader Dependency := fun _ value =>
  if value.hasTag then .error (.noAlternative "Dependency")
  else match value with
    | .text name => .ok (.task name)
    | other =>
        match ServiceDependency.read .selfDescribed other with
        | .ok needed => .ok (.service needed)
        | .error _ => .error (.noAlternative "Dependency")

def Factory.read : Reader Factory :=
  Reader.choice [("constructor", .bare .constructor),
    ("static_method", .carrying fun rules value => (Reader.text rules value).map .staticMethod)]

namespace Service

def record : Record Service :=
  Record.pure Service.mk <*> .required "name" .text <*> .required "return_type" .text
    <*> .required "source_class" .text <*> .defaulted "factory" Factory.read .constructor
    <*> .defaulted "method_params" (.list Dependency.read) []
    <*> .defaulted "dependencies" (.list Dependency.read) []
    <*> .defaulted "singleton" .boolean false
    <*> .required "service_types" (.list .text) <*> .defaulted "desc" .text ""

def read : Reader Service := record.reader "ServiceMeta" false

end Service

def Accessor.read : Reader Accessor :=
  Reader.choice
    [("field", .carrying fun rules value => (Reader.text rules value).map .field),
      ("method", .carrying fun rules value => (Reader.text rules value).map .method)]

namespace Output

def record : Record Output :=
  Record.pure Output.mk <*> .required "name" .text <*> .required "return_type" .text
    <*> .required "accessor" Accessor.read <*> .required "service_types" (.list .text)

def read : Reader Output := record.reader "ServiceOutput" false

end Output

namespace Task

def record : Record Task :=
  Record.pure Task.mk <*> .required "name" .text <*> .defaulted "priority" .int32 0
    <*> .defaulted "thread_mode" constant default <*> .required "class_name" .text
    <*> .defaulted "constructor_params" (.list Dependency.read) []
    <*> .defaulted "dependencies" (.list Dependency.read) []
    <*> .defaulted "produced_services" (.list Output.read) []

def read : Reader Task := record.reader "TaskMeta" false

end Task

namespace Route

def record : Record Route :=
  Record.pure Route.mk <*> .required "name" .text <*> .defaulted "rules" (.list .text) []
    <*> .defaulted "route_type" .text "" <*> .defaulted "attributes" (.list Attribute.read) []
    <*> .defaulted "interceptors" (.list .text) []
    <*> .defaulted "launcher" (.optional .text) none <*> .required "class_name" .text
    <*> .defaulted "desc" .text ""

def read : Reader Route := record.reader "RouteMeta" false

end Route

namespace Module

def record : Record Module :=
  Record.pure Module.mk <*> .required "name" .text <*> .required "entrance_class" .text
    <*> .defaulted "bootstrap_mode" constant default <*> .defaulted "desc" .text ""
    <*> .defaulted "activator_class" (.optional .text) none
    <*> .defaulted "on_create" (.optional Task.read) none
    <*> .defaulted "on_post_create" (.optional Task.read) none
    <*> .defaulted "attributes" (.list Attribute.read) []
    <*> .defaulted "routes" (.list Route.read) []
    <*> .defaulted "services" (.list Service.read) []
    <*> .defaulted "tasks" (.list Task.read) []

def read : Reader Module := record.reader "ModuleMeta" false

/-- Reads the modules of a document: a list of them, or one alone. -/
def readDocument : Reader (List Module) := fun rules value =>
  match rules.plain value with
  | .list items => items.mapM (read rules)
  | other => (read rules other).map fun module => [module]

end Module

end ModuleContainers.Metadata
