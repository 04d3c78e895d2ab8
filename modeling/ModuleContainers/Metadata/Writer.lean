import ModuleContainers.Document.Json
import ModuleContainers.Metadata.Module

/-!
# Metadata as JSON

Every field is written, also one that has the value that stands for its absence;
a setting that is not there is written as `null`.
-/

namespace ModuleContainers.Metadata

open ModuleContainers.Document

def constantJson {α : Type} [Constant α] (value : α) : Json := .text (Constant.name value)

def Attribute.toJson (pair : Attribute) : Json :=
  .ofEntries [("name", .text pair.name), ("value", .text pair.value)]

def ServiceDependency.toJson (needed : ServiceDependency) : Json :=
  .ofEntries [("class_name", .text needed.className), ("service_name", .text needed.serviceName),
    ("kind", constantJson needed.kind), ("optional", .bool needed.optional)]

def Dependency.toJson : Dependency → Json
  | .task name => .text name
  | .service needed => needed.toJson

def Factory.toJson : Factory → Json
  | .constructor => .text "constructor"
  | .staticMethod name => .object [("static_method", .text name)]

def Service.toJson (service : Service) : Json :=
  .ofEntries [("name", .text service.name), ("return_type", .text service.returnType),
    ("source_class", .text service.sourceClass), ("factory", service.factory.toJson),
    ("method_params", .list (service.parameters.map Dependency.toJson)),
    ("dependencies", .list (service.dependencies.map Dependency.toJson)),
    ("singleton", .bool service.singleton), ("service_types", .texts service.serviceTypes),
    ("desc", .text service.description)]

def Accessor.toJson : Accessor → Json
  | .field name => .object [("field", .text name)]
  | .method name => .object [("method", .text name)]

def Output.toJson (output : Output) : Json :=
  .ofEntries [("name", .text output.name), ("return_type", .text output.returnType),
    ("accessor", output.accessor.toJson), ("service_types", .texts output.serviceTypes)]

def Task.toJson (task : Task) : Json :=
  .ofEntries [("name", .text task.name), ("priority", .int task.priority.toInt),
    ("thread_mode", constantJson task.threadMode), ("class_name", .text task.className),
    ("constructor_params", .list (task.parameters.map Dependency.toJson)),
    ("dependencies", .list (task.dependencies.map Dependency.toJson)),
    ("produced_services", .list (task.outputs.map Output.toJson))]

def Route.toJson (route : Route) : Json :=
  .ofEntries [("name", .text route.name), ("rules", .texts route.rules),
    ("route_type", .text route.routeType),
    ("attributes", .list (route.attributes.map Attribute.toJson)),
    ("interceptors", .texts route.interceptors),
    ("launcher", .ofOption (route.launcher.map .text)), ("class_name", .text route.className),
    ("desc", .text route.description)]

def Module.toJson (module : Module) : Json :=
  .ofEntries [("name", .text module.name), ("entrance_class", .text module.entranceClass),
    ("bootstrap_mode", constantJson module.bootstrapMode), ("desc", .text module.description),
    ("activator_class", .ofOption (module.activatorClass.map .text)),
    ("on_create", .ofOption (module.onCreate.map Task.toJson)),
    ("on_post_create", .ofOption (module.onPostCreate.map Task.toJson)),
    ("attributes", .list (module.attributes.map Attribute.toJson)),
    ("routes", .list (module.routes.map Route.toJson)),
    ("services", .list (module.services.map Service.toJson)),
    ("tasks", .list (module.tasks.map Task.toJson))]

end ModuleContainers.Metadata
