import ModuleContainers.Java.ClassName

/-!
# Configuration

Generated code calls into a runtime library, whose classes are named in the
configuration: a relocated runtime is a matter of other names. A `Runtime` holds
one thing for each of those classes - its name as configured, or the class that
the name stands for (`Runtime.resolve`). Beside it the configuration has the unit
of indentation and the banner that opens the comment of a generated class.
-/

namespace ModuleContainers

open ModuleContainers.Java (ClassName)

/-- Something for each class of the runtime library. -/
structure Runtime (α : Type) where
  /-- The base class of every container. -/
  moduleContainer : α
  moduleData : α
  moduleTaskOptions : α
  moduleActivator : α
  /-- The activator that stands for having none. -/
  defaultActivator : α
  bootstrapMode : α
  serviceCentral : α
  registry : α
  taskContainer : α
  threadMode : α
  serviceDependency : α
  /-- The launcher that stands for having none. -/
  defaultLauncher : α
  /-- The class of the helper methods. -/
  builtins : α
  provider : α
  pair : α
  /-- The class of the method that makes pairs. -/
  tuples : α
  deriving Repr, DecidableEq

namespace Runtime

def keys : Runtime String where
  moduleContainer := "module_container"
  moduleData := "module_data"
  moduleTaskOptions := "module_task_options"
  moduleActivator := "module_activator"
  defaultActivator := "default_activator"
  bootstrapMode := "bootstrap_mode"
  serviceCentral := "service_central"
  registry := "registry"
  taskContainer := "task_container"
  threadMode := "thread_mode"
  serviceDependency := "service_dependency"
  defaultLauncher := "default_launcher"
  builtins := "builtins"
  provider := "provider"
  pair := "pair"
  tuples := "tuples"

/-- The names of the runtime library as it is released. -/
def standard : Runtime String where
  moduleContainer := "com.bilibili.brouter.api.internal.module.ModuleContainer"
  moduleData := "com.bilibili.brouter.api.internal.module.ModuleData"
  moduleTaskOptions := "com.bilibili.brouter.api.internal.module.ModuleTaskOptions"
  moduleActivator := "com.bilibili.brouter.api.ModuleActivator"
  defaultActivator := "com.bilibili.brouter.api.internal.module.DefaultModuleActivator"
  bootstrapMode := "com.bilibili.brouter.api.BootStrapMode"
  serviceCentral := "com.bilibili.brouter.api.ServiceCentral"
  registry := "com.bilibili.brouter.api.internal.Registry"
  taskContainer := "com.bilibili.brouter.api.task.TaskContainer"
  threadMode := "com.bilibili.brouter.api.task.ThreadMode"
  serviceDependency := "com.bilibili.brouter.api.task.ServiceDependency"
  defaultLauncher := "com.bilibili.brouter.api.Launcher"
  builtins := "com.bilibili.brouter.api.internal.BuiltInKt"
  provider := "javax.inject.Provider"
  pair := "kotlin.Pair"
  tuples := "kotlin.TuplesKt"

def toList {α : Type} (r : Runtime α) : List α :=
  [r.moduleContainer, r.moduleData, r.moduleTaskOptions, r.moduleActivator, r.defaultActivator,
    r.bootstrapMode, r.serviceCentral, r.registry, r.taskContainer, r.threadMode,
    r.serviceDependency, r.defaultLauncher, r.builtins, r.provider, r.pair, r.tuples]

/-- A name of the runtime that stands for no class, with its key. -/
structure BadName where
  key : String
  cause : ClassName.Invalid
  deriving Repr, DecidableEq

def resolveName (key name : String) : Except BadName ClassName :=
  (ClassName.parse name).mapError fun cause => ⟨key, cause⟩

/-- The classes that the configured names stand for; of several bad names the
first one is reported. -/
def resolve (names : Runtime String) : Except BadName (Runtime ClassName) := do
  return {
    moduleContainer := ← resolveName keys.moduleContainer names.moduleContainer
    moduleData := ← resolveName keys.moduleData names.moduleData
    moduleTaskOptions := ← resolveName keys.moduleTaskOptions names.moduleTaskOptions
    moduleActivator := ← resolveName keys.moduleActivator names.moduleActivator
    defaultActivator := ← resolveName keys.defaultActivator names.defaultActivator
    bootstrapMode := ← resolveName keys.bootstrapMode names.bootstrapMode
    serviceCentral := ← resolveName keys.serviceCentral names.serviceCentral
    registry := ← resolveName keys.registry names.registry
    taskContainer := ← resolveName keys.taskContainer names.taskContainer
    threadMode := ← resolveName keys.threadMode names.threadMode
    serviceDependency := ← resolveName keys.serviceDependency names.serviceDependency
    defaultLauncher := ← resolveName keys.defaultLauncher names.defaultLauncher
    builtins := ← resolveName keys.builtins names.builtins
    provider := ← resolveName keys.provider names.provider
    pair := ← resolveName keys.pair names.pair
    tuples := ← resolveName keys.tuples names.tuples }

end Runtime

/-! ## Settings -/

structure Configuration where
  /-- One level of indentation. -/
  indent : String
  /-- The first line of the comment of a generated class. -/
  banner : String
  runtime : Runtime String
  deriving Repr, DecidableEq

namespace Configuration

/-- The settings where nothing is configured. -/
def standard : Configuration where
  indent := "    "
  banner := "Generated by registrar-gen, don't edit it."
  runtime := .standard

def withIndentWidth (configuration : Configuration) (width : Nat) : Configuration :=
  { configuration with indent := String.ofList (List.replicate width ' ') }

end Configuration

end ModuleContainers
