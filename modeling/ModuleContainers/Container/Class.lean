import ModuleContainers.Container.Javadoc
import ModuleContainers.Container.Registration
import ModuleContainers.Java.CompilationUnit

/-!
# Container classes

The container of a module is a class with up to three members, in this order: a
constructor, which hands the description of the module to the base class; a
method that makes the activator, where the module has one of its own; and a
method that registers services, routes and tasks, where there are any. Services
come first, because routes and tasks may depend on them.
-/

namespace ModuleContainers.Container

open ModuleContainers.Java (ClassName CompilationUnit Fragment)
open ModuleContainers.Java.Fragment (text type literal line newline indented)
open ModuleContainers.Metadata (Module Task)

/-- The package and the type of the container class. Both have to be there, and
together they have to name a class. -/
def entrance (module : Module) : Except Failure (String × String) :=
  match module.entranceParts with
  | none => .error (.malformedEntranceClass module.name module.entranceClass)
  | some (package, name) =>
      if package = "" ∨ name = "" then
        .error (.malformedEntranceClass module.name module.entranceClass)
      else (classNamed module.entranceClass).map fun _ => (package, name)

/-! ## The constructor -/

/-- A hook as task options; no hook is `null`. -/
def hookOptions (runtime : Runtime ClassName) (hook : Option Task) (withParameters : Bool) :
    Except Failure Fragment := do
  match hook with
  | none => return text "null"
  | some task =>
      let dependencies := if withParameters then task.allDependencies else task.dependencies
      let descriptors ← dependencies.mapM (descriptor runtime)
      return text "new " ++ type runtime.moduleTaskOptions ++ text "("
        ++ Fragment.arguments ([literal task.name, text (toString task.priority.toInt),
          constantOf runtime.threadMode task.threadMode] ++ descriptors)
        ++ text ")"

/-- The constructor. The hook after creation waits for its parameters itself
only when no hook before creation does. -/
def constructorMember (runtime : Runtime ClassName) (module : Module) (typeName : String) :
    Except Failure Fragment := do
  let before ← hookOptions runtime module.onCreate true
  let after ← hookOptions runtime module.onPostCreate module.onCreate.isNone
  let data := text "new " ++ type runtime.moduleData ++ text "("
    ++ Fragment.arguments [literal module.name,
      constantOf runtime.bootstrapMode module.bootstrapMode, before, after,
      attributeArray runtime module.attributes]
    ++ text ")"
  return line (text ("public " ++ typeName ++ "() \x7b"))
    ++ indented (line (text "super(" ++ data ++ text ");"))
    ++ line (text "\x7d")

/-! ## The activator -/

/-- The activator that the module has of its own. Naming the default one is the
same as naming none. -/
def customActivator (runtime : Runtime ClassName) (module : Module) :
    Except Failure (Option ClassName) := do
  match module.activatorClass with
  | none => return none
  | some name =>
      let target ← classNamed name
      return if target = runtime.defaultActivator then none else some target

def overridingMethod (signature : Fragment) (body : Fragment) : Fragment :=
  line (text "@" ++ type overrideAnnotation) ++ line (text "public " ++ signature ++ text " \x7b")
    ++ indented body ++ line (text "\x7d")

/-- The method that makes the activator. It takes the parameters of the hook
before creation. -/
def activatorMember (runtime : Runtime ClassName) (module : Module) (activator : ClassName) :
    Except Failure Fragment := do
  let parameters ← match module.onCreate with
    | some task => task.parameters.mapM (access .central)
    | none => .ok []
  return overridingMethod
    (type runtime.moduleActivator ++ text " createActivator(" ++ type runtime.serviceCentral
      ++ text (" " ++ centralName ++ ")"))
    (line (text "return new " ++ type activator ++ text "(" ++ Fragment.arguments parameters
      ++ text ");"))

/-! ## The registrations -/

def serviceSection (runtime : Runtime ClassName) (module : Module) : Except Failure Fragment := do
  if module.services = [] then return []
  let blocks ← module.services.mapM (serviceBlock runtime)
  return line (type runtime.serviceCentral
      ++ text (" " ++ centralName ++ " = " ++ registryName ++ ".deferred();"))
    ++ Fragment.concat blocks

def registerMember (runtime : Runtime ClassName) (module : Module) : Except Failure Fragment := do
  let services ← serviceSection runtime module
  let routes ← module.routes.mapM (routeStatement runtime)
  let tasks ← module.tasks.mapM (taskStatements runtime)
  return overridingMethod
    (text "void onRegister(" ++ type runtime.registry ++ text (" " ++ registryName ++ ", ")
      ++ type runtime.taskContainer ++ text (" " ++ tasksName ++ ")"))
    (Fragment.joinBlocks [services, Fragment.concat routes, Fragment.concat tasks])

/-! ## The class -/

def members (runtime : Runtime ClassName) (module : Module) (typeName : String) :
    Except Failure (List Fragment) := do
  let constructor ← constructorMember runtime module typeName
  let activator ← match ← customActivator runtime module with
    | some activator => (activatorMember runtime module activator).map fun member => [member]
    | none => .ok []
  let registrations ←
    if module.hasRegistrations then (registerMember runtime module).map fun member => [member]
    else .ok []
  return [constructor] ++ activator ++ registrations

/-- The file of a module's container class. -/
def unit (runtime : Runtime ClassName) (banner : String) (module : Module) :
    Except Failure CompilationUnit := do
  let (package, typeName) ← entrance module
  let members ← members runtime module typeName
  return {
    package
    typeName
    body := javadoc banner module
      ++ line (text ("public class " ++ typeName ++ " extends ") ++ type runtime.moduleContainer
        ++ text " \x7b")
      ++ indented (Fragment.joinBlocks members)
      ++ line (text "\x7d") }

end ModuleContainers.Container
