import ModuleContainers.Failure
import ModuleContainers.Metadata.Module

/-!
# Validation of modules

A module is checked before anything is generated from it, so that a problem is
reported where it was made. Six checks follow one another, and the first that
does not hold gives the failure: the name, the entrance class, the task names,
the service types, the class names, and the names of members.
-/

namespace ModuleContainers.Metadata.Module

open ModuleContainers (Failure classNamed typeNamed checkMemberName inQuotes)
open ModuleContainers.Java (ClassName)

/-- Runs a check on every item, up to the first that fails. -/
def checkAll {α : Type} (check : α → Except Failure Unit) : List α → Except Failure Unit
  | [] => .ok ()
  | item :: rest => do
      check item
      checkAll check rest

def checkClass (name : String) : Except Failure Unit := (classNamed name).map fun _ => ()

/-! ## The checks -/

def checkName (module : Module) : Except Failure Unit :=
  if Text.isBlankText module.name then .error (.emptyModuleName module.entranceClass)
  else .ok ()

/-- The entrance class has a package and names a class. -/
def checkEntranceClass (module : Module) : Except Failure Unit :=
  match module.entranceParts with
  | none => .error (.malformedEntranceClass module.name module.entranceClass)
  | some (package, name) =>
      if package = "" ∨ name = "" then
        .error (.malformedEntranceClass module.name module.entranceClass)
      else checkClass module.entranceClass

/-- The first name that stands in the list before as well. -/
def repeatedName? : List String → List String → Option String
  | _, [] => none
  | seen, name :: rest => if name ∈ seen then some name else repeatedName? (name :: seen) rest

def checkTaskNames (module : Module) : Except Failure Unit :=
  match repeatedName? [] (module.tasks.map Task.name) with
  | some name => .error (.duplicateTaskName module.name name)
  | none => .ok ()

/-- Something that is registered is registered as something. -/
def checkTypesOf (module : Module) (owner : String) (serviceTypes : List String) :
    Except Failure Unit :=
  if serviceTypes = [] then .error (.missingServiceTypes module.name owner) else .ok ()

def checkServiceTypes (module : Module) : Except Failure Unit := do
  checkAll (fun (service : Service) =>
    checkTypesOf module ("service " ++ inQuotes service.name) service.serviceTypes) module.services
  checkAll (fun (task : Task) =>
    checkAll (fun (output : Output) =>
      checkTypesOf module
        ("output " ++ inQuotes output.name ++ " of task " ++ inQuotes task.name)
        output.serviceTypes) task.outputs) module.hooksAndTasks

def checkDependencies (dependencies : List Dependency) : Except Failure Unit :=
  checkAll checkClass (dependencies.filterMap Dependency.className?)

def checkServiceClasses (service : Service) : Except Failure Unit := do
  checkClass service.returnType
  checkClass service.sourceClass
  checkAll checkClass service.serviceTypes
  checkDependencies service.allDependencies

def checkRouteClasses (route : Route) : Except Failure Unit := do
  checkClass route.className
  checkAll checkClass route.interceptors
  checkAll checkClass route.launcher.toList

/-- Every class name of an output names a class; its type may be primitive. -/
def checkOutputClasses (output : Output) : Except Failure Unit := do
  (typeNamed output.returnType).map fun _ => ()
  checkAll checkClass output.serviceTypes

def checkTaskClasses (task : Task) : Except Failure Unit := do
  checkClass task.className
  checkDependencies task.allDependencies
  checkAll checkOutputClasses task.outputs

def checkClasses (module : Module) : Except Failure Unit := do
  checkAll checkClass module.activatorClass.toList
  checkAll checkServiceClasses module.services
  checkAll checkRouteClasses module.routes
  checkAll checkTaskClasses module.hooksAndTasks

/-- The static method of a service is an identifier. -/
def checkFactory (module : Module) (service : Service) : Except Failure Unit :=
  match service.factory with
  | .constructor => .ok ()
  | .staticMethod name =>
      checkMemberName name
        ("factory method of service " ++ inQuotes service.name ++ " in module "
          ++ inQuotes module.name)

def accessorKind : Accessor → String
  | .field _ => "field"
  | .method _ => "method"

def checkAccessor (module : Module) (task : Task) (output : Output) : Except Failure Unit :=
  checkMemberName output.accessor.member
    (accessorKind output.accessor ++ " of output " ++ inQuotes output.name ++ " of task "
      ++ inQuotes task.name ++ " in module " ++ inQuotes module.name)

def checkMembers (module : Module) : Except Failure Unit := do
  checkAll (checkFactory module) module.services
  checkAll (fun (task : Task) => checkAll (checkAccessor module task) task.outputs)
    module.hooksAndTasks

def validate (module : Module) : Except Failure Unit := do
  checkName module
  checkEntranceClass module
  checkTaskNames module
  checkServiceTypes module
  checkClasses module
  checkMembers module

end ModuleContainers.Metadata.Module
