import ModuleContainers.Metadata.Constant
import ModuleContainers.Text.Blank
import ModuleContainers.Text.Splitting

/-!
# Module metadata

A module bundles services, routes and tasks. Two hooks run beside them: one
before the module is created, one after it. Classes are named by text here; what
a text has to look like to name a class is the business of `Java.ClassName`.

A dependency list mixes two kinds of items: the name of a task that has to run
first, and a service that has to be there first. Parameters are dependencies
too, so the runtime is told of a list of dependencies followed by the parameters
(`Service.allDependencies`, `Task.allDependencies`).
-/

namespace ModuleContainers.Metadata

/-! ## Dependencies -/

/-- A service, by its type and the name it is registered under. -/
structure ServiceDependency where
  className : String
  serviceName : String
  kind : LookupKind := default
  /-- The runtime tolerates that the service is missing. -/
  optional : Bool := false
  deriving Repr, DecidableEq

/-- One item of a dependency or parameter list. -/
inductive Dependency where
  /-- A task that has to complete first. -/
  | task (name : String)
  /-- A service that has to be resolved first. -/
  | service (needed : ServiceDependency)
  deriving Repr, DecidableEq

namespace Dependency

/-- The dependency with another lookup; a task is not looked up. -/
def withKind (kind : LookupKind) : Dependency → Dependency
  | .task name => .task name
  | .service needed => .service { needed with kind }

/-- The dependency with its absence tolerated; a task cannot be absent. -/
def asOptional : Dependency → Dependency
  | .task name => .task name
  | .service needed => .service { needed with optional := true }

def className? : Dependency → Option String
  | .task _ => none
  | .service needed => some needed.className

def isTask : Dependency → Bool
  | .task _ => true
  | .service _ => false

end Dependency

/-! ## Services -/

inductive Factory where
  | constructor
  | staticMethod (name : String)
  deriving Repr, DecidableEq

structure Service where
  name : String
  returnType : String
  /-- The class that is constructed, or that has the static method. -/
  sourceClass : String
  factory : Factory := .constructor
  /-- The arguments of the constructor or method. -/
  parameters : List Dependency := []
  dependencies : List Dependency := []
  /-- The value is made once and kept. -/
  singleton : Bool := false
  serviceTypes : List String
  description : String := ""
  deriving Repr, DecidableEq

/-- Everything that the provider of the service relies on. -/
def Service.allDependencies (service : Service) : List Dependency :=
  service.dependencies ++ service.parameters

/-! ## Tasks -/

/-- Where an action keeps an output. -/
inductive Accessor where
  | field (name : String)
  | method (name : String)
  deriving Repr, DecidableEq

def Accessor.member : Accessor → String
  | .field name => name
  | .method name => name

/-- A service that a task produces. -/
structure Output where
  name : String
  /-- The type of the output: a class or a primitive type. -/
  returnType : String
  accessor : Accessor
  serviceTypes : List String
  deriving Repr, DecidableEq

/-- A task that a module registers, or a hook of its life. -/
structure Task where
  name : String
  priority : Int32 := 0
  threadMode : ThreadMode := default
  className : String
  /-- The arguments of the action's constructor. -/
  parameters : List Dependency := []
  dependencies : List Dependency := []
  outputs : List Output := []
  deriving Repr, DecidableEq

def Task.allDependencies (task : Task) : List Dependency :=
  task.dependencies ++ task.parameters

/-! ## Routes -/

structure Attribute where
  name : String
  value : String
  deriving Repr, DecidableEq

/-- A way from rules to a class. -/
structure Route where
  name : String
  rules : List String := []
  routeType : String := ""
  attributes : List Attribute := []
  interceptors : List String := []
  launcher : Option String := none
  className : String
  description : String := ""
  deriving Repr, DecidableEq

/-! ## Modules -/

/-- The definition of a module; one container class is generated from it. -/
structure Module where
  name : String
  /-- The name of the container class, with its package. -/
  entranceClass : String
  bootstrapMode : BootstrapMode := default
  description : String := ""
  activatorClass : Option String := none
  onCreate : Option Task := none
  onPostCreate : Option Task := none
  attributes : List Attribute := []
  routes : List Route := []
  services : List Service := []
  tasks : List Task := []
  deriving Repr, DecidableEq

namespace Module

/-- The package and the simple name of the entrance class, cut at its last dot;
blanks around the name do not count. -/
def entranceParts (module : Module) : Option (String × String) :=
  (Text.cutLast '.' (Text.dropEnds module.entranceClass.toList)).map fun (package, name) =>
    (String.ofList package, String.ofList name)

def packageName? (module : Module) : Option String := module.entranceParts.map Prod.fst

def simpleName (module : Module) : String :=
  match module.entranceParts with
  | some (_, name) => name
  | none => Text.trim module.entranceClass

def hasRegistrations (module : Module) : Bool :=
  !(module.routes.isEmpty && module.services.isEmpty && module.tasks.isEmpty)

def hooksAndTasks (module : Module) : List Task :=
  module.onCreate.toList ++ module.onPostCreate.toList ++ module.tasks

end Module

end ModuleContainers.Metadata
