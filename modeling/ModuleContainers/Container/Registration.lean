import ModuleContainers.Container.Arguments
import ModuleContainers.Java.Comment

/-!
# Registrations

What a module tells the runtime when it is created: its services, its routes and
its tasks, each as a few statements.

A service is a block of its own. It declares one provider and the descriptors
the provider relies on, and registers that provider under every type, so that a
singleton is made once whatever type is asked for first.

A task announces its outputs before it is registered, so that others can depend
on them. When it runs, it makes its action, executes it and publishes what the
action holds, each output under every type.

Each emitter checks the names it uses in the order in which it uses them.
-/

namespace ModuleContainers.Container

open ModuleContainers.Java (ClassName Fragment lineComments)
open ModuleContainers.Java.Fragment (text type typeName classLiteral literal line indented)
open ModuleContainers.Metadata (Accessor Factory Output Route Service Task)

/-! ## Services -/

def factoryCall (source : ClassName) : Factory → Except Failure Fragment
  | .constructor => .ok (text "() -> new " ++ type source)
  | .staticMethod name => do
      checkMemberName name "factory method"
      return text "() -> " ++ type source ++ text ("." ++ name)

/-- The provider of a service; a singleton is kept by the runtime's helper. -/
def provider (runtime : Runtime ClassName) (singleton : Bool) (call : Fragment) : Fragment :=
  if singleton then type runtime.builtins ++ text ".singletonProvider(" ++ call ++ text ")"
  else call

/-- The descriptors a provider relies on as an array; none are the shared empty
array. -/
def captureArray (runtime : Runtime ClassName) (captured : List Fragment) : Fragment :=
  if captured = [] then type runtime.builtins ++ text ".emptyAnyArray()"
  else
    text "new " ++ type objectClass ++ text "[]\x7b" ++ Fragment.arguments captured ++ text "\x7d"

def registerProvider (serviceName : String) (serviceType : String) : Except Failure Fragment := do
  let target ← classNamed serviceType
  return line (text (registryName ++ ".registerProviderService(") ++ classLiteral target
    ++ text ", " ++ literal serviceName ++ text ", p, this, dep);")

def serviceBlock (runtime : Runtime ClassName) (service : Service) : Except Failure Fragment := do
  let returnType ← classNamed service.returnType
  let source ← classNamed service.sourceClass
  let parameters ← service.parameters.mapM (access .central)
  let callee ← factoryCall source service.factory
  let call := callee ++ text "(" ++ Fragment.arguments parameters ++ text ")"
  let captured ← service.allDependencies.mapM (descriptor runtime)
  let registrations ← service.serviceTypes.mapM (registerProvider service.name)
  return line (text "\x7b")
    ++ indented (lineComments service.description
      ++ line (type runtime.provider ++ text "<? extends " ++ type returnType ++ text "> p = "
        ++ provider runtime service.singleton call ++ text ";")
      ++ line (type objectClass ++ text "[] dep = " ++ captureArray runtime captured ++ text ";")
      ++ Fragment.concat registrations)
    ++ line (text "\x7d")

/-! ## Routes -/

def ruleArray (rules : List String) : Fragment :=
  text "new " ++ type stringClass ++ text "[]\x7b" ++ Fragment.arguments (rules.map literal)
    ++ text "\x7d"

/-- The interceptors of a route, made when they are asked for; none are the
shared empty provider. -/
def interceptorProvider (runtime : Runtime ClassName) (interceptors : List String) :
    Except Failure Fragment := do
  if interceptors = [] then return type runtime.builtins ++ text ".emptyArrayProvider()"
  let targets ← interceptors.mapM classNamed
  return text "() -> new " ++ type classClass ++ text "[]\x7b"
    ++ Fragment.join ", " (targets.map classLiteral) ++ text "\x7d"

/-- The launcher of a route. No launcher and the default one are the same. -/
def launcherProvider (runtime : Runtime ClassName) (launcher : Option String) :
    Except Failure Fragment := do
  let stub := type runtime.builtins ++ text ".stubLauncherProvider()"
  match launcher with
  | none => return stub
  | some name =>
      let target ← classNamed name
      return if target = runtime.defaultLauncher then stub else text "() -> " ++ classLiteral target

/-- The statement that registers a route. Classes are handed over unloaded. -/
def routeStatement (runtime : Runtime ClassName) (route : Route) : Except Failure Fragment := do
  let target ← classNamed route.className
  let interceptors ← interceptorProvider runtime route.interceptors
  let launcher ← launcherProvider runtime route.launcher
  return lineComments route.description
    ++ line (text (registryName ++ ".registerRoutes(") ++ type runtime.builtins
      ++ text ".routesBean("
      ++ Fragment.arguments [literal route.name, ruleArray route.rules, literal route.routeType,
        attributeArray runtime route.attributes, interceptors, launcher,
        text "() -> " ++ classLiteral target, text "this"]
      ++ text "));")

/-! ## Tasks -/

def announceOutput (taskName outputName serviceType : String) : Except Failure Fragment := do
  let target ← classNamed serviceType
  return line (text (registryName ++ ".registerTaskOutputService(") ++ classLiteral target
    ++ text ", " ++ literal outputName ++ text ", this, " ++ literal taskName ++ text ");")

def announceOutputs (taskName : String) (output : Output) : Except Failure Fragment := do
  return Fragment.concat (← output.serviceTypes.mapM (announceOutput taskName output.name))

def outputVariable (position : Nat) : String := "var" ++ toString position

def readOutput : Accessor → Except Failure String
  | .field name => do
      checkMemberName name "output field"
      return "action." ++ name
  | .method name => do
      checkMemberName name "output method"
      return "action." ++ name ++ "()"

def publishOutput (outputName holder serviceType : String) : Except Failure Fragment := do
  let target ← classNamed serviceType
  return line (text "task.getOutputs().output(" ++ classLiteral target ++ text ", "
    ++ literal outputName ++ text (", " ++ holder ++ ");"))

/-- The statements that read an output and publish it. -/
def publishOutputs (output : Output) (position : Nat) : Except Failure Fragment := do
  let holder := outputVariable position
  let value ← readOutput output.accessor
  let variableType ← typeNamed output.returnType
  let statements ← output.serviceTypes.mapM (publishOutput output.name holder)
  return line (typeName variableType ++ text (" " ++ holder ++ " = " ++ value ++ ";"))
    ++ Fragment.concat statements

/-- The statements that publish outputs, the first of them at the position. -/
def publishFrom : Nat → List Output → Except Failure Fragment
  | _, [] => .ok []
  | position, output :: rest => do
      let statements ← publishOutputs output position
      return statements ++ (← publishFrom (position + 1) rest)

def executeAction (action : ClassName) (parameters : List Fragment) : Fragment :=
  line (type action ++ text " action = new " ++ type action ++ text "("
      ++ Fragment.arguments parameters ++ text ");")
    ++ line (text "action.execute(task);")

/-- What a task waits for, as a call on its builder; nothing where it waits for
nothing. -/
def dependsOn (descriptors : List Fragment) : Fragment :=
  if descriptors = [] then []
  else line (text ".dependsOn(" ++ Fragment.arguments descriptors ++ text ")")

def taskStatements (runtime : Runtime ClassName) (task : Task) : Except Failure Fragment := do
  let action ← classNamed task.className
  let announcements ← task.outputs.mapM (announceOutputs task.name)
  let descriptors ← task.allDependencies.mapM (descriptor runtime)
  let parameters ← task.parameters.mapM (access .taskServices)
  let publications ← publishFrom 0 task.outputs
  return Fragment.concat announcements
    ++ line (text (tasksName ++ ".register(") ++ literal task.name ++ text ", (builder) -> \x7b")
    ++ indented (
      line (text "builder.threadMode(" ++ constantOf runtime.threadMode task.threadMode ++ text ")")
      ++ indented (indented (
        line (text (".priority(" ++ toString task.priority.toInt ++ ")"))
        ++ dependsOn descriptors
        ++ line (text ".doLast((task) -> \x7b")
        ++ indented (executeAction action parameters ++ publications
          ++ line (text "return null;"))
        ++ line (text "\x7d);")))
      ++ line (text "return null;"))
    ++ line (text "\x7d);")

end ModuleContainers.Container
