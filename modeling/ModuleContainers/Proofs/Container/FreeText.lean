import ModuleContainers.Proofs.Container.Class
import ModuleContainers.Proofs.Java.Literals
import ModuleContainers.Proofs.Validation

/-!
# Free text in a container class

Names, rules and attributes are free text: nothing checks what is in them. In a container
class they are the values of string literals. A module has a skeleton, which is the
module without its free text, and it has texts, which are listed in the order in which
its class uses them. Both are functions of the metadata alone.

An outline of an emitter has the texts in its literals, one in each, and apart from them
it is the outline of the skeleton (`Fills`). There is one lemma for each emitter, up to
the whole class (`fills_body`): that the texts are all there and that they change nothing
else are two halves of one fact.
-/

namespace ModuleContainers.Metadata

/-! ## The skeleton -/

/-- Names of tasks and of services are free; classes are not. -/
def Dependency.skeleton : Dependency → Dependency
  | .task _ => .task ""
  | .service needed => .service { needed with serviceName := "" }

def Service.skeleton (service : Service) : Service :=
  { service with
    name := ""
    description := ""
    parameters := service.parameters.map Dependency.skeleton
    dependencies := service.dependencies.map Dependency.skeleton }

def Output.skeleton (output : Output) : Output := { output with name := "" }

/-- What the task is called and what it waits for; its priority and its classes stay. -/
def Task.skeleton (task : Task) : Task :=
  { task with
    name := ""
    parameters := task.parameters.map Dependency.skeleton
    dependencies := task.dependencies.map Dependency.skeleton
    outputs := task.outputs.map Output.skeleton }

/-- As many rules and attributes, with nothing in them. -/
def Route.skeleton (route : Route) : Route :=
  { route with
    name := ""
    rules := route.rules.map fun _ => ""
    routeType := ""
    attributes := route.attributes.map fun _ => ⟨"", ""⟩
    description := "" }

/-- The module with every free text left empty. -/
def Module.skeleton (module : Module) : Module :=
  { module with
    name := ""
    description := ""
    onCreate := module.onCreate.map Task.skeleton
    onPostCreate := module.onPostCreate.map Task.skeleton
    attributes := module.attributes.map fun _ => ⟨"", ""⟩
    routes := module.routes.map Route.skeleton
    services := module.services.map Service.skeleton
    tasks := module.tasks.map Task.skeleton }

theorem Service.allDependencies_skeleton (service : Service) :
    service.skeleton.allDependencies = service.allDependencies.map Dependency.skeleton := by
  simp [Service.allDependencies, Service.skeleton]

theorem Task.allDependencies_skeleton (task : Task) :
    task.skeleton.allDependencies = task.allDependencies.map Dependency.skeleton := by
  simp [Task.allDependencies, Task.skeleton]

/-! ## The texts -/

/-- What a dependency is known by: the task, or the name of the service. -/
def Dependency.name : Dependency → String
  | .task name => name
  | .service needed => needed.serviceName

def Attribute.texts (pair : Attribute) : List String := [pair.name, pair.value]

/-- What the provider is given, what it waits for, and the name under each type. -/
def Service.texts (service : Service) : List String :=
  service.parameters.map Dependency.name ++ service.allDependencies.map Dependency.name
    ++ service.serviceTypes.map fun _ => service.name

def Route.texts (route : Route) : List String :=
  [route.name] ++ route.rules ++ [route.routeType] ++ route.attributes.flatMap Attribute.texts

/-- The outputs are announced first; then the task is named with what it waits for
and what its action is given; in the end every output is published. -/
def Task.texts (task : Task) : List String :=
  (task.outputs.flatMap fun output => output.serviceTypes.flatMap fun _ => [output.name, task.name])
    ++ [task.name] ++ task.allDependencies.map Dependency.name
    ++ task.parameters.map Dependency.name
    ++ task.outputs.flatMap fun output => output.serviceTypes.map fun _ => output.name

/-- The name of a hook and of everything that it waits for. -/
def hookTexts (hook : Option Task) (withParameters : Bool) : List String :=
  match hook with
  | none => []
  | some task =>
      [task.name] ++ task.dependencies.map Dependency.name
        ++ if withParameters then task.parameters.map Dependency.name else []

end ModuleContainers.Metadata

namespace ModuleContainers.Container

open ModuleContainers.Java (Bare ClassName Fills FillsAll Outline bare_code bare_named bare_nil
  bare_number bare_of_literals bare_word code fillsAll_map fillsAll_nil fills_flatMap fills_quoted
  listed named number quoted word)
open ModuleContainers.Metadata (Accessor Attribute Dependency Module Output Route Service Task
  hookTexts)

/-- The module names an activator, and not the one that stands for having none. -/
def replacesActivator (runtime : Runtime ClassName) (module : Module) : Bool :=
  module.activatorClass.any fun name => ClassName.parse name ≠ .ok runtime.defaultActivator

/-- The texts of a module, as often and in the order in which its container class
has them. -/
def moduleTexts (runtime : Runtime ClassName) (module : Module) : List String :=
  [module.name] ++ hookTexts module.onCreate true
    ++ hookTexts module.onPostCreate module.onCreate.isNone
    ++ module.attributes.flatMap Attribute.texts
    ++ (if replacesActivator runtime module then
          ((module.onCreate.map Task.parameters).getD []).map Dependency.name
        else [])
    ++ module.services.flatMap Service.texts ++ module.routes.flatMap Route.texts
    ++ module.tasks.flatMap Task.texts

/-- The activator is replaced where there is one to make. Both read the name, and it can be read
because it was checked. -/
theorem activatorOf_isSome {runtime : Runtime ClassName} {module : Module} (h : module.WellNamed) :
    (activatorOf runtime module).isSome = replacesActivator runtime module := by
  unfold activatorOf replacesActivator
  cases hname : module.activatorClass with
  | none => rfl
  | some name =>
      obtain ⟨target, htarget⟩ := h.activator name hname
      have hparse := parse_of_mapError htarget
      have hclass : classOf name = target := (classNamed_eq_ok htarget).1.symm
      by_cases hdefault : target = runtime.defaultActivator <;>
        simp [hparse, hclass, hdefault]

variable (runtime : Runtime ClassName)

/-! ## Arguments -/

theorem bare_class (target : ClassName) : Bare (classOutline target) :=
  (bare_named target).append_code ".class" rfl

/-- Either kind of dependency has one text. -/
theorem fills_access (point : AccessPoint) (dependency : Dependency) :
    Fills (accessOutline point dependency.skeleton) [dependency.name]
      (accessOutline point dependency) := by
  cases dependency with
  | task name => exact fills_quoted name
  | service needed =>
      have hcall : Bare (code (point.expression ++ "." ++ getter needed.kind ++ "(")) := by
        refine bare_code _ ?_
        cases point <;> cases needed.kind <;> rfl
      exact (((hcall.append_bare (bare_class _)).append_code ", " rfl).append
        (fills_quoted needed.serviceName)).append_code ")" rfl

/-- A descriptor has the name of its service as its only text. -/
theorem fills_descriptor (dependency : Dependency) :
    Fills (descriptorOutline runtime dependency.skeleton) [dependency.name]
      (descriptorOutline runtime dependency) := by
  cases dependency with
  | task name => exact fills_quoted name
  | service needed =>
      have hclose : Bare (code (", " ++ truth needed.optional ++ ")")) := by
        refine bare_code _ ?_
        cases needed.optional <;> rfl
      have hnew := ((bare_code "new " rfl).append_bare
        (bare_named runtime.serviceDependency)).append_code "(" rfl
      exact (((hnew.append_bare (bare_class _)).append_code ", " rfl).append
        (fills_quoted needed.serviceName)).append_bare hclose

/-- Dependencies are written by their names, whatever they are written as. -/
theorem fills_dependencies {outline : Dependency → Outline}
    (h : ∀ dependency, Fills (outline dependency.skeleton) [dependency.name] (outline dependency))
    (dependencies : List Dependency) :
    FillsAll ((dependencies.map Dependency.skeleton).map outline)
      (dependencies.map Dependency.name) (dependencies.map outline) := by
  have hall := fillsAll_map fun dependency (_ : dependency ∈ dependencies) => h dependency
  rw [← List.map_eq_flatMap] at hall
  rw [List.map_map]
  exact hall

theorem fills_accesses (point : AccessPoint) (dependencies : List Dependency) :
    FillsAll ((dependencies.map Dependency.skeleton).map (accessOutline point))
      (dependencies.map Dependency.name) (dependencies.map (accessOutline point)) :=
  fills_dependencies (fills_access point) dependencies

theorem fills_descriptors (dependencies : List Dependency) :
    FillsAll ((dependencies.map Dependency.skeleton).map (descriptorOutline runtime))
      (dependencies.map Dependency.name) (dependencies.map (descriptorOutline runtime)) :=
  fills_dependencies (fills_descriptor runtime) dependencies

/-- Whether there are attributes does not depend on what is in them, so blank and filled array
are of one form. -/
theorem fills_attributes (attributes : List Attribute) :
    Fills (attributesOutline runtime (attributes.map fun _ => ⟨"", ""⟩))
      (attributes.flatMap Attribute.texts) (attributesOutline runtime attributes) := by
  have hpair : ∀ pair : Attribute, Fills (attributeOutline runtime ⟨"", ""⟩) pair.texts
      (attributeOutline runtime pair) := by
    intro pair
    have hname := ((bare_named runtime.tuples).append_code ".to(" rfl).append
      (fills_quoted pair.name)
    exact ((hname.append_code ", " rfl).append (fills_quoted pair.value)).append_code ")" rfl
  simp only [attributesOutline, List.map_eq_nil_iff]
  split
  · next hnil =>
      rw [hnil]
      exact (bare_named _).append_code ".emptyAttributesArray()" rfl
  · have hitems := (fillsAll_map fun pair (_ : pair ∈ attributes) => hpair pair).listed
    have hopen := ((bare_code "new " rfl).append_bare (bare_named runtime.pair)).append_code
      "[]\x7b" rfl
    rw [List.map_map]
    exact (hopen.append hitems).append_code "\x7d" rfl

theorem bare_threadMode (mode : Metadata.ThreadMode) :
    Bare (constantOutline runtime.threadMode mode) := by
  refine (bare_named _).append_code _ ?_
  cases mode <;> rfl

/-! ## Services -/

/-- The factory is no text; a static method is called by a checked name. -/
theorem fills_call (service : Service) :
    Fills (callOutline service.skeleton) (service.parameters.map Dependency.name)
      (callOutline service) := by
  have hfactory : Bare (factoryOutline (classOf service.sourceClass) service.factory) := by
    cases service.factory with
    | constructor => exact (bare_code "() -> new " rfl).append_bare (bare_named _)
    | staticMethod name =>
        exact ((bare_code "() -> " rfl).append_bare (bare_named _)).append_bare
          ((bare_code "." rfl).append_bare (bare_word name))
  exact ((hfactory.append_code "(" rfl).append
    (fills_accesses .central service.parameters).listed).append_code ")" rfl

/-- The call around a singleton adds no text. -/
theorem fills_provider (singleton : Bool) {blank call : Outline} {texts : List String}
    (h : Fills blank texts call) :
    Fills (providerOutline runtime singleton blank) texts
      (providerOutline runtime singleton call) := by
  unfold providerOutline
  split
  · exact (((bare_named runtime.builtins).append_code ".singletonProvider(" rfl).append
      h).append_code ")" rfl
  · exact h

/-- Blank or not, there are as many descriptors, so the shared empty array stands in both or in
none. -/
theorem fills_capture (captured : List Dependency) :
    Fills (captureOutline runtime (captured.map Dependency.skeleton))
      (captured.map Dependency.name) (captureOutline runtime captured) := by
  simp only [captureOutline, List.map_eq_nil_iff]
  split
  · next hnil =>
      rw [hnil]
      exact (bare_named _).append_code ".emptyAnyArray()" rfl
  · have hopen := ((bare_code "new " rfl).append_bare (bare_named objectClass)).append_code
      "[]\x7b" rfl
    exact (hopen.append (fills_descriptors runtime captured).listed).append_code "\x7d" rfl

theorem fills_registerProvider (serviceName serviceType : String) :
    Fills (registerProviderOutline "" serviceType) [serviceName]
      (registerProviderOutline serviceName serviceType) :=
  ((((bare_code (registryName ++ ".registerProviderService(") rfl).append_bare
    (bare_class _)).append_code ", " rfl).append (fills_quoted serviceName)).append_code
    ", p, this, dep);" rfl

/-- The name of the service stands once for each type. -/
theorem fills_service (service : Service) :
    Fills (serviceOutline runtime service.skeleton) service.texts
      (serviceOutline runtime service) := by
  have htype := (((bare_named runtime.provider).append_code "<? extends " rfl).append_bare
    (bare_named (classOf service.returnType))).append_code "> p = " rfl
  have hprovider := (htype.append (fills_provider runtime service.singleton
    (fills_call service))).append_code ";" rfl
  have hcapture := (((bare_named objectClass).append_code "[] dep = " rfl).append
    (fills_capture runtime service.allDependencies)).append_code ";" rfl
  have hregister := fills_flatMap fun serviceType (_ : serviceType ∈ service.serviceTypes) =>
    fills_registerProvider service.name serviceType
  have hall := ((bare_code "\x7b" rfl).append
    ((hprovider.append hcapture).append hregister)).append_code "\x7d" rfl
  rw [← Service.allDependencies_skeleton, ← List.map_eq_flatMap] at hall
  exact hall

/-! ## Routes -/

theorem fills_rules (rules : List String) :
    Fills (rulesOutline (rules.map fun _ => "")) rules (rulesOutline rules) := by
  have hitems := (fillsAll_map fun rule (_ : rule ∈ rules) => fills_quoted rule).listed
  have hopen := ((bare_code "new " rfl).append_bare (bare_named stringClass)).append_code
    "[]\x7b" rfl
  have hall := (hopen.append hitems).append_code "\x7d" rfl
  rw [← List.map_eq_flatMap, List.map_id'] at hall
  rw [rulesOutline, List.map_map]
  exact hall

theorem bare_interceptors (interceptors : List String) :
    Bare (interceptorOutline runtime interceptors) := by
  unfold interceptorOutline
  split
  · exact (bare_named _).append_code ".emptyArrayProvider()" rfl
  · have hitems := (fillsAll_map fun name (_ : name ∈ interceptors) =>
      bare_class (classOf name)).listed
    have hopen := ((bare_code "() -> new " rfl).append_bare (bare_named classClass)).append_code
      "[]\x7b" rfl
    exact ((hopen.append hitems).append_code "\x7d" rfl).congr (by simp)

theorem bare_launcher (launcher : Option String) : Bare (launcherOutline runtime launcher) := by
  have hstub : Bare (named runtime.builtins ++ code ".stubLauncherProvider()") :=
    (bare_named _).append_code ".stubLauncherProvider()" rfl
  cases launcher with
  | none => exact hstub
  | some name =>
      rw [launcherOutline]
      split
      · exact hstub
      · exact (bare_code "() -> " rfl).append_bare (bare_class _)

theorem fills_route (route : Route) :
    Fills (routeOutline runtime route.skeleton) route.texts (routeOutline runtime route) := by
  have hopen := ((bare_code (registryName ++ ".registerRoutes(") rfl).append_bare
    (bare_named runtime.builtins)).append_code ".routesBean(" rfl
  have htarget := (bare_code "() -> " rfl).append_bare (bare_class (classOf route.className))
  have hitems := FillsAll.cons (fills_quoted route.name) <| .cons (fills_rules route.rules) <|
    .cons (fills_quoted route.routeType) <|
    .cons (fills_attributes runtime route.attributes) <|
    .cons (bare_interceptors runtime route.interceptors) <|
    .cons (bare_launcher runtime route.launcher) <|
    .cons htarget <| .cons (bare_code "this" rfl) fillsAll_nil
  exact ((hopen.append hitems.listed).append_code "));" rfl).congr (by simp [Route.texts])

/-! ## Tasks -/

/-- Two texts for each type: the output and the task. -/
theorem fills_announceAll (taskName : String) (output : Output) :
    Fills (announceAllOutline "" output.skeleton)
      (output.serviceTypes.flatMap fun _ => [output.name, taskName])
      (announceAllOutline taskName output) :=
  fills_flatMap fun serviceType _ =>
    ((((((bare_code (registryName ++ ".registerTaskOutputService(") rfl).append_bare
      (bare_class (classOf serviceType))).append_code ", " rfl).append
      (fills_quoted output.name)).append_code ", this, " rfl).append
      (fills_quoted taskName)).append_code ");" rfl

theorem bare_accessor (accessor : Accessor) : Bare ((accessorTokens accessor).map .token) :=
  bare_of_literals (by cases accessor <;> rfl)

/-- A type is a keyword or a class. -/
theorem bare_type (name : String) : Bare (typeOutline name) := by
  refine bare_of_literals ?_
  unfold typeOutline
  split <;> rfl

theorem fills_publish (outputName holder serviceType : String) :
    Fills (publishOutline "" holder serviceType) [outputName]
      (publishOutline outputName holder serviceType) := by
  have hcall := ((bare_code "task.getOutputs().output(" rfl).append_bare
    (bare_class (classOf serviceType))).append_code ", " rfl
  have hholder := ((bare_code ", " rfl).append_bare (bare_word holder)).append_code ");" rfl
  exact (hcall.append (fills_quoted outputName)).append_bare hholder

theorem fills_publishAll (output : Output) (position : Nat) :
    Fills (publishAllOutline output.skeleton position)
      (output.serviceTypes.map fun _ => output.name) (publishAllOutline output position) := by
  have hvariable := ((bare_code " " rfl).append_bare
    (bare_word (outputVariable position))).append_code " = " rfl
  have hread := (hvariable.append_bare (bare_accessor output.accessor)).append_code ";" rfl
  have hpublish := fills_flatMap fun serviceType (_ : serviceType ∈ output.serviceTypes) =>
    fills_publish output.name (outputVariable position) serviceType
  exact (((bare_type output.returnType).append_bare hread).append hpublish).congr
    List.map_eq_flatMap.symm

/-- Positions number variables, which are no texts, so they are the same with and without the
texts. -/
theorem fills_publishFrom (outputs : List Output) (position : Nat) :
    Fills (publishFromOutline position (outputs.map Output.skeleton))
      (outputs.flatMap fun output => output.serviceTypes.map fun _ => output.name)
      (publishFromOutline position outputs) := by
  induction outputs generalizing position with
  | nil => exact bare_nil
  | cons output rest ih => exact (fills_publishAll output position).append (ih (position + 1))

/-- What the action is given comes before what is published. -/
theorem fills_action (task : Task) :
    Fills (actionOutline task.skeleton)
      (task.parameters.map Dependency.name
        ++ task.outputs.flatMap fun output => output.serviceTypes.map fun _ => output.name)
      (actionOutline task) := by
  have hnew := (((bare_named (classOf task.className)).append_code " action = new " rfl).append_bare
    (bare_named (classOf task.className))).append_code "(" rfl
  have hexecute := (((hnew.append (fills_accesses .taskServices task.parameters).listed).append_code
    ");" rfl).append_code "action.execute(task);" rfl)
  exact (hexecute.append (fills_publishFrom task.outputs 0)).append_code "return null;" rfl

theorem fills_dependsOn (dependencies : List Dependency) :
    Fills
      (dependsOnOutline ((dependencies.map Dependency.skeleton).map (descriptorOutline runtime)))
      (dependencies.map Dependency.name)
      (dependsOnOutline (dependencies.map (descriptorOutline runtime))) := by
  simp only [dependsOnOutline, List.map_eq_nil_iff]
  split
  · next hnil =>
      rw [hnil]
      exact bare_nil
  · have hitems := (fills_descriptors runtime dependencies).listed
    exact ((bare_code ".dependsOn(" rfl).append hitems).append_code ")" rfl

/-- All outlines of a task in their order; the skeleton of the task has the skeletons of the
outputs and of the dependencies. -/
theorem fills_task (task : Task) :
    Fills (taskOutline runtime task.skeleton) task.texts (taskOutline runtime task) := by
  have hannounce := fills_flatMap fun output (_ : output ∈ task.outputs) =>
    fills_announceAll task.name output
  have hregister := ((bare_code (tasksName ++ ".register(") rfl).append
    (fills_quoted task.name)).append_code ", (builder) -> \x7b" rfl
  have hmode := ((bare_code "builder.threadMode(" rfl).append_bare
    (bare_threadMode runtime task.threadMode)).append_code ")" rfl
  have hpriority := ((bare_code ".priority(" rfl).append_bare
    (bare_number task.priority.toInt)).append_code ")" rfl
  have hdepends := fills_dependsOn runtime task.allDependencies
  have hcallback := ((((hpriority.append hdepends).append_code ".doLast((task) -> \x7b" rfl).append
    (fills_action task)).append_code "\x7d);" rfl)
  have hoptions := (hmode.append hcallback).append_code "return null;" rfl
  have hall := ((hannounce.append hregister).append hoptions).append_code "\x7d);" rfl
  rw [← Task.allDependencies_skeleton] at hall
  have hskeleton : task.outputs.flatMap (fun output => announceAllOutline "" output.skeleton)
      = task.skeleton.outputs.flatMap (announceAllOutline "") := by
    simp [Task.skeleton, List.flatMap_map]
  rw [hskeleton] at hall
  exact hall.congr (by simp [Task.texts])

/-! ## The class -/

/-- What a hook waits for is described in both cases; it is the list that differs. -/
theorem fills_hook (hook : Option Task) (withParameters : Bool) :
    Fills (hookOutline runtime (hook.map Task.skeleton) withParameters)
      (hookTexts hook withParameters) (hookOutline runtime hook withParameters) := by
  cases hook with
  | none => exact bare_code "null" rfl
  | some task =>
      let captured := if withParameters then task.allDependencies else task.dependencies
      have hskeleton :
          (if withParameters then task.skeleton.allDependencies else task.skeleton.dependencies)
            = captured.map Dependency.skeleton := by
        cases withParameters with
        | false => rfl
        | true => exact task.allDependencies_skeleton
      have hopen := ((bare_code "new " rfl).append_bare
        (bare_named runtime.moduleTaskOptions)).append_code "(" rfl
      have hitems := FillsAll.cons (fills_quoted task.name) <|
        .cons (bare_number task.priority.toInt) <|
        .cons (bare_threadMode runtime task.threadMode) <| fills_descriptors runtime captured
      have hall := (hopen.append hitems.listed).append_code ")" rfl
      rw [← hskeleton] at hall
      refine hall.congr ?_
      cases withParameters <;> simp [captured, hookTexts, Task.allDependencies]

/-- The only part of the class that has texts of the module as such. -/
theorem fills_constructor (module : Module) (typeName : String) :
    Fills (constructorOutline runtime module.skeleton typeName)
      ([module.name] ++ hookTexts module.onCreate true
        ++ hookTexts module.onPostCreate module.onCreate.isNone
        ++ module.attributes.flatMap Attribute.texts)
      (constructorOutline runtime module typeName) := by
  have hmode : Bare (constantOutline runtime.bootstrapMode module.bootstrapMode) := by
    refine (bare_named _).append_code _ ?_
    cases module.bootstrapMode <;> rfl
  have hopen := ((bare_code "new " rfl).append_bare (bare_named runtime.moduleData)).append_code
    "(" rfl
  have hitems := FillsAll.cons (fills_quoted module.name) <| .cons hmode <|
    .cons (fills_hook runtime module.onCreate true) <|
    .cons (fills_hook runtime module.onPostCreate module.onCreate.isNone) <|
    .cons (fills_attributes runtime module.attributes) fillsAll_nil
  have hdata := (hopen.append hitems.listed).append_code ")" rfl
  have hsignature := ((bare_code "public " rfl).append_bare (bare_word typeName)).append_code
    "() \x7b" rfl
  have hall := (hsignature.append (((bare_code "super(" rfl).append hdata).append_code ");"
    rfl)).append_code "\x7d" rfl
  -- The second hook asks whether the first is there, which its texts do not change.
  have hfirst : module.skeleton.onCreate.isNone = module.onCreate.isNone := Option.isNone_map
  rw [constructorOutline, dataOutline, hfirst]
  exact hall.congr (by simp)

/-- A method has the texts of its statements. -/
theorem fills_overriding {signature blank body : Outline} {texts : List String}
    (hsignature : Bare signature) (hbody : Fills blank texts body) :
    Fills (overridingOutline signature blank) texts (overridingOutline signature body) := by
  have hopen := ((bare_code "@" rfl).append_bare (bare_named overrideAnnotation)).append_bare
    (((bare_code "public " rfl).append_bare hsignature).append_code " \x7b" rfl)
  exact (hopen.append hbody).append_code "\x7d" rfl

theorem fills_activator {module : Module} (h : module.WellNamed) :
    Fills ((activatorOf runtime module).elim [] (activatorOutline runtime module.skeleton))
      (if replacesActivator runtime module then
        ((module.onCreate.map Task.parameters).getD []).map Dependency.name
      else [])
      ((activatorOf runtime module).elim [] (activatorOutline runtime module)) := by
  rw [← activatorOf_isSome h]
  cases activatorOf runtime module with
  | none => exact bare_nil
  | some activator =>
      have hname := (bare_named runtime.moduleActivator).append_code " createActivator(" rfl
      have hsignature := (hname.append_bare (bare_named runtime.serviceCentral)).append_code
        (" " ++ centralName ++ ")") rfl
      have hnew := ((bare_code "return new " rfl).append_bare (bare_named activator)).append_code
        "(" rfl
      have hparameters : (module.skeleton.onCreate.map Task.parameters).getD []
          = ((module.onCreate.map Task.parameters).getD []).map Dependency.skeleton := by
        simp only [Module.skeleton]
        cases module.onCreate <;> rfl
      have hbody := (hnew.append (fills_accesses .central
        ((module.onCreate.map Task.parameters).getD [])).listed).append_code ");" rfl
      have hall := fills_overriding hsignature hbody
      rw [← hparameters] at hall
      exact hall

theorem fills_serviceSection (module : Module) :
    Fills (serviceSectionOutline runtime module.skeleton) (module.services.flatMap Service.texts)
      (serviceSectionOutline runtime module) := by
  have hnil : module.skeleton.services = [] ↔ module.services = [] := List.map_eq_nil_iff
  simp only [serviceSectionOutline, hnil]
  split
  · next hnone =>
      rw [hnone]
      exact bare_nil
  · have hcentral := (bare_named runtime.serviceCentral).append_code
      (" " ++ centralName ++ " = " ++ registryName ++ ".deferred();") rfl
    have hservices := fills_flatMap fun service (_ : service ∈ module.services) =>
      fills_service runtime service
    rw [← List.flatMap_map] at hservices
    exact hcentral.append hservices

theorem fills_registrations (module : Module) :
    Fills (registrationsOutline runtime module.skeleton)
      (module.services.flatMap Service.texts ++ module.routes.flatMap Route.texts
        ++ module.tasks.flatMap Task.texts)
      (registrationsOutline runtime module) := by
  have hroutes := fills_flatMap fun route (_ : route ∈ module.routes) =>
    fills_route runtime route
  have htasks := fills_flatMap fun task (_ : task ∈ module.tasks) =>
    fills_task runtime task
  rw [← List.flatMap_map] at hroutes htasks
  exact ((fills_serviceSection runtime module).append hroutes).append htasks

/-- Where nothing is registered, there is no method and there are no texts for it. -/
theorem fills_register (module : Module) :
    Fills (if module.skeleton.hasRegistrations then registerOutline runtime module.skeleton else [])
      (module.services.flatMap Service.texts ++ module.routes.flatMap Route.texts
        ++ module.tasks.flatMap Task.texts)
      (if module.hasRegistrations then registerOutline runtime module else []) := by
  have hskeleton : module.skeleton.hasRegistrations = module.hasRegistrations := by
    simp [Module.skeleton, Module.hasRegistrations]
  rw [hskeleton]
  split
  · have hfirst := ((bare_code "void onRegister(" rfl).append_bare
      (bare_named runtime.registry)).append_code (" " ++ registryName ++ ", ") rfl
    have hsignature := (hfirst.append_bare (bare_named runtime.taskContainer)).append_code
      (" " ++ tasksName ++ ")") rfl
    exact fills_overriding hsignature (fills_registrations runtime module)
  · next hnone =>
      simp only [Module.hasRegistrations, Bool.not_eq_true, Bool.not_eq_false', Bool.and_eq_true,
        List.isEmpty_iff] at hnone
      obtain ⟨⟨hroutes, hservices⟩, htasks⟩ := hnone
      rw [hroutes, hservices, htasks]
      exact bare_nil

/-- The class of a module is the class of its skeleton, with the texts of the module in
the literals. -/
theorem fills_body {module : Module} (h : module.WellNamed) (typeName : String) :
    Fills (bodyOutline runtime module.skeleton typeName) (moduleTexts runtime module)
      (bodyOutline runtime module typeName) := by
  have hname := ((bare_code "public class " rfl).append_bare (bare_word typeName)).append_code
    " extends " rfl
  have hsignature := (hname.append_bare (bare_named runtime.moduleContainer)).append_code " \x7b"
    rfl
  have hmembers := ((fills_constructor runtime module typeName).append
    (fills_activator runtime h)).append (fills_register runtime module)
  exact ((hsignature.append hmembers).append_code "\x7d" rfl).congr (by simp [moduleTexts])

end ModuleContainers.Container
