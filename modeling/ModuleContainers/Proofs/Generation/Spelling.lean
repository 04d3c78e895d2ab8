import ModuleContainers.Proofs.Container.Completeness

/-!
# How a class is spelled in the metadata

A class has many names: blanks around a name do not count, and nested classes are
set off by dots or by dollar signs. Two modules that name the same classes by
different names, and are the same otherwise, are respellings of each other. What is
generated from a module that is good is generated from each of its respellings
(`generate_respelled`).

Checks and emitters read a name before they do anything else with it, and two names
of one class are read as the same (`SameClass.classNamed`). So for each of them
there is one lemma: it gives the same for a respelled entry. Only the entrance class
is different, because failures cite it as it is written.
-/

namespace ModuleContainers.Metadata

open ModuleContainers (Failure classNamed typeNamed)
open ModuleContainers.Java (ClassName TypeName)
open Outcome (mapM_congr)

/-! ## Respelled metadata -/

/-- One name, or two names that are read as the same class. A name that is read as no class is
only like itself, since failures cite it. -/
def SameClass (name other : String) : Prop :=
  name = other ∨ ∃ c, ClassName.parse name = .ok c ∧ ClassName.parse other = .ok c

/-- One name, or two names that are read as the same type. -/
def SameType (name other : String) : Prop :=
  name = other ∨ ∃ t, TypeName.parse name = .ok t ∧ TypeName.parse other = .ok t

/-- Both readings succeed with the same thing. -/
def readAlike {ε α : Type} [DecidableEq α] : Except ε α → Except ε α → Bool
  | .ok a, .ok b => a = b
  | _, _ => false

theorem readAlike_iff {ε α : Type} [DecidableEq α] {x y : Except ε α} :
    readAlike x y = true ↔ ∃ a, x = .ok a ∧ y = .ok a := by
  cases x <;> cases y <;> simp [readAlike, eq_comm]

instance (name other : String) : Decidable (SameClass name other) :=
  decidable_of_iff (name = other ∨ readAlike (ClassName.parse name) (ClassName.parse other) = true)
    (or_congr Iff.rfl readAlike_iff)

instance (name other : String) : Decidable (SameType name other) :=
  decidable_of_iff (name = other ∨ readAlike (TypeName.parse name) (TypeName.parse other) = true)
    (or_congr Iff.rfl readAlike_iff)

/-- The service is described by a class of the same name or by another name of it; all else
agrees. The relations of the other kinds of metadata are of this form. -/
structure ServiceDependency.Respelled (needed other : ServiceDependency) : Prop where
  className : SameClass needed.className other.className
  serviceName : other.serviceName = needed.serviceName
  kind : other.kind = needed.kind
  optional : other.optional = needed.optional

inductive Dependency.Respelled : Dependency → Dependency → Prop where
  | task (name : String) : Respelled (.task name) (.task name)
  | service {needed other : ServiceDependency} (h : needed.Respelled other) :
      Respelled (.service needed) (.service other)

/-- Lists are compared item by item, so nothing may be added or left out. -/
structure Service.Respelled (service other : Service) : Prop where
  name : other.name = service.name
  returnType : SameClass service.returnType other.returnType
  sourceClass : SameClass service.sourceClass other.sourceClass
  factory : other.factory = service.factory
  parameters : List.Forall₂ Dependency.Respelled service.parameters other.parameters
  dependencies : List.Forall₂ Dependency.Respelled service.dependencies other.dependencies
  singleton : other.singleton = service.singleton
  serviceTypes : List.Forall₂ SameClass service.serviceTypes other.serviceTypes
  description : other.description = service.description

structure Output.Respelled (output other : Output) : Prop where
  name : other.name = output.name
  returnType : SameType output.returnType other.returnType
  accessor : other.accessor = output.accessor
  serviceTypes : List.Forall₂ SameClass output.serviceTypes other.serviceTypes

structure Task.Respelled (task other : Task) : Prop where
  name : other.name = task.name
  priority : other.priority = task.priority
  threadMode : other.threadMode = task.threadMode
  className : SameClass task.className other.className
  parameters : List.Forall₂ Dependency.Respelled task.parameters other.parameters
  dependencies : List.Forall₂ Dependency.Respelled task.dependencies other.dependencies
  outputs : List.Forall₂ Output.Respelled task.outputs other.outputs

structure Route.Respelled (route other : Route) : Prop where
  name : other.name = route.name
  rules : other.rules = route.rules
  routeType : other.routeType = route.routeType
  attributes : other.attributes = route.attributes
  interceptors : List.Forall₂ SameClass route.interceptors other.interceptors
  launcher : Option.Rel SameClass route.launcher other.launcher
  className : SameClass route.className other.className
  description : other.description = route.description

/-- The modules name the same classes, by whatever names, and are the same
otherwise. The entrance class may only differ in the blanks around it. -/
structure Module.Respelled (module other : Module) : Prop where
  name : other.name = module.name
  entranceClass : Text.trim module.entranceClass = Text.trim other.entranceClass
  bootstrapMode : other.bootstrapMode = module.bootstrapMode
  description : other.description = module.description
  activatorClass : Option.Rel SameClass module.activatorClass other.activatorClass
  onCreate : Option.Rel Task.Respelled module.onCreate other.onCreate
  onPostCreate : Option.Rel Task.Respelled module.onPostCreate other.onPostCreate
  attributes : other.attributes = module.attributes
  routes : List.Forall₂ Route.Respelled module.routes other.routes
  services : List.Forall₂ Service.Respelled module.services other.services
  tasks : List.Forall₂ Task.Respelled module.tasks other.tasks

/-! ## Names -/

/-- Reading is the first that happens to a name, so what happens later is the same. -/
theorem SameClass.classNamed {name other : String} (h : SameClass name other) :
    classNamed other = classNamed name := by
  obtain rfl | ⟨c, hname, hother⟩ := h
  · rfl
  · rw [ModuleContainers.classNamed, ModuleContainers.classNamed, hname, hother]

theorem SameType.typeNamed {name other : String} (h : SameType name other) :
    typeNamed other = typeNamed name := by
  obtain rfl | ⟨t, hname, hother⟩ := h
  · rfl
  · rw [ModuleContainers.typeNamed, ModuleContainers.typeNamed, hname, hother]

/-! ## Lists -/

section Lists

variable {α β : Type} {R : α → α → Prop} {xs ys : List α}

/-- What gives the same for two items gives the same for two lists of them. -/
theorem mapM_respelled {f g : α → Except Failure β} (h : List.Forall₂ R xs ys)
    (hstep : ∀ x y, R x y → g y = f x) : ys.mapM g = xs.mapM f :=
  mapM_congr (h.flip.imp fun y x hxy => hstep x y hxy)

/-- Checks stop at the first failure, which is the same one. -/
theorem checkAll_respelled {check check' : α → Except Failure Unit} (h : List.Forall₂ R xs ys)
    (hstep : ∀ x y, R x y → check' y = check x) :
    Module.checkAll check' ys = Module.checkAll check xs := by
  induction h with
  | nil => rfl
  | cons hxy _ ih => rw [Module.checkAll, Module.checkAll, hstep _ _ hxy, ih]

theorem eq_nil_respelled (h : List.Forall₂ R xs ys) : ys = [] ↔ xs = [] := by
  cases h <;> simp

end Lists

theorem forall₂_toList {α : Type} {R : α → α → Prop} {x y : Option α} (h : Option.Rel R x y) :
    List.Forall₂ R x.toList y.toList := by
  cases h with
  | none => exact .nil
  | some hxy => exact .cons hxy .nil

theorem Service.Respelled.allDependencies {service other : Service} (h : service.Respelled other) :
    List.Forall₂ Dependency.Respelled service.allDependencies other.allDependencies :=
  List.rel_append h.dependencies h.parameters

theorem Task.Respelled.allDependencies {task other : Task} (h : task.Respelled other) :
    List.Forall₂ Dependency.Respelled task.allDependencies other.allDependencies :=
  List.rel_append h.dependencies h.parameters

end ModuleContainers.Metadata

/-! ## Emitters -/

namespace ModuleContainers.Container

open ModuleContainers.Java (ClassName)
open ModuleContainers.Metadata (Dependency Module Output Route SameClass Service Task
  eq_nil_respelled mapM_respelled)

variable (runtime : Runtime ClassName)

theorem access_respelled (point : AccessPoint) {dependency other : Dependency}
    (h : dependency.Respelled other) : access point other = access point dependency := by
  cases h with
  | task name => rfl
  | service h => simp only [access, h.className.classNamed, h.kind, h.serviceName]

theorem descriptor_respelled {dependency other : Dependency} (h : dependency.Respelled other) :
    descriptor runtime other = descriptor runtime dependency := by
  cases h with
  | task name => rfl
  | service h => simp only [descriptor, h.className.classNamed, h.optional, h.serviceName]

theorem accesses_respelled (point : AccessPoint) {dependencies others : List Dependency}
    (h : List.Forall₂ Dependency.Respelled dependencies others) :
    others.mapM (access point) = dependencies.mapM (access point) :=
  mapM_respelled h fun _ _ hd => access_respelled point hd

theorem descriptors_respelled {dependencies others : List Dependency}
    (h : List.Forall₂ Dependency.Respelled dependencies others) :
    others.mapM (descriptor runtime) = dependencies.mapM (descriptor runtime) :=
  mapM_respelled h fun _ _ hd => descriptor_respelled runtime hd

/-- An emitter is its readings and what it puts around their results, so rewriting the readings
is enough. -/
theorem serviceBlock_respelled {service other : Service} (h : service.Respelled other) :
    serviceBlock runtime other = serviceBlock runtime service := by
  have hregister : other.serviceTypes.mapM (registerProvider service.name)
      = service.serviceTypes.mapM (registerProvider service.name) :=
    mapM_respelled h.serviceTypes fun _ _ htype => by
      simp only [registerProvider, htype.classNamed]
  simp only [serviceBlock, h.returnType.classNamed, h.sourceClass.classNamed,
    accesses_respelled _ h.parameters, h.factory, descriptors_respelled _ h.allDependencies, h.name,
    hregister, h.description, h.singleton]

/-- Whether there are interceptors is asked first, of the list and not of the classes. -/
theorem interceptorProvider_respelled {interceptors others : List String}
    (h : List.Forall₂ SameClass interceptors others) :
    interceptorProvider runtime others = interceptorProvider runtime interceptors := by
  have htargets : others.mapM classNamed = interceptors.mapM classNamed :=
    mapM_respelled h fun _ _ hname => hname.classNamed
  simp only [interceptorProvider, eq_nil_respelled h, htargets]

theorem launcherProvider_respelled {launcher other : Option String}
    (h : Option.Rel SameClass launcher other) :
    launcherProvider runtime other = launcherProvider runtime launcher := by
  cases h with
  | none => rfl
  | some hname => simp only [launcherProvider, hname.classNamed]

theorem routeStatement_respelled {route other : Route} (h : route.Respelled other) :
    routeStatement runtime other = routeStatement runtime route := by
  simp only [routeStatement, h.className.classNamed, interceptorProvider_respelled _ h.interceptors,
    launcherProvider_respelled _ h.launcher, h.name, h.rules, h.routeType, h.attributes,
    h.description]

theorem announceOutputs_respelled (taskName : String) {output other : Output}
    (h : output.Respelled other) :
    announceOutputs taskName other = announceOutputs taskName output := by
  have hstatements : other.serviceTypes.mapM (announceOutput taskName output.name)
      = output.serviceTypes.mapM (announceOutput taskName output.name) :=
    mapM_respelled h.serviceTypes fun _ _ htype => by simp only [announceOutput, htype.classNamed]
  simp only [announceOutputs, h.name, hstatements]

theorem publishOutputs_respelled {output other : Output} (h : output.Respelled other)
    (position : Nat) : publishOutputs other position = publishOutputs output position := by
  have hstatements : ∀ holder, other.serviceTypes.mapM (publishOutput output.name holder)
      = output.serviceTypes.mapM (publishOutput output.name holder) := fun holder =>
    mapM_respelled h.serviceTypes fun _ _ htype => by simp only [publishOutput, htype.classNamed]
  simp only [publishOutputs, h.accessor, h.returnType.typeNamed, h.name, hstatements]

theorem publishFrom_respelled {outputs others : List Output}
    (h : List.Forall₂ Output.Respelled outputs others) (position : Nat) :
    publishFrom position others = publishFrom position outputs := by
  induction h generalizing position with
  | nil => rfl
  | cons houtput _ ih => rw [publishFrom, publishFrom, publishOutputs_respelled houtput, ih]

theorem taskStatements_respelled {task other : Task} (h : task.Respelled other) :
    taskStatements runtime other = taskStatements runtime task := by
  have hannouncements : other.outputs.mapM (announceOutputs task.name)
      = task.outputs.mapM (announceOutputs task.name) :=
    mapM_respelled h.outputs fun _ _ houtput => announceOutputs_respelled task.name houtput
  simp only [taskStatements, h.className.classNamed, h.name, hannouncements,
    descriptors_respelled _ h.allDependencies, accesses_respelled _ h.parameters,
    publishFrom_respelled h.outputs, h.threadMode, h.priority]

/-- The list of dependencies depends on a flag that is not spelled. -/
theorem hookOptions_respelled {hook other : Option Task} (h : Option.Rel Task.Respelled hook other)
    (withParameters : Bool) :
    hookOptions runtime other withParameters = hookOptions runtime hook withParameters := by
  cases h with
  | none => rfl
  | @some task other h =>
      have hdependencies : List.Forall₂ Dependency.Respelled
          (if withParameters then task.allDependencies else task.dependencies)
          (if withParameters then other.allDependencies else other.dependencies) := by
        split
        · exact h.allDependencies
        · exact h.dependencies
      simp only [hookOptions, descriptors_respelled runtime hdependencies, h.name, h.priority,
        h.threadMode]

section Class

variable {module other : Module} (h : module.Respelled other)

include h

/-- The parts are cut out of the name without the blanks around it, which is all that the names
have in common. -/
theorem entranceParts_respelled : other.entranceParts = module.entranceParts := by
  have htrimmed := String.ofList_injective h.entranceClass
  rw [Module.entranceParts, Module.entranceParts, htrimmed]

theorem hasRegistrations_respelled : other.hasRegistrations = module.hasRegistrations := by
  have hempty : ∀ {α : Type} {R : α → α → Prop} {xs ys : List α}, List.Forall₂ R xs ys →
      ys.isEmpty = xs.isEmpty := by
    intro α R xs ys hlist
    cases hlist <;> rfl
  simp only [Module.hasRegistrations, hempty h.routes, hempty h.services, hempty h.tasks]

theorem constructorMember_respelled (typeName : String) :
    constructorMember runtime other typeName = constructorMember runtime module typeName := by
  have hnone : ∀ {hook other : Option Task}, Option.Rel Task.Respelled hook other →
      other.isNone = hook.isNone := by
    rintro _ _ (_ | _) <;> rfl
  simp only [constructorMember, hookOptions_respelled runtime h.onCreate,
    hookOptions_respelled runtime h.onPostCreate, hnone h.onCreate, h.name, h.bootstrapMode,
    h.attributes]

/-- The activator is compared with the default one as a class, not as a name. -/
theorem customActivator_respelled :
    customActivator runtime other = customActivator runtime module := by
  have hactivator := h.activatorClass
  unfold customActivator
  -- The relation is on fields of variables, so these are named before the cases.
  generalize module.activatorClass = name, other.activatorClass = spelled at hactivator ⊢
  cases hactivator with
  | none => rfl
  | some hname => simp only [hname.classNamed]

theorem activatorMember_respelled (activator : ClassName) :
    activatorMember runtime other activator = activatorMember runtime module activator := by
  have hhook := h.onCreate
  unfold activatorMember
  generalize module.onCreate = hook, other.onCreate = spelled at hhook ⊢
  cases hhook with
  | none => rfl
  | some hhook => simp only [accesses_respelled .central hhook.parameters]

theorem registerMember_respelled :
    registerMember runtime other = registerMember runtime module := by
  have hblocks : other.services.mapM (serviceBlock runtime)
      = module.services.mapM (serviceBlock runtime) :=
    mapM_respelled h.services fun _ _ hservice => serviceBlock_respelled runtime hservice
  have hroutes : other.routes.mapM (routeStatement runtime)
      = module.routes.mapM (routeStatement runtime) :=
    mapM_respelled h.routes fun _ _ hroute => routeStatement_respelled runtime hroute
  have htasks : other.tasks.mapM (taskStatements runtime)
      = module.tasks.mapM (taskStatements runtime) :=
    mapM_respelled h.tasks fun _ _ htask => taskStatements_respelled runtime htask
  simp only [registerMember, serviceSection, eq_nil_respelled h.services, hblocks, hroutes, htasks]

theorem members_respelled (typeName : String) :
    members runtime other typeName = members runtime module typeName := by
  simp only [members, constructorMember_respelled runtime h, customActivator_respelled runtime h,
    activatorMember_respelled runtime h, hasRegistrations_respelled h,
    registerMember_respelled runtime h]

/-- The comment cites no class. -/
theorem javadoc_respelled (banner : String) : javadoc banner other = javadoc banner module := by
  simp only [javadoc, javadocTexts, h.name, h.bootstrapMode, h.description]

end Class

end ModuleContainers.Container

/-! ## Checks -/

namespace ModuleContainers.Metadata.Module

open ModuleContainers (Failure)
open ModuleContainers.Container (entranceParts_respelled)
open ModuleContainers.Java (ClassName)
open Outcome (check_eq_ok)

theorem checkClass_respelled {name other : String} (h : SameClass name other) :
    checkClass other = checkClass name := by
  rw [checkClass, checkClass, h.classNamed]

/-- Only the services among the dependencies have classes to check, and both lists have services
in the same places. -/
theorem checkDependencies_respelled {dependencies others : List Dependency}
    (h : List.Forall₂ Dependency.Respelled dependencies others) :
    checkDependencies others = checkDependencies dependencies := by
  unfold checkDependencies
  refine checkAll_respelled (R := SameClass) ?_ fun _ _ hname => checkClass_respelled hname
  induction h with
  | nil => exact .nil
  | cons hd _ ih =>
      cases hd with
      | task name => exact ih
      | service hneeded => exact .cons hneeded.className ih

theorem checkServiceClasses_respelled {service other : Service} (h : service.Respelled other) :
    checkServiceClasses other = checkServiceClasses service := by
  simp only [checkServiceClasses, checkClass_respelled h.returnType,
    checkClass_respelled h.sourceClass,
    checkAll_respelled h.serviceTypes fun _ _ => checkClass_respelled,
    checkDependencies_respelled h.allDependencies]

theorem checkRouteClasses_respelled {route other : Route} (h : route.Respelled other) :
    checkRouteClasses other = checkRouteClasses route := by
  have hlauncher : List.Forall₂ SameClass route.launcher.toList other.launcher.toList :=
    forall₂_toList h.launcher
  simp only [checkRouteClasses, checkClass_respelled h.className,
    checkAll_respelled h.interceptors fun _ _ => checkClass_respelled,
    checkAll_respelled hlauncher fun _ _ => checkClass_respelled]

theorem checkOutputClasses_respelled {output other : Output} (h : output.Respelled other) :
    checkOutputClasses other = checkOutputClasses output := by
  simp only [checkOutputClasses, h.returnType.typeNamed,
    checkAll_respelled h.serviceTypes fun _ _ => checkClass_respelled]

theorem checkTaskClasses_respelled {task other : Task} (h : task.Respelled other) :
    checkTaskClasses other = checkTaskClasses task := by
  simp only [checkTaskClasses, checkClass_respelled h.className,
    checkDependencies_respelled h.allDependencies,
    checkAll_respelled h.outputs fun _ _ => checkOutputClasses_respelled]

section Module

variable {module other : Module} (h : module.Respelled other)

include h

/-- Hooks are optional and tasks are a list; together they are one list. -/
theorem Respelled.hooksAndTasks :
    List.Forall₂ Task.Respelled module.hooksAndTasks other.hooksAndTasks :=
  List.rel_append (List.rel_append (forall₂_toList h.onCreate) (forall₂_toList h.onPostCreate))
    h.tasks

theorem checkTaskNames_respelled : checkTaskNames other = checkTaskNames module := by
  have hnames : other.tasks.map Task.name = module.tasks.map Task.name := by
    have hsame := h.tasks
    generalize module.tasks = tasks, other.tasks = others at hsame
    induction hsame with
    | nil => rfl
    | cons htask _ ih => rw [List.map_cons, List.map_cons, htask.name, ih]
  simp only [checkTaskNames, hnames, h.name]

/-- Failures cite the module and the owner of the types, which have the same names. -/
theorem checkServiceTypes_respelled : checkServiceTypes other = checkServiceTypes module := by
  have htypes : ∀ {serviceTypes others : List String}, List.Forall₂ SameClass serviceTypes others →
      ∀ owner, checkTypesOf other owner others = checkTypesOf module owner serviceTypes := by
    intro serviceTypes others hsame owner
    simp only [checkTypesOf, eq_nil_respelled hsame, h.name]
  simp only [checkServiceTypes]
  congr 1
  · refine checkAll_respelled h.services fun service spelled hservice => ?_
    rw [hservice.name, htypes hservice.serviceTypes]
  · funext _
    refine checkAll_respelled h.hooksAndTasks fun task spelled htask => ?_
    refine checkAll_respelled htask.outputs fun output spelledOutput houtput => ?_
    rw [houtput.name, htask.name, htypes houtput.serviceTypes]

theorem checkClasses_respelled : checkClasses other = checkClasses module := by
  simp only [checkClasses,
    checkAll_respelled (forall₂_toList h.activatorClass) fun _ _ => checkClass_respelled,
    checkAll_respelled h.services fun _ _ => checkServiceClasses_respelled,
    checkAll_respelled h.routes fun _ _ => checkRouteClasses_respelled,
    checkAll_respelled h.hooksAndTasks fun _ _ => checkTaskClasses_respelled]

theorem checkMembers_respelled : checkMembers other = checkMembers module := by
  simp only [checkMembers]
  congr 1
  · refine checkAll_respelled h.services fun service spelled hservice => ?_
    simp only [checkFactory, hservice.factory, hservice.name, h.name]
  · funext _
    refine checkAll_respelled h.hooksAndTasks fun task spelled htask => ?_
    refine checkAll_respelled htask.outputs fun output spelledOutput houtput => ?_
    simp only [checkAccessor, houtput.accessor, houtput.name, htask.name, h.name]

end Module

/-- A name is read without the blanks around it. -/
theorem namesClass_trim {name other : String} (htrim : Text.trim name = Text.trim other)
    (h : NamesClass name) : NamesClass other := by
  obtain ⟨c, hc⟩ := h
  have hread := ClassName.parse_eq_ok.mp (parse_of_mapError hc)
  rw [String.ofList_injective htrim] at hread
  exact ⟨c, by rw [classNamed, ClassName.parse_eq_ok.mpr hread]; rfl⟩

theorem HasEntrance.respelled {module other : Module} (hentrance : module.HasEntrance)
    (h : module.Respelled other) : other.HasEntrance := by
  obtain ⟨package, name, hparts, hpackage, hname, hclass⟩ := hentrance
  exact ⟨package, name, (entranceParts_respelled h).trans hparts, hpackage, hname,
    namesClass_trim h.entranceClass hclass⟩

/-- A respelling of a good module is good. -/
theorem validate_respelled {module other : Module} (hvalid : module.validate = .ok ())
    (h : module.Respelled other) : other.validate = .ok () := by
  simp only [validate, check_eq_ok, checkEntranceClass_eq_ok] at hvalid ⊢
  obtain ⟨hname, hentrance, htasks, htypes, hclasses, hmembers⟩ := hvalid
  refine ⟨?_, hentrance.respelled h, (checkTaskNames_respelled h).trans htasks,
    (checkServiceTypes_respelled h).trans htypes, (checkClasses_respelled h).trans hclasses,
    (checkMembers_respelled h).trans hmembers⟩
  -- The failure of this check would cite the entrance class, so only its success carries over.
  have hblank : Text.isBlankText module.name = false := by
    cases hblank : Text.isBlankText module.name with
    | false => rfl
    | true => simp [checkName, hblank] at hname
  simp [checkName, h.name, hblank]

end ModuleContainers.Metadata.Module

/-! ## Generation -/

namespace ModuleContainers

open ModuleContainers.Java (ClassName)
open ModuleContainers.Metadata (Module SameClass)

/-- The emitter would cite the whole name in a failure, so it has to be known that there is
none. -/
theorem Container.entrance_respelled {module other : Module} (hentrance : module.HasEntrance)
    (h : module.Respelled other) : entrance other = entrance module := by
  have hread : ∀ {module : Module}, module.HasEntrance →
      ∃ parts, entrance module = .ok parts ∧ module.entranceParts = some parts := by
    rintro module ⟨package, name, hparts, hpackage, hname, target, htarget⟩
    exact ⟨(package, name), by simp [entrance, hparts, hpackage, hname, htarget, Except.map],
      hparts⟩
  obtain ⟨parts, hmodule, hparts⟩ := hread hentrance
  obtain ⟨parts', hother, hparts'⟩ := hread (hentrance.respelled h)
  rw [entranceParts_respelled h, hparts] at hparts'
  rw [hmodule, hother, Option.some.inj hparts']

/-- The same package, type, members and comment are the same file. -/
theorem Container.unit_respelled (runtime : Runtime ClassName) (banner : String)
    {module other : Module} (hentrance : module.HasEntrance) (h : module.Respelled other) :
    unit runtime banner other = unit runtime banner module := by
  simp only [unit, entrance_respelled hentrance h, members_respelled runtime h,
    javadoc_respelled h]

/-- A respelling of a good module is good, and the same is generated from it. -/
theorem generate_respelled (configuration : Configuration) {module other : Module}
    (hvalid : module.validate = .ok ()) (h : module.Respelled other) :
    other.validate = .ok ()
      ∧ generate configuration other = generate configuration module
      ∧ ((∃ runtime, configuration.resolve = .ok runtime) →
          ∃ file, generate configuration other = .ok file) := by
  have hvalid' := Module.validate_respelled hvalid h
  have hentrance := (Module.wellNamed_of_validate hvalid).entrance
  refine ⟨hvalid', ?_, fun ⟨runtime, hresolve⟩ => ?_⟩
  · simp only [generate, renderModule, hvalid, hvalid',
      Container.unit_respelled _ _ hentrance h]
  · obtain ⟨unit, hunit⟩ := Container.unit_succeeds runtime
      (Module.wellNamed_of_validate hvalid') configuration.banner
    exact ⟨_, by
      rw [generate, hresolve]
      simp only [bind, Except.bind, renderModule, hvalid', hunit]
      rfl⟩

/-- The sample with an activator that is nested in another class. -/
def nestedActivator : Module :=
  { Module.sample with activatorClass := some "com.example.Activators$Polite" }

/-- The same module with its classes named by other names. -/
def respelledActivator : Module :=
  { nestedActivator with
    entranceClass := "\tcom.example.GreeterModule\n"
    activatorClass := some "com.example.Activators.Polite"
    onCreate := some
      { name := "setup", className := " com.example.Setup",
        parameters := [.service { className := "com.example.Log ", serviceName := "log" }] }
    tasks :=
      [{ name := "warm-up", className := "com.example.WarmUp\u00a0",
         outputs :=
           [{ name := "size", returnType := " int ", accessor := .field "size",
              serviceTypes := ["\ncom.example.Size"] }] }] }

/-- Blanks, a tab and line breaks around names, and a dot for a dollar sign. -/
theorem respelled_nestedActivator : nestedActivator.Respelled respelledActivator where
  name := rfl
  entranceClass := by decide
  bootstrapMode := rfl
  description := rfl
  activatorClass := .some (by decide +kernel)
  onCreate := .some ⟨rfl, rfl, rfl, by decide +kernel,
    .cons (.service ⟨by decide +kernel, rfl, rfl, rfl⟩) .nil, .nil, .nil⟩
  onPostCreate := .none
  attributes := rfl
  routes := .cons ⟨rfl, rfl, rfl, rfl, .cons (.inl rfl) .nil, .none, .inl rfl, rfl⟩ .nil
  services := .cons ⟨rfl, .inl rfl, .inl rfl, rfl, .nil, .cons (.task _) .nil, rfl,
    .cons (.inl rfl) .nil, rfl⟩ .nil
  tasks := .cons ⟨rfl, rfl, rfl, by decide +kernel, .nil, .nil,
    .cons ⟨rfl, by decide +kernel, rfl, .cons (by decide +kernel) .nil⟩ .nil⟩ .nil

/-- One file is generated, by whatever names the classes are named. -/
theorem generate_respelled_activator :
    nestedActivator.validate = .ok () ∧ nestedActivator.Respelled respelledActivator
      ∧ respelledActivator.validate = .ok ()
      ∧ generate .standard respelledActivator = generate .standard nestedActivator
      ∧ ∃ file, generate .standard respelledActivator = .ok file := by
  have hvalid : nestedActivator.validate = .ok () := by decide +kernel
  obtain ⟨hvalid', hsame, hfile⟩ :=
    generate_respelled .standard hvalid respelled_nestedActivator
  exact ⟨hvalid, respelled_nestedActivator, hvalid', hsame,
    hfile Configuration.standard_resolves⟩

end ModuleContainers
