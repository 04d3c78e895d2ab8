import ModuleContainers.Generation
import ModuleContainers.Proofs.Configuration
import ModuleContainers.Proofs.Validation

/-!
# Nothing fails behind the validation

Emitters read every name again: each of them reports a name that is none. The checks of a
module and the emitters are separate walks over the metadata, and a reference that only the
emitters follow would be reported while a class is being emitted. There is none: from a
well-named module every emitter succeeds, whatever the classes of the runtime are
(`unit_succeeds`), so a generation fails exactly where the configuration or the validation
does (`generate_eq_error`).

One lemma for each emitter, in the order in which they build on one another. What an emitter
needs is a field of the structure that says its metadata is well named, and where it emits a
list, all the items succeed (`mapM_succeeds`).
-/

namespace ModuleContainers.Container

open ModuleContainers.Java (ClassName isIdentifier)
open ModuleContainers.Metadata (Accessor Dependency Factory Module NamesClass Output Route Service
  Task)
open Outcome (mapM_succeeds)

variable (runtime : Runtime ClassName)

/-! ## Dependencies -/

theorem access_succeeds (point : AccessPoint) {dependency : Dependency}
    (h : dependency.WellNamed) : ∃ f, access point dependency = .ok f := by
  cases dependency with
  | task name => exact ⟨_, rfl⟩
  | service needed =>
      obtain ⟨target, htarget⟩ := h needed.className rfl
      exact ⟨_, by rw [access, htarget]; rfl⟩

theorem descriptor_succeeds {dependency : Dependency} (h : dependency.WellNamed) :
    ∃ f, descriptor runtime dependency = .ok f := by
  cases dependency with
  | task name => exact ⟨_, rfl⟩
  | service needed =>
      obtain ⟨target, htarget⟩ := h needed.className rfl
      exact ⟨_, by rw [descriptor, htarget]; rfl⟩

/-- Parameters are checked with the dependencies, as a part of them. -/
theorem parameter_mem_service {service : Service} {dependency : Dependency}
    (h : dependency ∈ service.parameters) : dependency ∈ service.allDependencies :=
  List.mem_append_right _ h

theorem parameter_mem_task {task : Task} {dependency : Dependency}
    (h : dependency ∈ task.parameters) : dependency ∈ task.allDependencies :=
  List.mem_append_right _ h

/-! ## Services -/

/-- The check of the emitter is that of the validation, with a role for its message. -/
theorem factoryCall_succeeds (source : ClassName) {factory : Factory}
    (h : ∀ name, factory = .staticMethod name → isIdentifier name = true) :
    ∃ f, factoryCall source factory = .ok f := by
  cases factory with
  | constructor => exact ⟨_, rfl⟩
  | staticMethod name =>
      have hcheck : checkMemberName name "factory method" = .ok () := if_pos (h name rfl)
      exact ⟨_, by rw [factoryCall, hcheck]; rfl⟩

theorem registerProvider_succeeds (serviceName : String) {serviceType : String}
    (h : NamesClass serviceType) : ∃ f, registerProvider serviceName serviceType = .ok f := by
  obtain ⟨target, htarget⟩ := h
  exact ⟨_, by rw [registerProvider, htarget]; rfl⟩

theorem serviceBlock_succeeds {service : Service} (h : service.WellNamed) :
    ∃ f, serviceBlock runtime service = .ok f := by
  obtain ⟨returnType, hreturn⟩ := h.returnType
  obtain ⟨source, hsource⟩ := h.sourceClass
  obtain ⟨parameters, hparameters⟩ := mapM_succeeds fun d hd =>
    access_succeeds .central (h.dependencies d (parameter_mem_service hd))
  obtain ⟨callee, hcallee⟩ := factoryCall_succeeds source h.factory
  obtain ⟨captured, hcaptured⟩ := mapM_succeeds fun d hd =>
    descriptor_succeeds runtime (h.dependencies d hd)
  obtain ⟨registrations, hregistrations⟩ := mapM_succeeds fun name hname =>
    registerProvider_succeeds service.name (h.serviceTypes name hname)
  exact ⟨_, by
    rw [serviceBlock, hreturn, hsource, hparameters]
    simp only [bind, Except.bind]
    rw [hcallee, hcaptured, hregistrations]
    rfl⟩

/-! ## Routes -/

theorem interceptorProvider_succeeds {interceptors : List String}
    (h : ∀ name ∈ interceptors, NamesClass name) :
    ∃ f, interceptorProvider runtime interceptors = .ok f := by
  obtain ⟨targets, htargets⟩ := mapM_succeeds h
  rw [interceptorProvider, htargets]
  split <;> exact ⟨_, rfl⟩

theorem launcherProvider_succeeds {launcher : Option String}
    (h : ∀ name, launcher = some name → NamesClass name) :
    ∃ f, launcherProvider runtime launcher = .ok f := by
  cases launcher with
  | none => exact ⟨_, rfl⟩
  | some name =>
      obtain ⟨target, htarget⟩ := h name rfl
      exact ⟨_, by rw [launcherProvider, htarget]; rfl⟩

theorem routeStatement_succeeds {route : Route} (h : route.WellNamed) :
    ∃ f, routeStatement runtime route = .ok f := by
  obtain ⟨target, htarget⟩ := h.className
  obtain ⟨interceptors, hinterceptors⟩ := interceptorProvider_succeeds runtime h.interceptors
  obtain ⟨launcher, hlauncher⟩ := launcherProvider_succeeds runtime h.launcher
  exact ⟨_, by rw [routeStatement, htarget, hinterceptors, hlauncher]; rfl⟩

/-! ## Tasks -/

theorem announceOutputs_succeeds (taskName : String) {output : Output} (h : output.WellNamed) :
    ∃ f, announceOutputs taskName output = .ok f := by
  obtain ⟨statements, hstatements⟩ :=
    mapM_succeeds (f := announceOutput taskName output.name) fun name hname => by
      obtain ⟨target, htarget⟩ := h.serviceTypes name hname
      exact ⟨_, by rw [announceOutput, htarget]; rfl⟩
  exact ⟨_, by rw [announceOutputs, hstatements]; rfl⟩

theorem readOutput_succeeds {accessor : Accessor} (h : isIdentifier accessor.member = true) :
    ∃ value, readOutput accessor = .ok value := by
  have hcheck : ∀ role, checkMemberName accessor.member role = .ok () := fun _ => if_pos h
  cases accessor with
  | field name => exact ⟨_, by rw [readOutput, show checkMemberName name _ = _ from hcheck _]; rfl⟩
  | method name => exact ⟨_, by rw [readOutput, show checkMemberName name _ = _ from hcheck _]; rfl⟩

theorem publishOutputs_succeeds {output : Output} (h : output.WellNamed) (position : Nat) :
    ∃ f, publishOutputs output position = .ok f := by
  obtain ⟨value, hvalue⟩ := readOutput_succeeds h.accessor
  obtain ⟨variableType, htype⟩ := h.returnType
  obtain ⟨statements, hstatements⟩ :=
    mapM_succeeds (f := publishOutput output.name (outputVariable position)) fun name hname => by
      obtain ⟨target, htarget⟩ := h.serviceTypes name hname
      exact ⟨_, by rw [publishOutput, htarget]; rfl⟩
  exact ⟨_, by rw [publishOutputs, hvalue, htype, hstatements]; rfl⟩

/-- The position only numbers a variable, so it does not matter for the success. -/
theorem publishFrom_succeeds :
    ∀ {outputs : List Output} (position : Nat), (∀ output ∈ outputs, output.WellNamed) →
      ∃ f, publishFrom position outputs = .ok f
  | [], _, _ => ⟨_, rfl⟩
  | output :: rest, position, h => by
      obtain ⟨statements, hstatements⟩ :=
        publishOutputs_succeeds (h output (List.mem_cons_self ..)) position
      obtain ⟨more, hmore⟩ := publishFrom_succeeds (position + 1) fun other ho =>
        h other (List.mem_cons_of_mem _ ho)
      exact ⟨_, by rw [publishFrom, hstatements, hmore]; rfl⟩

theorem taskStatements_succeeds {task : Task} (h : task.WellNamed) :
    ∃ f, taskStatements runtime task = .ok f := by
  obtain ⟨action, haction⟩ := h.className
  obtain ⟨announcements, hannouncements⟩ := mapM_succeeds fun output ho =>
    announceOutputs_succeeds task.name (h.outputs output ho)
  obtain ⟨descriptors, hdescriptors⟩ := mapM_succeeds fun d hd =>
    descriptor_succeeds runtime (h.dependencies d hd)
  obtain ⟨parameters, hparameters⟩ := mapM_succeeds fun d hd =>
    access_succeeds .taskServices (h.dependencies d (parameter_mem_task hd))
  obtain ⟨publications, hpublications⟩ := publishFrom_succeeds 0 h.outputs
  exact ⟨_, by
    rw [taskStatements, haction, hannouncements, hdescriptors, hparameters, hpublications]; rfl⟩

/-! ## The class -/

theorem entrance_succeeds {module : Module} (h : module.HasEntrance) :
    ∃ parts, entrance module = .ok parts := by
  obtain ⟨package, name, hparts, hpackage, hname, target, htarget⟩ := h
  exact ⟨(package, name), by simp [entrance, hparts, hpackage, hname, htarget, Except.map]⟩

/-- Whether the parameters are left out or not, all that is described has been checked. -/
theorem hookOptions_succeeds (hook : Option Task) (withParameters : Bool)
    (h : ∀ task, hook = some task → task.WellNamed) :
    ∃ f, hookOptions runtime hook withParameters = .ok f := by
  cases hook with
  | none => exact ⟨_, rfl⟩
  | some task =>
      have hall : ∀ d ∈ (if withParameters then task.allDependencies else task.dependencies),
          d.WellNamed := fun d hd => (h task rfl).dependencies d (by
        cases withParameters with
        | true => exact hd
        | false => exact List.mem_append_left _ hd)
      obtain ⟨descriptors, hdescriptors⟩ := mapM_succeeds fun d hd =>
        descriptor_succeeds runtime (hall d hd)
      exact ⟨_, by rw [hookOptions]; simp only [hdescriptors]; rfl⟩

/-- The hooks of a well-named module are well named. -/
theorem wellNamed_of_hook {module : Module} (h : module.WellNamed) {task : Task}
    (hhook : module.onCreate = some task ∨ module.onPostCreate = some task) : task.WellNamed := by
  refine h.tasks task ?_
  simp only [Module.hooksAndTasks, List.mem_append, Option.mem_toList]
  exact .inl hhook

theorem constructorMember_succeeds {module : Module} (h : module.WellNamed) (typeName : String) :
    ∃ f, constructorMember runtime module typeName = .ok f := by
  obtain ⟨before, hbefore⟩ := hookOptions_succeeds runtime module.onCreate true
    fun task htask => wellNamed_of_hook h (.inl htask)
  obtain ⟨after, hafter⟩ :=
    hookOptions_succeeds runtime module.onPostCreate module.onCreate.isNone
      fun task htask => wellNamed_of_hook h (.inr htask)
  exact ⟨_, by rw [constructorMember, hbefore, hafter]; rfl⟩

theorem customActivator_succeeds {module : Module} (h : module.WellNamed) :
    ∃ activator, customActivator runtime module = .ok activator := by
  unfold customActivator
  cases hname : module.activatorClass with
  | none => exact ⟨_, rfl⟩
  | some name =>
      obtain ⟨target, htarget⟩ := h.activator name hname
      exact ⟨_, by simp only [htarget]; rfl⟩

theorem activatorMember_succeeds {module : Module} (h : module.WellNamed)
    (activator : ClassName) : ∃ f, activatorMember runtime module activator = .ok f := by
  unfold activatorMember
  cases hhook : module.onCreate with
  | none => exact ⟨_, rfl⟩
  | some task =>
      obtain ⟨parameters, hparameters⟩ := mapM_succeeds fun d hd =>
        access_succeeds .central ((wellNamed_of_hook h (.inl hhook)).dependencies d
          (parameter_mem_task hd))
      exact ⟨_, by simp only [hparameters]; rfl⟩

theorem serviceSection_succeeds {module : Module} (h : module.WellNamed) :
    ∃ f, serviceSection runtime module = .ok f := by
  obtain ⟨blocks, hblocks⟩ := mapM_succeeds fun service hs =>
    serviceBlock_succeeds runtime (h.services service hs)
  rw [serviceSection, hblocks]
  split <;> exact ⟨_, rfl⟩

theorem registerMember_succeeds {module : Module} (h : module.WellNamed) :
    ∃ f, registerMember runtime module = .ok f := by
  obtain ⟨services, hservices⟩ := serviceSection_succeeds runtime h
  obtain ⟨routes, hroutes⟩ := mapM_succeeds fun route hr =>
    routeStatement_succeeds runtime (h.routes route hr)
  obtain ⟨tasks, htasks⟩ := mapM_succeeds fun task ht =>
    taskStatements_succeeds runtime (h.tasks task (List.mem_append_right _ ht))
  exact ⟨_, by rw [registerMember, hservices, hroutes, htasks]; rfl⟩

/-- That the registrations can be emitted matters only where the class has some. -/
theorem members_succeeds {module : Module} (h : module.WellNamed) (typeName : String) :
    ∃ fs, members runtime module typeName = .ok fs := by
  obtain ⟨constructor, hconstructor⟩ := constructorMember_succeeds runtime h typeName
  obtain ⟨activator, hactivator⟩ := customActivator_succeeds runtime h
  obtain ⟨registrations, hregistrations⟩ := registerMember_succeeds runtime h
  unfold members
  rw [hconstructor, hactivator, hregistrations]
  cases activator with
  | none => split <;> exact ⟨_, rfl⟩
  | some target =>
      obtain ⟨member, hmember⟩ := activatorMember_succeeds runtime h target
      simp only [bind, Except.bind, hmember, Except.map]
      split <;> exact ⟨_, rfl⟩

/-- From a well-named module its class can be emitted. -/
theorem unit_succeeds {module : Module} (h : module.WellNamed) (banner : String) :
    ∃ file, unit runtime banner module = .ok file := by
  obtain ⟨⟨package, typeName⟩, hentrance⟩ := entrance_succeeds h.entrance
  obtain ⟨fs, hmembers⟩ := members_succeeds runtime h typeName
  exact ⟨_, by rw [unit, hentrance]; simp only [bind, Except.bind, hmembers]; rfl⟩

end ModuleContainers.Container

namespace ModuleContainers

open ModuleContainers.Java (ClassName)
open ModuleContainers.Metadata (Module)

/-- Emission never fails for a module that passes the validation, and what a
generation fails with is the failure of the configuration or of the validation. -/
theorem validation_complete :
    (∀ (runtime : Runtime ClassName) (banner : String) (module : Module),
        module.validate = .ok () → ∃ file, Container.unit runtime banner module = .ok file)
      ∧ ∀ (configuration : Configuration) (module : Module) (failure : Failure),
          generate configuration module = .error failure ↔
            configuration.resolve = .error failure
              ∨ (∃ runtime, configuration.resolve = .ok runtime)
                ∧ module.validate = .error failure := by
  -- The second part uses the first: behind the validation nothing is left that could fail.
  have hemit : ∀ (runtime : Runtime ClassName) (banner : String) (module : Module),
      module.validate = .ok () → ∃ file, Container.unit runtime banner module = .ok file :=
    fun runtime banner _ h =>
      Container.unit_succeeds runtime (Module.wellNamed_of_validate h) banner
  refine ⟨hemit, fun configuration module failure => ?_⟩
  unfold generate renderModule
  cases hresolve : configuration.resolve with
  | error cause => simp [bind, Except.bind]
  | ok runtime =>
      cases hvalidate : module.validate with
      | error cause => simp [bind, Except.bind]
      | ok _ =>
          obtain ⟨file, hfile⟩ := hemit runtime configuration.banner module hvalidate
          simp [bind, Except.bind, hfile, pure, Except.pure]

/-- The class of a sample module is emitted for the runtime as it is released. -/
theorem sample_emitted :
    ∃ runtime, Runtime.standard.resolve = .ok runtime ∧ Module.sample.validate = .ok ()
      ∧ ∃ file, Container.unit runtime "" Module.sample = .ok file := by
  obtain ⟨runtime, hruntime⟩ := Runtime.standard_resolves
  exact ⟨runtime, hruntime, Module.sample_valid,
    validation_complete.1 runtime "" Module.sample Module.sample_valid⟩

end ModuleContainers
