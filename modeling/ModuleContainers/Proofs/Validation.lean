import ModuleContainers.Proofs.Outcome
import ModuleContainers.Validation

/-!
# What a validated module is

The checks of a module run one after the other and only report the first thing
that is wrong. What a module without a fault is like is said here without the
checks: every name that is used for a class names one, and every name that is
used for a member is an identifier (`Module.WellNamed`). Where a name stands in
the metadata decides which check looks at it, so the predicates follow the
metadata, one for each kind of entry.
-/

namespace ModuleContainers.Metadata

open ModuleContainers (Failure classNamed typeNamed checkMemberName)
open ModuleContainers.Java (isIdentifier)

/-- The text names a class. -/
def NamesClass (name : String) : Prop := ∃ c, classNamed name = .ok c

/-- The text names a class or a primitive type. -/
def NamesType (name : String) : Prop := ∃ t, typeNamed name = .ok t

/-- The class of the dependency, if it has one, is a class. -/
def Dependency.WellNamed (dependency : Dependency) : Prop :=
  ∀ name, dependency.className? = some name → NamesClass name

structure Service.WellNamed (service : Service) : Prop where
  returnType : NamesClass service.returnType
  sourceClass : NamesClass service.sourceClass
  serviceTypes : ∀ name ∈ service.serviceTypes, NamesClass name
  dependencies : ∀ dependency ∈ service.allDependencies, dependency.WellNamed
  factory : ∀ name, service.factory = .staticMethod name → isIdentifier name = true

structure Route.WellNamed (route : Route) : Prop where
  className : NamesClass route.className
  interceptors : ∀ name ∈ route.interceptors, NamesClass name
  launcher : ∀ name, route.launcher = some name → NamesClass name

structure Output.WellNamed (output : Output) : Prop where
  returnType : NamesType output.returnType
  serviceTypes : ∀ name ∈ output.serviceTypes, NamesClass name
  accessor : isIdentifier output.accessor.member = true

structure Task.WellNamed (task : Task) : Prop where
  className : NamesClass task.className
  dependencies : ∀ dependency ∈ task.allDependencies, dependency.WellNamed
  outputs : ∀ output ∈ task.outputs, output.WellNamed

/-- The package and the type of the entrance class are there, and together they
name a class. -/
def Module.HasEntrance (module : Module) : Prop :=
  ∃ package name, module.entranceParts = some (package, name) ∧ package ≠ "" ∧ name ≠ ""
    ∧ NamesClass module.entranceClass

structure Module.WellNamed (module : Module) : Prop where
  entrance : module.HasEntrance
  activator : ∀ name, module.activatorClass = some name → NamesClass name
  services : ∀ service ∈ module.services, service.WellNamed
  routes : ∀ route ∈ module.routes, route.WellNamed
  tasks : ∀ task ∈ module.hooksAndTasks, task.WellNamed

namespace Module

/-- A module with an entry of each kind. -/
def sample : Module where
  name := "greeter"
  entranceClass := "com.example.GreeterModule"
  description := "Says \"hello\"."
  onCreate := some
    { name := "setup", className := "com.example.Setup",
      parameters := [.service { className := "com.example.Log", serviceName := "log" }] }
  attributes := [⟨"owner", "core"⟩]
  services :=
    [{ name := "greeting", returnType := "com.example.Greeter",
       sourceClass := "com.example.PoliteGreeter", dependencies := [.task "warm-up"],
       serviceTypes := ["com.example.Greeter"], description := "One line.\nAnother one." }]
  routes :=
    [{ name := "home", rules := ["/home"], className := "com.example.Home",
       interceptors := ["com.example.Gate"] }]
  tasks :=
    [{ name := "warm-up", className := "com.example.WarmUp",
       outputs :=
         [{ name := "size", returnType := "int", accessor := .field "size",
            serviceTypes := ["com.example.Size"] }] }]

theorem sample_valid : sample.validate = .ok () := by decide +kernel

open Outcome (check_eq_ok map_eq_ok)

/-! ## What the checks accept -/

theorem checkAll_eq_ok {α : Type} {check : α → Except Failure Unit} :
    ∀ {items : List α}, checkAll check items = .ok () ↔ ∀ item ∈ items, check item = .ok ()
  | [] => by simp [checkAll]
  | item :: rest => by
      rw [checkAll, check_eq_ok, checkAll_eq_ok, List.forall_mem_cons]

theorem checkClass_eq_ok {name : String} : checkClass name = .ok () ↔ NamesClass name := by
  simp [checkClass, map_eq_ok, NamesClass]

theorem checkMemberName_eq_ok {name role : String} :
    checkMemberName name role = .ok () ↔ isIdentifier name = true := by
  unfold checkMemberName
  split <;> simp_all

theorem checkDependencies_eq_ok {dependencies : List Dependency} :
    checkDependencies dependencies = .ok () ↔
      ∀ dependency ∈ dependencies, dependency.WellNamed := by
  simp only [checkDependencies, checkAll_eq_ok, checkClass_eq_ok, List.mem_filterMap,
    Dependency.WellNamed]
  exact ⟨fun h dependency hmem name hname => h name ⟨dependency, hmem, hname⟩,
    fun h name ⟨dependency, hmem, hname⟩ => h dependency hmem name hname⟩

theorem checkEntranceClass_eq_ok {module : Module} :
    checkEntranceClass module = .ok () ↔ module.HasEntrance := by
  unfold checkEntranceClass HasEntrance
  split
  · next hparts => simp [hparts]
  · next package name hparts =>
      simp only [hparts, Option.some.injEq, Prod.mk.injEq]
      split
      · next hempty =>
          simp only [reduceCtorEq, false_iff]
          rintro ⟨_, _, ⟨rfl, rfl⟩, hpackage, hname, -⟩
          exact hempty.elim hpackage hname
      · next hfull =>
          rw [checkClass_eq_ok]
          constructor
          · exact fun h => ⟨package, name, ⟨rfl, rfl⟩, fun he => hfull (.inl he),
              fun he => hfull (.inr he), h⟩
          · exact fun ⟨_, _, _, _, _, h⟩ => h

theorem checkServiceClasses_eq_ok {service : Service} :
    checkServiceClasses service = .ok () ↔
      NamesClass service.returnType ∧ NamesClass service.sourceClass
        ∧ (∀ name ∈ service.serviceTypes, NamesClass name)
        ∧ ∀ dependency ∈ service.allDependencies, dependency.WellNamed := by
  simp only [checkServiceClasses, check_eq_ok, checkClass_eq_ok, checkAll_eq_ok,
    checkDependencies_eq_ok]

theorem checkRouteClasses_eq_ok {route : Route} :
    checkRouteClasses route = .ok () ↔ route.WellNamed := by
  simp only [checkRouteClasses, check_eq_ok, checkClass_eq_ok, checkAll_eq_ok,
    Option.mem_toList]
  exact ⟨fun ⟨hclass, hinterceptors, hlauncher⟩ => ⟨hclass, hinterceptors, hlauncher⟩,
    fun ⟨hclass, hinterceptors, hlauncher⟩ => ⟨hclass, hinterceptors, hlauncher⟩⟩

theorem checkOutputClasses_eq_ok {output : Output} :
    checkOutputClasses output = .ok () ↔
      NamesType output.returnType ∧ ∀ name ∈ output.serviceTypes, NamesClass name := by
  simp [checkOutputClasses, check_eq_ok, map_eq_ok, checkClass_eq_ok, checkAll_eq_ok, NamesType]

theorem checkTaskClasses_eq_ok {task : Task} :
    checkTaskClasses task = .ok () ↔
      NamesClass task.className ∧ (∀ dependency ∈ task.allDependencies, dependency.WellNamed)
        ∧ ∀ output ∈ task.outputs, NamesType output.returnType
          ∧ ∀ name ∈ output.serviceTypes, NamesClass name := by
  simp only [checkTaskClasses, check_eq_ok, checkClass_eq_ok, checkAll_eq_ok,
    checkDependencies_eq_ok, checkOutputClasses_eq_ok]

theorem checkFactory_eq_ok {module : Module} {service : Service} :
    checkFactory module service = .ok () ↔
      ∀ name, service.factory = .staticMethod name → isIdentifier name = true := by
  unfold checkFactory
  split
  · next h => simp [h]
  · next h => simp [h, checkMemberName_eq_ok]

/-- A module without a fault is well named. -/
theorem wellNamed_of_validate {module : Module} (h : module.validate = .ok ()) :
    module.WellNamed := by
  simp only [validate, checkClasses, checkMembers, check_eq_ok, checkEntranceClass_eq_ok,
    checkAll_eq_ok, checkClass_eq_ok, checkServiceClasses_eq_ok, checkRouteClasses_eq_ok,
    checkTaskClasses_eq_ok, checkFactory_eq_ok, checkAccessor, checkMemberName_eq_ok,
    Option.mem_toList] at h
  obtain ⟨-, hentrance, -, -, ⟨hactivator, hservices, hroutes, htasks⟩, hfactories, haccessors⟩ := h
  refine ⟨hentrance, hactivator, fun service hs => ?_, hroutes, fun task ht => ?_⟩
  · obtain ⟨hreturn, hsource, htypes, hdependencies⟩ := hservices service hs
    exact ⟨hreturn, hsource, htypes, hdependencies, hfactories service hs⟩
  · obtain ⟨hclass, hdependencies, houtputs⟩ := htasks task ht
    exact ⟨hclass, hdependencies, fun output ho =>
      ⟨(houtputs output ho).1, (houtputs output ho).2, haccessors task ht output ho⟩⟩

end Module

end ModuleContainers.Metadata
