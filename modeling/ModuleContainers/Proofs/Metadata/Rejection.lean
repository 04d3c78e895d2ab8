import ModuleContainers.Proofs.Text.Splitting
import ModuleContainers.Proofs.Validation

/-!
# Why a module is rejected

A module has to meet six conditions (`Condition`), and the checks look at them in a
fixed order. A module that meets all of them is accepted. Any other module is
rejected, and the failure belongs to the first condition that it does not meet,
whatever else is wrong with it (`validate_eq_first_violation`).

Where a condition is about many entries, the failure is that of the first entry that
breaks it. The entries are spread over services, routes, hooks and tasks, and a check
is a walk of its own through them; so what a walk comes across is listed
(`Module.exposures`, `Module.references`, `Module.memberUses`), and the walk is one
pass over its list.
-/

namespace ModuleContainers.Metadata

open ModuleContainers (Failure classNamed typeNamed checkMemberName inQuotes)
open ModuleContainers.Java (ClassName TypeName isIdentifier)
open Outcome (check_eq_ok fails_iff mapM_eq_error mapError_eq_ok)

/-! ## What the checks come across -/

/-- A service or an output, and what it is registered as. -/
structure Exposure where
  owner : String
  serviceTypes : List String

/-- A name that stands for a class or, for an output, for a type. -/
inductive Reference where
  | toClass (name : String)
  | toType (name : String)

/-- A name that is spliced into code, and what it is there. -/
structure MemberUse where
  name : String
  role : String

/-- The text names what it is used for. -/
def Reference.Named : Reference → Prop
  | .toClass name => NamesClass name
  | .toType name => NamesType name

/-- Why the name stands for nothing of its kind. -/
def Reference.Unnamed (cause : ClassName.Invalid) : Reference → Prop
  | .toClass name => ClassName.parse name = .error cause
  | .toType name => TypeName.parse name = .error cause

def Dependency.references (dependency : Dependency) : List Reference :=
  dependency.className?.toList.map .toClass

/-- The classes of a service in the order in which they are checked; the other lists of
references are in this order too. -/
def Service.references (service : Service) : List Reference :=
  .toClass service.returnType :: .toClass service.sourceClass
    :: (service.serviceTypes.map .toClass
      ++ service.allDependencies.flatMap Dependency.references)

def Route.references (route : Route) : List Reference :=
  .toClass route.className
    :: (route.interceptors.map .toClass ++ route.launcher.toList.map .toClass)

def Output.references (output : Output) : List Reference :=
  .toType output.returnType :: output.serviceTypes.map .toClass

def Task.references (task : Task) : List Reference :=
  .toClass task.className
    :: (task.allDependencies.flatMap Dependency.references
      ++ task.outputs.flatMap Output.references)

def Task.exposures (task : Task) : List Exposure :=
  task.outputs.map fun output =>
    ⟨"output " ++ inQuotes output.name ++ " of task " ++ inQuotes task.name, output.serviceTypes⟩

namespace Module

/-- Everything that is registered as something: services, then what hooks and tasks
put out. -/
def exposures (module : Module) : List Exposure :=
  module.services.map (fun service =>
      ⟨"service " ++ inQuotes service.name, service.serviceTypes⟩)
    ++ module.hooksAndTasks.flatMap Task.exposures

/-- Every name of the module that stands for a class or a type. -/
def references (module : Module) : List Reference :=
  module.activatorClass.toList.map .toClass ++ module.services.flatMap Service.references
    ++ module.routes.flatMap Route.references ++ module.hooksAndTasks.flatMap Task.references

def factoryUse (module : Module) (service : Service) : List MemberUse :=
  match service.factory with
  | .constructor => []
  | .staticMethod name =>
      [⟨name, "factory method of service " ++ inQuotes service.name ++ " in module "
        ++ inQuotes module.name⟩]

def accessorUse (module : Module) (task : Task) (output : Output) : MemberUse :=
  let kind := match output.accessor with
    | .field _ => "field"
    | .method _ => "method"
  ⟨output.accessor.member, kind ++ " of output " ++ inQuotes output.name ++ " of task "
    ++ inQuotes task.name ++ " in module " ++ inQuotes module.name⟩

/-- The static methods of services, then the members that outputs are read from. -/
def memberUses (module : Module) : List MemberUse :=
  module.services.flatMap (factoryUse module)
    ++ module.hooksAndTasks.flatMap fun task => task.outputs.map (accessorUse module task)

/-- Without the blanks around it, the entrance class is a package and a name, with the
last dot between them. -/
def Qualified (module : Module) : Prop :=
  ∃ package name, Text.dropEnds module.entranceClass.toList = package ++ '.' :: name
    ∧ '.' ∉ name ∧ package ≠ [] ∧ name ≠ []

end Module

/-! ## The conditions -/

def Service.ClassesNamed (service : Service) : Prop :=
  NamesClass service.returnType ∧ NamesClass service.sourceClass
    ∧ (∀ name ∈ service.serviceTypes, NamesClass name)
    ∧ ∀ dependency ∈ service.allDependencies, dependency.WellNamed

/-- The type of an output may be primitive. -/
def Task.ClassesNamed (task : Task) : Prop :=
  NamesClass task.className ∧ (∀ dependency ∈ task.allDependencies, dependency.WellNamed)
    ∧ ∀ output ∈ task.outputs, NamesType output.returnType
      ∧ ∀ name ∈ output.serviceTypes, NamesClass name

/-- What a module has to meet. -/
inductive Condition where
  | named
  | entrance
  | distinctTasks
  | exposed
  | classesNamed
  | membersNamed
  deriving DecidableEq

namespace Condition

/-- The conditions in the order in which they are looked at. -/
def inOrder : List Condition :=
  [named, entrance, distinctTasks, exposed, classesNamed, membersNamed]

/-- The module meets the condition. -/
def Holds (module : Module) : Condition → Prop
  | named => Text.trim module.name ≠ ""
  | entrance => module.Qualified ∧ NamesClass module.entranceClass
  | distinctTasks => (module.tasks.map Task.name).Nodup
  | exposed =>
      (∀ service ∈ module.services, service.serviceTypes ≠ [])
        ∧ ∀ task ∈ module.hooksAndTasks, ∀ output ∈ task.outputs, output.serviceTypes ≠ []
  | classesNamed =>
      (∀ name, module.activatorClass = some name → NamesClass name)
        ∧ (∀ service ∈ module.services, service.ClassesNamed)
        ∧ (∀ route ∈ module.routes, route.WellNamed)
        ∧ ∀ task ∈ module.hooksAndTasks, task.ClassesNamed
  | membersNamed =>
      (∀ service ∈ module.services, ∀ name,
          service.factory = .staticMethod name → isIdentifier name = true)
        ∧ ∀ task ∈ module.hooksAndTasks, ∀ output ∈ task.outputs,
          isIdentifier output.accessor.member = true

end Condition

/-- What a module that does not meet the condition fails with. -/
inductive Violation (module : Module) : Condition → Failure → Prop where
  | unnamed (h : Text.trim module.name = "") :
      Violation module .named (.emptyModuleName module.entranceClass)
  | unqualified (h : ¬ module.Qualified) :
      Violation module .entrance (.malformedEntranceClass module.name module.entranceClass)
  /-- There are a package and a name, and together they are no class. -/
  | noEntrance {cause : ClassName.Invalid} (hqualified : module.Qualified)
      (h : ClassName.parse module.entranceClass = .error cause) :
      Violation module .entrance (.invalidClassName cause)
  /-- The first task that has the name of a task before it. -/
  | repeatedTask {earlier later : List Task} {task : Task}
      (htasks : module.tasks = earlier ++ task :: later)
      (hearlier : (earlier.map Task.name).Nodup) (h : task.name ∈ earlier.map Task.name) :
      Violation module .distinctTasks (.duplicateTaskName module.name task.name)
  /-- The first service or output that is registered as nothing. -/
  | unexposed {earlier later : List Exposure} {exposure : Exposure}
      (hexposures : module.exposures = earlier ++ exposure :: later)
      (hearlier : ∀ other ∈ earlier, other.serviceTypes ≠ []) (h : exposure.serviceTypes = []) :
      Violation module .exposed (.missingServiceTypes module.name exposure.owner)
  /-- The first name that stands for nothing. -/
  | noClass {earlier later : List Reference} {reference : Reference} {cause : ClassName.Invalid}
      (hreferences : module.references = earlier ++ reference :: later)
      (hearlier : ∀ other ∈ earlier, other.Named) (h : reference.Unnamed cause) :
      Violation module .classesNamed (.invalidClassName cause)
  /-- The first name that cannot be the name of a member. -/
  | noMember {earlier later : List MemberUse} {use : MemberUse}
      (huses : module.memberUses = earlier ++ use :: later)
      (hearlier : ∀ other ∈ earlier, isIdentifier other.name = true)
      (h : isIdentifier use.name = false) :
      Violation module .membersNamed (.invalidIdentifier use.name use.role)

namespace Module

/-! ## One pass over a list -/

section Passes

variable {α β : Type} {check : α → Except Failure Unit} {failure : Failure}

/-- Checks stop at the first failure, so a list may be cut anywhere. -/
theorem checkAll_append (check : α → Except Failure Unit) (a b : List α) :
    checkAll check (a ++ b) = (checkAll check a >>= fun _ => checkAll check b) := by
  induction a with
  | nil => rfl
  | cons item rest ih => rw [List.cons_append, checkAll, checkAll, ih, bind_assoc]

theorem checkAll_singleton (check : α → Except Failure Unit) (item : α) :
    checkAll check [item] = check item := by
  rw [checkAll]
  cases check item <;> rfl

theorem checkAll_map (check : β → Except Failure Unit) (f : α → β) (items : List α) :
    checkAll check (items.map f) = checkAll (fun item => check (f item)) items := by
  induction items with
  | nil => rfl
  | cons item rest ih => rw [List.map_cons, checkAll, checkAll, ih]

/-- Lists checked one after the other are one list. -/
theorem checkAll_flatMap (check : β → Except Failure Unit) (f : α → List β) (items : List α) :
    checkAll check (items.flatMap f) = checkAll (fun item => checkAll check (f item)) items := by
  induction items with
  | nil => rfl
  | cons item rest ih => rw [List.flatMap_cons, checkAll_append, checkAll, ih]

/-- The same as a walk that keeps nothing, so that what is known of walks can be used. -/
theorem checkAll_eq_mapM (check : α → Except Failure Unit) (items : List α) :
    checkAll check items = (items.mapM check).map fun _ => () := by
  induction items with
  | nil => rfl
  | cons item rest ih =>
      rw [checkAll, List.mapM_cons, ih]
      cases check item with
      | error failure => rfl
      | ok _ => cases rest.mapM check <;> rfl

/-- A pass fails at the first item that does. -/
theorem checkAll_eq_error {items : List α} :
    checkAll check items = .error failure ↔
      ∃ earlier item later, items = earlier ++ item :: later
        ∧ (∀ other ∈ earlier, check other = .ok ()) ∧ check item = .error failure := by
  have hmap : checkAll check items = .error failure ↔ items.mapM check = .error failure := by
    rw [checkAll_eq_mapM]
    cases items.mapM check <;> simp [Except.map]
  have hunit : ∀ other, (∃ done, check other = .ok done) ↔ check other = .ok () := fun _ =>
    ⟨fun ⟨_, h⟩ => h, fun h => ⟨(), h⟩⟩
  rw [hmap, mapM_eq_error]
  simp only [hunit]

end Passes

/-! ## The walks as passes -/

def checkReference : Reference → Except Failure Unit
  | .toClass name => checkClass name
  | .toType name => (typeNamed name).map fun _ => ()

def checkExposure (module : Module) (exposure : Exposure) : Except Failure Unit :=
  checkTypesOf module exposure.owner exposure.serviceTypes

def checkUse (use : MemberUse) : Except Failure Unit := checkMemberName use.name use.role

variable {module : Module} {failure : Failure}

theorem checkServiceTypes_eq (module : Module) :
    checkServiceTypes module = checkAll (checkExposure module) module.exposures := by
  simp only [exposures, Task.exposures, checkAll_append, checkAll_map, checkAll_flatMap]
  rfl

/-- Each check of classes is one walk over the references of its entry. -/
theorem checkDependencies_eq (dependencies : List Dependency) :
    checkDependencies dependencies
      = checkAll checkReference (dependencies.flatMap Dependency.references) := by
  unfold Dependency.references
  rw [checkDependencies, List.filterMap_eq_flatMap_toList, checkAll_flatMap, checkAll_flatMap]
  simp only [checkAll_map, checkReference]

theorem checkServiceClasses_eq :
    checkServiceClasses = fun service => checkAll checkReference service.references := by
  funext service
  simp only [Service.references, checkServiceClasses, checkDependencies_eq, checkAll,
    checkAll_append, checkAll_map, checkReference]

theorem checkRouteClasses_eq :
    checkRouteClasses = fun route => checkAll checkReference route.references := by
  funext route
  simp only [Route.references, checkRouteClasses, checkAll, checkAll_append, checkAll_map,
    checkReference]

theorem checkTaskClasses_eq :
    checkTaskClasses = fun task => checkAll checkReference task.references := by
  have houtput :
      checkOutputClasses = fun output => checkAll checkReference output.references := by
    funext output
    simp only [Output.references, checkOutputClasses, checkAll, checkAll_map, checkReference]
  funext task
  simp only [Task.references, checkTaskClasses, checkDependencies_eq, houtput, checkAll,
    checkAll_append, checkAll_flatMap, checkReference]

/-- All classes of a module in one list. -/
theorem checkClasses_eq (module : Module) :
    checkClasses module = checkAll checkReference module.references := by
  simp only [references, checkClasses, checkServiceClasses_eq, checkRouteClasses_eq,
    checkTaskClasses_eq, checkAll_append, checkAll_map, checkAll_flatMap, checkReference,
    bind_assoc]

theorem checkMembers_eq (module : Module) :
    checkMembers module = checkAll checkUse module.memberUses := by
  have hfactory : checkFactory module
      = fun service => checkAll checkUse (factoryUse module service) := by
    funext service
    unfold checkFactory factoryUse
    cases service.factory with
    | constructor => rfl
    | staticMethod name => simp only [checkAll_singleton, checkUse]
  have haccessor : checkAccessor module
      = fun task output => checkUse (accessorUse module task output) := by
    funext task output
    unfold checkAccessor checkUse accessorUse accessorKind
    cases output.accessor <;> rfl
  simp only [memberUses, checkMembers, checkAll_append, checkAll_flatMap, checkAll_map, hfactory,
    haccessor]

/-! ## Repeated names -/

/-- By induction on the names, with those that have been seen. -/
theorem repeatedName?_eq_none {seen names : List String} :
    repeatedName? seen names = none ↔ names.Nodup ∧ ∀ name ∈ names, name ∉ seen := by
  induction names generalizing seen with
  | nil => simp [repeatedName?]
  | cons first rest ih =>
      rw [repeatedName?]
      split
      · next hseen => simp [hseen]
      · next hnew =>
          rw [ih]
          simp only [List.nodup_cons, List.mem_cons, not_or, forall_eq_or_imp]
          constructor
          · rintro ⟨hnodup, hrest⟩
            exact ⟨⟨fun hmem => (hrest first hmem).1 rfl, hnodup⟩, hnew,
              fun name hname => (hrest name hname).2⟩
          · rintro ⟨⟨hfirst, hnodup⟩, -, hrest⟩
            refine ⟨hnodup, fun name hname => ⟨?_, hrest name hname⟩⟩
            rintro rfl
            exact hfirst hname

/-- The search ends at the first name that was there before. -/
theorem repeatedName?_eq_some {seen names : List String} {name : String} :
    repeatedName? seen names = some name ↔
      ∃ earlier later, names = earlier ++ name :: later ∧ repeatedName? seen earlier = none
        ∧ name ∈ earlier.reverse ++ seen := by
  induction names generalizing seen with
  | nil => simp [repeatedName?]
  | cons first rest ih =>
      rw [repeatedName?]
      constructor
      · intro h
        split at h
        · next hseen =>
            obtain rfl := Option.some.inj h
            exact ⟨[], rest, rfl, rfl, hseen⟩
        · next hnew =>
            obtain ⟨earlier, later, rfl, hearlier, hname⟩ := ih.mp h
            refine ⟨first :: earlier, later, rfl, ?_, by simpa using hname⟩
            rw [repeatedName?, if_neg hnew]
            exact hearlier
      · rintro ⟨earlier, later, hsplit, hearlier, hname⟩
        cases earlier with
        | nil =>
            obtain ⟨rfl, rfl⟩ := List.cons.inj hsplit
            rw [if_pos (by simpa using hname)]
        | cons other earlier =>
            obtain ⟨rfl, rfl⟩ := List.cons.inj hsplit
            rw [repeatedName?] at hearlier
            split at hearlier
            · cases hearlier
            · next hnew =>
                rw [if_neg hnew]
                exact ih.mpr ⟨earlier, later, rfl, hearlier, by simpa using hname⟩

theorem checkTaskNames_eq_ok :
    checkTaskNames module = .ok () ↔ (module.tasks.map Task.name).Nodup := by
  have hnone : repeatedName? [] (module.tasks.map Task.name) = none
      ↔ (module.tasks.map Task.name).Nodup := by simp [repeatedName?_eq_none]
  rw [← hnone]
  unfold checkTaskNames
  cases repeatedName? [] (module.tasks.map Task.name) <;> simp

/-- The failure names the first task whose name was seen before. -/
theorem checkTaskNames_eq_error :
    checkTaskNames module = .error failure ↔ Violation module .distinctTasks failure := by
  have herror : checkTaskNames module = .error failure ↔
      ∃ name, repeatedName? [] (module.tasks.map Task.name) = some name
        ∧ failure = .duplicateTaskName module.name name := by
    unfold checkTaskNames
    cases repeatedName? [] (module.tasks.map Task.name) <;> simp [eq_comm]
  rw [herror]
  constructor
  · rintro ⟨name, hname, rfl⟩
    obtain ⟨before, after, hsplit, hbefore, hmem⟩ := repeatedName?_eq_some.mp hname
    obtain ⟨earlier, rest, htasks, rfl, hrest⟩ := List.map_eq_append_iff.mp hsplit
    obtain ⟨task, later, rfl, rfl, rfl⟩ := List.map_eq_cons_iff.mp hrest
    exact .repeatedTask htasks (repeatedName?_eq_none.mp hbefore).1 (by simpa using hmem)
  · intro h
    cases h with
    | repeatedTask htasks hearlier h =>
        have hnames := congrArg (List.map Task.name) htasks
        rw [List.map_append, List.map_cons] at hnames
        have hnone := repeatedName?_eq_none.mpr ⟨hearlier, fun name _ => List.not_mem_nil⟩
        exact ⟨_, repeatedName?_eq_some.mpr ⟨_, _, hnames, hnone, by simpa using h⟩, rfl⟩

/-! ## Each check decides its condition -/

theorem isBlankText_iff {text : String} : Text.isBlankText text = true ↔ Text.trim text = "" := by
  have hwhole := List.takeWhile_append_dropWhile (p := Text.isBlank) (l := text.toList)
  rw [Text.isBlankText, List.all_eq_true, Text.trim, String.ofList_eq_empty_iff, Text.dropEnds,
    Text.dropEnd, List.reverse_eq_nil_iff, List.dropWhile_eq_nil_iff]
  constructor
  · intro h c hc
    exact h c ((List.dropWhile_sublist _).subset (List.mem_reverse.mp hc))
  · intro h c hc
    rw [← hwhole, List.mem_append] at hc
    exact hc.elim List.mem_takeWhile_imp fun hc => h c (List.mem_reverse.mpr hc)

theorem checkName_eq_ok : checkName module = .ok () ↔ Text.trim module.name ≠ "" := by
  rw [checkName, ← not_iff_not, not_not, ← isBlankText_iff]
  split <;> simp_all

theorem checkName_eq_error :
    checkName module = .error failure ↔ Violation module .named failure := by
  unfold checkName
  constructor
  · intro h
    split at h
    · next hblank =>
        obtain rfl := Except.error.inj h
        exact .unnamed (isBlankText_iff.mp hblank)
    · cases h
  · intro h
    cases h with
    | unnamed h => rw [if_pos (isBlankText_iff.mpr h)]

/-- The entrance class is qualified exactly when it is cut into two parts that are there. -/
theorem qualified_iff :
    module.Qualified ↔
      ∃ package name, module.entranceParts = some (package, name) ∧ package ≠ "" ∧ name ≠ "" := by
  unfold Qualified entranceParts
  constructor
  · rintro ⟨package, name, htext, hdot, hpackage, hname⟩
    refine ⟨String.ofList package, String.ofList name, ?_, by simpa using hpackage,
      by simpa using hname⟩
    rw [htext, Text.cutLast_append package hdot]
    rfl
  · rintro ⟨package, name, hparts, hpackage, hname⟩
    obtain ⟨⟨before, after⟩, hcut, heq⟩ := Option.map_eq_some_iff.mp hparts
    obtain ⟨rfl, rfl⟩ := Prod.mk.inj heq
    obtain ⟨htext, hdot⟩ := Text.cutLast_eq_some hcut
    exact ⟨before, after, htext, hdot, by simpa using hpackage, by simpa using hname⟩

/-- An entrance is two conditions: that the name has two parts, and that it names a class. -/
theorem hasEntrance_iff :
    module.HasEntrance ↔ module.Qualified ∧ NamesClass module.entranceClass := by
  rw [qualified_iff]
  exact ⟨fun ⟨package, name, hparts, hpackage, hname, hclass⟩ =>
      ⟨⟨package, name, hparts, hpackage, hname⟩, hclass⟩,
    fun ⟨⟨package, name, hparts, hpackage, hname⟩, hclass⟩ =>
      ⟨package, name, hparts, hpackage, hname, hclass⟩⟩

/-- What cannot be read is reported with its cause. -/
theorem unread_eq_error {α : Type} {read : Except ClassName.Invalid α} :
    ((read.mapError Failure.invalidClassName).map fun _ => ()) = .error failure ↔
      ∃ cause, read = .error cause ∧ failure = .invalidClassName cause := by
  cases read with
  | error cause => simp [Except.map, Except.mapError, eq_comm]
  | ok _ => simp [Except.map, Except.mapError]

theorem checkClass_eq_error {name : String} :
    checkClass name = .error failure ↔
      ∃ cause, ClassName.parse name = .error cause ∧ failure = .invalidClassName cause :=
  unread_eq_error

/-- With both parts there, all that is left to check is the class. -/
theorem checkEntranceClass_of_qualified (h : module.Qualified) :
    checkEntranceClass module = checkClass module.entranceClass := by
  obtain ⟨package, name, hparts, hpackage, hname⟩ := qualified_iff.mp h
  unfold checkEntranceClass
  simp only [hparts, hpackage, hname, or_self, if_false]

/-- A part that is missing is reported before any class is read. -/
theorem checkEntranceClass_of_not_qualified (h : ¬ module.Qualified) :
    checkEntranceClass module
      = .error (.malformedEntranceClass module.name module.entranceClass) := by
  unfold checkEntranceClass
  split
  · rfl
  · next package name hparts =>
      split
      · rfl
      · next hfull =>
          rw [not_or] at hfull
          exact absurd (qualified_iff.mpr ⟨package, name, hparts, hfull⟩) h

theorem checkEntranceClass_eq_error :
    checkEntranceClass module = .error failure ↔ Violation module .entrance failure := by
  by_cases hqualified : module.Qualified
  · rw [checkEntranceClass_of_qualified hqualified, checkClass_eq_error]
    constructor
    · rintro ⟨cause, hcause, rfl⟩
      exact .noEntrance hqualified hcause
    · intro h
      cases h with
      | unqualified h => exact absurd hqualified h
      | noEntrance _ h => exact ⟨_, h, rfl⟩
  · rw [checkEntranceClass_of_not_qualified hqualified]
    constructor
    · rintro ⟨⟩
      exact .unqualified hqualified
    · intro h
      cases h with
      | unqualified => rfl
      | noEntrance h => exact absurd h hqualified

theorem checkTypesOf_eq_ok {owner : String} {serviceTypes : List String} :
    checkTypesOf module owner serviceTypes = .ok () ↔ serviceTypes ≠ [] := by
  unfold checkTypesOf
  split <;> simp_all

theorem checkServiceTypes_eq_ok :
    checkServiceTypes module = .ok () ↔ Condition.exposed.Holds module := by
  simp only [checkServiceTypes, check_eq_ok, checkAll_eq_ok, checkTypesOf_eq_ok, Condition.Holds]

theorem checkServiceTypes_eq_error :
    checkServiceTypes module = .error failure ↔ Violation module .exposed failure := by
  have herror : ∀ exposure, checkExposure module exposure = .error failure ↔
      exposure.serviceTypes = []
        ∧ failure = .missingServiceTypes module.name exposure.owner := by
    intro exposure
    unfold checkExposure checkTypesOf
    split <;> simp_all [eq_comm]
  rw [checkServiceTypes_eq, checkAll_eq_error]
  constructor
  · rintro ⟨earlier, exposure, later, hsplit, hearlier, hfailure⟩
    obtain ⟨hnone, rfl⟩ := (herror exposure).mp hfailure
    exact .unexposed hsplit
      (fun other hother => checkTypesOf_eq_ok.mp (hearlier other hother)) hnone
  · intro h
    cases h with
    | unexposed hsplit hearlier hnone =>
        refine ⟨_, _, _, hsplit, fun other hother => ?_, (herror _).mpr ⟨hnone, rfl⟩⟩
        exact checkTypesOf_eq_ok.mpr (hearlier other hother)

theorem checkReference_eq_ok {reference : Reference} :
    checkReference reference = .ok () ↔ reference.Named := by
  cases reference with
  | toClass name => exact checkClass_eq_ok
  | toType name => simp [checkReference, Reference.Named, NamesType, Outcome.map_eq_ok]

theorem checkReference_eq_error {reference : Reference} :
    checkReference reference = .error failure ↔
      ∃ cause, reference.Unnamed cause ∧ failure = .invalidClassName cause := by
  cases reference with
  | toClass name => exact checkClass_eq_error
  | toType name => exact unread_eq_error

theorem checkClasses_eq_ok :
    checkClasses module = .ok () ↔ Condition.classesNamed.Holds module := by
  simp only [checkClasses, check_eq_ok, checkAll_eq_ok, checkClass_eq_ok,
    checkServiceClasses_eq_ok, checkRouteClasses_eq_ok, checkTaskClasses_eq_ok, Option.mem_toList]
  rfl

theorem checkClasses_eq_error :
    checkClasses module = .error failure ↔ Violation module .classesNamed failure := by
  rw [checkClasses_eq, checkAll_eq_error]
  constructor
  · rintro ⟨earlier, reference, later, hsplit, hearlier, hfailure⟩
    obtain ⟨cause, hcause, rfl⟩ := checkReference_eq_error.mp hfailure
    exact .noClass hsplit (fun other hother => checkReference_eq_ok.mp (hearlier other hother))
      hcause
  · intro h
    cases h with
    | noClass hsplit hearlier hcause =>
        refine ⟨_, _, _, hsplit, fun other hother => ?_,
          checkReference_eq_error.mpr ⟨_, hcause, rfl⟩⟩
        exact checkReference_eq_ok.mpr (hearlier other hother)

theorem checkMembers_eq_ok :
    checkMembers module = .ok () ↔ Condition.membersNamed.Holds module := by
  simp only [checkMembers, check_eq_ok, checkAll_eq_ok, checkFactory_eq_ok, checkAccessor,
    checkMemberName_eq_ok, Condition.Holds]

theorem checkMembers_eq_error :
    checkMembers module = .error failure ↔ Violation module .membersNamed failure := by
  have herror : ∀ use, checkUse use = .error failure ↔
      isIdentifier use.name = false ∧ failure = .invalidIdentifier use.name use.role := by
    intro use
    unfold checkUse checkMemberName
    cases isIdentifier use.name <;> simp [eq_comm]
  rw [checkMembers_eq, checkAll_eq_error]
  constructor
  · rintro ⟨earlier, use, later, hsplit, hearlier, hfailure⟩
    obtain ⟨hname, rfl⟩ := (herror use).mp hfailure
    exact .noMember hsplit (fun other hother => checkMemberName_eq_ok.mp (hearlier other hother))
      hname
  · intro h
    cases h with
    | noMember hsplit hearlier hname =>
        refine ⟨_, _, _, hsplit, fun other hother => ?_, (herror _).mpr ⟨hname, rfl⟩⟩
        exact checkMemberName_eq_ok.mpr (hearlier other hother)

/-! ## The first condition that is not met -/

/-- The check of each condition. -/
def checkCondition (module : Module) : Condition → Except Failure Unit
  | .named => checkName module
  | .entrance => checkEntranceClass module
  | .distinctTasks => checkTaskNames module
  | .exposed => checkServiceTypes module
  | .classesNamed => checkClasses module
  | .membersNamed => checkMembers module

/-- The validation is one walk over the conditions in their order. -/
theorem validate_eq (module : Module) :
    module.validate = checkAll (checkCondition module) Condition.inOrder := by
  have hlast : (checkMembers module >>= fun _ => .ok ()) = checkMembers module :=
    checkAll_singleton (checkCondition module) .membersNamed
  simp only [Condition.inOrder, checkAll, checkCondition, hlast]
  rfl

theorem checkCondition_eq_ok {condition : Condition} :
    checkCondition module condition = .ok () ↔ condition.Holds module := by
  cases condition with
  | named => exact checkName_eq_ok
  | entrance => exact checkEntranceClass_eq_ok.trans hasEntrance_iff
  | distinctTasks => exact checkTaskNames_eq_ok
  | exposed => exact checkServiceTypes_eq_ok
  | classesNamed => exact checkClasses_eq_ok
  | membersNamed => exact checkMembers_eq_ok

/-- For each condition there is one kind of violation, so the cases are those of the
conditions. -/
theorem checkCondition_eq_error {condition : Condition} :
    checkCondition module condition = .error failure ↔ Violation module condition failure := by
  cases condition with
  | named => exact checkName_eq_error
  | entrance => exact checkEntranceClass_eq_error
  | distinctTasks => exact checkTaskNames_eq_error
  | exposed => exact checkServiceTypes_eq_error
  | classesNamed => exact checkClasses_eq_error
  | membersNamed => exact checkMembers_eq_error

/-- A module is accepted when it meets all conditions. Otherwise it fails with the
violation of the first condition that it does not meet. -/
theorem validate_eq_first_violation (module : Module) :
    (module.validate = .ok () ↔ ∀ condition : Condition, condition.Holds module)
      ∧ ∀ failure, module.validate = .error failure ↔
        ∃ earlier condition later, Condition.inOrder = earlier ++ condition :: later
          ∧ (∀ met ∈ earlier, met.Holds module) ∧ ¬ condition.Holds module
          ∧ Violation module condition failure := by
  have hcomplete : ∀ condition : Condition, condition ∈ Condition.inOrder := by
    intro condition
    cases condition <;> decide
  rw [validate_eq]
  refine ⟨?_, fun failure => ?_⟩
  · rw [checkAll_eq_ok]
    exact ⟨fun h condition => checkCondition_eq_ok.mp (h condition (hcomplete condition)),
      fun h condition _ => checkCondition_eq_ok.mpr (h condition)⟩
  · rw [checkAll_eq_error]
    simp only [checkCondition_eq_ok, checkCondition_eq_error]
    constructor
    · rintro ⟨earlier, condition, later, hsplit, hearlier, h⟩
      refine ⟨earlier, condition, later, hsplit, hearlier, fun hholds => ?_, h⟩
      have hfail := checkCondition_eq_error.mpr h
      rw [checkCondition_eq_ok.mpr hholds] at hfail
      cases hfail
    · rintro ⟨earlier, condition, later, hsplit, hearlier, -, h⟩
      exact ⟨earlier, condition, later, hsplit, hearlier, h⟩

/-- The activator stands for nothing either, but the repeated task name is told. -/
example :
    validate ⟨"m", "com.C", default, "", some "", none, none, [], [], [],
        ["a", "b", "b", "a"].map fun name => { name := name, className := "com.Action" }⟩
      = .error (.duplicateTaskName "m" "b") := by
  decide +kernel

end Module

end ModuleContainers.Metadata
