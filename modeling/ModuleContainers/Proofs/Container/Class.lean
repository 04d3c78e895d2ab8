import ModuleContainers.Container.Class
import ModuleContainers.Proofs.Container.Javadoc
import ModuleContainers.Proofs.Container.Registration

/-!
# The outline of a container class

The members of a container class and the class itself. A member that is not there has the
empty outline, so the outline of the class is a concatenation whatever the module has.

Optional members are lists of at most one fragment in the emitter. `members_eq_ok` says so
once, and the lemmas about the members of a class start from it.
-/

namespace ModuleContainers.Container

open ModuleContainers.Java (ClassName CompilationUnit Fragment IsPath Outline code isIdentifier
  listed named number quoted word)
open ModuleContainers.Java.Fragment (Reads line readsLine_code readsLine_int readsLine_word
  reads_code reads_literal reads_text reads_type text type)
open ModuleContainers.Metadata (Module Task)
open Outcome (bind_eq_ok map_eq_ok mapM_eq_ok pure_eq_ok)

variable {runtime : Runtime ClassName} {f : Fragment}

/-! ## The constructor -/

/-- The options of a hook, which waits for its parameters as well or only for its other
dependencies. -/
def hookOutline (runtime : Runtime ClassName) (hook : Option Task) (withParameters : Bool) :
    Outline :=
  match hook with
  | none => code "null"
  | some task =>
      let dependencies := if withParameters then task.allDependencies else task.dependencies
      code "new " ++ named runtime.moduleTaskOptions ++ code "("
        ++ listed ([quoted task.name, number task.priority.toInt,
          constantOutline runtime.threadMode task.threadMode]
            ++ dependencies.map (descriptorOutline runtime))
        ++ code ")"

/-- The priority is written out as text; its tokens are those of a number. -/
theorem reads_hookOptions (hruntime : runtime.WellFormed) {hook : Option Task}
    {withParameters : Bool} (h : hookOptions runtime hook withParameters = .ok f) :
    f.Reads .loose (hookOutline runtime hook withParameters) := by
  cases hook with
  | none =>
      obtain rfl := pure_eq_ok.mp h
      exact reads_code .loose "null" rfl
  | some task =>
      obtain ⟨descriptors, hdescriptors, h⟩ := bind_eq_ok.mp h
      obtain rfl := pure_eq_ok.mp h
      have hoptions := reads_type (hruntime runtime.moduleTaskOptions (by simp [Runtime.toList]))
      have harguments := Reads.arguments (.cons (reads_literal task.name) <|
        .cons (reads_text (readsLine_int task.priority.toInt)) <|
        .cons (reads_threadMode hruntime task.threadMode) <|
        forall₂_reads (reads_descriptor hruntime) hdescriptors)
      have hopen := ((reads_code .sealed "new " rfl).append hoptions).append_code "(" rfl
      exact ((hopen.append harguments).append_code ")" rfl).loosen

/-- The description that the base class is given: the hook after creation counts its parameters
only where no hook before creation does. -/
def dataOutline (runtime : Runtime ClassName) (module : Module) : Outline :=
  code "new " ++ named runtime.moduleData ++ code "("
    ++ listed [quoted module.name, constantOutline runtime.bootstrapMode module.bootstrapMode,
      hookOutline runtime module.onCreate true,
      hookOutline runtime module.onPostCreate module.onCreate.isNone,
      attributesOutline runtime module.attributes]
    ++ code ")"

def constructorOutline (runtime : Runtime ClassName) (module : Module) (typeName : String) :
    Outline :=
  (code "public " ++ word typeName ++ code "() \x7b")
    ++ (code "super(" ++ dataOutline runtime module ++ code ");") ++ code "\x7d"

theorem reads_constructorMember (hruntime : runtime.WellFormed) {module : Module}
    {typeName : String} (hname : isIdentifier typeName = true)
    (h : constructorMember runtime module typeName = .ok f) :
    f.Reads .sealed (constructorOutline runtime module typeName) := by
  obtain ⟨before, hbefore, h⟩ := bind_eq_ok.mp h
  obtain ⟨after, hafter, h⟩ := bind_eq_ok.mp h
  obtain rfl := pure_eq_ok.mp h
  have hclass := reads_type (hruntime runtime.moduleData (by simp [Runtime.toList]))
  have harguments := Reads.arguments (.cons (reads_literal module.name) <|
    .cons (reads_bootstrapMode hruntime module.bootstrapMode) <|
    .cons (reads_hookOptions hruntime hbefore) <| .cons (reads_hookOptions hruntime hafter) <|
    .cons (reads_attributeArray hruntime module.attributes) .nil)
  have hopen := ((reads_code .sealed "new " rfl).append hclass).append_code "(" rfl
  have hdata := (hopen.append harguments).append_code ")" rfl
  have hsuper := (((reads_code .sealed "super(" rfl).append hdata).append_code ");" rfl).line
  have hsignature := reads_text (((readsLine_code .sealed "public " rfl).append
    (readsLine_word (Java.isIdentifier_shape hname))).append_code "() \x7b" rfl)
  rw [List.map_append, List.map_append] at hsignature
  exact (hsignature.line.append hsuper.indented).append (reads_code .sealed "\x7d" rfl).line

/-! ## The activator -/

/-- The activator of the module, where it has one of its own. The outline asks this of the text,
since the activator decides which members there are. -/
def activatorOf (runtime : Runtime ClassName) (module : Module) : Option ClassName :=
  match module.activatorClass with
  | none => none
  | some name => if classOf name = runtime.defaultActivator then none else some (classOf name)

/-- The emitter finds the same activator, and where it finds one its text has been read. -/
theorem customActivator_eq_ok {module : Module} {activator : Option ClassName}
    (h : customActivator runtime module = .ok activator) :
    activator = activatorOf runtime module ∧ ∀ c, activator = some c → c.WellFormed := by
  unfold customActivator at h
  unfold activatorOf
  cases hname : module.activatorClass with
  | none =>
      rw [hname] at h
      obtain rfl := pure_eq_ok.mp h
      exact ⟨rfl, fun c hc => by cases hc⟩
  | some name =>
      rw [hname] at h
      obtain ⟨target, htarget, h⟩ := bind_eq_ok.mp h
      obtain ⟨rfl, hwf⟩ := classNamed_eq_ok htarget
      obtain rfl := pure_eq_ok.mp h
      refine ⟨rfl, fun c hc => ?_⟩
      split at hc
      · cases hc
      · obtain rfl := Option.some.inj hc
        exact hwf

def overridingOutline (signature body : Outline) : Outline :=
  (code "@" ++ named overrideAnnotation) ++ (code "public " ++ signature ++ code " \x7b") ++ body
    ++ code "\x7d"

theorem wellFormed_overrideAnnotation : overrideAnnotation.WellFormed :=
  ⟨⟨["java", "lang"], by decide, by decide⟩, by decide⟩

theorem reads_overridingMethod {signature body : Fragment} {a b : Outline}
    (hsignature : signature.Reads .sealed a) (hbody : body.Reads .sealed b) :
    (overridingMethod signature body).Reads .sealed (overridingOutline a b) := by
  have hoverride := ((reads_code .sealed "@" rfl).append
    (reads_type wellFormed_overrideAnnotation)).line
  have hopen := (((reads_code .sealed "public " rfl).append hsignature).append
    (reads_code .sealed " \x7b" rfl)).line
  exact ((hoverride.append hopen).append hbody.indented).append (reads_code .sealed "\x7d" rfl).line

/-- The method that makes the activator, out of the parameters of the hook before creation. -/
def activatorOutline (runtime : Runtime ClassName) (module : Module) (activator : ClassName) :
    Outline :=
  let parameters := (module.onCreate.map Task.parameters).getD []
  overridingOutline
    (named runtime.moduleActivator ++ code " createActivator(" ++ named runtime.serviceCentral
      ++ code (" " ++ centralName ++ ")"))
    (code "return new " ++ named activator ++ code "("
      ++ listed (parameters.map (accessOutline .central)) ++ code ");")

/-- No hook before creation is the same as one without parameters. -/
theorem activatorMember_eq_ok {module : Module} {activator : ClassName}
    (h : activatorMember runtime module activator = .ok f) :
    ∃ parameters,
      ((module.onCreate.map Task.parameters).getD []).mapM (access .central) = .ok parameters
        ∧ f = overridingMethod
          (type runtime.moduleActivator ++ text " createActivator(" ++ type runtime.serviceCentral
            ++ text (" " ++ centralName ++ ")"))
          (line (text "return new " ++ type activator ++ text "(" ++ Fragment.arguments parameters
            ++ text ");")) := by
  unfold activatorMember at h
  cases hhook : module.onCreate with
  | none =>
      rw [hhook] at h
      obtain ⟨parameters, hparameters, h⟩ := bind_eq_ok.mp h
      exact ⟨parameters, hparameters, (pure_eq_ok.mp h).symm⟩
  | some task =>
      rw [hhook] at h
      obtain ⟨parameters, hparameters, h⟩ := bind_eq_ok.mp h
      exact ⟨parameters, hparameters, (pure_eq_ok.mp h).symm⟩

theorem reads_activatorMember (hruntime : runtime.WellFormed) {module : Module}
    {activator : ClassName} (hactivator : activator.WellFormed)
    (h : activatorMember runtime module activator = .ok f) :
    f.Reads .sealed (activatorOutline runtime module activator) := by
  obtain ⟨parameters, hparameters, rfl⟩ := activatorMember_eq_ok h
  have hall := forall₂_reads reads_access hparameters
  have hbase := reads_type (hruntime runtime.moduleActivator (by simp [Runtime.toList]))
  have hcentral := reads_type (hruntime runtime.serviceCentral (by simp [Runtime.toList]))
  have hsignature := ((hbase.append_code " createActivator(" rfl).append hcentral).append_code
    (" " ++ centralName ++ ")") rfl
  have hnew := (reads_code .sealed "return new " rfl).append (reads_type hactivator)
  have hbody :=
    (((hnew.append_code "(" rfl).append (Reads.arguments hall)).append_code ");" rfl).line
  exact reads_overridingMethod hsignature hbody

/-! ## The registrations -/

/-- The services, behind the variable they are fetched from. Without services there is no such
variable. -/
def serviceSectionOutline (runtime : Runtime ClassName) (module : Module) : Outline :=
  if module.services = [] then []
  else
    (named runtime.serviceCentral
        ++ code (" " ++ centralName ++ " = " ++ registryName ++ ".deferred();"))
      ++ module.services.flatMap (serviceOutline runtime)

/-- The emitter leaves early without services, hence the two cases; in the other one the blocks
follow the declaration. -/
theorem reads_serviceSection (hruntime : runtime.WellFormed) {module : Module}
    (h : serviceSection runtime module = .ok f) :
    f.Reads .sealed (serviceSectionOutline runtime module) := by
  unfold serviceSection at h
  unfold serviceSectionOutline
  split at h
  · next hnil =>
      obtain rfl := pure_eq_ok.mp h
      rw [if_pos hnil]
      exact Fragment.reads_nil
  · next hnil =>
      obtain ⟨blocks, hblocks, h⟩ := bind_eq_ok.mp h
      obtain rfl := pure_eq_ok.mp h
      rw [if_neg hnil]
      have hcentral := reads_type (hruntime runtime.serviceCentral (by simp [Runtime.toList]))
      have hdeclaration := (hcentral.append_code
        (" " ++ centralName ++ " = " ++ registryName ++ ".deferred();") rfl).line
      exact hdeclaration.append (Reads.concat (forall₂_reads (reads_serviceBlock hruntime) hblocks))

/-- What the method that registers has in it, services first. -/
def registrationsOutline (runtime : Runtime ClassName) (module : Module) : Outline :=
  serviceSectionOutline runtime module ++ module.routes.flatMap (routeOutline runtime)
    ++ module.tasks.flatMap (taskOutline runtime)

def registerOutline (runtime : Runtime ClassName) (module : Module) : Outline :=
  overridingOutline
    (code "void onRegister(" ++ named runtime.registry ++ code (" " ++ registryName ++ ", ")
      ++ named runtime.taskContainer ++ code (" " ++ tasksName ++ ")"))
    (registrationsOutline runtime module)

/-- The three sections are joined with blank lines between them, and an empty section leaves
none. Blank lines are no tokens, so the outline is the concatenation either way. -/
theorem reads_registerMember (hruntime : runtime.WellFormed) {module : Module}
    (h : registerMember runtime module = .ok f) :
    f.Reads .sealed (registerOutline runtime module) := by
  obtain ⟨services, hservices, h⟩ := bind_eq_ok.mp h
  obtain ⟨routes, hroutes, h⟩ := bind_eq_ok.mp h
  obtain ⟨tasks, htasks, h⟩ := bind_eq_ok.mp h
  obtain rfl := pure_eq_ok.mp h
  have hregistry := reads_type (hruntime runtime.registry (by simp [Runtime.toList]))
  have hcontainer := reads_type (hruntime runtime.taskContainer (by simp [Runtime.toList]))
  have hfirst := ((reads_code .sealed "void onRegister(" rfl).append hregistry).append_code
    (" " ++ registryName ++ ", ") rfl
  have hsignature := (hfirst.append hcontainer).append_code (" " ++ tasksName ++ ")") rfl
  have hbody := Reads.joinBlocks (.cons (reads_serviceSection hruntime hservices) <|
    .cons (Reads.concat (forall₂_reads (reads_routeStatement hruntime) hroutes)) <|
    .cons (Reads.concat (forall₂_reads (reads_taskStatements hruntime) htasks)) .nil)
  have heq : [serviceSectionOutline runtime module,
      (module.routes.map (routeOutline runtime)).flatten,
      (module.tasks.map (taskOutline runtime)).flatten].flatten
        = registrationsOutline runtime module := by
    simp [registrationsOutline, List.flatMap_def]
  rw [heq] at hbody
  exact reads_overridingMethod hsignature hbody

/-! ## The class -/

def membersOutline (runtime : Runtime ClassName) (module : Module) (typeName : String) : Outline :=
  constructorOutline runtime module typeName
    ++ (activatorOf runtime module).elim [] (activatorOutline runtime module)
    ++ (if module.hasRegistrations then registerOutline runtime module else [])

/-- Of the methods each is there once or not at all. -/
theorem members_eq_ok {module : Module} {typeName : String} {fs : List Fragment}
    (h : members runtime module typeName = .ok fs) :
    ∃ constructor custom activator registrations,
      constructorMember runtime module typeName = .ok constructor
        ∧ customActivator runtime module = .ok custom
        ∧ custom.toList.mapM (activatorMember runtime module) = .ok activator
        ∧ (if module.hasRegistrations then [module] else []).mapM (registerMember runtime)
          = .ok registrations
        ∧ fs = [constructor] ++ activator ++ registrations := by
  unfold members at h
  obtain ⟨constructor, hconstructor, h⟩ := bind_eq_ok.mp h
  obtain ⟨custom, hcustom, h⟩ := bind_eq_ok.mp h
  -- The emitter goes on in the same way after each of its two matches; the rest of it is written
  -- out here once, so that the cases can be told apart one after the other.
  obtain ⟨activator, hactivator, h⟩ : ∃ activator,
      custom.toList.mapM (activatorMember runtime module) = .ok activator
        ∧ (if module.hasRegistrations then do
            let registrations ← (registerMember runtime module).map fun member => [member]
            pure ([constructor] ++ activator ++ registrations)
          else do
            let registrations ← Except.ok []
            pure ([constructor] ++ activator ++ registrations)) = .ok fs := by
    cases custom with
    | none => exact ⟨[], rfl, h⟩
    | some target =>
        obtain ⟨activator, hactivator, h⟩ := bind_eq_ok.mp h
        obtain ⟨member, hmember, rfl⟩ := map_eq_ok.mp hactivator
        exact ⟨[member], mapM_eq_ok.mpr (.cons hmember .nil), h⟩
  split at h
  · next hsome =>
      obtain ⟨registrations, hregistrations, h⟩ := bind_eq_ok.mp h
      obtain ⟨member, hmember, rfl⟩ := map_eq_ok.mp hregistrations
      refine ⟨constructor, custom, activator, [member], hconstructor, hcustom, hactivator, ?_,
        (pure_eq_ok.mp h).symm⟩
      rw [if_pos hsome]
      exact mapM_eq_ok.mpr (.cons hmember .nil)
  · next hnone =>
      refine ⟨constructor, custom, activator, [], hconstructor, hcustom, hactivator, ?_,
        (Except.ok.inj h).symm⟩
      rw [if_neg hnone]
      rfl

/-- There is one list of fragments for the constructor, one for the activator and one for the
registrations, each of them paired with its outlines. -/
theorem reads_members (hruntime : runtime.WellFormed) {module : Module} {typeName : String}
    (hname : isIdentifier typeName = true) {fs : List Fragment}
    (h : members runtime module typeName = .ok fs) :
    (Fragment.joinBlocks fs).Reads .sealed (membersOutline runtime module typeName) := by
  obtain ⟨constructor, custom, activator, registrations, hconstructor, hcustom, hactivator,
    hregistrations, rfl⟩ := members_eq_ok h
  obtain ⟨rfl, hwf⟩ := customActivator_eq_ok hcustom
  have hfirst := reads_constructorMember hruntime hname hconstructor
  have hsecond : List.Forall₂ (Reads .sealed) activator
      ((activatorOf runtime module).toList.map (activatorOutline runtime module)) := by
    cases hof : activatorOf runtime module with
    | none =>
        rw [hof] at hactivator
        obtain rfl := pure_eq_ok.mp hactivator
        exact .nil
    | some target =>
        rw [hof] at hactivator
        cases mapM_eq_ok.mp hactivator with
        | cons hmember hnone =>
            cases hnone
            exact .cons (reads_activatorMember hruntime (hwf target hof) hmember) .nil
  have hlast : List.Forall₂ (Reads .sealed) registrations
      ((if module.hasRegistrations then [module] else []).map (registerOutline runtime)) :=
    forall₂_reads (reads_registerMember hruntime) hregistrations
  have hall := Reads.joinBlocks (.cons hfirst (List.rel_append hsecond hlast))
  have heq : (constructorOutline runtime module typeName
        :: ((activatorOf runtime module).toList.map (activatorOutline runtime module)
          ++ (if module.hasRegistrations then [module] else []).map
            (registerOutline runtime))).flatten
      = membersOutline runtime module typeName := by
    unfold membersOutline
    cases activatorOf runtime module <;> split <;> simp
  rw [← heq]
  exact hall

/-- The package and the type of a module's class can be written as they are,
because together they are read as a class. -/
theorem entrance_eq_ok {module : Module} {package typeName : String}
    (h : entrance module = .ok (package, typeName)) :
    IsPath package ∧ isIdentifier typeName = true := by
  unfold entrance at h
  split at h
  · cases h
  · next package' typeName' hparts =>
      split at h
      · cases h
      · obtain ⟨c, hclass, heq⟩ := map_eq_ok.mp h
        obtain ⟨rfl, rfl⟩ := Prod.mk.inj heq
        obtain ⟨⟨before, after⟩, hcut, heq⟩ := Option.map_eq_some_iff.mp hparts
        obtain ⟨rfl, rfl⟩ := Prod.mk.inj heq
        have hread := ClassName.parse_eq_ok.mp (parse_of_mapError hclass)
        have hall : ∀ segment ∈ before.splitOn '.' ++ [after],
            isIdentifier (String.ofList segment) = true := fun segment hmem =>
          ClassName.isIdentifier_of_mem_segments hread (Text.splitOn_of_cutLast hcut ▸ hmem)
        constructor
        · intro part hpart
          obtain ⟨segment, hsegment, rfl⟩ := List.mem_map.mp hpart
          rw [String.toList_ofList] at hsegment
          exact hall segment (List.mem_append_left _ hsegment)
        · exact hall after (List.mem_append_right _ (List.mem_singleton_self _))

/-- What the emitter takes for package and type are the two parts of the name. -/
theorem entranceParts_of_entrance {module : Module} {parts : String × String}
    (h : entrance module = .ok parts) : module.entranceParts = some parts := by
  unfold entrance at h
  split at h
  · cases h
  · next package name hparts =>
      split at h
      · cases h
      · obtain ⟨_, -, rfl⟩ := map_eq_ok.mp h
        exact hparts

/-- The class. Its comment is no token, so the class starts with its first modifier. -/
def bodyOutline (runtime : Runtime ClassName) (module : Module) (typeName : String) : Outline :=
  (code "public class " ++ word typeName ++ code " extends " ++ named runtime.moduleContainer
      ++ code " \x7b")
    ++ membersOutline runtime module typeName ++ code "\x7d"

/-- What a success of the emitter says of the file: names that can be written, and the outline
of the body. -/
theorem reads_unit (hruntime : runtime.WellFormed) {banner : String} {module : Module}
    {file : CompilationUnit} (h : unit runtime banner module = .ok file) :
    IsPath file.package ∧ isIdentifier file.typeName = true
      ∧ entrance module = .ok (file.package, file.typeName)
      ∧ file.body.Reads .sealed (bodyOutline runtime module file.typeName) := by
  obtain ⟨⟨package, typeName⟩, hentrance, h⟩ := bind_eq_ok.mp h
  obtain ⟨fs, hmembers, h⟩ := bind_eq_ok.mp h
  obtain rfl := pure_eq_ok.mp h
  obtain ⟨hpackage, hname⟩ := entrance_eq_ok hentrance
  refine ⟨hpackage, hname, hentrance, ?_⟩
  have hbase := reads_type (hruntime runtime.moduleContainer (by simp [Runtime.toList]))
  have hsignature := reads_text (((readsLine_code .sealed "public class " rfl).append
    (readsLine_word (Java.isIdentifier_shape hname))).append_code " extends " rfl)
  rw [List.map_append, List.map_append] at hsignature
  have hopen := ((hsignature.append hbase).append_code " \x7b" rfl).line
  exact (((reads_javadoc banner module).append hopen).append
    (reads_members hruntime hname hmembers).indented).append (reads_code .sealed "\x7d" rfl).line

end ModuleContainers.Container
