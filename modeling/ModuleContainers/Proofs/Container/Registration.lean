import ModuleContainers.Container.Registration
import ModuleContainers.Proofs.Container.Arguments
import ModuleContainers.Proofs.Java.Comment
import ModuleContainers.Proofs.Validation

/-!
# Outlines of registrations

The outlines of services, routes and tasks, and for each emitter the lemma that what it
emits reads as its outline.

An outline cannot fail: a class in it is what its text parses to (`classOf`). That the text
parses is known from the success of the emitter, which each lemma takes as its hypothesis
and takes apart in the order of the emitter. A class and a member name end in a word, so the
piece behind them must be seen to end it (`append_stop`). Descriptions are comments, so they
are not in the outlines.
-/

namespace ModuleContainers.Container

open ModuleContainers.Java (ClassName Fragment Outline TypeName code codeTokens hasIdentifierShape
  isIdentifierPart listed named number quoted reads_lineComments word)
open ModuleContainers.Java.Fragment (Reads ReadsLine opens_text readsLine_code readsLine_int
  readsLine_word reads_code reads_literal reads_text reads_type typeName)
open ModuleContainers.Lexical (Token)
open ModuleContainers.Metadata (Accessor Dependency Factory Output Route Service Task)
open Outcome (bind_eq_ok check_eq_ok mapError_eq_ok mapM_eq_ok pure_eq_ok)

variable {runtime : Runtime ClassName} {f : Fragment}

theorem wellFormed_objectClass : objectClass.WellFormed :=
  ⟨⟨["java", "lang"], by decide, by decide⟩, by decide⟩

theorem wellFormed_stringClass : stringClass.WellFormed :=
  ⟨⟨["java", "lang"], by decide, by decide⟩, by decide⟩

theorem wellFormed_classClass : classClass.WellFormed :=
  ⟨⟨["java", "lang"], by decide, by decide⟩, by decide⟩

/-! ## Services -/

/-- What makes a service, short of its arguments: a constructor, or a static method of the
class. -/
def factoryOutline (source : ClassName) : Factory → Outline
  | .constructor => code "() -> new " ++ named source
  | .staticMethod name => code "() -> " ++ named source ++ (code "." ++ word name)

/-- What the check of a name is worth here: a name that passes it is one token. -/
theorem shape_of_check {name role : String} (h : checkMemberName name role = .ok ()) :
    hasIdentifierShape name.toList = true :=
  Java.isIdentifier_shape (Metadata.Module.checkMemberName_eq_ok.mp h)

/-- The class before the method may end in a word, and the dot ends it. The method may too, so
the call is loose: its arguments come later, and start with a bracket. -/
theorem reads_factoryCall {source : ClassName} (hsource : source.WellFormed) {factory : Factory}
    (h : factoryCall source factory = .ok f) : f.Reads .loose (factoryOutline source factory) := by
  cases factory with
  | constructor =>
      obtain rfl := Except.ok.inj h
      exact (reads_code .sealed "() -> new " rfl).append (reads_type hsource)
  | staticMethod name =>
      obtain ⟨hname, h⟩ := check_eq_ok.mp h
      obtain rfl := pure_eq_ok.mp h
      have hline := (readsLine_code .sealed "." rfl).append (readsLine_word (shape_of_check hname))
      -- The dot is the first character whatever the method is called.
      have hstop := opens_text hline.line (by rw [String.toList_append]; rfl)
      have hmember := reads_text hline
      rw [List.map_append] at hmember
      exact ((reads_code .sealed "() -> " rfl).append (reads_type hsource)).append_stop hmember
        hstop

/-- The provider of a service. Only a singleton goes through the helper of the runtime. -/
def providerOutline (runtime : Runtime ClassName) (singleton : Bool) (call : Outline) : Outline :=
  if singleton then named runtime.builtins ++ code ".singletonProvider(" ++ call ++ code ")"
  else call

theorem reads_provider (hruntime : runtime.WellFormed) (singleton : Bool) {call : Outline}
    (h : f.Reads .loose call) :
    (provider runtime singleton f).Reads .loose (providerOutline runtime singleton call) := by
  unfold provider providerOutline
  split
  · have hbuiltins := reads_type (hruntime runtime.builtins (by simp [Runtime.toList]))
    exact (((hbuiltins.append_code ".singletonProvider(" rfl).append h).append_code ")" rfl).loosen
  · exact h

/-- The array of the descriptors that a provider relies on, in the order of the metadata. -/
def captureOutline (runtime : Runtime ClassName) (captured : List Dependency) : Outline :=
  if captured = [] then named runtime.builtins ++ code ".emptyAnyArray()"
  else
    code "new " ++ named objectClass ++ code "[]\x7b"
      ++ listed (captured.map (descriptorOutline runtime)) ++ code "\x7d"

theorem reads_captureArray (hruntime : runtime.WellFormed) {captured : List Dependency}
    {fs : List Fragment} (h : captured.mapM (descriptor runtime) = .ok fs) :
    (captureArray runtime fs).Reads .loose (captureOutline runtime captured) := by
  have hall := forall₂_reads (reads_descriptor hruntime) h
  -- The emitter asks whether there are fragments, the outline whether there are dependencies:
  -- there is one fragment for each.
  have hnil : fs = [] ↔ captured = [] := by
    have hlength := hall.length_eq
    rw [List.length_map] at hlength
    rw [← List.length_eq_zero_iff, hlength, List.length_eq_zero_iff]
  unfold captureArray captureOutline
  simp only [hnil]
  split
  · have hbuiltins := reads_type (hruntime runtime.builtins (by simp [Runtime.toList]))
    exact (hbuiltins.append_code ".emptyAnyArray()" rfl).loosen
  · exact reads_array wellFormed_objectClass "new " rfl (Reads.arguments hall)

def registerProviderOutline (serviceName serviceType : String) : Outline :=
  code (registryName ++ ".registerProviderService(") ++ classOutline (classOf serviceType)
    ++ code ", " ++ quoted serviceName ++ code ", p, this, dep);"

theorem reads_registerProvider {serviceName serviceType : String}
    (h : registerProvider serviceName serviceType = .ok f) :
    f.Reads .sealed (registerProviderOutline serviceName serviceType) := by
  obtain ⟨target, htarget, h⟩ := bind_eq_ok.mp h
  obtain ⟨rfl, hwf⟩ := classNamed_eq_ok htarget
  obtain rfl := pure_eq_ok.mp h
  have hcall := reads_code .sealed (registryName ++ ".registerProviderService(") rfl
  have harguments := ((hcall.append (reads_classLiteral hwf)).append_code ", " rfl).append
    (reads_literal serviceName)
  exact (harguments.append_code ", p, this, dep);" rfl).line

/-- The call that makes the value of a service, with its arguments. -/
def callOutline (service : Service) : Outline :=
  factoryOutline (classOf service.sourceClass) service.factory ++ code "("
    ++ listed (service.parameters.map (accessOutline .central)) ++ code ")"

/-- The block of a service. It has braces of its own, so that `p` and `dep` can be declared by
each of them. -/
def serviceOutline (runtime : Runtime ClassName) (service : Service) : Outline :=
  code "\x7b"
    ++ ((named runtime.provider ++ code "<? extends " ++ named (classOf service.returnType)
        ++ code "> p = " ++ providerOutline runtime service.singleton (callOutline service)
        ++ code ";")
      ++ (named objectClass ++ code "[] dep = " ++ captureOutline runtime service.allDependencies
        ++ code ";")
      ++ service.serviceTypes.flatMap (registerProviderOutline service.name))
    ++ code "\x7d"

/-- What can fail comes first, as in the emitter, and gives the classes and the pieces. The
lines of the block are then put together from the inside out; the description is a comment and
adds nothing. -/
theorem reads_serviceBlock (hruntime : runtime.WellFormed) {service : Service}
    (h : serviceBlock runtime service = .ok f) :
    f.Reads .sealed (serviceOutline runtime service) := by
  obtain ⟨returnType, hreturn, h⟩ := bind_eq_ok.mp h
  obtain ⟨source, hsource, h⟩ := bind_eq_ok.mp h
  obtain ⟨parameters, hparameters, h⟩ := bind_eq_ok.mp h
  obtain ⟨callee, hcallee, h⟩ := bind_eq_ok.mp h
  obtain ⟨captured, hcaptured, h⟩ := bind_eq_ok.mp h
  obtain ⟨registrations, hregistrations, h⟩ := bind_eq_ok.mp h
  obtain rfl := pure_eq_ok.mp h
  obtain ⟨rfl, hreturn⟩ := classNamed_eq_ok hreturn
  obtain ⟨rfl, hsource⟩ := classNamed_eq_ok hsource
  have hprovider := reads_type (hruntime runtime.provider (by simp [Runtime.toList]))
  have hcall := ((reads_factoryCall hsource hcallee).append_code "(" rfl).append
    (Reads.arguments (forall₂_reads reads_access hparameters))
  have hvalue := reads_provider hruntime service.singleton (hcall.append_code ")" rfl).loosen
  have htype := ((hprovider.append_code "<? extends " rfl).append (reads_type hreturn)).append_code
    "> p = " rfl
  have hdeclaration := ((htype.append hvalue).append_code ";" rfl).line
  have hobjects := (reads_type wellFormed_objectClass).append_code "[] dep = " rfl
  have hdep := ((hobjects.append (reads_captureArray hruntime hcaptured)).append_code ";" rfl).line
  have hregister := Reads.concat (forall₂_reads reads_registerProvider hregistrations)
  have hbody := (((reads_lineComments service.description).append hdeclaration).append hdep).append
    hregister
  have hopen := (reads_code .sealed "\x7b" rfl).line
  have hclose := (reads_code .sealed "\x7d" rfl).line
  rw [List.nil_append, ← List.flatMap_def] at hbody
  exact (hopen.append hbody.indented).append hclose

/-! ## Routes -/

def rulesOutline (rules : List String) : Outline :=
  code "new " ++ named stringClass ++ code "[]\x7b" ++ listed (rules.map quoted) ++ code "\x7d"

theorem reads_ruleArray (rules : List String) :
    (ruleArray rules).Reads .loose (rulesOutline rules) := by
  have hrules : List.Forall₂ (Reads .loose) (rules.map Fragment.literal) (rules.map quoted) := by
    simp [List.forall₂_map_left_iff, List.forall₂_map_right_iff, List.forall₂_same, reads_literal]
  exact reads_array wellFormed_stringClass "new " rfl (Reads.arguments hrules)

/-- The interceptors of a route, as class objects inside a lambda. -/
def interceptorOutline (runtime : Runtime ClassName) (interceptors : List String) : Outline :=
  if interceptors = [] then named runtime.builtins ++ code ".emptyArrayProvider()"
  else
    code "() -> new " ++ named classClass ++ code "[]\x7b"
      ++ listed (interceptors.map fun name => classOutline (classOf name)) ++ code "\x7d"

/-- Interceptors are joined as class objects and not emitted one by one, so the pieces are
compared in pairs with the names they come from. -/
theorem reads_interceptorProvider (hruntime : runtime.WellFormed) {interceptors : List String}
    (h : interceptorProvider runtime interceptors = .ok f) :
    f.Reads .loose (interceptorOutline runtime interceptors) := by
  unfold interceptorProvider at h
  unfold interceptorOutline
  split at h
  · next hnil =>
      obtain rfl := pure_eq_ok.mp h
      rw [if_pos hnil]
      have hbuiltins := reads_type (hruntime runtime.builtins (by simp [Runtime.toList]))
      exact (hbuiltins.append_code ".emptyArrayProvider()" rfl).loosen
  · next hnil =>
      obtain ⟨targets, htargets, h⟩ := bind_eq_ok.mp h
      obtain rfl := pure_eq_ok.mp h
      rw [if_neg hnil]
      have hitems : List.Forall₂ (Reads .loose) (targets.map Fragment.classLiteral)
          (interceptors.map fun name => classOutline (classOf name)) := by
        rw [List.forall₂_map_left_iff, List.forall₂_map_right_iff]
        refine (mapM_eq_ok.mp htargets).flip.imp fun target name htarget => ?_
        obtain ⟨rfl, hwf⟩ := classNamed_eq_ok htarget
        exact reads_classLiteral hwf
      exact reads_array wellFormed_classClass "() -> new " rfl (Reads.join hitems)

/-- The launcher of a route. Whether it is the default one is asked of the class, so two
spellings of it have the same outline. -/
def launcherOutline (runtime : Runtime ClassName) : Option String → Outline
  | none => named runtime.builtins ++ code ".stubLauncherProvider()"
  | some name =>
      if classOf name = runtime.defaultLauncher then
        named runtime.builtins ++ code ".stubLauncherProvider()"
      else code "() -> " ++ classOutline (classOf name)

theorem reads_launcherProvider (hruntime : runtime.WellFormed) {launcher : Option String}
    (h : launcherProvider runtime launcher = .ok f) :
    f.Reads .loose (launcherOutline runtime launcher) := by
  have hbuiltins := reads_type (hruntime runtime.builtins (by simp [Runtime.toList]))
  have hstub := (hbuiltins.append_code ".stubLauncherProvider()" rfl).loosen
  cases launcher with
  | none =>
      obtain rfl := pure_eq_ok.mp h
      exact hstub
  | some name =>
      obtain ⟨target, htarget, h⟩ := bind_eq_ok.mp h
      obtain ⟨rfl, hwf⟩ := classNamed_eq_ok htarget
      obtain rfl := pure_eq_ok.mp h
      rw [launcherOutline]
      split
      · exact hstub
      · exact (reads_code .sealed "() -> " rfl).append (reads_classLiteral hwf)

/-- The statement that registers a route, with the arguments of its bean in order. -/
def routeOutline (runtime : Runtime ClassName) (route : Route) : Outline :=
  code (registryName ++ ".registerRoutes(") ++ named runtime.builtins ++ code ".routesBean("
    ++ listed [quoted route.name, rulesOutline route.rules, quoted route.routeType,
      attributesOutline runtime route.attributes, interceptorOutline runtime route.interceptors,
      launcherOutline runtime route.launcher,
      code "() -> " ++ classOutline (classOf route.className), code "this"]
    ++ code "));"

theorem reads_routeStatement (hruntime : runtime.WellFormed) {route : Route}
    (h : routeStatement runtime route = .ok f) : f.Reads .sealed (routeOutline runtime route) := by
  obtain ⟨target, htarget, h⟩ := bind_eq_ok.mp h
  obtain ⟨interceptors, hinterceptors, h⟩ := bind_eq_ok.mp h
  obtain ⟨launcher, hlauncher, h⟩ := bind_eq_ok.mp h
  obtain rfl := pure_eq_ok.mp h
  obtain ⟨rfl, hwf⟩ := classNamed_eq_ok htarget
  have hbuiltins := reads_type (hruntime runtime.builtins (by simp [Runtime.toList]))
  have htarget := (reads_code .sealed "() -> " rfl).append (reads_classLiteral hwf)
  have harguments := Reads.arguments (.cons (reads_literal route.name) <|
    .cons (reads_ruleArray route.rules) <| .cons (reads_literal route.routeType) <|
    .cons (reads_attributeArray hruntime route.attributes) <|
    .cons (reads_interceptorProvider hruntime hinterceptors) <|
    .cons (reads_launcherProvider hruntime hlauncher) <| .cons htarget <|
    .cons (reads_code .loose "this" rfl) .nil)
  have hcall := reads_code .sealed (registryName ++ ".registerRoutes(") rfl
  have hbean := (hcall.append hbuiltins).append_code ".routesBean(" rfl
  exact (reads_lineComments route.description).append
    ((hbean.append harguments).append_code "));" rfl).line

/-! ## Tasks -/

/-- An output of a task announced under one of its types. -/
def announceOutline (taskName outputName serviceType : String) : Outline :=
  code (registryName ++ ".registerTaskOutputService(") ++ classOutline (classOf serviceType)
    ++ code ", " ++ quoted outputName ++ code ", this, " ++ quoted taskName ++ code ");"

def announceAllOutline (taskName : String) (output : Output) : Outline :=
  output.serviceTypes.flatMap (announceOutline taskName output.name)

theorem reads_announceOutput {taskName outputName serviceType : String}
    (h : announceOutput taskName outputName serviceType = .ok f) :
    f.Reads .sealed (announceOutline taskName outputName serviceType) := by
  obtain ⟨target, htarget, h⟩ := bind_eq_ok.mp h
  obtain ⟨rfl, hwf⟩ := classNamed_eq_ok htarget
  obtain rfl := pure_eq_ok.mp h
  have hcall := reads_code .sealed (registryName ++ ".registerTaskOutputService(") rfl
  have houtput := ((hcall.append (reads_classLiteral hwf)).append_code ", " rfl).append
    (reads_literal outputName)
  have htask := (houtput.append_code ", this, " rfl).append (reads_literal taskName)
  exact (htask.append_code ");" rfl).line

theorem reads_announceOutputs {taskName : String} {output : Output}
    (h : announceOutputs taskName output = .ok f) :
    f.Reads .sealed (announceAllOutline taskName output) := by
  obtain ⟨statements, hstatements, h⟩ := bind_eq_ok.mp h
  obtain rfl := pure_eq_ok.mp h
  exact Reads.concat (forall₂_reads reads_announceOutput hstatements)

/-- The tokens of the expression that reads an output from the action. -/
def accessorTokens : Accessor → List Token
  | .field name => codeTokens "action." ++ [.word name]
  | .method name => codeTokens "action." ++ [.word name] ++ codeTokens "()"

/-- The expression is text inside a line that the caller completes, so it is read as a line. -/
theorem readsLine_readOutput {accessor : Accessor} {value : String}
    (h : readOutput accessor = .ok value) : ReadsLine .loose value (accessorTokens accessor) := by
  cases accessor with
  | field name =>
      obtain ⟨hname, h⟩ := check_eq_ok.mp h
      obtain rfl := pure_eq_ok.mp h
      exact (readsLine_code .sealed "action." rfl).append (readsLine_word (shape_of_check hname))
  | method name =>
      obtain ⟨hname, h⟩ := check_eq_ok.mp h
      obtain rfl := pure_eq_ok.mp h
      exact (((readsLine_code .sealed "action." rfl).append
        (readsLine_word (shape_of_check hname))).append_code "()" rfl).loosen

/-- A letter and then letters and digits, whatever the position. -/
theorem shape_outputVariable (position : Nat) :
    hasIdentifierShape (outputVariable position).toList = true := by
  have hdigits : ∀ c ∈ (toString position).toList, isIdentifierPart c = true := fun c hc =>
    (Lexical.step_digit c (Lexical.mem_digits (Lexical.isDigit_of_mem_repr hc))).2.2
  have hchars : (outputVariable position).toList
      = 'v' :: ('a' :: 'r' :: (toString position).toList) := by
    rw [outputVariable, String.toList_append]
    rfl
  rw [hchars, hasIdentifierShape, List.all_cons, List.all_cons, List.all_eq_true.mpr hdigits]
  decide

/-- The numbered variables take no name that starts otherwise, such as those of the other locals
of a callback. -/
theorem outputVariable_ne {name : String} (h : name.toList.take 3 ≠ "var".toList)
    (position : Nat) : outputVariable position ≠ name := by
  rintro rfl
  refine h ?_
  rw [outputVariable, String.toList_append]
  rfl

/-- An output published under one of its types, from the variable that holds it. -/
def publishOutline (outputName holder serviceType : String) : Outline :=
  code "task.getOutputs().output(" ++ classOutline (classOf serviceType) ++ code ", "
    ++ quoted outputName ++ (code ", " ++ word holder ++ code ");")

theorem reads_publishOutput {outputName holder serviceType : String}
    (hholder : hasIdentifierShape holder.toList = true)
    (h : publishOutput outputName holder serviceType = .ok f) :
    f.Reads .sealed (publishOutline outputName holder serviceType) := by
  obtain ⟨target, htarget, h⟩ := bind_eq_ok.mp h
  obtain ⟨rfl, hwf⟩ := classNamed_eq_ok htarget
  obtain rfl := pure_eq_ok.mp h
  have hline := ((readsLine_code .sealed ", " rfl).append (readsLine_word hholder)).append_code
    ");" rfl
  -- The text has a name in it, so it is read as a line; a comma is its first character.
  have hstop := opens_text hline.line (by rw [String.toList_append, String.toList_append]; rfl)
  have hclose := reads_text hline
  rw [List.map_append, List.map_append] at hclose
  have hcall := reads_code .sealed "task.getOutputs().output(" rfl
  have harguments := ((hcall.append (reads_classLiteral hwf)).append_code ", " rfl).append
    (reads_literal outputName)
  exact (harguments.append_stop hclose hstop).line

/-- The type of a variable. A text that is no type has no tokens, and is never emitted. -/
def typeOutline (name : String) : Outline :=
  match TypeName.parse name with
  | .ok (.primitive keyword) => word keyword
  | .ok (.reference target) => named target
  | .error _ => []

theorem mem_primitives_of_parse {name keyword : String}
    (h : TypeName.parse name = .ok (.primitive keyword)) : keyword ∈ TypeName.primitives := by
  simp only [TypeName.parse] at h
  split at h
  · next hprimitive =>
      obtain rfl := TypeName.primitive.inj (Except.ok.inj h)
      exact hprimitive
  · obtain ⟨target, -, heq⟩ := Outcome.map_eq_ok.mp h
    cases heq

/-- The keywords of primitive types are words as well, which is decided for the few that there
are. -/
theorem reads_typeName {name : String} {variableType : TypeName}
    (h : typeNamed name = .ok variableType) :
    (typeName variableType).Reads .loose (typeOutline name) := by
  have hparse : TypeName.parse name = .ok variableType := mapError_eq_ok.mp h
  rw [typeOutline, hparse]
  simp only [TypeName.parse] at hparse
  split at hparse
  · next hprimitive =>
      obtain rfl := Except.ok.inj hparse
      have htable : ∀ keyword ∈ TypeName.primitives, hasIdentifierShape keyword.toList = true := by
        decide
      exact reads_text (readsLine_word (htable _ hprimitive))
  · obtain ⟨target, htarget, rfl⟩ := Outcome.map_eq_ok.mp hparse
    exact reads_type (ClassName.wellFormed_of_parse htarget)

/-- An output read once into its variable, and published from it under all its types. -/
def publishAllOutline (output : Output) (position : Nat) : Outline :=
  typeOutline output.returnType
    ++ (code " " ++ word (outputVariable position) ++ code " = "
      ++ (accessorTokens output.accessor).map .token ++ code ";")
    ++ output.serviceTypes.flatMap (publishOutline output.name (outputVariable position))

theorem reads_publishOutputs {output : Output} {position : Nat}
    (h : publishOutputs output position = .ok f) :
    f.Reads .sealed (publishAllOutline output position) := by
  obtain ⟨value, hvalue, h⟩ := bind_eq_ok.mp h
  obtain ⟨variableType, htype, h⟩ := bind_eq_ok.mp h
  obtain ⟨statements, hstatements, h⟩ := bind_eq_ok.mp h
  obtain rfl := pure_eq_ok.mp h
  have hshape := shape_outputVariable position
  have htarget := ((readsLine_code .sealed " " rfl).append (readsLine_word hshape)).append_code
    " = " rfl
  have hline := (htarget.append (readsLine_readOutput hvalue)).append_code ";" rfl
  have hstop := opens_text hline.line (by simp only [String.toList_append]; rfl)
  have hassign := reads_text hline
  simp only [List.map_append] at hassign
  have hpublish := Reads.concat (forall₂_reads (reads_publishOutput hshape) hstatements)
  exact ((reads_typeName htype).append_stop hassign hstop).line.append hpublish

/-- Outputs with their positions, which number the variables. -/
def publishFromOutline : Nat → List Output → Outline
  | _, [] => []
  | position, output :: rest =>
      publishAllOutline output position ++ publishFromOutline (position + 1) rest

theorem reads_publishFrom {outputs : List Output} {position : Nat}
    (h : publishFrom position outputs = .ok f) :
    f.Reads .sealed (publishFromOutline position outputs) := by
  induction outputs generalizing position f with
  | nil =>
      obtain rfl := Except.ok.inj h
      exact Fragment.reads_nil
  | cons output rest ih =>
      obtain ⟨statements, hstatements, h⟩ := bind_eq_ok.mp h
      obtain ⟨more, hmore, h⟩ := bind_eq_ok.mp h
      obtain rfl := pure_eq_ok.mp h
      exact (reads_publishOutputs hstatements).append (ih hmore)

def executeOutline (action : ClassName) (parameters : List Outline) : Outline :=
  (named action ++ code " action = new " ++ named action ++ code "(" ++ listed parameters
      ++ code ");")
    ++ code "action.execute(task);"

theorem reads_executeAction {action : ClassName} (haction : action.WellFormed)
    {parameters : List Fragment} {outlines : List Outline}
    (h : List.Forall₂ (Reads .loose) parameters outlines) :
    (executeAction action parameters).Reads .sealed (executeOutline action outlines) := by
  have hnew := ((reads_type haction).append_code " action = new " rfl).append
    (reads_type haction)
  have hcall := ((hnew.append_code "(" rfl).append (Reads.arguments h)).append_code ");" rfl
  exact hcall.line.append (reads_code .sealed "action.execute(task);" rfl).line

/-- What a task waits for. A task that waits for nothing has no such call. -/
def dependsOnOutline (descriptors : List Outline) : Outline :=
  if descriptors = [] then [] else code ".dependsOn(" ++ listed descriptors ++ code ")"

theorem reads_dependsOn {descriptors : List Fragment} {outlines : List Outline}
    (h : List.Forall₂ (Reads .loose) descriptors outlines) :
    (dependsOn descriptors).Reads .sealed (dependsOnOutline outlines) := by
  cases h with
  | nil => exact Fragment.reads_nil
  | cons hfirst hrest =>
      exact (((reads_code .sealed ".dependsOn(" rfl).append
        (Reads.arguments (.cons hfirst hrest))).append_code ")" rfl).line

/-- What a task does when it runs, in the callback that it is registered with. -/
def actionOutline (task : Task) : Outline :=
  executeOutline (classOf task.className) (task.parameters.map (accessOutline .taskServices))
    ++ publishFromOutline 0 task.outputs ++ code "return null;"

/-- The statements of a task: its outputs are announced, then it is registered. -/
def taskOutline (runtime : Runtime ClassName) (task : Task) : Outline :=
  task.outputs.flatMap (announceAllOutline task.name)
    ++ (code (tasksName ++ ".register(") ++ quoted task.name ++ code ", (builder) -> \x7b")
    ++ ((code "builder.threadMode(" ++ constantOutline runtime.threadMode task.threadMode
        ++ code ")")
      ++ ((code ".priority(" ++ number task.priority.toInt ++ code ")")
        ++ dependsOnOutline (task.allDependencies.map (descriptorOutline runtime))
        ++ code ".doLast((task) -> \x7b" ++ actionOutline task ++ code "\x7d);")
      ++ code "return null;")
    ++ code "\x7d);"

/-- A task is registered by two lambdas, one in the other, and each of them is indented.
Indentation does not show in the tokens (`Reads.indented`), so the proof goes along the
emitter. -/
theorem reads_taskStatements (hruntime : runtime.WellFormed) {task : Task}
    (h : taskStatements runtime task = .ok f) : f.Reads .sealed (taskOutline runtime task) := by
  obtain ⟨action, haction, h⟩ := bind_eq_ok.mp h
  obtain ⟨announcements, hannouncements, h⟩ := bind_eq_ok.mp h
  obtain ⟨descriptors, hdescriptors, h⟩ := bind_eq_ok.mp h
  obtain ⟨parameters, hparameters, h⟩ := bind_eq_ok.mp h
  obtain ⟨publications, hpublications, h⟩ := bind_eq_ok.mp h
  obtain rfl := pure_eq_ok.mp h
  obtain ⟨rfl, haction⟩ := classNamed_eq_ok haction
  have hannounce := Reads.concat (forall₂_reads reads_announceOutputs hannouncements)
  rw [← List.flatMap_def] at hannounce
  have hregister := (((reads_code .sealed (tasksName ++ ".register(") rfl).append
    (reads_literal task.name)).append_code ", (builder) -> \x7b" rfl).line
  have hmode := (((reads_code .sealed "builder.threadMode(" rfl).append
    (reads_threadMode hruntime task.threadMode)).append_code ")" rfl).line
  have hpriority : (Fragment.line (Fragment.text
        (".priority(" ++ toString task.priority.toInt ++ ")"))).Reads .sealed
      (code ".priority(" ++ number task.priority.toInt ++ code ")") := by
    have hline := ((readsLine_code .sealed ".priority(" rfl).append
      (readsLine_int task.priority.toInt)).append_code ")" rfl
    have htext := reads_text hline
    rw [List.map_append, List.map_append] at htext
    exact htext.line
  have hdepends := reads_dependsOn (forall₂_reads (reads_descriptor hruntime) hdescriptors)
  have hexecute := reads_executeAction haction (forall₂_reads reads_access hparameters)
  have hreturn := (reads_code .sealed "return null;" rfl).line
  have hlambda := (reads_code .sealed ".doLast((task) -> \x7b" rfl).line
  have hend := (reads_code .sealed "\x7d);" rfl).line
  have haction := (hexecute.append (reads_publishFrom hpublications)).append hreturn
  have hcalls := (((hpriority.append hdepends).append hlambda).append haction.indented).append hend
  have hbody := (hmode.append hcalls.indented.indented).append hreturn
  exact ((hannounce.append hregister).append hbody.indented).append hend

end ModuleContainers.Container
