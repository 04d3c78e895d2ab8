import ModuleContainers.Proofs.Container.Completeness
import ModuleContainers.Proofs.Container.Phrases
import ModuleContainers.Proofs.Container.RegisterMethod
import ModuleContainers.Proofs.Container.RegistrationWalk

/-!
# What a container registers, and in which order

A container class registers services, routes and tasks in one method. Its
statements are looked at in the source: the ones that register something are
exactly the ones that the metadata asks for, one for each, in the order of the
declarations (`registrations_eq`).

The argument goes along the outlines. All that is nested in a registration, or
stands between two of them, is inert, and the rest of the class has no method that
gives nothing back.
-/

namespace ModuleContainers.Container

open ModuleContainers.Java (ClassName Outline code codeTokens listed named number quoted word)
open ModuleContainers.Lexical (Token pathTokens statementsFrom)
open ModuleContainers.Metadata (Accessor Dependency Factory Module Output Route Service Task)

/-! ## What is registered -/

/-- Something that a container registers. -/
inductive Registration where
  | provider (serviceType serviceName : String)
  | routes (name : String)
  | output (serviceType outputName taskName : String)
  | task (name : String)
  deriving Repr, DecidableEq

/-- The statement of a registration, for routes and tasks up to the name. -/
def Registration.opening (runtime : Runtime ClassName) (spell : ClassName → String) :
    Registration → List Token
  | .provider serviceType serviceName =>
      codeTokens "registry.registerProviderService(" ++ pathTokens (spell (classOf serviceType))
        ++ codeTokens ".class, " ++ [.literal serviceName] ++ codeTokens ", p, this, dep);"
  | .routes name =>
      codeTokens "registry.registerRoutes(" ++ pathTokens (spell runtime.builtins)
        ++ codeTokens ".routesBean(" ++ [.literal name]
  | .output serviceType outputName taskName =>
      codeTokens "registry.registerTaskOutputService(" ++ pathTokens (spell (classOf serviceType))
        ++ codeTokens ".class, " ++ [.literal outputName] ++ codeTokens ", this, "
        ++ [.literal taskName] ++ codeTokens ");"
  | .task name =>
      codeTokens "tasks.register(" ++ [.literal name] ++ codeTokens ", (builder) -> \x7b"

/-- One provider for each type, in the order of the types. -/
def serviceRegistrations (service : Service) : List Registration :=
  service.serviceTypes.map fun serviceType => .provider serviceType service.name

/-- The outputs of a task are announced before the task is registered. -/
def taskRegistrations (task : Task) : List Registration :=
  (task.outputs.flatMap fun output =>
    output.serviceTypes.map fun serviceType => .output serviceType output.name task.name)
    ++ [.task task.name]

/-- What a module registers, in the order of its declarations. -/
def moduleRegistrations (module : Module) : List Registration :=
  module.services.flatMap serviceRegistrations
    ++ module.routes.map (fun route => .routes route.name)
    ++ module.tasks.flatMap taskRegistrations

/-! ## Inert phrases -/

variable {runtime : Runtime ClassName} {spell : ClassName → String} {p q : Outline} {kind : Kind}
  {closing : String}

theorem inert_classOutline (target : ClassName) : Inert spell (classOutline target) :=
  inert_named_code target ".class" rfl

theorem inert_flatten {items : List Outline} (h : ∀ item ∈ items, Inert spell item) :
    Inert spell items.flatten := by
  rw [← List.flatMap_id]
  exact inert_flatMap h

/-- A list of items registers nothing if no item does. What opens the list tells that it
is no registration. -/
theorem Opening.inert (h : Opening runtime [.registration] p closing) {items : Outline}
    (hitems : Inert spell items) : Inert spell (p ++ items ++ code closing) := by
  cases h with
  | creation target =>
      exact (((inert_code_named "new " target rfl).append_code "(" rfl).append hitems).append_code
        ")" rfl
  | array _ target =>
      have harray := (inert_code_named "new " target rfl).append
        (hitems.braced "[]\x7b" "\x7d" rfl rfl)
      simpa only [List.append_assoc] using harray
  | helper _ htext =>
      have htable : ∀ text ∈ helperCalls,
          (followsPath (codeTokens text) && leads 0 0 text) = true := by decide
      exact ((inert_named_code _ _ (htable _ htext)).append hitems).append_code ")" rfl
  | @factory _ source name _ =>
      have hmember : Inert spell _ :=
        (inert_code_named "() -> " source rfl).append (inert_code_word "." name rfl)
      exact ((hmember.append_code "(" rfl).append hitems).append_code ")" rfl
  | known htext hother =>
      have htable : ∀ call ∈ knownCalls, call.2 ∉ [Feature.registration] →
          leads 0 0 call.1 = true := by decide
      exact ((inert_code _ (htable (_, _) htext hother)).append hitems).append_code ")" rfl

/-- A variable is declared in the middle of a statement, for its type stands in front of
it. -/
theorem TypePhrase.walk (h : TypePhrase p) (name : String) (starts : Bool) (depth : Nat) :
    Walk starts depth ((p ++ (word name ++ code "=")).tokens spell) false depth [] := by
  have hequals : codeTokens "=" = [.symbol "="] := by decide
  have hscan : scan false 0 [.word name, .symbol "="] = some (false, 0) := rfl
  have hname := walk_of_scan hscan depth
  cases h with
  | @primitive keyword h =>
      have htable : ∀ keyword ∈ Java.TypeName.primitives,
          Token.word keyword ∉ [.word "registry", .word "tasks"] := by decide
      have hkeyword : scan starts 0 [.word keyword] = some (false, 0) := by
        rw [scan, if_neg fun hboth => htable keyword h hboth.2]
        rfl
      simpa [hequals] using (walk_of_scan hkeyword depth).append hname
  | reference target =>
      simpa [hequals] using walk_path rfl hname starts (spell target)
  | array target =>
      have hbrackets := walk_leadsTo "[]" (by decide : leadsTo false 0 0 "[]" = true) false depth
      have htail := hbrackets.append hname
      simpa [hequals] using walk_path (by rfl) htail starts (spell target)
  | bounded target bound =>
      have hopen := walk_leadsTo "<? extends " (by decide : leadsTo false 0 0 _ = true) false depth
      have hclose := walk_leadsTo ">" (by decide : leadsTo false 0 0 _ = true) false depth
      have hbound := (hopen.append (walk_path_inside depth (spell bound))).append hclose
      have htail := hbound.append hname
      simpa [hequals] using walk_path (by rfl) htail starts (spell target)

/-- What a phrase is that registers nothing: an expression is inert, and statements lead
from where a statement can start to where the next one can. -/
def Settled (spell : ClassName → String) : Kind → Outline → Prop
  | .statements, p => ∀ depth, Walk true depth (p.tokens spell) true depth []
  | _, p => Inert spell p

/-- A phrase without registrations leaves the walk where it was. By induction over the phrase;
expressions may stand inside a statement, and statements have to end where the next one can
start. -/
theorem Phrase.settled (h : Phrase runtime [.registration] kind p) : Settled spell kind p := by
  induction h with
  | literal value => exact inert_quoted value
  | number i => exact inert_number i
  | atom h =>
      have hmarked : ∀ name ∈ ["registry", "tasks"], name ∈ markedWords := by decide
      exact inert_word fun hname => h.ne (hmarked _ hname) rfl
  | helper _ htext =>
      have htable : ∀ text ∈ helperValues,
          (followsPath (codeTokens text) && leads 0 0 text) = true := by decide
      exact inert_named_code _ _ (htable _ htext)
  | fetch _ htext target name =>
      have htable : ∀ text ∈ accessCalls, leads 0 0 text = true := by decide
      exact ((((inert_code _ (htable _ htext)).append (inert_classOutline target)).append_code ", "
        rfl).append (inert_quoted name)).append_code ")" rfl
  | call hopening _ _ _ hfront hrest =>
      exact hopening.inert (inert_listed (List.forall_mem_append.mpr ⟨hfront, hrest⟩))
  | @callback _ text htext body _ hbody =>
      have htable : ∀ text ∈ lambdas, leads 0 0 text = true := by decide
      intro starts depth
      obtain ⟨middle, hlambda⟩ := walk_leads text (htable _ htext) starts depth
      have hopen := walk_leadsTo "\x7b" (by decide : leadsTo true 0 1 _ = true) middle depth
      obtain ⟨after, hclose⟩ := walk_leads "\x7d" (by decide : leads 1 0 _ = true) true depth
      have hall := ((hlambda.append hopen).append (hbody (depth + 1))).append hclose
      exact ⟨after, by simpa using hall⟩
  | @supplier kind hkind _ _ hresult =>
      have hlambda : Inert spell (code "() -> ") := inert_code "() -> " rfl
      cases kind with
      | value => exact hlambda.append hresult
      | argument => exact hlambda.append hresult
      | statements => exact absurd rfl hkind
  | classObject target => exact inert_classOutline target
  | argument _ hitem => exact hitem
  | known htext =>
      have htable : ∀ text ∈ knownStatements, leadsTo true 0 0 text = true := by decide
      intro depth
      rw [Outline.tokens_code]
      exact walk_leadsTo _ (htable _ htext) true depth
  | evaluation hbefore _ hchain =>
      have htable : ∀ text ∈ ["", "return "], leads 0 0 text = true := by decide
      exact ((inert_code _ (htable _ hbefore)).append (inert_flatten hchain)).closed ";" rfl true
  | @declaration _ _ htype name _ _ hvalue =>
      intro depth
      have hend := Inert.closed hvalue ";" rfl false depth
      rw [List.append_assoc, Outline.tokens_append]
      exact (htype.walk name true depth).append hend
  | @reading _ htype name _ member _ ending hending =>
      have htable : ∀ text ∈ [";", "();"], leadsTo true 0 0 text = true := by decide
      intro depth
      have hmember : Inert spell _ := inert_code_word "action." member rfl
      rw [Outline.tokens_append]
      exact (htype.walk name true depth).append
        (hmember.closed ending (htable _ hending) false depth)
  | nothing => exact fun _ => walk_nil
  | both _ _ hp hq =>
      intro depth
      rw [Outline.tokens_append]
      exact (hp depth).append (hq depth)

/-! ## Registrations in outlines -/

/-- Where a statement can start, the outline registers that and nothing else, and a
statement can start behind it. -/
def Registers (runtime : Runtime ClassName) (spell : ClassName → String) (outline : Outline)
    (registered : List Registration) : Prop :=
  ∀ depth, Walk true depth (outline.tokens spell) true depth
    (registered.map (Registration.opening runtime spell))

variable {p q : Outline} {a b : List Registration}

theorem registers_nil : Registers runtime spell [] [] := fun _ => walk_nil

/-- The walk goes on behind the first part with what that one left open. -/
theorem Registers.append (hp : Registers runtime spell p a) (hq : Registers runtime spell q b) :
    Registers runtime spell (p ++ q) (a ++ b) := by
  intro depth
  rw [Outline.tokens_append, List.map_append]
  exact (hp depth).append (hq depth)

/-- Braces around statements are statements themselves. -/
theorem Registers.braced (hp : Registers runtime spell p a) :
    Registers runtime spell (code "\x7b" ++ p ++ code "\x7d") a := by
  intro depth
  have hopen : leadsTo true 0 1 "\x7b" = true := by decide
  have hclose : leadsTo true 1 0 "\x7d" = true := by decide
  rw [Outline.tokens_append, Outline.tokens_append, Outline.tokens_code, Outline.tokens_code]
  have hwalk := ((walk_leadsTo _ hopen true depth).append (hp (depth + 1))).append
    (walk_leadsTo _ hclose true depth)
  rwa [List.nil_append, List.append_nil] at hwalk

theorem registers_flatMap {α : Type} {outline : α → Outline} {registered : α → List Registration}
    {items : List α}
    (h : ∀ item ∈ items, Registers runtime spell (outline item) (registered item)) :
    Registers runtime spell (items.flatMap outline) (items.flatMap registered) :=
  Java.flatMap_closed₂ registers_nil Registers.append h

/-- Items that register one thing each. -/
theorem registers_map {α : Type} {outline : α → Outline} {registered : α → Registration}
    {items : List α}
    (h : ∀ item ∈ items, Registers runtime spell (outline item) [registered item]) :
    Registers runtime spell (items.flatMap outline) (items.map registered) := by
  rw [List.map_eq_flatMap]
  exact registers_flatMap h

/-- A call that registers, as a statement. -/
theorem registers_call (before after : String) {registration : Registration} (hp : Inert spell p)
    (hopening : registration.opening runtime spell
      <+: (code before ++ p ++ code after).tokens spell)
    (hbefore : opensCall before = true) (hafter : leadsTo true 0 0 after = true) :
    Registers runtime spell (code before ++ p ++ code after) [registration] :=
  fun depth => walk_call before after 0 depth hp hopening hbefore hafter

theorem codeTokens_class : codeTokens ".class, " = codeTokens ".class" ++ codeTokens ", " := by
  decide

/-- The statement that registers a provider is the call that the walk looks for, with the class
and the name first. -/
theorem registers_provider (serviceName serviceType : String) :
    Registers runtime spell (registerProviderOutline serviceName serviceType)
      [.provider serviceType serviceName] := by
  have harguments : Inert spell
      (classOutline (classOf serviceType) ++ code ", " ++ quoted serviceName) :=
    ((inert_classOutline _).append_code ", " rfl).append (inert_quoted _)
  have hparts : registerProviderOutline serviceName serviceType
      = code (registryName ++ ".registerProviderService(")
        ++ (classOutline (classOf serviceType) ++ code ", " ++ quoted serviceName)
        ++ code ", p, this, dep);" := by
    simp only [registerProviderOutline, List.append_assoc]
  rw [hparts]
  refine registers_call _ _ harguments ?_ rfl rfl
  simp [Registration.opening, classOutline, codeTokens_class, registryName]

/-- The block of a service registers its provider and nothing else. -/
theorem registers_service {service : Service} (h : service.WellNamed) :
    Registers runtime spell (serviceOutline runtime service) (serviceRegistrations service) := by
  have hcall : Phrase runtime [.registration] .value (callOutline service) :=
    phrase_call (by decide) (by decide) h.factory
  have hvariables : Registers runtime spell _ [] := ((phrase_providerVariable
    (classOf service.returnType) (phrase_provider service.singleton hcall)).both
    (phrase_captureVariable (by decide) service.allDependencies)).settled
  have hregister : Registers runtime spell
      (service.serviceTypes.flatMap (registerProviderOutline service.name))
      (serviceRegistrations service) :=
    registers_map fun serviceType _ => registers_provider service.name serviceType
  exact (hvariables.append hregister).braced

/-- A route is one call, whose arguments register nothing. -/
theorem registers_route (route : Route) :
    Registers runtime spell (routeOutline runtime route) [.routes route.name] := by
  have hbean : Phrase runtime [.registration] .value _ := phrase_bean (by decide) route
  have hclose : code "));" = code ")" ++ code ");" := by decide
  have hcall : Registers runtime spell _ [.routes route.name] :=
    registers_call (registryName ++ ".registerRoutes(") ");" hbean.settled
      (by simp [Registration.opening, registryName, listed]) rfl rfl
  simpa [routeOutline, hclose] using hcall

/-- An announcement names the class, the output and the task. -/
theorem registers_announce (taskName outputName serviceType : String) :
    Registers runtime spell (announceOutline taskName outputName serviceType)
      [.output serviceType outputName taskName] := by
  have harguments : Inert spell (classOutline (classOf serviceType) ++ code ", "
      ++ quoted outputName ++ code ", this, " ++ quoted taskName) :=
    ((((inert_classOutline _).append_code ", " rfl).append (inert_quoted _)).append_code
      ", this, " rfl).append (inert_quoted _)
  have hparts : announceOutline taskName outputName serviceType
      = code (registryName ++ ".registerTaskOutputService(")
        ++ (classOutline (classOf serviceType) ++ code ", " ++ quoted outputName
          ++ code ", this, " ++ quoted taskName)
        ++ code ");" := by
    simp only [announceOutline, List.append_assoc]
  rw [hparts]
  refine registers_call _ _ harguments ?_ rfl rfl
  simp [Registration.opening, classOutline, codeTokens_class, registryName]

/-- The outputs are announced in front of the statement that registers the task,
which goes on with all that the task does. -/
theorem registers_task {task : Task} (h : ∀ output ∈ task.outputs, output.WellNamed) :
    Registers runtime spell (taskOutline runtime task) (taskRegistrations task) := by
  have hannounce : Registers runtime spell (task.outputs.flatMap (announceAllOutline task.name))
      (task.outputs.flatMap fun output =>
        output.serviceTypes.map fun serviceType => .output serviceType output.name task.name) :=
    registers_flatMap fun output _ =>
      registers_map fun serviceType _ => registers_announce task.name output.name serviceType
  intro depth
  have hregister : Walk true depth
      ((code (tasksName ++ ".register(") ++ quoted task.name
        ++ code ", (builder) -> \x7b").tokens spell) true (depth + 1)
      [(Registration.task task.name).opening runtime spell] := by
    refine walk_call _ _ 1 depth (inert_quoted _) ?_ rfl rfl
    simp [Registration.opening, tasksName]
  have hphrase : Phrase runtime [.registration] .statements (optionsOutline runtime task) :=
    phrase_options (by decide) (by decide) (by decide) (by decide) h
  have hoptions : Settled spell .statements (optionsOutline runtime task) := hphrase.settled
  have hend : leadsTo true 1 0 "\x7d);" = true := by decide
  have hall := (hannounce depth).append
    ((hregister.append (hoptions (depth + 1))).append (walk_leadsTo _ hend true depth))
  simpa [taskOutline_eq_options, taskRegistrations, List.append_assoc] using hall

/-- The declaration in front of the services registers nothing. -/
theorem registers_serviceSection {module : Module} (h : module.WellNamed) :
    Registers runtime spell (serviceSectionOutline runtime module)
      (module.services.flatMap serviceRegistrations) := by
  unfold serviceSectionOutline
  split
  · next hnil =>
      rw [hnil]
      exact registers_nil
  · have hservices : Registers runtime spell (module.services.flatMap (serviceOutline runtime))
        (module.services.flatMap serviceRegistrations) :=
      registers_flatMap fun service hservice => registers_service (h.services service hservice)
    intro depth
    have htail : leadsTo true 0 0 (" " ++ centralName ++ " = " ++ registryName ++ ".deferred();")
        = true := by decide
    have hcentral := walk_path (by decide) (walk_leadsTo _ htail false depth) true
      (spell runtime.serviceCentral)
    simpa using hcentral.append (hservices depth)

/-- What the method that registers has in it registers what the module declares. -/
theorem registers_module {module : Module} (h : module.WellNamed) :
    Registers runtime spell (registrationsOutline runtime module) (moduleRegistrations module) := by
  have hroutes : Registers runtime spell (module.routes.flatMap (routeOutline runtime))
      (module.routes.map fun route => .routes route.name) :=
    registers_map fun route _ => registers_route route
  have htasks : Registers runtime spell (module.tasks.flatMap (taskOutline runtime))
      (module.tasks.flatMap taskRegistrations) :=
    registers_flatMap fun task htask => registers_task (outputs_wellNamed h htask)
  exact ((registers_serviceSection h).append hroutes).append htasks

/-! ## The order of registrations -/

/-- Without anything to register there are no registrations, so the method is not missed. -/
theorem moduleRegistrations_eq_nil {module : Module} (h : module.hasRegistrations = false) :
    moduleRegistrations module = [] := by
  simp only [Module.hasRegistrations, Bool.not_eq_false', Bool.and_eq_true, List.isEmpty_iff] at h
  obtain ⟨⟨hroutes, hservices⟩, htasks⟩ := h
  rw [moduleRegistrations, hroutes, hservices, htasks]
  rfl

/-- The source of an accepted module has the statements that register what the
module declares, in the order of the declarations, and no other ones. -/
theorem registrations_eq {names : Runtime String} {runtime : Runtime ClassName}
    (hresolve : names.resolve = .ok runtime) {module : Module} (hvalid : module.validate = .ok ())
    (banner : String) {indent : String} (hindent : ∀ c ∈ indent.toList, c = ' ' ∨ c = '\t') :
    ∃ file tokens, unit runtime banner module = .ok file
      ∧ Lexical.lex (file.render indent) = some tokens
      ∧ List.Forall₂
          (fun registration statement =>
            registration.opening runtime file.importTable.nameOf <+: statement)
          (moduleRegistrations module) (registrations tokens) := by
  have hruntime := Runtime.wellFormed_of_resolve hresolve
  obtain ⟨file, hfile⟩ := unit_succeeds runtime (Module.wellNamed_of_validate hvalid) banner
  obtain ⟨hpackage, hname, -, hbody⟩ := reads_unit hruntime hfile
  refine ⟨file, _, hfile, Java.CompilationUnit.lex_render hpackage hbody hindent, ?_⟩
  have htable : file.importTable = Java.ImportTable.build file.package file.typeName
      (bodyOutline runtime module file.typeName).references := by
    rw [Java.CompilationUnit.importTable, hbody.types]
  have hclauses := void_not_mem_clauses hpackage
    (htable ▸ Java.ImportTable.isPath_imports hbody.wellFormed)
  have hregisters : Registers runtime file.importTable.nameOf
      (registrationsOutline runtime module) (moduleRegistrations module) :=
    registers_module (Module.wellNamed_of_validate hvalid)
  have hwalk := hregisters 0
  have hmethod := methodBody_class hclauses hname
    (fun c hc => Java.ImportTable.isPath_nameOf file.importTable (hbody.wellFormed c hc))
    hwalk.depth
  unfold registrations Java.CompilationUnit.fileTokens
  dsimp only
  rw [← htable, hmethod]
  split
  · obtain ⟨found, hfound, heq⟩ := hwalk.found []
    rw [List.append_nil] at heq
    rw [Option.getD_some, heq]
    simpa [List.forall₂_map_left_iff, statementsFrom] using hfound
  · next hnone =>
      rw [moduleRegistrations_eq_nil (Bool.eq_false_iff.mpr hnone)]
      exact .nil

/-- What the sample registers. -/
theorem sample_registrations :
    ∃ runtime, Runtime.standard.resolve = .ok runtime ∧ Module.sample.validate = .ok ()
      ∧ moduleRegistrations Module.sample
        = [.provider "com.example.Greeter" "greeting", .routes "home",
          .output "com.example.Size" "size" "warm-up", .task "warm-up"]
      ∧ ∃ file tokens, unit runtime "" Module.sample = .ok file
        ∧ Lexical.lex (file.render "\t") = some tokens
        ∧ List.Forall₂
            (fun registration statement =>
              registration.opening runtime file.importTable.nameOf <+: statement)
            (moduleRegistrations Module.sample) (registrations tokens) := by
  obtain ⟨runtime, hresolve⟩ := Runtime.standard_resolves
  exact ⟨runtime, hresolve, Module.sample_valid, rfl,
    registrations_eq hresolve Module.sample_valid "" (by simp)⟩

end ModuleContainers.Container
