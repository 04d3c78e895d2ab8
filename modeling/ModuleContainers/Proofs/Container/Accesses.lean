import ModuleContainers.Proofs.Container.AccessSites
import ModuleContainers.Proofs.Container.Completeness
import ModuleContainers.Proofs.Container.Nesting
import ModuleContainers.Proofs.Container.RegistrationOrder

/-!
# Accesses are declared

Wherever the source of a container class fetches a service, the runtime has been
told of it: the descriptor of the service, by the same class and the same name, is
in the list that goes with the place (`Placed`). There are three places, and in
each of them the access point is one that is in scope there.
-/

namespace ModuleContainers.Container

open ModuleContainers.Java (ClassName CompilationUnit Lexeme Outline code codeTokens listed
  listed_cons named number quoted word)
open ModuleContainers.Lexical (Bracket IsArgument Token brackets depthAfter nestStep nest_add
  numberTokens pathTokens symbol_not_mem_path)
open ModuleContainers.Metadata (BootstrapMode Constant Dependency Factory LookupKind Module Service
  ServiceDependency Task ThreadMode)

/-! ## Accesses and descriptors in tokens -/

/-- The call that fetches a service, without the access point. It is told by a class object and
a literal in its brackets, which no other call has. -/
def fetchTokens (kind : LookupKind) (target name : String) : List Token :=
  [.word (getter kind), .symbol "("] ++ pathTokens target ++ codeTokens ".class, "
    ++ [.literal name] ++ codeTokens ")"

/-- Arguments with a comma behind each. -/
def leading (items : List (List Token)) : List Token := items.flatMap (· ++ codeTokens ",")

/-- Arguments with a comma before each. -/
def trailing (items : List (List Token)) : List Token := items.flatMap (codeTokens "," ++ ·)

/-- A list of arguments, or the elements of an array. -/
def commaSeparated (items : List (List Token)) : List Token := (codeTokens ",").intercalate items

section Places

variable (runtime : Runtime ClassName) (spell : ClassName → String)

/-- A constant by its name in the class that holds it. -/
def constantTokens {α : Type} [Constant α] (holder : ClassName) (value : α) : List Token :=
  pathTokens (spell holder) ++ codeTokens ("." ++ Constant.name value)

/-- The descriptor of a service, by the name of its class. -/
def descriptorTokens (target name : String) (optional : Bool) : List Token :=
  codeTokens "new " ++ pathTokens (spell runtime.serviceDependency) ++ codeTokens "("
    ++ pathTokens target ++ codeTokens ".class, " ++ [.literal name]
    ++ codeTokens (", " ++ truth optional ++ ")")

/-- One of the items is the descriptor of the service, and none of them is more than
one item. -/
structure Declares (target name : String) (items : List (List Token)) : Prop where
  arguments : ∀ item ∈ items, IsArgument item
  descriptor : ∃ optional, descriptorTokens runtime spell target name optional ∈ items

/-- An access of the service may stand between the two parts of the source, because
the first part ends in an access point that is in scope there, and because the
descriptor is in the list that goes with the place. -/
inductive Placed (target name : String) : List Token → List Token → Prop
  /-- In the factory of a service, where the descriptor is in the array of the same
  block. -/
  | factory (front back : List Token) (result : String) (singleton : Bool)
      {blocks callee : List Token} {earlier later captured : List (List Token)}
      (hblocks : depthAfter 0 blocks = some 0)
      (hcallee : IsArgument callee) (harguments : ∀ item ∈ earlier ++ later, IsArgument item)
      (hcaptured : Declares runtime spell target name captured) :
      Placed target name
        (front ++ pathTokens (spell runtime.serviceCentral)
          ++ codeTokens " central = registry.deferred();" ++ blocks ++ codeTokens "\x7b"
          ++ pathTokens (spell runtime.provider) ++ codeTokens "<? extends " ++ pathTokens result
          ++ codeTokens "> p = "
          ++ (if singleton then
              pathTokens (spell runtime.builtins) ++ codeTokens ".singletonProvider(" else [])
          ++ codeTokens "() -> " ++ callee ++ codeTokens "(" ++ leading earlier
          ++ codeTokens "central.")
        (trailing later ++ codeTokens ")" ++ (if singleton then codeTokens ")" else [])
          ++ codeTokens ";" ++ pathTokens (spell objectClass) ++ codeTokens "[] dep = new "
          ++ pathTokens (spell objectClass) ++ codeTokens "[]\x7b" ++ commaSeparated captured
          ++ codeTokens "\x7d;" ++ back)
  /-- In the action of a task, where the descriptor is in the list of what the same
  task depends on. -/
  | action (front back : List Token) (task action : String) (mode : ThreadMode) (priority : Int)
      {descriptors earlier later : List (List Token)}
      (hdescriptors : Declares runtime spell target name descriptors)
      (harguments : ∀ item ∈ earlier ++ later, IsArgument item) :
      Placed target name
        (front ++ codeTokens "tasks.register(" ++ [.literal task]
          ++ codeTokens ", (builder) -> \x7b" ++ codeTokens "builder.threadMode("
          ++ constantTokens spell runtime.threadMode mode ++ codeTokens ")"
          ++ codeTokens ".priority(" ++ numberTokens priority ++ codeTokens ")"
          ++ codeTokens ".dependsOn(" ++ commaSeparated descriptors ++ codeTokens ")"
          ++ codeTokens ".doLast((task) -> \x7b"
          ++ pathTokens action ++ codeTokens " action = new " ++ pathTokens action
          ++ codeTokens "(" ++ leading earlier ++ codeTokens "task.getServices().")
        (trailing later ++ codeTokens ");" ++ back)
  /-- In the method that makes the activator, where the descriptor is among the
  options of the hook before creation. The constructor hands them over right behind
  the name of the module and its mode; `rest` is what is left of its body, where the
  brackets of the call, of the description and of the body are closed. -/
  | activator (front rest back : List Token) (typeName module activator : String)
      (mode : BootstrapMode) {options earlier later : List (List Token)}
      (hoptions : Declares runtime spell target name options)
      (hrest : brackets [.round, .round, .curly] rest = some [])
      (harguments : ∀ item ∈ earlier ++ later, IsArgument item) :
      Placed target name
        (front ++ codeTokens "public " ++ [.word typeName] ++ codeTokens "() \x7b"
          ++ codeTokens "super(new " ++ pathTokens (spell runtime.moduleData) ++ codeTokens "("
          ++ [.literal module] ++ codeTokens ","
          ++ constantTokens spell runtime.bootstrapMode mode ++ codeTokens ", new "
          ++ pathTokens (spell runtime.moduleTaskOptions) ++ codeTokens "("
          ++ commaSeparated options ++ codeTokens ")" ++ codeTokens "," ++ rest
          ++ codeTokens "public " ++ pathTokens (spell runtime.moduleActivator)
          ++ codeTokens " createActivator(" ++ pathTokens (spell runtime.serviceCentral)
          ++ codeTokens " central) \x7b" ++ codeTokens "return new " ++ pathTokens activator
          ++ codeTokens "(" ++ leading earlier ++ codeTokens "central.")
        (trailing later ++ codeTokens ");" ++ codeTokens "\x7d" ++ back)

end Places

variable {runtime : Runtime ClassName} {spell : ClassName → String} {p q : Outline}

/-! ## Lists in tokens -/

theorem tokens_leading {α : Type} (outline : α → Outline) (items : List α) :
    Outline.tokens spell (items.flatMap fun item => outline item ++ code ",")
      = leading (items.map fun item => (outline item).tokens spell) := by
  induction items with
  | nil => rfl
  | cons item rest ih => simpa [leading] using ih

theorem tokens_trailing {α : Type} (outline : α → Outline) (items : List α) :
    Outline.tokens spell (items.flatMap fun item => code "," ++ outline item)
      = trailing (items.map fun item => (outline item).tokens spell) := by
  induction items with
  | nil => rfl
  | cons item rest ih => simpa [trailing] using ih

theorem tokens_listed (outlines : List Outline) :
    (listed outlines).tokens spell = commaSeparated (outlines.map (Outline.tokens spell)) := by
  induction outlines with
  | nil => rfl
  | cons first rest ih =>
      cases rest with
      | nil => simp [listed, commaSeparated]
      | cons next more => simpa [listed, commaSeparated] using ih

/-- A list that has the outline of the descriptor of a service among its items. -/
theorem declares_of_mem {needed : ServiceDependency} {outlines : List Outline}
    (harguments : ∀ outline ∈ outlines, Enclosed spell outline)
    (h : descriptorOutline runtime (.service needed) ∈ outlines) {target : String}
    (htarget : pathTokens target = pathTokens (spell (classOf needed.className))) :
    Declares runtime spell target needed.serviceName (outlines.map (Outline.tokens spell)) := by
  refine ⟨List.forall_mem_map.mpr fun outline houtline => (harguments outline houtline).isArgument,
    needed.optional, List.mem_map.mpr ⟨_, h, ?_⟩⟩
  simp [descriptorOutline, descriptorTokens, classOutline, codeTokens_class, htarget]

/-- Descriptors are expressions, so each of them is one item of whatever list it stands in. -/
theorem enclosed_descriptors (runtime : Runtime ClassName) (dependencies : List Dependency) :
    ∀ item ∈ dependencies.map (descriptorOutline runtime), Enclosed spell item := by
  intro item hitem
  have hphrase : Phrase runtime [.array, .callback] .value item :=
    phrase_descriptors dependencies item hitem
  exact hphrase.enclosed (by decide)

/-! ## An access at a site -/

theorem exists_word_of_path (text : String) :
    ∃ first rest, pathTokens text = .word first :: rest := by
  cases hparts : Text.splitOn '.' text with
  | nil =>
      rw [Text.splitOn, List.map_eq_nil_iff] at hparts
      exact absurd hparts (List.splitOn_ne_nil _ _)
  | cons first rest =>
      cases rest with
      | nil => exact ⟨first, [], by simp [pathTokens, hparts]⟩
      | cons next more => exact ⟨first, _, by rw [pathTokens, hparts]; rfl⟩

/-- A token that is no word is a lexeme. -/
theorem exists_of_tokens_cons {token : Token} (htoken : ∀ text, token ≠ .word text)
    {rest : List Token} (h : p.tokens spell = token :: rest) :
    ∃ q : Outline, p = .token token :: q ∧ q.tokens spell = rest := by
  cases p with
  | nil => cases h
  | cons lexeme q =>
      cases lexeme with
      | token first =>
          obtain ⟨rfl, rfl⟩ := List.cons.inj h
          exact ⟨q, rfl, rfl⟩
      | reference target =>
          obtain ⟨first, more, hpath⟩ := exists_word_of_path (spell target)
          have htokens : Outline.tokens spell (.reference target :: q)
              = pathTokens (spell target) ++ Outline.tokens spell q := rfl
          rw [htokens, hpath] at h
          exact absurd (List.cons.inj h).1.symm (htoken first)

/-- The rest of an access has no word in it, so it is there in the outline as well. -/
theorem endsAccess_of_tokens {name : String} {after : List Token}
    (h : p.tokens spell = .symbol "," :: .literal name :: .symbol ")" :: after) :
    endsAccess p = true := by
  obtain ⟨_, rfl, hliteral⟩ := exists_of_tokens_cons (by simp) h
  obtain ⟨_, rfl, hclose⟩ := exists_of_tokens_cons (by simp) hliteral
  obtain ⟨_, rfl, -⟩ := exists_of_tokens_cons (by simp) hclose
  rfl

/-- The call cut behind the access point. -/
theorem codeTokens_call (point : AccessPoint) (kind : LookupKind) :
    codeTokens (point.expression ++ "." ++ getter kind ++ "(")
      = codeTokens (point.expression ++ ".") ++ [.word (getter kind), .symbol "("] := by
  cases point <;> cases kind <;> decide

/-- What is fetched at a parameter is the service of that parameter, from the access
point of the list. -/
theorem AtParameter.fetched (runtime : Runtime ClassName) {point : AccessPoint}
    {parameters : List Dependency} {x y : Outline}
    (h : AtParameter point parameters x y) {front back before after : List Token}
    {kind : LookupKind} {target name : String}
    (hbefore : front ++ x.tokens spell
      = before ++ .word (getter kind) :: .symbol "(" :: (pathTokens target ++ [.symbol "."]))
    (hafter : y.tokens spell ++ back
      = .symbol "," :: .literal name :: .symbol ")" :: after) :
    ∃ needed earlier later, .service needed ∈ parameters
      ∧ pathTokens target = pathTokens (spell (classOf needed.className))
      ∧ name = needed.serviceName ∧ (∀ item ∈ earlier ++ later, IsArgument item)
      ∧ before = front ++ leading earlier ++ codeTokens (point.expression ++ ".")
      ∧ after = trailing later ++ back := by
  obtain ⟨earlier, needed, later, rfl, rfl, rfl⟩ := h
  have harguments : ∀ dependencies : List Dependency, ∀ item ∈ dependencies.map fun dependency =>
      (accessOutline point dependency).tokens spell, IsArgument item := by
    intro dependencies
    refine List.forall_mem_map.mpr fun dependency _ => ?_
    have hphrase : Phrase runtime [.array, .callback] .value _ :=
      phrase_access (by decide) point dependency
    exact (hphrase.enclosed (by decide)).isArgument
  have hcomma : codeTokens ", " = [.symbol ","] := by decide
  have hclose : codeTokens ")" = [.symbol ")"] := by decide
  have hparen : ∀ text, .symbol "(" ∉ pathTokens text ++ [.symbol "."] := by
    intro text hmem
    rcases List.mem_append.mp hmem with hpath | hdot
    · exact symbol_not_mem_path (by decide) text hpath
    · revert hdot
      decide
  have hdot : Outline.tokens spell
      (named (classOf needed.className) ++ [Lexeme.token (.symbol ".")])
        = pathTokens (spell (classOf needed.className)) ++ [.symbol "."] := by
    rw [Outline.tokens_append, Outline.tokens_named]
    rfl
  rw [Outline.tokens_append, Outline.tokens_append, tokens_leading, Outline.tokens_code,
    codeTokens_call, hdot] at hbefore
  have hcut : (front ++ leading (earlier.map fun dependency =>
        (accessOutline point dependency).tokens spell)
      ++ codeTokens (point.expression ++ ".") ++ [.word (getter needed.kind)])
        ++ .symbol "(" :: (pathTokens (spell (classOf needed.className)) ++ [.symbol "."])
      = (before ++ [.word (getter kind)])
        ++ .symbol "(" :: (pathTokens target ++ [.symbol "."]) := by
    simpa using hbefore
  -- Both cuts are at the last opening parenthesis, so they are the same cut.
  obtain ⟨hleft, hpath⟩ := Text.append_cons_inj_of_last hcut (hparen _) (hparen _)
  obtain ⟨hleft, -⟩ := List.append_inj' hleft rfl
  obtain ⟨hpath, -⟩ := List.append_inj' hpath rfl
  have hbehind : Token.literal needed.serviceName = .literal name
      ∧ trailing (later.map fun dependency => (accessOutline point dependency).tokens spell) ++ back
        = after := by
    simpa [hcomma, hclose, tokens_trailing] using hafter
  obtain ⟨hname, hrest⟩ := hbehind
  refine ⟨needed, _, _, by simp, hpath.symm, (Token.literal.inj hname).symm, ?_, hleft.symm,
    hrest.symm⟩
  exact List.forall_mem_append.mpr ⟨harguments earlier, harguments later⟩

/-- The same, with a part of the source in front of the list and another one behind it. -/
theorem Around.fetched (runtime : Runtime ClassName) {point : AccessPoint}
    {parameters : List Dependency} {r x y : Outline}
    (h : Around q r (AtParameter point parameters) x y) {front before after : List Token}
    {kind : LookupKind} {target name : String}
    (hbefore : front ++ x.tokens spell
      = before ++ .word (getter kind) :: .symbol "(" :: (pathTokens target ++ [.symbol "."]))
    (hafter : y.tokens spell = .symbol "," :: .literal name :: .symbol ")" :: after) :
    ∃ needed earlier later, .service needed ∈ parameters
      ∧ pathTokens target = pathTokens (spell (classOf needed.className))
      ∧ name = needed.serviceName ∧ (∀ item ∈ earlier ++ later, IsArgument item)
      ∧ before = front ++ q.tokens spell ++ leading earlier
        ++ codeTokens (point.expression ++ ".")
      ∧ after = trailing later ++ r.tokens spell := by
  obtain ⟨x, y, rfl, rfl, h⟩ := h
  rw [Outline.tokens_append, ← List.append_assoc] at hbefore
  rw [Outline.tokens_append] at hafter
  exact h.fetched runtime hbefore hafter

/-! ## The places -/

/-- A factory is a lambda, and what it calls is one argument. -/
theorem tokens_factory (spell : ClassName → String) (source : ClassName) (factory : Factory) :
    ∃ callee, IsArgument callee
      ∧ (factoryOutline source factory).tokens spell = codeTokens "() -> " ++ callee := by
  cases factory with
  | constructor =>
      have hcallee : Enclosed spell (code "new " ++ named source) :=
        (nests_code "new " rfl).append (enclosed_named source)
      have hcode : codeTokens "() -> new " = codeTokens "() -> " ++ codeTokens "new " := by decide
      exact ⟨_, hcallee.isArgument, by simp [factoryOutline, hcode]⟩
  | staticMethod name =>
      have hcallee : Enclosed spell (named source ++ (code "." ++ word name)) :=
        (enclosed_named source).append ((nests_code "." rfl).append (enclosed_word name))
      exact ⟨_, hcallee.isArgument, by simp [factoryOutline]⟩

/-- The blocks of the services before this one are closed, which is known from the walk over the
registrations. -/
theorem depth_services (runtime : Runtime ClassName) (spell : ClassName → String)
    {services : List Service} (h : ∀ service ∈ services, service.WellNamed) :
    depthAfter 0 (Outline.tokens spell (services.flatMap (serviceOutline runtime))) = some 0 := by
  have hservices : Registers runtime spell (services.flatMap (serviceOutline runtime))
      (services.flatMap serviceRegistrations) :=
    registers_flatMap fun service hservice => registers_service (h service hservice)
  exact (hservices 0).depth

section Places

variable {needed : ServiceDependency} {target : String} {earlier later : List (List Token)}
  (htarget : pathTokens target = pathTokens (spell (classOf needed.className)))
  (harguments : ∀ item ∈ earlier ++ later, IsArgument item)

include htarget harguments

/-- The descriptor is in the array behind the call, because the array is made from the
dependencies and the parameters. -/
theorem placed_factory {services : List Service}
    (hservices : ∀ service ∈ services, service.WellNamed) {service : Service}
    (hneeded : .service needed ∈ service.parameters) (front : List Token) (back : Outline) :
    Placed runtime spell target needed.serviceName
      (front ++ Outline.tokens spell (centralOutline runtime
          ++ services.flatMap (serviceOutline runtime) ++ serviceHead runtime service)
        ++ leading earlier ++ codeTokens (AccessPoint.central.expression ++ "."))
      (trailing later ++ Outline.tokens spell (serviceRest runtime service ++ back)) := by
  have hall : .service needed ∈ service.allDependencies := List.mem_append_right _ hneeded
  have hcapture : captureOutline runtime service.allDependencies
      = code "new " ++ named objectClass ++ code "[]\x7b"
        ++ listed (service.allDependencies.map (descriptorOutline runtime)) ++ code "\x7d" :=
    if_neg (List.ne_nil_of_mem hall)
  obtain ⟨callee, hcallee, hfactory⟩ := tokens_factory spell (classOf service.sourceClass)
    service.factory
  have hplaced := Placed.factory front
    (Outline.tokens spell (service.serviceTypes.flatMap (registerProviderOutline service.name)
      ++ code "\x7d" ++ back)) (spell (classOf service.returnType)) service.singleton
    (depth_services runtime spell hservices) hcallee harguments
    (declares_of_mem (enclosed_descriptors runtime _) (List.mem_map_of_mem hall) htarget)
  have hobjects : codeTokens "[] dep = new " = codeTokens "[] dep = " ++ codeTokens "new " := by
    decide
  have hclose : codeTokens "\x7d;" = codeTokens "\x7d" ++ codeTokens ";" := by decide
  cases hsingleton : service.singleton <;>
    simpa [centralOutline, serviceHead, serviceRest, hfactory, hcapture, hsingleton, centralName,
      registryName, AccessPoint.expression, tokens_listed, hobjects, hclose] using hplaced

/-- The descriptor is in the list that the task waits for, for the same reason. -/
theorem placed_action {task : Task} (hneeded : .service needed ∈ task.parameters)
    (front : List Token) (back : Outline) :
    Placed runtime spell target needed.serviceName
      (front ++ (taskHead runtime task).tokens spell ++ leading earlier
        ++ codeTokens (AccessPoint.taskServices.expression ++ "."))
      (trailing later ++ Outline.tokens spell (taskRest task ++ back)) := by
  have hall : .service needed ∈ task.allDependencies := List.mem_append_right _ hneeded
  have hdepends : dependsOnOutline (task.allDependencies.map (descriptorOutline runtime))
      = code ".dependsOn(" ++ listed (task.allDependencies.map (descriptorOutline runtime))
        ++ code ")" :=
    if_neg fun hnil => List.ne_nil_of_mem hall (List.map_eq_nil_iff.mp hnil)
  have hplaced := Placed.action
    (front ++ Outline.tokens spell (task.outputs.flatMap (announceAllOutline task.name)))
    (Outline.tokens spell (code "action.execute(task);" ++ publishFromOutline 0 task.outputs
      ++ code "return null;" ++ code "\x7d);" ++ code "return null;" ++ code "\x7d);" ++ back))
    task.name (spell (classOf task.className)) task.threadMode task.priority.toInt
    (declares_of_mem (enclosed_descriptors runtime _) (List.mem_map_of_mem hall) htarget) harguments
  simpa [taskHead, taskRest, hdepends, tasksName, AccessPoint.expression, tokens_listed,
    constantOutline, constantTokens] using hplaced

omit harguments in
/-- The options of a hook that waits for its parameters have their descriptors. -/
theorem declares_options (runtime : Runtime ClassName) {hook : Task}
    (hneeded : .service needed ∈ hook.parameters) :
    ∃ options, Declares runtime spell target needed.serviceName options
      ∧ (hookOutline runtime (some hook) true).tokens spell
        = codeTokens "new " ++ pathTokens (spell runtime.moduleTaskOptions) ++ codeTokens "("
          ++ commaSeparated options ++ codeTokens ")" := by
  have hall : .service needed ∈ hook.allDependencies := List.mem_append_right _ hneeded
  have hitems : ∀ item ∈ [quoted hook.name, number hook.priority.toInt,
        constantOutline runtime.threadMode hook.threadMode]
      ++ hook.allDependencies.map (descriptorOutline runtime), Enclosed spell item := by
    refine List.forall_mem_append.mpr ⟨?_, enclosed_descriptors runtime _⟩
    simp only [List.forall_mem_cons, List.not_mem_nil, false_imp_iff, implies_true, and_true]
    have hmode : Phrase runtime [.array, .callback] .value _ := phrase_threadMode hook.threadMode
    exact ⟨enclosed_quoted _, enclosed_number _, hmode.enclosed (by decide)⟩
  refine ⟨_, declares_of_mem hitems (List.mem_append_right _ (List.mem_map_of_mem hall)) htarget,
    ?_⟩
  simp [hookOutline, tokens_listed]

/-- The descriptor is in the options of the first hook. Behind these come the other hook, the
attributes and the closing brackets. -/
theorem placed_activator {module : Module} {hook : Task} (hhook : module.onCreate = some hook)
    (hneeded : .service needed ∈ hook.parameters) (typeName : String) (activator : ClassName)
    (front : List Token) (back : Outline) :
    Placed runtime spell target needed.serviceName
      (front ++ Outline.tokens spell (classHead runtime typeName
          ++ constructorOutline runtime module typeName ++ activatorHead runtime activator)
        ++ leading earlier ++ codeTokens (AccessPoint.central.expression ++ "."))
      (trailing later ++ Outline.tokens spell (code ");" ++ code "\x7d" ++ back)) := by
  obtain ⟨options, hoptions, htokens⟩ := declares_options htarget runtime hneeded
  -- What is left of the constructor, and the annotation of the method behind it.
  -- Brackets that are open: the call, the description, the constructor. Statements in between
  -- leave them as they are.
  have hrest : Moves [.round, .round, .curly] []
      (hookOutline runtime module.onPostCreate module.onCreate.isNone ++ code ","
        ++ attributesOutline runtime module.attributes ++ code ")" ++ code ");" ++ code "\x7d"
        ++ code "@" ++ named overrideAnnotation) := by
    have hhook : AnyPhrase runtime .value _ :=
      phrase_hook module.onPostCreate module.onCreate.isNone
    have hattributes : AnyPhrase runtime .value _ := phrase_attributes (by decide) module.attributes
    have hkept : Moves [.round, .round, .curly] [.round, .round, .curly] _ :=
      fun spell stack => hhook.nested spell _
    have hdata := ((hkept.append_code "," rfl).append hattributes.nested).append_code ")" rfl
    exact (((hdata.append_code ");" rfl).append_code "\x7d" rfl).append_code "@" rfl).append
      (nested_named overrideAnnotation)
  have hplaced := Placed.activator (front ++ (classHead runtime typeName).tokens spell) _
    (back.tokens spell) typeName module.name (spell activator) module.bootstrapMode hoptions
    (hrest spell []) harguments
  have hsuper : codeTokens "super(new " = codeTokens "super(" ++ codeTokens "new " := by decide
  have hnew : codeTokens ", new " = codeTokens "," ++ codeTokens "new " := by decide
  have hopen : codeTokens " central) \x7b" = codeTokens " central)" ++ codeTokens " \x7b" := by
    decide
  have hdata : (dataOutline runtime module).tokens spell
      = codeTokens "new " ++ pathTokens (spell runtime.moduleData) ++ codeTokens "("
        ++ [.literal module.name] ++ codeTokens ","
        ++ (constantOutline runtime.bootstrapMode module.bootstrapMode).tokens spell
        ++ codeTokens "," ++ (hookOutline runtime (some hook) true).tokens spell
        ++ codeTokens ","
        ++ Outline.tokens spell (hookOutline runtime module.onPostCreate module.onCreate.isNone
          ++ code "," ++ attributesOutline runtime module.attributes ++ code ")") := by
    simp [dataOutline, listed, hhook]
  simpa [constructorOutline, hdata, htokens, activatorHead, hsuper, hnew, hopen, centralName,
    AccessPoint.expression, constantOutline, constantTokens] using hplaced

end Places

section Sites

variable {module : Module} {typeName : String} {x y : Outline} {front before after : List Token}
  {kind : LookupKind} {target name : String}
  (hbefore : front ++ x.tokens spell
    = before ++ .word (getter kind) :: .symbol "(" :: (pathTokens target ++ [.symbol "."]))
  (hafter : y.tokens spell = .symbol "," :: .literal name :: .symbol ")" :: after)

include hbefore hafter

theorem RegistrationSite.placed (hnamed : module.WellNamed)
    (h : RegistrationSite runtime module x y) :
    Placed runtime spell target name before after := by
  cases h with
  | @service head back _ _ earlierServices later service hservices h =>
      have hearlier : ∀ other ∈ earlierServices, other.WellNamed := fun other hother =>
        hnamed.services other (hservices ▸ List.mem_append_left _ hother)
      obtain ⟨needed, earlier, later, hneeded, htarget, rfl, harguments, rfl, rfl⟩ :=
        h.fetched runtime hbefore hafter
      rw [Outline.tokens_append, ← List.append_assoc front]
      exact placed_factory htarget harguments hearlier hneeded _ back
  | @task head back _ _ task htask h =>
      obtain ⟨needed, earlier, later, hneeded, htarget, rfl, harguments, rfl, rfl⟩ :=
        h.fetched runtime hbefore hafter
      rw [Outline.tokens_append, ← List.append_assoc front]
      exact placed_action htarget harguments hneeded _ back

/-- A place in the method that makes the activator goes with the hook before creation. -/
theorem ActivatorSite.placed (h : ActivatorSite runtime module typeName x y) :
    Placed runtime spell target name before after := by
  obtain ⟨hook, activator, back, hhook, h⟩ := h
  obtain ⟨needed, earlier, later, hneeded, htarget, rfl, harguments, rfl, rfl⟩ :=
    h.fetched runtime hbefore hafter
  exact placed_activator htarget harguments hhook hneeded typeName activator front back

end Sites

/-! ## The accesses of the source -/

/-- Every access in the source of an accepted module stands in one of the three
places, and the descriptor of its service is in the list that goes with the place. -/
theorem access_placed {names : Runtime String} {runtime : Runtime ClassName}
    (hresolve : names.resolve = .ok runtime) {module : Module} (hvalid : module.validate = .ok ())
    (banner : String) {indent : String} (hindent : ∀ c ∈ indent.toList, c = ' ' ∨ c = '\t') :
    ∃ file tokens, unit runtime banner module = .ok file
      ∧ Lexical.lex (file.render indent) = some tokens
      ∧ ∀ before after kind target name,
          tokens = before ++ fetchTokens kind target name ++ after →
            Placed runtime file.importTable.nameOf target name before after := by
  have hruntime := Runtime.wellFormed_of_resolve hresolve
  have hnamed := Module.wellNamed_of_validate hvalid
  obtain ⟨file, hfile⟩ := unit_succeeds runtime hnamed banner
  obtain ⟨hpackage, hname, -, hbody⟩ := reads_unit hruntime hfile
  refine ⟨file, _, hfile, CompilationUnit.lex_render hpackage hbody hindent, ?_⟩
  have hkeyword : Java.isIdentifier "class" = false := by decide
  have hclauses := Java.word_not_mem_clauses hkeyword (by decide) (by decide) hpackage
    (CompilationUnit.isPath_importTable hbody)
  intro before after kind target name heq
  have hfetch : before ++ fetchTokens kind target name ++ after
      = (before ++ .word (getter kind) :: .symbol "(" :: (pathTokens target ++ [.symbol "."]))
        ++ .word "class" :: .symbol "," :: .literal name :: .symbol ")" :: after := by
    have hclass : codeTokens ".class, " = [.symbol ".", .word "class", .symbol ","] := by decide
    have hclose : codeTokens ")" = [.symbol ")"] := by decide
    simp [fetchTokens, hclass, hclose]
  rw [hfetch, CompilationUnit.fileTokens_eq hbody] at heq
  -- The word of the class object is a lexeme of the body.
  obtain ⟨_, hmiddle, htokens⟩ := Text.exists_of_append_eq_append_cons heq hclauses
  obtain ⟨x, y, hparts, rfl, hy⟩ := Outline.exists_of_tokens_eq hkeyword
    (fun c hc => Java.ImportTable.isPath_nameOf _ (hbody.wellFormed c hc)) htokens
  rcases sites_body hnamed hname x y hparts with hclear | hactivator | hregistration
  · have hends := hclear []
    rw [List.append_nil, endsAccess_of_tokens hy] at hends
    cases hends
  · exact hactivator.placed hmiddle.symm hy
  · exact hregistration.placed hmiddle.symm hy hnamed

theorem tokens_access (point : AccessPoint) (needed : ServiceDependency) :
    (accessOutline point (.service needed)).tokens spell
      = codeTokens (point.expression ++ ".")
        ++ fetchTokens needed.kind (spell (classOf needed.className)) needed.serviceName := by
  simp [accessOutline, fetchTokens, classOutline, codeTokens_call, codeTokens_class]

/-- An access that is a part of the body is found in the tokens of the file. -/
theorem exists_fetch {point : AccessPoint} {needed : ServiceDependency}
    (h : accessOutline point (.service needed) <:+: p) (clauses : List Token) :
    ∃ before after, clauses ++ p.tokens spell
      = before ++ codeTokens (point.expression ++ ".")
        ++ fetchTokens needed.kind (spell (classOf needed.className)) needed.serviceName
        ++ after := by
  obtain ⟨front, back, rfl⟩ := h
  refine ⟨clauses ++ Outline.tokens spell front, Outline.tokens spell back, ?_⟩
  simp [tokens_access]

/-! ## No parameter is left out -/

/-- The services that a module is given, each with the point it is fetched from: to a
service, to a task, and to the activator by the hook before creation. -/
inductive Given (runtime : Runtime ClassName) (module : Module) :
    AccessPoint → ServiceDependency → Prop
  | service {service : Service} {needed : ServiceDependency} (hservice : service ∈ module.services)
      (hneeded : .service needed ∈ service.parameters) : Given runtime module .central needed
  | task {task : Task} {needed : ServiceDependency} (htask : task ∈ module.tasks)
      (hneeded : .service needed ∈ task.parameters) : Given runtime module .taskServices needed
  | activator {activator : ClassName} {hook : Task} {needed : ServiceDependency}
      (hactivator : activatorOf runtime module = some activator)
      (hhook : module.onCreate = some hook) (hneeded : .service needed ∈ hook.parameters) :
      Given runtime module .central needed

theorem infix_flatMap {α : Type} {outline : α → Outline} {item : α} {items : List α}
    (h : item ∈ items) : outline item <:+: items.flatMap outline := by
  rw [List.flatMap_def]
  exact List.infix_of_mem_flatten (List.mem_map_of_mem h)

theorem infix_listed {item : Outline} {items : List Outline} (h : item ∈ items) :
    item <:+: listed items := by
  cases items with
  | nil => cases h
  | cons first rest =>
      rw [listed_cons]
      rcases List.mem_cons.mp h with rfl | hrest
      · exact (List.prefix_append _ _).isInfix
      · have hcomma : item <:+: code "," ++ item := (List.suffix_append _ _).isInfix
        exact (hcomma.trans (infix_flatMap hrest)).trans (List.suffix_append _ _).isInfix

theorem members_infix_body (module : Module) (typeName : String) :
    membersOutline runtime module typeName <:+: bodyOutline runtime module typeName :=
  List.infix_append _ _ _

/-- What a module registers is in its class, as it has the method for it. -/
theorem registrations_infix_members {module : Module} (h : module.hasRegistrations = true)
    (typeName : String) :
    registrationsOutline runtime module <:+: membersOutline runtime module typeName := by
  have hmethod : registrationsOutline runtime module <:+: registerOutline runtime module :=
    List.infix_append _ _ _
  rw [membersOutline, if_pos h]
  exact hmethod.trans (List.suffix_append _ _).isInfix

/-- A parameter that is a service is emitted as an access, in the part of the class that its
owner has. -/
theorem access_infix_body {module : Module} {point : AccessPoint} {needed : ServiceDependency}
    (h : Given runtime module point needed) (typeName : String) :
    accessOutline point (.service needed) <:+: bodyOutline runtime module typeName := by
  refine List.IsInfix.trans ?_ (members_infix_body module typeName)
  cases h with
  | @service service _ hservice hneeded =>
      have hblock : accessOutline .central (.service needed)
          <:+: serviceOutline runtime service := by
        rw [serviceOutline_eq]
        exact (infix_listed (List.mem_map_of_mem hneeded)).trans (List.infix_append _ _ _)
      have hsection : serviceOutline runtime service <:+: serviceSectionOutline runtime module := by
        rw [serviceSectionOutline, if_neg (List.ne_nil_of_mem hservice)]
        exact (infix_flatMap hservice).trans (List.suffix_append _ _).isInfix
      have hregistered : serviceSectionOutline runtime module
          <:+: registrationsOutline runtime module := by
        rw [registrationsOutline, List.append_assoc]
        exact (List.prefix_append _ _).isInfix
      have hsome : module.hasRegistrations = true := by
        simp [Module.hasRegistrations, List.ne_nil_of_mem hservice]
      exact ((hblock.trans hsection).trans hregistered).trans
        (registrations_infix_members hsome typeName)
  | @task task _ htask hneeded =>
      have hblock : accessOutline .taskServices (.service needed)
          <:+: taskOutline runtime task := by
        rw [taskOutline_eq]
        exact (infix_listed (List.mem_map_of_mem hneeded)).trans (List.infix_append _ _ _)
      have hregistered : taskOutline runtime task <:+: registrationsOutline runtime module :=
        (infix_flatMap htask).trans (List.suffix_append _ _).isInfix
      have hsome : module.hasRegistrations = true := by
        simp [Module.hasRegistrations, List.ne_nil_of_mem htask]
      exact (hblock.trans hregistered).trans (registrations_infix_members hsome typeName)
  | @activator activator hook _ hactivator hhook hneeded =>
      have hmethod : accessOutline .central (.service needed)
          <:+: activatorOutline runtime module activator := by
        have hparameters := infix_listed
          (List.mem_map_of_mem (f := accessOutline .central) hneeded)
        have hcall : listed (hook.parameters.map (accessOutline .central))
            <:+: code "return new " ++ named activator ++ code "("
              ++ listed (hook.parameters.map (accessOutline .central)) ++ code ");" :=
          List.infix_append _ _ _
        rw [activatorOutline, overridingOutline, hhook]
        exact (hparameters.trans hcall).trans (List.infix_append _ _ _)
      rw [membersOutline, hactivator]
      exact hmethod.trans (List.infix_append _ _ _)

/-- The sample where the service, the task and the activator of its own are each
given a service. -/
def fetching : Module :=
  { Module.sample with
    activatorClass := some "com.example.GreeterActivator"
    onCreate := some
      { name := "setup", className := "com.example.Setup",
        parameters := [.service
          { className := "com.example.Settings", serviceName := "settings",
            kind := .wildcardProvider, optional := true }] }
    services :=
      [{ name := "greeting", returnType := "com.example.Greeter",
         sourceClass := "com.example.PoliteGreeter",
         parameters :=
           [.service { className := "com.example.Log", serviceName := "log", kind := .provider }],
         serviceTypes := ["com.example.Greeter"] }]
    tasks :=
      [{ name := "warm-up", className := "com.example.WarmUp",
         parameters :=
           [.service { className := "com.example.Clock", serviceName := "clock" }] }] }

/-- Each of the three is fetched, from the point that is in scope at its place, and
the access is placed. -/
theorem fetching_placed :
    ∃ runtime, Runtime.standard.resolve = .ok runtime ∧ fetching.validate = .ok ()
      ∧ ∃ file tokens, unit runtime "" fetching = .ok file
        ∧ Lexical.lex (file.render "\t") = some tokens
        ∧ ∀ access ∈ [(AccessPoint.central, LookupKind.provider, "com.example.Log", "log"),
            (.taskServices, .value, "com.example.Clock", "clock"),
            (.central, .wildcardProvider, "com.example.Settings", "settings")],
          ∃ before after,
            tokens = before ++ codeTokens (access.1.expression ++ ".")
              ++ fetchTokens access.2.1 (file.importTable.nameOf (classOf access.2.2.1))
                access.2.2.2
              ++ after
            ∧ Placed runtime file.importTable.nameOf
              (file.importTable.nameOf (classOf access.2.2.1)) access.2.2.2
              (before ++ codeTokens (access.1.expression ++ ".")) after := by
  have hvalid : fetching.validate = .ok () := by decide +kernel
  have hactivator : activatorOf Runtime.standardClasses fetching
      = some (classOf "com.example.GreeterActivator") := by
    decide +kernel
  have hblank : ∀ c ∈ "\t".toList, c = ' ' ∨ c = '\t' := by simp
  obtain ⟨file, tokens, hfile, hlex, hplaced⟩ :=
    access_placed Runtime.standard_resolve hvalid "" hblank
  obtain ⟨hpackage, -, -, hbody⟩ := reads_unit
    (Runtime.wellFormed_of_resolve Runtime.standard_resolve) hfile
  have htokens := CompilationUnit.lex_render hpackage hbody hblank
  rw [hlex, Option.some.injEq, CompilationUnit.fileTokens_eq hbody] at htokens
  have hfetched : ∀ point needed, Given Runtime.standardClasses fetching point needed →
      ∃ before after, tokens = before ++ codeTokens (point.expression ++ ".")
        ++ fetchTokens needed.kind (file.importTable.nameOf (classOf needed.className))
          needed.serviceName ++ after
        ∧ Placed Runtime.standardClasses file.importTable.nameOf
          (file.importTable.nameOf (classOf needed.className)) needed.serviceName
          (before ++ codeTokens (point.expression ++ ".")) after := by
    intro point needed hgiven
    obtain ⟨before, after, hcut⟩ := exists_fetch (access_infix_body hgiven file.typeName)
      (CompilationUnit.packageTokens file.package
        ++ file.importTable.imports.flatMap CompilationUnit.importTokens)
    rw [← htokens] at hcut
    exact ⟨before, after, hcut, hplaced _ _ _ _ _ hcut⟩
  refine ⟨_, Runtime.standard_resolve, hvalid, file, tokens, hfile, hlex, ?_⟩
  simp only [List.forall_mem_cons, List.not_mem_nil, false_imp_iff, implies_true, and_true]
  exact ⟨hfetched _ _ (.service (List.mem_singleton_self _) (List.mem_singleton_self _)),
    hfetched _ _ (.task (List.mem_singleton_self _) (List.mem_singleton_self _)),
    hfetched _ _ (.activator hactivator rfl (List.mem_singleton_self _))⟩

end ModuleContainers.Container
