import ModuleContainers.Proofs.Container.Phrases
import ModuleContainers.Proofs.Container.Sites

/-!
# Where the accesses of a container class stand

A container class has accesses in three places, and each is a list of parameters
(`AtParameter`): those of the activator, of the factory of a service, and of the action of a
task. What stands before and behind the list is given by an outline of its own, the head and
the rest of its emitter. All that these are made of are phrases without an access, and such
a phrase is clear (`Phrase.fetchless`). The class is put together from its members
(`sites_body`).

A phrase alone does not tell whether it is clear: an argument may end in a class object, and
what comes behind it decides. A literal and a closing parenthesis there would make an access
of the two. Arguments are followed by one another, so `clear_items` goes through a list from
its end.
-/

namespace ModuleContainers.Container

open ModuleContainers.Java (ClassName Outline code codeTokens isIdentifier listed listed_cons named
  number quoted word)
open ModuleContainers.Metadata (Accessor Attribute Dependency Module Output Route Service Task)

variable {p q r : Outline} {s : Outline → Outline → Prop} {runtime : Runtime ClassName}

/-! ## Phrases without an access -/

variable {excluded : List Feature} {kind : Kind} {closing : String}

/-- Something stands first that is no literal. -/
def startsPlain : Outline → Bool
  | [] => false
  | .token (.literal _) :: _ => false
  | _ :: _ => true

theorem startsPlain_append (h : startsPlain p = true) (q : Outline) :
    startsPlain (p ++ q) = true := by
  cases p with
  | nil => cases h
  | cons lexeme rest =>
      cases lexeme with
      | reference target => rfl
      | token token => cases token <;> first | rfl | cases h

/-- An access goes on with a literal behind the comma, so anything else there tells that it is
none. -/
theorem endsAccess_of_startsPlain (h : startsPlain p = true) :
    endsAccess (code "," ++ p) = false := by
  have hcode : code "," = [.token (.symbol ",")] := by decide
  rw [hcode]
  cases p with
  | nil => cases h
  | cons lexeme rest =>
      cases lexeme with
      | reference target => rfl
      | token token =>
          cases token with
          | literal value => cases h
          | word name => rfl
          | symbol symbol => rfl
          | number digits => rfl

theorem Opening.starts (h : Opening runtime excluded p closing) : startsPlain p = true := by
  cases h with
  | creation target => rfl
  | array _ target => rfl
  | helper _ _ => rfl
  | factory _ source _ => rfl
  | known htext _ =>
      have htable : ∀ call ∈ knownCalls, startsPlain (code call.1) = true := by decide
      exact htable (_, _) htext

/-- An expression that starts with a literal is that literal. -/
theorem Phrase.starts (h : Phrase runtime excluded kind p) (hkind : kind ≠ .statements) :
    (∃ value, p = quoted value) ∨ startsPlain p = true := by
  induction h with
  | literal value => exact .inl ⟨value, rfl⟩
  | number i => exact .inr (by cases i <;> rfl)
  | atom _ => exact .inr rfl
  | helper _ _ => exact .inr rfl
  | fetch _ htext target name =>
      have htable : ∀ text ∈ accessCalls, startsPlain (code text) = true := by decide
      have hopen := startsPlain_append (htable _ htext)
      exact .inr (startsPlain_append (startsPlain_append (startsPlain_append (hopen _) _) _) _)
  | call hopening =>
      exact .inr (startsPlain_append (startsPlain_append hopening.starts _) _)
  | callback _ htext =>
      have htable : ∀ text ∈ lambdas, startsPlain (code text) = true := by decide
      have hopen := startsPlain_append (htable _ htext)
      exact .inr (startsPlain_append (startsPlain_append (hopen _) _) _)
  | supplier _ _ _ => exact .inr rfl
  | classObject target => exact .inr rfl
  | argument _ hitem => exact hitem (by decide)
  | known => exact absurd rfl hkind
  | evaluation => exact absurd rfl hkind
  | declaration => exact absurd rfl hkind
  | reading => exact absurd rfl hkind
  | nothing => exact absurd rfl hkind
  | both => exact absurd rfl hkind

/-- What a phrase is that fetches nothing. An argument may end in a class object, and is
clear once something stands behind it that is not the rest of an access. -/
def Fetchless : Kind → Outline → Prop
  | .argument, p => ∀ q, Clear q → (∀ rest, endsAccess (q ++ rest) = false) → Clear (p ++ q)
  | _, p => Clear p

/-- An item that is followed by another one, or by the end of an array, is not followed by
the rest of an access. -/
theorem not_endsAccess_items {first : Outline} {others : List Outline}
    (hfirst : (∃ value, first = quoted value) ∨ startsPlain first = true)
    (hend : closing = "\x7d" ∨ others ≠ [] ∨ startsPlain first = true) (rest : Outline) :
    endsAccess (code "," ++ (listed (first :: others) ++ code closing ++ rest)) = false := by
  rw [listed_cons, List.append_assoc, List.append_assoc]
  rcases hfirst with ⟨value, rfl⟩ | hplain
  · have hcodes : code "," = [.token (.symbol ",")] ∧ code "\x7d" = [.token (.symbol "\x7d")] := by
      decide
    cases others with
    | cons next more => simp [hcodes, quoted, endsAccess]
    | nil =>
        rcases hend with rfl | hsome | hplain
        · simp [hcodes, quoted, endsAccess]
        · exact absurd rfl hsome
        · cases hplain
  · exact endsAccess_of_startsPlain (startsPlain_append hplain _)

/-- The items of a call or an array, with what closes them. Items at the front may end in a
class object. They do not end an access, since the next item is no literal, or is one that is
followed by another item, or the closing brace is not that of a call. -/
theorem clear_items (hclosing : closing ∈ [")", "\x7d"]) {front rest : List Outline}
    (hfront : ∀ item ∈ front, Fetchless .argument item) (hrest : ∀ item ∈ rest, Clear item)
    (hstarts : ∀ item ∈ front ++ rest, (∃ value, item = quoted value) ∨ startsPlain item = true)
    (hend : closing = "\x7d" ∨ front = [] ∨ ∃ name more, rest = word name :: more) :
    Clear (listed (front ++ rest) ++ code closing) := by
  have hclose : Clear (code closing) ∧ ∀ more, endsAccess (code closing ++ more) = false := by
    simp only [List.mem_cons, List.not_mem_nil, or_false] at hclosing
    rcases hclosing with rfl | rfl <;> exact ⟨clear_code _ rfl, fun _ => rfl⟩
  induction front with
  | nil => exact (clear_listed hrest).append hclose.1
  | cons item more ih =>
      have hitem := hfront item (List.mem_cons_self ..)
      have hmore := ih (fun other hother => hfront other (List.mem_cons_of_mem _ hother))
        (fun other hother => hstarts other (List.mem_cons_of_mem _ hother))
      cases hothers : more ++ rest with
      | nil =>
          have hlast : listed (item :: (more ++ rest)) = item := by simp [hothers, listed]
          rw [List.cons_append, hlast]
          exact hitem _ hclose.1 hclose.2
      | cons next others =>
          -- Behind the item are a comma and what the induction has shown to be clear.
          have hlist : listed (item :: (more ++ rest)) ++ code closing
              = item ++ (code "," ++ (listed (more ++ rest) ++ code closing)) := by
            simp [hothers, listed_cons]
          have hnext : closing = "\x7d" ∨ others ≠ [] ∨ startsPlain next = true := by
            rcases hend with hcurly | hnil | ⟨name, behind, rfl⟩
            · exact .inl hcurly
            · cases hnil
            · cases more with
              | nil =>
                  obtain ⟨rfl, -⟩ := List.cons.inj hothers
                  exact .inr (.inr rfl)
              | cons first between =>
                  obtain ⟨-, rfl⟩ := List.cons.inj hothers
                  exact .inr (.inl (by simp))
          have htail : closing = "\x7d" ∨ more = [] ∨ ∃ name behind, rest = word name :: behind :=
            hend.imp id fun h => h.elim (fun hnil => by cases hnil) .inr
          rw [List.cons_append, hlist]
          refine hitem _ ((clear_code "," rfl).append (hmore htail)) fun behind => ?_
          have hfirst := hstarts next (by simp [hothers])
          rw [hothers, List.append_assoc]
          exact not_endsAccess_items hfirst hnext behind

theorem clear_text {group : List String} (hgroup : group ∈ phraseTexts) {text : String}
    (htext : text ∈ group) : Clear (code text) :=
  clear_code text (reserved_not_in_text hgroup htext (by decide))

/-- Both ends of a call or an array. The end is needed as well, since it stands right behind the
last item. -/
theorem Opening.clear (h : Opening runtime excluded p closing) :
    Clear p ∧ closing ∈ [")", "\x7d"] := by
  cases h with
  | creation target =>
      exact ⟨((clear_code "new " rfl).append (clear_named target)).append_code "(" rfl, by decide⟩
  | array _ target =>
      exact ⟨((clear_code "new " rfl).append (clear_named target)).append_code "[]\x7b" rfl,
        by decide⟩
  | helper _ htext =>
      exact ⟨(clear_named _).append (clear_text (by decide) htext), by decide⟩
  | factory _ source hname =>
      have hmember := ((clear_code "() -> " rfl).append (clear_named source)).append
        ((clear_code "." rfl).append (clear_word (ne_class hname)))
      exact ⟨hmember.append_code "(" rfl, by decide⟩
  | known htext _ => exact ⟨clear_text (by decide) (call_mem_texts htext), by decide⟩

theorem TypePhrase.clear (h : TypePhrase p) : Clear p := by
  cases h with
  | primitive h =>
      have htable : ∀ keyword ∈ Java.TypeName.primitives, keyword ≠ "class" := by decide
      exact clear_word (htable _ h)
  | reference target => exact clear_named target
  | array target => exact (clear_named target).append_code "[]" rfl
  | bounded target bound =>
      exact ((clear_named target).append_code "<? extends " rfl).append
        ((clear_named bound).append_code ">" rfl)

/-- A phrase that fetches nothing has no access, by induction over the phrase. The hypothesis
that it fetches nothing rules out the one constructor that is an access. -/
theorem Phrase.fetchless (h : Phrase runtime [.fetch] kind p) : Fetchless kind p := by
  induction h with
  | literal value => exact clear_quoted value
  | number i => exact clear_number i
  | atom h => exact clear_word (h.ne (by decide))
  | helper _ htext => exact (clear_named _).append (clear_text (by decide) htext)
  | fetch hfetch => exact absurd (by decide) hfetch
  | call hopening hfront hrest hend ihfront ihrest =>
      obtain ⟨hopen, hclosing⟩ := hopening.clear
      have hstarts := List.forall_mem_append.mpr
        ⟨fun item hitem => (hfront item hitem).starts (by decide),
          fun item hitem => (hrest item hitem).starts (by decide)⟩
      have hall := hopen.append (clear_items hclosing ihfront ihrest hstarts hend)
      rwa [← List.append_assoc] at hall
  | callback _ htext _ hbody =>
      have hopen := (clear_text (by decide) htext).append_code "\x7b" rfl
      exact (hopen.append hbody).append_code "\x7d" rfl
  | @supplier kind hkind _ _ hresult =>
      have hlambda : Clear (code "() -> ") := clear_code "() -> " rfl
      cases kind with
      | value => exact hlambda.append hresult
      | argument =>
          intro q hq hend
          rw [List.append_assoc]
          exact hlambda.append (hresult q hq hend)
      | statements => exact absurd rfl hkind
  | classObject target => exact fun q => clear_class target
  | argument _ hitem => exact fun q hq _ => hitem.append hq
  | known htext => exact clear_text (by decide) htext
  | evaluation hbefore _ hchain =>
      have hopen := clear_text (by decide) hbefore
      exact (hopen.append (clear_flatten hchain)).append_code ";" rfl
  | declaration htype hname _ hvalue =>
      have hvariable := (clear_word (hname.ne (by decide))).append_code "=" rfl
      exact ((htype.clear.append hvariable).append hvalue).append_code ";" rfl
  | reading htype hname hmember hending =>
      have hvariable := (clear_word (hname.ne (by decide))).append_code "=" rfl
      have hread := ((clear_code "action." rfl).append (clear_word (ne_class hmember))).append
        (clear_text (by decide) hending)
      exact (htype.clear.append hvariable).append hread
  | nothing => exact clear_nil
  | both _ _ hp hq => exact hp.append hq

/-! ## Parameters -/

/-- The access is one of the parameters that are fetched from the point. -/
def AtParameter (point : AccessPoint) (parameters : List Dependency) (x y : Outline) : Prop :=
  ∃ earlier needed later, parameters = earlier ++ .service needed :: later
    ∧ x = (earlier.flatMap fun dependency => accessOutline point dependency ++ code ",")
      ++ (code (point.expression ++ "." ++ getter needed.kind ++ "(")
        ++ (named (classOf needed.className) ++ [.token (.symbol ".")]))
    ∧ y = code ", " ++ quoted needed.serviceName ++ code ")"
      ++ later.flatMap fun dependency => code "," ++ accessOutline point dependency

theorem clear_call (point : AccessPoint) (kind : Metadata.LookupKind) :
    Clear (code (point.expression ++ "." ++ getter kind ++ "(")) := by
  cases point <;> cases kind <;> exact clear_code _ rfl

/-- An access has one class object, and its place is known from both sides. -/
theorem sites_access (point : AccessPoint) (dependency : Dependency) :
    Sites (accessOutline point dependency) fun x y => ∃ needed, dependency = .service needed
      ∧ x = code (point.expression ++ "." ++ getter needed.kind ++ "(")
        ++ (named (classOf needed.className) ++ [.token (.symbol ".")])
      ∧ y = code ", " ++ quoted needed.serviceName ++ code ")" := by
  cases dependency with
  | task name => exact (clear_quoted name).sites
  | service needed =>
      have htail : Clear (code ", " ++ quoted needed.serviceName ++ code ")") :=
        ((clear_code ", " rfl).append (clear_quoted _)).append_code ")" rfl
      have hsites := Sites.append (clear_call point needed.kind)
        (sites_class (classOf needed.className) htail)
      rw [accessOutline]
      simp only [List.append_assoc] at hsites ⊢
      refine hsites.mono fun x y h => ?_
      obtain ⟨_, _, h⟩ | ⟨_, rfl, rfl, rfl⟩ := h
      · exact h.elim
      · exact ⟨needed, rfl, by simp, rfl⟩

/-- The parameters before the access and those behind it, with their commas. -/
theorem sites_parameters (point : AccessPoint) (parameters : List Dependency) :
    Sites (listed (parameters.map (accessOutline point))) (AtParameter point parameters) := by
  refine (sites_listed fun dependency _ => sites_access point dependency).mono fun x y h => ?_
  obtain ⟨earlier, _, later, hparameters, _, _, rfl, rfl, needed, rfl, rfl, rfl⟩ := h
  exact ⟨earlier, needed, later, hparameters, rfl, rfl⟩

/-! ## Services -/

/-- The block of a service up to the parameters of its factory. -/
def serviceHead (runtime : Runtime ClassName) (service : Service) : Outline :=
  code "\x7b"
    ++ (named runtime.provider ++ code "<? extends " ++ named (classOf service.returnType)
      ++ code "> p = ")
    ++ (if service.singleton then named runtime.builtins ++ code ".singletonProvider(" else [])
    ++ factoryOutline (classOf service.sourceClass) service.factory ++ code "("

/-- The block of a service behind the parameters of its factory. -/
def serviceRest (runtime : Runtime ClassName) (service : Service) : Outline :=
  code ")" ++ (if service.singleton then code ")" else []) ++ code ";"
    ++ (named objectClass ++ code "[] dep = " ++ captureOutline runtime service.allDependencies
      ++ code ";")
    ++ service.serviceTypes.flatMap (registerProviderOutline service.name) ++ code "\x7d"

/-- The parameters of the factory cut the block in two, with or without the call around a
singleton. -/
theorem serviceOutline_eq (service : Service) :
    serviceOutline runtime service
      = serviceHead runtime service ++ listed (service.parameters.map (accessOutline .central))
        ++ serviceRest runtime service := by
  cases hsingleton : service.singleton <;>
    simp [serviceOutline, serviceHead, serviceRest, providerOutline, callOutline, hsingleton]

/-- A factory has a name that was checked, so it is not called `class`. -/
theorem clear_factory {service : Service}
    (h : ∀ name, service.factory = .staticMethod name → isIdentifier name = true) :
    Clear (factoryOutline (classOf service.sourceClass) service.factory) := by
  cases hfactory : service.factory with
  | constructor => exact (clear_code "() -> new " rfl).append (clear_named _)
  | staticMethod name =>
      exact ((clear_code "() -> " rfl).append (clear_named _)).append
        ((clear_code "." rfl).append (clear_word (ne_class (h name hfactory))))

theorem clear_serviceHead {service : Service}
    (h : ∀ name, service.factory = .staticMethod name → isIdentifier name = true) :
    Clear (serviceHead runtime service) := by
  have htype := (((clear_named runtime.provider).append_code "<? extends " rfl).append
    (clear_named (classOf service.returnType))).append_code "> p = " rfl
  have hwrap : Clear (if service.singleton then
      named runtime.builtins ++ code ".singletonProvider(" else []) := by
    split
    · exact (clear_named _).append_code ".singletonProvider(" rfl
    · exact clear_nil
  exact ((((clear_code "\x7b" rfl).append htype).append hwrap).append
    (clear_factory h)).append_code "(" rfl

/-- The array of descriptors stands behind the parameters, and it has class objects: as
arguments of their descriptors, where a name and a truth value come behind them. -/
theorem clear_serviceRest (service : Service) : Clear (serviceRest runtime service) := by
  have hclose : Clear (if service.singleton then code ")" else []) := by
    split
    · exact clear_code ")" rfl
    · exact clear_nil
  have hcapture : Phrase runtime [.fetch] .value _ :=
    phrase_capture (by decide) service.allDependencies
  have hdep := (((clear_named objectClass).append_code "[] dep = " rfl).append
    hcapture.fetchless).append_code ";" rfl
  have hregister : Phrase runtime [.fetch] .statements
      (service.serviceTypes.flatMap (registerProviderOutline service.name)) :=
    .flatMap fun serviceType _ => phrase_registerProvider (by decide) service.name serviceType
  exact (((((clear_code ")" rfl).append hclose).append_code ";" rfl).append hdep).append
    hregister.fetchless).append_code "\x7d" rfl

/-- In the block of a service, only the parameters of its factory are accesses. -/
theorem sites_service {service : Service}
    (h : ∀ name, service.factory = .staticMethod name → isIdentifier name = true) :
    Sites (serviceOutline runtime service)
      (Around (serviceHead runtime service) (serviceRest runtime service)
        (AtParameter .central service.parameters)) := by
  rw [serviceOutline_eq]
  exact Sites.around (clear_serviceHead h) (sites_parameters .central service.parameters)
    (clear_serviceRest service)

/-! ## Tasks -/

/-- The statements of a task up to the parameters of its action. -/
def taskHead (runtime : Runtime ClassName) (task : Task) : Outline :=
  task.outputs.flatMap (announceAllOutline task.name)
    ++ (code (tasksName ++ ".register(") ++ quoted task.name ++ code ", (builder) -> \x7b")
    ++ (code "builder.threadMode(" ++ constantOutline runtime.threadMode task.threadMode
      ++ code ")" ++ (code ".priority(" ++ number task.priority.toInt ++ code ")"))
    ++ dependsOnOutline (task.allDependencies.map (descriptorOutline runtime))
    ++ code ".doLast((task) -> \x7b"
    ++ (named (classOf task.className) ++ code " action = new " ++ named (classOf task.className)
      ++ code "(")

/-- The statements of a task behind the parameters of its action. -/
def taskRest (task : Task) : Outline :=
  code ");" ++ code "action.execute(task);" ++ publishFromOutline 0 task.outputs
    ++ code "return null;" ++ code "\x7d);" ++ code "return null;" ++ code "\x7d);"

/-- The parameters of the action cut the statements of a task in two. -/
theorem taskOutline_eq (task : Task) :
    taskOutline runtime task
      = taskHead runtime task ++ listed (task.parameters.map (accessOutline .taskServices))
        ++ taskRest task := by
  simp [taskOutline, taskHead, taskRest, actionOutline, executeOutline]

theorem clear_taskHead (task : Task) : Clear (taskHead runtime task) := by
  have hannounce : Phrase runtime [.fetch] .statements _ := phrase_announceAll (by decide) task
  have hregister := ((clear_code (tasksName ++ ".register(") rfl).append
    (clear_quoted task.name)).append_code ", (builder) -> \x7b" rfl
  have hconstant : Phrase runtime [.fetch] .value _ := phrase_threadMode task.threadMode
  have hmode := ((clear_code "builder.threadMode(" rfl).append hconstant.fetchless).append_code ")"
    rfl
  have hdescriptors : ∀ item ∈ task.allDependencies.map (descriptorOutline runtime),
      Phrase runtime [.fetch] .value item := phrase_descriptors task.allDependencies
  obtain ⟨depends, hdepends, heq⟩ := exists_dependsOn hdescriptors (by decide)
  have hchain := clear_flatten fun item hitem => (hdepends item hitem).fetchless
  rw [heq] at hchain
  have hpriority := ((clear_code ".priority(" rfl).append
    (clear_number task.priority.toInt)).append_code ")" rfl
  have hnew := (((clear_named (classOf task.className)).append_code " action = new " rfl).append
    (clear_named (classOf task.className))).append_code "(" rfl
  exact ((((hannounce.fetchless.append hregister).append (hmode.append hpriority)).append
    hchain).append_code ".doLast((task) -> \x7b" rfl).append hnew

theorem clear_taskRest (runtime : Runtime ClassName) {task : Task}
    (h : ∀ output ∈ task.outputs, output.WellNamed) : Clear (taskRest task) := by
  have houtputs : Phrase runtime [.fetch] .statements _ := phrase_publishFrom (by decide) h 0
  have hpublish := ((clear_code ");" rfl).append_code "action.execute(task);" rfl).append
    houtputs.fetchless
  exact (((hpublish.append_code "return null;" rfl).append_code "\x7d);" rfl).append_code
    "return null;" rfl).append_code "\x7d);" rfl

theorem sites_task {task : Task} (h : ∀ output ∈ task.outputs, output.WellNamed) :
    Sites (taskOutline runtime task)
      (Around (taskHead runtime task) (taskRest task)
        (AtParameter .taskServices task.parameters)) := by
  rw [taskOutline_eq]
  exact Sites.around (clear_taskHead task) (sites_parameters .taskServices task.parameters)
    (clear_taskRest runtime h)

/-! ## The activator -/

/-- The method that makes the activator, up to the parameters. -/
def activatorHead (runtime : Runtime ClassName) (activator : ClassName) : Outline :=
  code "@" ++ named overrideAnnotation
    ++ (code "public " ++ (named runtime.moduleActivator ++ code " createActivator("
      ++ named runtime.serviceCentral ++ code (" " ++ centralName ++ ")")) ++ code " \x7b")
    ++ (code "return new " ++ named activator ++ code "(")

theorem sites_activator (module : Module) (activator : ClassName) :
    Sites (activatorOutline runtime module activator)
      (Around (activatorHead runtime activator) (code ");" ++ code "\x7d")
        (AtParameter .central ((module.onCreate.map Task.parameters).getD []))) := by
  have hsignature := (((clear_named runtime.moduleActivator).append_code " createActivator("
    rfl).append (clear_named runtime.serviceCentral)).append_code (" " ++ centralName ++ ")") rfl
  have hopen := ((clear_code "public " rfl).append hsignature).append_code " \x7b" rfl
  have hnew := ((clear_code "return new " rfl).append (clear_named activator)).append_code "(" rfl
  have hhead := (((clear_code "@" rfl).append (clear_named overrideAnnotation)).append hopen).append
    hnew
  have hrest := (clear_code ");" rfl).append_code "\x7d" rfl
  have hsites := Sites.around hhead
    (sites_parameters .central ((module.onCreate.map Task.parameters).getD [])) hrest
  simpa [activatorOutline, overridingOutline, activatorHead] using hsites

/-! ## The class -/

/-- The declaration of the variable that services are fetched from. -/
def centralOutline (runtime : Runtime ClassName) : Outline :=
  named runtime.serviceCentral
    ++ code (" " ++ centralName ++ " = " ++ registryName ++ ".deferred();")

/-- The places in the method that registers: the parameters of the factory of a
service, where the variable has been declared, and those of the action of a task. -/
inductive RegistrationSite (runtime : Runtime ClassName) (module : Module) :
    Outline → Outline → Prop
  | service {front back x y : Outline} {earlier later : List Service} {service : Service}
      (hservices : module.services = earlier ++ service :: later)
      (h : Around (front ++ (centralOutline runtime ++ earlier.flatMap (serviceOutline runtime)
          ++ serviceHead runtime service))
        (serviceRest runtime service ++ back) (AtParameter .central service.parameters) x y) :
      RegistrationSite runtime module x y
  | task {front back x y : Outline} {task : Task} (htask : task ∈ module.tasks)
      (h : Around (front ++ taskHead runtime task) (taskRest task ++ back)
        (AtParameter .taskServices task.parameters) x y) :
      RegistrationSite runtime module x y

/-- What stands around the registrations becomes a part of what stands around a place. -/
theorem RegistrationSite.around {module : Module} {x y : Outline}
    (h : Around p r (RegistrationSite runtime module) x y) :
    RegistrationSite runtime module x y := by
  obtain ⟨x, y, rfl, rfl, h⟩ := h
  cases h with
  | service hservices h =>
      have hwhole := h.widen p r
      rw [← List.append_assoc, List.append_assoc _ _ r] at hwhole
      exact .service hservices hwhole
  | task htask h =>
      have hwhole := h.widen p r
      rw [← List.append_assoc, List.append_assoc _ _ r] at hwhole
      exact .task htask hwhole

/-- The class up to its constructor. -/
def classHead (runtime : Runtime ClassName) (typeName : String) : Outline :=
  code "public class " ++ word typeName ++ code " extends " ++ named runtime.moduleContainer
    ++ code " \x7b"

/-- The places in the method that makes the activator: the parameters of the hook
before creation. -/
def ActivatorSite (runtime : Runtime ClassName) (module : Module) (typeName : String)
    (x y : Outline) : Prop :=
  ∃ hook activator back, module.onCreate = some hook
    ∧ Around
      (classHead runtime typeName ++ constructorOutline runtime module typeName
        ++ activatorHead runtime activator)
      (code ");" ++ code "\x7d" ++ back) (AtParameter .central hook.parameters) x y

/-- The one word `class` that is a keyword: behind it stands a name, so it is no class object of
an access. -/
theorem clear_classHead {typeName : String} (hname : isIdentifier typeName = true) :
    Clear (classHead runtime typeName) := by
  have hextends := ((clear_code " extends " rfl).append
    (clear_named runtime.moduleContainer)).append_code " \x7b" rfl
  have htail := (clear_word (ne_class hname)).append hextends
  have hparts : classHead runtime typeName
      = code "public" ++ .token (.word "class") :: (word typeName
        ++ (code " extends " ++ named runtime.moduleContainer ++ code " \x7b")) := by
    have hclass : code "public class " = code "public" ++ [.token (.word "class")] := by decide
    simp [classHead, hclass]
  have hword : Clear (.token (.word "class") :: (word typeName
      ++ (code " extends " ++ named runtime.moduleContainer ++ code " \x7b"))) := by
    rintro (_ | ⟨lexeme, x⟩) y heq
    · obtain rfl := (List.cons.inj heq).2
      exact .inl fun rest => rfl
    · exact htail x y (List.cons.inj heq).2
  rw [hparts]
  exact (clear_code "public" rfl).append hword

/-- The constructor describes the hooks and fetches nothing for them. -/
theorem clear_constructor (module : Module) {typeName : String}
    (hname : isIdentifier typeName = true) :
    Clear (constructorOutline runtime module typeName) := by
  have hsuper : Phrase runtime [.fetch] .statements _ := phrase_super (by decide) (by decide) module
  have hsignature := ((clear_code "public " rfl).append (clear_word (ne_class hname))).append_code
    "() \x7b" rfl
  exact (hsignature.append hsuper.fetchless).append_code "\x7d" rfl

theorem sites_serviceSection {module : Module} (h : module.WellNamed) :
    Sites (serviceSectionOutline runtime module) (RegistrationSite runtime module) := by
  unfold serviceSectionOutline
  split
  · exact clear_nil.sites
  · have hcentral : Clear (centralOutline runtime) := (clear_named _).append_code _ rfl
    have hservices : Sites (module.services.flatMap (serviceOutline runtime)) _ :=
      sites_flatMap fun service hservice => sites_service (h.services service hservice).factory
    refine (Sites.append hcentral hservices).mono fun x y hsite => ?_
    obtain ⟨_, _, hsite⟩ | ⟨x, rfl, earlier, service, later, hitems, hsite⟩ := hsite
    · exact hsite.elim
    -- The services before it stand between the variable and this one.
    · obtain ⟨x, y, rfl, rfl, hparameter⟩ := hsite.nested
      have hwhole : Around
          ([] ++ (centralOutline runtime ++ earlier.flatMap (serviceOutline runtime)
            ++ serviceHead runtime service))
          (serviceRest runtime service ++ later.flatMap (serviceOutline runtime))
          (AtParameter .central service.parameters)
          (centralOutline runtime ++ (earlier.flatMap (serviceOutline runtime)
            ++ serviceHead runtime service ++ x))
          (y ++ (serviceRest runtime service ++ later.flatMap (serviceOutline runtime))) :=
        ⟨x, y, by simp, rfl, hparameter⟩
      exact .service hitems hwhole

theorem sites_registrations {module : Module} (h : module.WellNamed) :
    Sites (registrationsOutline runtime module) (RegistrationSite runtime module) := by
  have hroutes : Phrase runtime [.fetch] .statements
      (module.routes.flatMap (routeOutline runtime)) :=
    .flatMap fun route _ => phrase_route (by decide) (by decide) route
  have hclear : Clear (module.routes.flatMap (routeOutline runtime)) := hroutes.fetchless
  have htasks : Sites (module.tasks.flatMap (taskOutline runtime)) _ :=
    sites_flatMap fun task htask => sites_task (outputs_wellNamed h htask)
  refine ((Sites.append (sites_serviceSection h) hclear).append htasks).mono fun x y hsite => ?_
  rcases hsite with ⟨_, rfl, ⟨y, rfl, hsite⟩ | ⟨_, _, hsite⟩⟩
    | ⟨x, rfl, earlier, task, later, hitems, hsite⟩
  · exact RegistrationSite.around (p := []) ⟨x, y, rfl, List.append_assoc .., hsite⟩
  · exact hsite.elim
  · have htask : task ∈ module.tasks := by simp [hitems]
    exact RegistrationSite.around (r := []) ⟨x, y, rfl, (List.append_nil y).symm,
      .task htask hsite.nested⟩

theorem sites_register {module : Module} (h : module.WellNamed) :
    Sites (registerOutline runtime module) (RegistrationSite runtime module) := by
  have hfirst := ((clear_code "void onRegister(" rfl).append
    (clear_named runtime.registry)).append_code (" " ++ registryName ++ ", ") rfl
  have hsignature := (hfirst.append (clear_named runtime.taskContainer)).append_code
    (" " ++ tasksName ++ ")") rfl
  have hopen := ((clear_code "public " rfl).append hsignature).append_code " \x7b" rfl
  have hhead := ((clear_code "@" rfl).append (clear_named overrideAnnotation)).append hopen
  exact (Sites.around hhead (sites_registrations h) (clear_code "\x7d" rfl)).mono
    fun _ _ hsite => RegistrationSite.around hsite

/-- A class without an activator of its own has no such place. -/
theorem sites_activatorOf (module : Module) :
    Sites ((activatorOf runtime module).elim [] (activatorOutline runtime module)) fun x y =>
      ∃ hook activator, module.onCreate = some hook
        ∧ Around (activatorHead runtime activator) (code ");" ++ code "\x7d")
          (AtParameter .central hook.parameters) x y := by
  cases activatorOf runtime module with
  | none => exact clear_nil.sites
  | some activator =>
      refine (sites_activator module activator).mono fun x y hsite => ?_
      cases hhook : module.onCreate with
      | none =>
          -- Without the hook there are no parameters.
          rw [hhook] at hsite
          obtain ⟨_, _, _, _, _, _, _, hparameters, _⟩ := hsite
          exact absurd hparameters (by simp)
      | some hook =>
          rw [hhook] at hsite
          exact ⟨hook, activator, rfl, hsite⟩

/-- The places of a class. Every access is in one of them. -/
theorem sites_body {module : Module} (h : module.WellNamed) {typeName : String}
    (hname : isIdentifier typeName = true) :
    Sites (bodyOutline runtime module typeName) fun x y =>
      ActivatorSite runtime module typeName x y ∨ RegistrationSite runtime module x y := by
  have hfront : Clear (classHead runtime typeName ++ constructorOutline runtime module typeName) :=
    (clear_classHead hname).append (clear_constructor module hname)
  have hregister : Sites (if module.hasRegistrations then registerOutline runtime module else [])
      (RegistrationSite runtime module) := by
    split
    · exact sites_register h
    · exact clear_nil.sites
  have hparts : bodyOutline runtime module typeName
      = (classHead runtime typeName ++ constructorOutline runtime module typeName)
        ++ (activatorOf runtime module).elim [] (activatorOutline runtime module)
        ++ ((if module.hasRegistrations then registerOutline runtime module else [])
          ++ code "\x7d") := by
    simp [bodyOutline, membersOutline, classHead]
  rw [hparts]
  refine ((Sites.append hfront (sites_activatorOf module)).append
    (hregister.append (clear_code "\x7d" rfl))).mono fun x y hsite => ?_
  rcases hsite with ⟨y, rfl, ⟨_, _, hsite⟩ | ⟨x, rfl, hook, activator, hhook, hsite⟩⟩
    | ⟨x, rfl, ⟨y, rfl, hsite⟩ | ⟨_, _, hsite⟩⟩
  · exact hsite.elim
  · exact .inl ⟨hook, activator, _, hhook, hsite.widen _ _⟩
  · exact .inr (RegistrationSite.around ⟨x, y, rfl, rfl, hsite⟩)
  · exact hsite.elim

end ModuleContainers.Container
