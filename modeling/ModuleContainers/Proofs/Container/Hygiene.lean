import ModuleContainers.Proofs.Container.Completeness
import ModuleContainers.Proofs.Container.Phrases
import ModuleContainers.Proofs.Java.Collision
import ModuleContainers.Proofs.Java.Locals

/-!
# Which classes are taken for locals

In a container class some classes have a member behind them: the class of the helper
methods, the tuples, two enums, and the source of a service that a static method makes.
Such a class is taken for a local (`Captured`) where the first name of its spelling is the
name of a variable or of a parameter that is in scope.

Nearly all that is emitted has members of holders only (`Phrase.scoped`), and then it is
enough to know how locals are called (`IsLocalName`), since no holder of the standard
runtime starts with such a name. The factory of a service is the exception. Its class can
have any name, so there the scope is computed (`OfFactory`, `factoryScope`). All places of
a class are one or the other (`accounted_body`), so factories alone can be captured, and
they can (`captured_iff_factory`).
-/

namespace ModuleContainers.Container

open ModuleContainers.Java (ClassName CompilationUnit Declares ImportTable Leads Neutral Outline
  Passes Place Plain Scopes Usual code codeTokens listed named neutral_code neutral_flatMap
  neutral_listed neutral_member neutral_named_code neutral_nil number passes_reference places
  plain_code plain_number plain_quoted plain_word quoted scopeTokens word)
open ModuleContainers.Java.ImportTable (Owns)
open ModuleContainers.Metadata (Dependency Factory Module Service Task)

/-! ## Phrases and scopes -/

/-- The part declares the names, and only holders have members in it. -/
abbrev Adds (runtime : Runtime ClassName) : Outline → List String → Prop :=
  Declares IsLocalName (IsHolder runtime)

/-- The part declares nothing, and only holders have members in it. -/
abbrev Calm (runtime : Runtime ClassName) : Outline → Prop := Neutral IsLocalName (IsHolder runtime)

variable {runtime : Runtime ClassName} {p q : Outline} {s : Scopes}

theorem calm_named (before : String) (target : ClassName) (after : String)
    (hbefore : Java.isPlain before = true)
    (hafter : Java.isPlain after = true)
    (hend : Java.endsName (code after) = true) :
    Calm runtime (code before ++ named target ++ code after) := by
  rw [List.append_assoc]
  exact (neutral_code before hbefore).append (neutral_named_code target after hafter hend)

theorem calm_class (target : ClassName) : Calm runtime (classOutline target) :=
  neutral_named_code target ".class" rfl rfl

theorem calm_quoted (value : String) : Calm runtime (quoted value) := (plain_quoted value).neutral

theorem neutral_flatten {parts : List Outline} (h : ∀ part ∈ parts, Calm runtime part) :
    Calm runtime parts.flatten := by
  rw [← List.flatMap_id]
  exact neutral_flatMap h

variable {kind : Kind} {closing : String}

/-- No text of known code opens or closes a block, or assigns to a name. -/
theorem isPlain_text {group : List String} (hgroup : group ∈ phraseTexts) {text : String}
    (htext : text ∈ group) : Java.isPlain text = true := by
  have htable : ∀ group ∈ phraseTexts, ∀ text ∈ group, Java.isPlain text = true := by
    decide +kernel
  exact htable group hgroup text htext

theorem calm_text {group : List String} (hgroup : group ∈ phraseTexts) {text : String}
    (htext : text ∈ group) : Calm runtime (code text) :=
  neutral_code text (isPlain_text hgroup htext)

/-- A list of items declares nothing if no item does. The braces around the elements of an
array are a block without parameters. -/
theorem Opening.calm (h : Opening runtime [.factory] p closing) {items : Outline}
    (hitems : Calm runtime items) : Calm runtime (p ++ items ++ code closing) := by
  cases h with
  | creation target =>
      exact ((calm_named "new " target "(" rfl rfl rfl).append hitems).append_code ")" rfl
  | array _ target =>
      have hopening : Calm runtime (code "new " ++ named target ++ code "[]") :=
        calm_named "new " target "[]" rfl rfl rfl
      have hcodes : code "[]\x7b" = code "[]" ++ code "\x7b"
          ∧ code "[]" = [.token (.symbol "["), .token (.symbol "]")] := by decide
      have hparameters : ∀ read,
          Scopes.parameters ((code "new " ++ named target ++ code "[]").reverse ++ read) = [] := by
        intro read
        rw [List.reverse_append, hcodes.2]
        rfl
      have hblock := Declares.block hopening hparameters (List.forall_mem_nil _) hitems
      rwa [hcodes.1, ← List.append_assoc (code "new " ++ named target)]
  | helper hholder htext =>
      have hmember : Calm runtime _ := neutral_member hholder _ (isPlain_text (by decide) htext)
      exact (hmember.append hitems).append_code ")" rfl
  | factory hfactory => exact absurd (by decide) hfactory
  | known htext _ =>
      exact ((calm_text (by decide) (call_mem_texts htext)).append hitems).append_code ")" rfl

/-- What stands behind a type and before an equals sign is a local. The classes of the type are
no places, since no dot and member follow them. -/
theorem TypePhrase.adds (h : TypePhrase p) {name : String} (hname : IsLocalName name) :
    Adds runtime (p ++ (word name ++ code "=")) [name] := by
  have hassign : Adds runtime (word name ++ code "=") [name] := Java.declares_assign hname
  cases h with
  | primitive _ => exact hassign.prepend (plain_word _).neutral
  | reference target => exact Java.declares_typed target hname
  | array target => exact hassign.prepend (neutral_named_code target "[]" rfl rfl)
  | bounded target bound =>
      exact hassign.prepend ((neutral_named_code target "<? extends " rfl rfl).append
        (neutral_named_code bound ">" rfl rfl))

/-- What a phrase does to the names that are in scope: an expression declares none, and
statements may declare some. -/
def Scoped (runtime : Runtime ClassName) : Kind → Outline → Prop
  | .statements, p => ∃ names, Adds runtime p names
  | _, p => Calm runtime p

/-- A phrase opens and closes blocks in pairs, adds only local names of the emitters, and has no
place that a factory does not make. By induction over the phrase. -/
theorem Phrase.scoped (h : Phrase runtime [.factory] kind p) : Scoped runtime kind p := by
  induction h with
  | literal value => exact calm_quoted value
  | number i => exact (plain_number i).neutral
  | @atom name _ => exact (plain_word name).neutral
  | helper hholder htext => exact neutral_member hholder _ (isPlain_text (by decide) htext)
  | fetch _ htext target name =>
      have hcall : Calm runtime _ := calm_text (by decide) htext
      exact (((hcall.append (calm_class target)).append_code ", " rfl).append
        (calm_quoted name)).append_code ")" rfl
  | call hopening _ _ _ hfront hrest =>
      exact hopening.calm (neutral_listed (List.forall_mem_append.mpr ⟨hfront, hrest⟩))
  | @callback _ text htext body _ hbody =>
      have hlambda : ∃ name, IsLocalName name
          ∧ ∀ read, Scopes.parameters ((code text).reverse ++ read) = [name] := by
        have hcodes : (code "(builder) ->").reverse = [.token (.symbol "->"), .token (.symbol ")"),
              .token (.word "builder"), .token (.symbol "(")]
            ∧ (code "(task) ->").reverse = [.token (.symbol "->"), .token (.symbol ")"),
              .token (.word "task"), .token (.symbol "(")] := by decide
        simp only [lambdas, List.mem_cons, List.not_mem_nil, or_false] at htext
        rcases htext with rfl | rfl
        · exact ⟨"builder", .inl (by decide), fun read => by rw [hcodes.1]; rfl⟩
        · exact ⟨"task", .inl (by decide), fun read => by rw [hcodes.2]; rfl⟩
      obtain ⟨name, hname, hparameters⟩ := hlambda
      obtain ⟨names, hbody⟩ := hbody
      exact Declares.block (calm_text (by decide) htext) hparameters
        (List.forall_mem_singleton.mpr hname) hbody
  | @supplier kind hkind _ _ hresult =>
      have hlambda : Calm runtime (code "() -> ") := neutral_code "() -> " rfl
      cases kind with
      | value => exact hlambda.append hresult
      | argument => exact hlambda.append hresult
      | statements => exact absurd rfl hkind
  | classObject target => exact calm_class target
  | argument _ hitem => exact hitem
  | known htext => exact ⟨[], calm_text (by decide) htext⟩
  | evaluation hbefore _ hchain =>
      have hopen : Calm runtime _ := calm_text (by decide) hbefore
      exact ⟨[], (hopen.append (neutral_flatten hchain)).append_code ";" rfl⟩
  | declaration htype hname _ hvalue =>
      exact ⟨_, ((htype.adds hname).append hvalue).append_code ";" rfl⟩
  | @reading _ htype _ hname member _ _ hending =>
      have hmember := ((plain_code "action." rfl).append (plain_word member)).append_code _
        (isPlain_text (by decide) hending)
      exact ⟨_, (htype.adds hname).append hmember.neutral⟩
  | nothing => exact ⟨[], neutral_nil⟩
  | both _ _ hp hq =>
      obtain ⟨_, hp⟩ := hp
      obtain ⟨_, hq⟩ := hq
      exact ⟨_, hp.append hq⟩

/-- Accesses name classes by their class objects only. -/
theorem calm_parameters (runtime : Runtime ClassName) (point : AccessPoint)
    (parameters : List Dependency) :
    Calm runtime (listed (parameters.map (accessOutline point))) := by
  refine neutral_listed fun item hitem => ?_
  have hphrase : Phrase runtime [.factory] .value item :=
    phrase_accesses (by decide) point parameters item hitem
  exact hphrase.scoped

/-- The constructor is a block that hands the description of the module over. -/
theorem calm_constructor (module : Module) (typeName : String) :
    Calm runtime (constructorOutline runtime module typeName) := by
  have hphrase : Phrase runtime [.factory] .statements _ :=
    phrase_super (by decide) (by decide) module
  obtain ⟨names, hsuper⟩ := hphrase.scoped
  have hsignature : Calm runtime (code "public " ++ word typeName ++ code "()") :=
    (((plain_code "public " rfl).append (plain_word typeName)).append_code "()"
      rfl).neutral
  have hcodes : code "() \x7b" = code "()" ++ code "\x7b"
      ∧ code "()" = [.token (.symbol "("), .token (.symbol ")")] := by decide
  have hparameters : ∀ read,
      Scopes.parameters ((code "public " ++ word typeName ++ code "()").reverse ++ read) = [] := by
    intro read
    rw [List.reverse_append, hcodes.2]
    rfl
  have hblock := Declares.block hsignature hparameters (List.forall_mem_nil _) hsuper
  rw [constructorOutline, hcodes.1]
  simpa only [List.append_assoc] using hblock

/-! ## Services -/

/-- The method of a factory behind its class, as the provider of a service that is in
front of the names. -/
structure OfFactory (service : Service) (names : List String) (place : Place) : Prop where
  factory : service.factory = .staticMethod place.member
  target : place.target = classOf service.sourceClass
  locals : place.locals = names

/-- A usual place, or the factory of the service. -/
def OfService (runtime : Runtime ClassName) (service : Service) (names : List String)
    (place : Place) : Prop :=
  Usual IsLocalName (IsHolder runtime) place ∨ OfFactory service names place

section Services

variable (runtime) {top names : List String} {below : List (List String)}

/-- In the block of a service, a part that adds locals changes the innermost block only. -/
theorem leads_usual (service : Service) {locals : List String} (hp : Adds runtime p names)
    (hknown : ∀ name ∈ (top :: below).flatten, IsLocalName name) :
    Leads (OfService runtime service locals) (top :: below) p ((names ++ top) :: below) :=
  (hp.leads hknown).mono fun _ => .inl

/-- The call of a factory has the method of the factory for a place. -/
theorem leads_call (service : Service)
    (hknown : ∀ name ∈ (top :: below).flatten, IsLocalName name) :
    Leads (OfService runtime service (top :: below).flatten) (top :: below) (callOutline service)
      (top :: below) := by
  have husual : ∀ {p}, Calm runtime p → Leads (OfService runtime service (top :: below).flatten)
      (top :: below) p (top :: below) := fun hp => leads_usual runtime service hp hknown
  have hparameters := calm_parameters runtime .central service.parameters
  rw [callOutline]
  cases hfactory : service.factory with
  | constructor =>
      have hnew : Calm runtime
          (code "() -> new " ++ named (classOf service.sourceClass) ++ code "(") :=
        calm_named "() -> new " _ "(" rfl rfl rfl
      exact husual ((hnew.append hparameters).append_code ")" rfl)
  | staticMethod name =>
      have hname : Plain (code "." ++ word name) :=
        (plain_code "." rfl).append (plain_word name)
      have hmember : Leads (OfService runtime service (top :: below).flatten) (top :: below)
          (named (classOf service.sourceClass) ++ (code "." ++ word name)) (top :: below) := by
        intro s hs
        refine ⟨passes_reference hname.references fun rest place hplace => .inr ?_,
          hname.blocks_after.trans hs⟩
        obtain ⟨-, hlocals, more, heq⟩ := Java.placeAt?_eq_some.mp hplace
        have hdot : code "." = [.token (.symbol ".")] := by decide
        rw [hdot] at heq
        obtain ⟨htarget, hmember, -⟩ : classOf service.sourceClass = place.target
            ∧ name = place.member ∧ _ := by simpa [word] using heq
        exact ⟨hmember ▸ hfactory, htarget.symm, by rw [hlocals, Scopes.locals, hs]⟩
      have hopen := husual (neutral_code "(" rfl)
      have harguments := (hopen.append (husual hparameters)).append
        (husual (neutral_code ")" rfl))
      have hall := ((husual (neutral_code "() -> " rfl)).append hmember).append harguments
      simpa only [factoryOutline, List.append_assoc] using hall

/-- The one part of a service that may have a place: the static method of its factory. -/
theorem leads_provider (service : Service)
    (hknown : ∀ name ∈ (top :: below).flatten, IsLocalName name) :
    Leads (OfService runtime service (top :: below).flatten) (top :: below)
      (providerOutline runtime service.singleton (callOutline service)) (top :: below) := by
  have hcall : Leads (OfService runtime service (top :: below).flatten) (top :: below)
      (callOutline service) (top :: below) := leads_call runtime service hknown
  unfold providerOutline
  split
  · have hhelper : Calm runtime (named runtime.builtins ++ code ".singletonProvider(") :=
      neutral_member (by simp [IsHolder]) ".singletonProvider(" rfl
    have hclose : Plain (code ")") := plain_code ")" rfl
    exact ((leads_usual runtime service hhelper hknown).append hcall).append hclose.leads
  · exact hcall

/-- What stands in the block of a service. -/
theorem leads_inService (service : Service)
    (hknown : ∀ name ∈ (top :: below).flatten, IsLocalName name) :
    ∃ inside, Leads (OfService runtime service ("p" :: (top :: below).flatten)) ([] :: top :: below)
      ((named runtime.provider ++ code "<? extends " ++ named (classOf service.returnType)
          ++ code "> p = " ++ providerOutline runtime service.singleton (callOutline service)
          ++ code ";")
        ++ (named objectClass ++ code "[] dep = "
          ++ captureOutline runtime service.allDependencies ++ code ";")
        ++ service.serviceTypes.flatMap (registerProviderOutline service.name))
      (inside :: top :: below) := by
  have hp : IsLocalName "p" := .inl (by decide)
  have hinside : ∀ name ∈ (["p"] :: top :: below).flatten, IsLocalName name :=
    List.forall_mem_append.mpr ⟨List.forall_mem_singleton.mpr hp, hknown⟩
  have hcode : code "> p = " = code ">" ++ (word "p" ++ code "=") := by decide
  have htype : Adds runtime (named runtime.provider ++ code "<? extends "
      ++ (named (classOf service.returnType) ++ code ">") ++ (word "p" ++ code "=")) ["p"] :=
    (TypePhrase.bounded runtime.provider (classOf service.returnType)).adds hp
  have hphrase : Phrase runtime [.factory] .statements _ :=
    (phrase_captureVariable (by decide) service.allDependencies).both
      (.flatMap fun serviceType (_ : serviceType ∈ service.serviceTypes) =>
        phrase_registerProvider (by decide) service.name serviceType)
  obtain ⟨names, hbehind⟩ := hphrase.scoped
  have hempty : ∀ name ∈ ([] :: top :: below).flatten, IsLocalName name := hknown
  have hend : Plain (code ";") := plain_code ";" rfl
  have hall : Leads (OfService runtime service ("p" :: (top :: below).flatten))
      ([] :: top :: below) _ ((names ++ ["p"]) :: top :: below) :=
    (((leads_usual runtime service htype hempty).append
      (leads_provider runtime service hinside)).append hend.leads).append
      (leads_usual runtime service hbehind hinside)
  refine ⟨names ++ ["p"], ?_⟩
  simpa only [hcode, List.append_assoc] using hall

/-- The block of a service. In front of it no parameters are left over, and behind it
none are. -/
theorem passes_service (service : Service)
    (hknown : ∀ name ∈ (top :: below).flatten, IsLocalName name) (hs : s.blocks = top :: below)
    (hread : Scopes.parameters s.read = []) :
    Passes (OfService runtime service ("p" :: (top :: below).flatten)) s
        (serviceOutline runtime service)
      ∧ (s.after (serviceOutline runtime service)).blocks = top :: below
      ∧ Scopes.parameters (s.after (serviceOutline runtime service)).read = [] := by
  have hopen : (s.after (code "\x7b")).blocks = [] :: top :: below := by
    rw [Java.blocks_after_open, hread, hs]
  have hpasses : Passes (OfService runtime service ("p" :: (top :: below).flatten)) s
      (code "\x7b") := Java.passes_of_references (Java.Outline.references_map_token _)
  obtain ⟨inside, hinside⟩ := leads_inService runtime service hknown
  obtain ⟨hpasses', hblocks⟩ := (hinside.append Java.leads_close) _ hopen
  have hparts : serviceOutline runtime service = code "\x7b" ++ _ := List.append_assoc ..
  rw [hparts]
  refine ⟨hpasses.append hpasses', Scopes.after_append ▸ hblocks, ?_⟩
  have hcode : code "\x7d" = [.token (.symbol "\x7d")] := by decide
  rw [Scopes.read_after, List.reverse_append, List.reverse_append, hcode]
  rfl

/-- The blocks of services, one behind the other. -/
theorem passes_services (services : List Service)
    (hknown : ∀ name ∈ (top :: below).flatten, IsLocalName name) (hs : s.blocks = top :: below)
    (hread : Scopes.parameters s.read = []) :
    Passes (fun place => ∃ service ∈ services,
        OfService runtime service ("p" :: (top :: below).flatten) place) s
        (services.flatMap (serviceOutline runtime))
      ∧ (s.after (services.flatMap (serviceOutline runtime))).blocks = top :: below := by
  induction services generalizing s with
  | nil => exact ⟨Java.passes_nil, hs⟩
  | cons service rest ih =>
      obtain ⟨hfirst, hblocks, hparameters⟩ := passes_service runtime service hknown hs hread
      obtain ⟨hrest, hafter⟩ := ih hblocks hparameters
      rw [List.flatMap_cons]
      refine ⟨Passes.append ?_ ?_, Scopes.after_append ▸ hafter⟩
      · exact hfirst.mono fun place h => ⟨service, List.mem_cons_self .., h⟩
      · exact hrest.mono fun place ⟨other, hother, h⟩ => ⟨other, List.mem_cons_of_mem _ hother, h⟩

end Services

/-! ## The class -/

/-- What is in scope where the factory of a service is called. -/
def factoryScope : List String := ["p", "central", "tasks", "registry"]

/-- A usual place, or the factory of a service of the module. -/
def Accounted (runtime : Runtime ClassName) (module : Module) (place : Place) : Prop :=
  Usual IsLocalName (IsHolder runtime) place
    ∨ ∃ service ∈ module.services, OfFactory service factoryScope place

section Class

variable (runtime) (module : Module) {top : List String} {below : List (List String)}

/-- In the class, a part that adds locals changes the innermost block only. -/
theorem leads_accounted {names : List String} (hp : Adds runtime p names)
    (hknown : ∀ name ∈ (top :: below).flatten, IsLocalName name) :
    Leads (Accounted runtime module) (top :: below) p ((names ++ top) :: below) :=
  (hp.leads hknown).mono fun _ => .inl

/-- The blocks in the class, which are its own and the file. -/
def classBlocks : List (List String) := [[], []]

/-- The blocks in the method that registers. -/
def registerBlocks : List (List String) := ["tasks", "registry"] :: classBlocks

/-- The declaration in front of the services adds a local, which each block finds and leaves as
it was. -/
theorem leads_serviceSection :
    ∃ top, (∀ name ∈ (top :: classBlocks).flatten, IsLocalName name)
      ∧ Leads (Accounted runtime module) registerBlocks (serviceSectionOutline runtime module)
        (top :: classBlocks) := by
  have hknown : ∀ name ∈ registerBlocks.flatten, IsLocalName name := by
    simp [registerBlocks, classBlocks, IsLocalName, localNames]
  unfold serviceSectionOutline
  split
  · exact ⟨_, hknown, fun s hs => ⟨Java.passes_nil, hs⟩⟩
  · have hcentral : IsLocalName "central" := .inl (by decide)
    have hinside : ∀ name ∈ (["central", "tasks", "registry"] :: classBlocks).flatten,
        IsLocalName name := by simp [classBlocks, IsLocalName, localNames]
    have hcode : code (" " ++ centralName ++ " = " ++ registryName ++ ".deferred();")
        = word "central" ++ code "=" ++ code "registry.deferred();" := by decide
    rw [hcode, ← List.append_assoc (named _)]
    have hdeclare : Adds runtime (named runtime.serviceCentral
        ++ (word "central" ++ code "=") ++ code "registry.deferred();") ["central"] :=
      (Java.declares_typed runtime.serviceCentral hcentral).append_code "registry.deferred();"
        rfl
    refine ⟨["central", "tasks", "registry"], hinside, fun s hs => ?_⟩
    obtain ⟨hpasses, hblocks⟩ := leads_accounted runtime module hdeclare hknown s hs
    have hread : Scopes.parameters (s.after (named runtime.serviceCentral
        ++ (word "central" ++ code "=") ++ code "registry.deferred();")).read = [] := by
      have hend : (code "registry.deferred();").reverse
          = .token (.symbol ";") :: (code "registry.deferred()").reverse := by decide
      rw [Scopes.read_after, List.reverse_append, hend]
      rfl
    obtain ⟨hservices, hafter⟩ := passes_services runtime module.services hinside hblocks hread
    have haccounted : Passes (Accounted runtime module) _
        (module.services.flatMap (serviceOutline runtime)) :=
      hservices.mono fun place ⟨service, hservice, h⟩ =>
        h.imp_right fun hfactory => ⟨service, hservice, hfactory⟩
    exact ⟨hpasses.append haccounted, Scopes.after_append ▸ hafter⟩

/-- Routes and tasks add no place, whatever locals they open and close. -/
theorem leads_registrations (h : module.WellNamed) :
    ∃ top, Leads (Accounted runtime module) registerBlocks (registrationsOutline runtime module)
      (top :: classBlocks) := by
  obtain ⟨top, hknown, hservices⟩ := leads_serviceSection runtime module
  have hphrase : Phrase runtime [.factory] .statements
      (module.routes.flatMap (routeOutline runtime)
        ++ module.tasks.flatMap (taskOutline runtime)) :=
    .both (.flatMap fun route _ => phrase_route (by decide) (by decide) route)
      (.flatMap fun task htask => phrase_task (by decide) (outputs_wellNamed h htask))
  obtain ⟨names, hbehind⟩ := hphrase.scoped
  have hall := hservices.append (leads_accounted runtime module hbehind hknown)
  rw [← List.append_assoc] at hall
  exact ⟨_, hall⟩

/-- A method adds its parameters to the blocks around it, and all that its body adds is gone
behind it. -/
theorem leads_overriding {signature body : Outline} {names : List String}
    (hsignature : Calm runtime signature)
    (hparameters : ∀ read, Scopes.parameters (signature.reverse ++ read) = names)
    (hknown : ∀ name ∈ (top :: below).flatten, IsLocalName name)
    (hbody : ∃ top', Leads (Accounted runtime module) (names :: top :: below) body
      (top' :: top :: below)) :
    Leads (Accounted runtime module) (top :: below) (overridingOutline signature body)
      (top :: below) := by
  obtain ⟨top', hbody⟩ := hbody
  have hopening : Calm runtime (code "@" ++ (named overrideAnnotation ++ code "public ")
      ++ signature) :=
    ((neutral_code "@" rfl).append
      (neutral_named_code _ "public " rfl rfl)).append hsignature
  have hcode : code " \x7b" = code "\x7b" := by decide
  have hopen := Java.leads_open (leads_accounted runtime module hopening hknown) fun read => by
    rw [List.reverse_append, List.append_assoc]
    exact hparameters _
  have hall := (hopen.append hbody).append Java.leads_close
  simpa only [overridingOutline, hcode, List.append_assoc] using hall

theorem leads_activator (activator : ClassName)
    (hknown : ∀ name ∈ (top :: below).flatten, IsLocalName name) :
    Leads (Accounted runtime module) (top :: below) (activatorOutline runtime module activator)
      (top :: below) := by
  have hcentral : IsLocalName "central" := .inl (by decide)
  have hinside : ∀ name ∈ (["central"] :: top :: below).flatten, IsLocalName name :=
    List.forall_mem_append.mpr ⟨List.forall_mem_singleton.mpr hcentral, hknown⟩
  have hsignature : Calm runtime (named runtime.moduleActivator ++ code " createActivator("
      ++ (named runtime.serviceCentral ++ code (" " ++ centralName ++ ")"))) :=
    (neutral_named_code _ " createActivator(" rfl rfl).append
      (neutral_named_code _ _ rfl rfl)
  have hparameters : ∀ read, Scopes.parameters ((named runtime.moduleActivator
      ++ code " createActivator(" ++ (named runtime.serviceCentral
        ++ code (" " ++ centralName ++ ")"))).reverse ++ read) = ["central"] := by
    have hcodes : code " createActivator("
          = [.token (.word "createActivator"), .token (.symbol "(")]
        ∧ code (" " ++ centralName ++ ")") = [.token (.word "central"), .token (.symbol ")")] := by
      decide
    intro read
    rw [hcodes.1, hcodes.2]
    rfl
  have hphrase : Phrase runtime [.factory] .statements _ := phrase_activation (by decide) activator
    ((module.onCreate.map Task.parameters).getD [])
  obtain ⟨names, hbody⟩ := hphrase.scoped
  have hall := leads_overriding runtime module hsignature hparameters hknown
    ⟨_, leads_accounted runtime module hbody hinside⟩
  simpa only [activatorOutline, List.append_assoc] using hall

theorem leads_register (h : module.WellNamed) :
    Leads (Accounted runtime module) classBlocks (registerOutline runtime module)
      classBlocks := by
  have hsignature : Calm runtime (code "void onRegister("
      ++ (named runtime.registry ++ code (" " ++ registryName ++ ", "))
      ++ (named runtime.taskContainer ++ code (" " ++ tasksName ++ ")"))) :=
    ((neutral_code "void onRegister(" rfl).append
      (neutral_named_code _ _ rfl rfl)).append
      (neutral_named_code _ _ rfl rfl)
  have hparameters : ∀ read, Scopes.parameters ((code "void onRegister("
      ++ (named runtime.registry ++ code (" " ++ registryName ++ ", "))
      ++ (named runtime.taskContainer ++ code (" " ++ tasksName ++ ")"))).reverse ++ read)
        = ["tasks", "registry"] := by
    have hcodes : code "void onRegister("
          = [.token (.word "void"), .token (.word "onRegister"), .token (.symbol "(")]
        ∧ code (" " ++ registryName ++ ", ") = [.token (.word "registry"), .token (.symbol ",")]
        ∧ code (" " ++ tasksName ++ ")") = [.token (.word "tasks"), .token (.symbol ")")] := by
      decide
    intro read
    rw [hcodes.1, hcodes.2.1, hcodes.2.2]
    rfl
  have hknown : ∀ name ∈ ([] :: [[]]).flatten, IsLocalName name := by simp
  have hall : Leads (Accounted runtime module) classBlocks _ classBlocks :=
    leads_overriding runtime module hsignature hparameters hknown
      (leads_registrations runtime module h)
  simpa only [registerOutline, List.append_assoc] using hall

/-- The members stand in one block, that of the class, and leave it as it was. -/
theorem leads_members (h : module.WellNamed) (typeName : String) :
    Leads (Accounted runtime module) classBlocks
      (membersOutline runtime module typeName) classBlocks := by
  have hknown : ∀ name ∈ classBlocks.flatten, IsLocalName name := by simp [classBlocks]
  have hnone : Leads (Accounted runtime module) classBlocks [] classBlocks :=
    fun s hs => ⟨Java.passes_nil, hs⟩
  have hconstructor : Leads (Accounted runtime module) classBlocks _ classBlocks :=
    leads_accounted runtime module (calm_constructor module typeName) hknown
  have hactivator : Leads (Accounted runtime module) classBlocks
      ((activatorOf runtime module).elim [] (activatorOutline runtime module)) classBlocks := by
    cases activatorOf runtime module with
    | none => exact hnone
    | some activator => exact leads_activator runtime module activator hknown
  have hregister : Leads (Accounted runtime module) classBlocks
      (if module.hasRegistrations then registerOutline runtime module else []) classBlocks := by
    split
    · exact leads_register runtime module h
    · exact hnone
  exact (hconstructor.append hactivator).append hregister

/-- Every class that has a member in the class of a module is accounted for. -/
theorem accounted_body (h : module.WellNamed) (typeName : String) :
    ∀ place ∈ places .start (bodyOutline runtime module typeName),
      Accounted runtime module place := by
  have hname : Plain (code "public class " ++ word typeName ++ code " extends ") :=
    ((plain_code "public class " rfl).append (plain_word typeName)).append_code " extends "
      rfl
  have hcode : code " \x7b" = [.token (.symbol "\x7b")] := by decide
  have hopen : Leads (Accounted runtime module) [[]] (named runtime.moduleContainer ++ code " \x7b")
      classBlocks := by
    intro s hs
    rw [hcode]
    exact ⟨passes_reference rfl fun rest place hplace => (by cases hplace),
      congrArg ([] :: ·) hs⟩
  have hmembers := leads_members runtime module h typeName
  have hclass := ((hname.leads.append hopen).append hmembers).append Java.leads_close
  intro place hplace
  have hparts : bodyOutline runtime module typeName
      = code "public class " ++ word typeName ++ code " extends "
        ++ (named runtime.moduleContainer ++ code " \x7b")
        ++ membersOutline runtime module typeName ++ code "\x7d" := by
    simp only [bodyOutline, List.append_assoc]
  obtain ⟨hpasses, -⟩ := hclass .start rfl
  rw [hparts] at hplace
  have hall := hpasses []
  rw [List.append_nil] at hall
  exact (hall place hplace).elim id fun hnone => absurd hnone List.not_mem_nil

end Class

/-! ## The first name of a spelling -/

/-- What stands in front of the first dot. -/
def firstName (text : String) : String := (Text.splitOn '.' text).headD ""

/-- A class that owns its simple name starts with the outermost class, and another one
with its package, if it has one. -/
theorem firstName_nameOf {package own : String} {types : List ClassName} {c : ClassName}
    (h : c.WellFormed) :
    firstName ((ImportTable.build package own types).nameOf c)
      = if Owns package own types c then c.outermost else (c.packages ++ c.names).headD "" := by
  rw [firstName, ImportTable.splitOn_nameOf h, ImportTable.segmentsOf]
  split <;> rfl

theorem not_isLocalName {name : String} (h : name ∉ localNames)
    (hvariable : name.toList.take 3 ≠ "var".toList) : ¬ IsLocalName name := by
  rintro (hlisted | ⟨position, rfl⟩)
  · exact h hlisted
  · refine hvariable ?_
    rw [outputVariable, String.toList_append]
    rfl

/-- No holder of the standard runtime is written like a local, neither with its package
nor without it. -/
theorem holder_not_local (hresolve : Runtime.standard.resolve = .ok runtime) {c : ClassName}
    (h : IsHolder runtime c) :
    ∀ name ∈ [c.outermost, (c.packages ++ c.names).headD ""], ¬ IsLocalName name := by
  obtain rfl : Runtime.standardClasses = runtime :=
    Except.ok.inj (Runtime.standard_resolve.symm.trans hresolve)
  have hall : ∀ c ∈ [Runtime.standardClasses.builtins, Runtime.standardClasses.tuples,
        Runtime.standardClasses.threadMode, Runtime.standardClasses.bootstrapMode],
      ∀ name ∈ [c.outermost, (c.packages ++ c.names).headD ""],
        name ∉ localNames ∧ name.toList.take 3 ≠ "var".toList := by decide +kernel
  intro name hname
  obtain ⟨hlisted, hvariable⟩ := hall c h name hname
  exact not_isLocalName hlisted hvariable

/-! ## Captured classes -/

/-- The first name of the class, as the file writes it, is taken for a local. -/
def Captured (file : CompilationUnit) (place : Place) : Prop :=
  firstName (file.importTable.nameOf place.target) ∈ place.locals

/-- At a place that a factory makes, the locals are those of its scope. Any other place is on
neither side: the classes that emitters use by themselves are not spelled like a local. -/
theorem captured_iff_of_accounted (hresolve : Runtime.standard.resolve = .ok runtime)
    {module : Module} {file : CompilationUnit} {place : Place} (hwf : place.target.WellFormed)
    (h : Accounted runtime module place) :
    Captured file place ↔
      firstName (file.importTable.nameOf place.target) ∈ factoryScope
        ∧ ∃ service ∈ module.services, service.factory = .staticMethod place.member
          ∧ classOf service.sourceClass = place.target := by
  rcases h with ⟨hholder, hlocals⟩ | ⟨service, hservice, h⟩
  · have hfree : ¬ IsLocalName (firstName (file.importTable.nameOf place.target)) := by
      rw [CompilationUnit.importTable, firstName_nameOf hwf]
      refine holder_not_local hresolve hholder _ ?_
      split <;> simp
    refine iff_of_false (fun hcaptured => hfree (hlocals _ hcaptured)) fun ⟨hscope, _⟩ => hfree ?_
    have hnames : ∀ name ∈ factoryScope, IsLocalName name := by
      simp [factoryScope, IsLocalName, localNames]
    exact hnames _ hscope
  · rw [Captured, h.locals]
    exact ⟨fun hscope => ⟨hscope, service, hservice, h.factory, h.target.symm⟩, And.left⟩

/-- In the class of an accepted module a class in front of a member is taken for a local
exactly where a service has it as the source of that factory method, and it is
written with a first name of `registry`, `tasks`, `central` or `p`. -/
theorem captured_iff_factory (hresolve : Runtime.standard.resolve = .ok runtime)
    {module : Module} (hvalid : module.validate = .ok ()) (banner : String) :
    ∃ file outline, unit runtime banner module = .ok file
      ∧ (∀ other, file.body.Reads .sealed other ↔ other = outline)
      ∧ ∀ place ∈ places .start outline,
        Captured file place ↔
          firstName (file.importTable.nameOf place.target) ∈ factoryScope
            ∧ ∃ service ∈ module.services, service.factory = .staticMethod place.member
              ∧ classOf service.sourceClass = place.target := by
  have hnamed := Module.wellNamed_of_validate hvalid
  obtain ⟨file, hfile⟩ := unit_succeeds runtime hnamed banner
  obtain ⟨-, -, -, hbody⟩ := reads_unit (Runtime.wellFormed_of_resolve hresolve) hfile
  refine ⟨file, bodyOutline runtime module file.typeName, hfile,
    fun other => ⟨fun hother => hother.unique hbody, fun heq => heq ▸ hbody⟩, ?_⟩
  intro place hplace
  exact captured_iff_of_accounted hresolve (hbody.wellFormed _ (Java.target_mem_references hplace))
    (accounted_body runtime module hnamed file.typeName place hplace)

/-- A module with a clock that a factory makes. The factory has the name of the clock, and
its package is named as a local variable. -/
def clockModule : Module where
  name := "clocks"
  entranceClass := "com.example.Clocks"
  services :=
    [{ name := "clock", returnType := "com.example.Clock", sourceClass := "central.Clock",
       factory := .staticMethod "create", serviceTypes := ["com.example.Clock"] }]

theorem clockModule_captured_iff :
    ∃ runtime, Runtime.standard.resolve = .ok runtime
      ∧ clockModule.validate = .ok ()
      ∧ ∃ file outline, unit runtime "" clockModule = .ok file
        ∧ (∀ other, file.body.Reads .sealed other ↔ other = outline)
        ∧ ∀ place ∈ places .start outline,
          Captured file place ↔
            firstName (file.importTable.nameOf place.target) ∈ factoryScope
              ∧ ∃ service ∈ clockModule.services, service.factory = .staticMethod place.member
                ∧ classOf service.sourceClass = place.target := by
  obtain ⟨runtime, hresolve⟩ := Runtime.standard_resolves
  have hvalid : clockModule.validate = .ok () := by decide +kernel
  exact ⟨runtime, hresolve, hvalid, captured_iff_factory hresolve hvalid ""⟩

/-- The factory is written `central.Clock`, where `central` is a local variable. -/
theorem clock_taken_for_central :
    ∃ runtime file outline, Runtime.standard.resolve = .ok runtime
      ∧ clockModule.validate = .ok ()
      ∧ unit runtime "" clockModule = .ok file
      ∧ file.body.Reads .sealed outline
      ∧ ∃ place ∈ places .start outline,
        place.target = ⟨"central", "Clock", []⟩ ∧ place.member = "create"
          ∧ file.importTable.nameOf place.target = "central.Clock"
          ∧ "central" ∈ place.locals ∧ Captured file place := by
  have hplace : ⟨⟨"central", "Clock", []⟩, "create", factoryScope⟩
      ∈ places .start (bodyOutline Runtime.standardClasses clockModule "Clocks") := by
    decide +kernel
  have hspelled : (ImportTable.build "com.example" "Clocks"
      (bodyOutline Runtime.standardClasses clockModule "Clocks").references).nameOf
        ⟨"central", "Clock", []⟩ = "central.Clock" := by decide +kernel
  have hvalid : clockModule.validate = .ok () := by decide +kernel
  obtain ⟨file, hfile⟩ :=
    unit_succeeds Runtime.standardClasses (Module.wellNamed_of_validate hvalid) ""
  obtain ⟨-, -, hentrance, hbody⟩ :=
    reads_unit (Runtime.wellFormed_of_resolve Runtime.standard_resolve) hfile
  have hparts : clockModule.entranceParts = some ("com.example", "Clocks") := by decide +kernel
  obtain ⟨hpackage, hname⟩ := Prod.mk.inj (Option.some.inj
    ((entranceParts_of_entrance hentrance).symm.trans hparts))
  have htable : file.importTable.nameOf ⟨"central", "Clock", []⟩ = "central.Clock" := by
    rw [CompilationUnit.importTable, hbody.types, hpackage, hname]
    exact hspelled
  rw [hname] at hbody
  refine ⟨_, file, _, Runtime.standard_resolve, hvalid, hfile, hbody, _, hplace, rfl, rfl, htable,
    by decide, ?_⟩
  rw [Captured, htable]
  decide +kernel

end ModuleContainers.Container
