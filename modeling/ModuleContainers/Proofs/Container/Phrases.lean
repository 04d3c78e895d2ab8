import ModuleContainers.Proofs.Container.Class
import ModuleContainers.Proofs.Validation

/-!
# What generated code is made of

The emitters put their outlines together in a few ways: literals, class objects, calls
and arrays with their arguments, lambdas, and the statements around them. `Phrase` lists
the ways, and one lemma for each emitter tells in which of them its outline is made.
What holds of all outlines is then shown once, along the ways (`Phrase`), and not along
the emitters; where an emitter changes, its lemma here changes with it.

Not every property holds of all that is emitted. An outline that fetches a service is
not clear of accesses, and one that registers something is not inert. Such things are
features, and a phrase is said to have none of those that are excluded.
-/

namespace ModuleContainers.Container

open ModuleContainers.Java (ClassName Outline TypeName code codeTokens isIdentifier listed named
  number quoted word)
open ModuleContainers.Metadata (Accessor Attribute BootstrapMode Constant Dependency LookupKind
  Module NamesType Output Route Service Task ThreadMode)

/-! ## Names and holders -/

/-- The names of locals and parameters that emitters give. -/
def localNames : List String :=
  ["registry", "tasks", "central", "p", "dep", "builder", "task", "action"]

/-- The names of variables and parameters in generated code. -/
def IsLocalName (name : String) : Prop :=
  name ∈ localNames ∨ ∃ position, name = outputVariable position

/-- The classes of the runtime that have members in generated code: the helper, the
tuples and the enums. -/
def IsHolder (runtime : Runtime ClassName) (target : ClassName) : Prop :=
  target ∈ [runtime.builtins, runtime.tuples, runtime.threadMode, runtime.bootstrapMode]

/-- The numbered variables start like none of the keywords, and the others are looked
through. -/
theorem IsLocalName.ne {name keyword : String} (h : IsLocalName name)
    (hkeyword : keyword ∈ ["class", "void"]) : name ≠ keyword := by
  rcases h with hlisted | ⟨position, rfl⟩
  · have htable : ∀ name ∈ localNames, ∀ keyword ∈ ["class", "void"], name ≠ keyword := by decide
    exact htable name hlisted keyword hkeyword
  · have hbeginnings : ∀ keyword ∈ ["class", "void"],
        keyword.toList.take 3 ≠ "var".toList := by decide
    exact outputVariable_ne (hbeginnings _ hkeyword) position

/-- The words that tell a registration, an access, a method or a callback. -/
def markedWords : List String := ["registry", "tasks", "task", "doLast", "class", "void"]

/-- A word that is a value of its own, and none of the marked ones. -/
def IsAtom (name : String) : Prop :=
  name ∈ ["null", "this", "true", "false", "p", "dep"]
    ∨ ∃ position, name = outputVariable position

theorem IsAtom.ne {name marked : String} (h : IsAtom name) (hmarked : marked ∈ markedWords) :
    name ≠ marked := by
  rcases h with hlisted | ⟨position, rfl⟩
  · have htable : ∀ name ∈ ["null", "this", "true", "false", "p", "dep"],
        ∀ marked ∈ markedWords, name ≠ marked := by decide
    exact htable name hlisted marked hmarked
  · have hbeginnings : ∀ marked ∈ markedWords, marked.toList.take 3 ≠ "var".toList := by decide
    exact outputVariable_ne (hbeginnings _ hmarked) position

/-! ## The grammar -/

/-- What a property may have to leave out. -/
inductive Feature where
  /-- A service is fetched. -/
  | fetch
  /-- A service is made by a static method. -/
  | factory
  | array
  /-- Statements are handed over, in a block of their own. -/
  | callback
  | registration
  | publication
  /-- Nothing that is left out anywhere. -/
  | plain
  deriving Repr, DecidableEq

/-- What a phrase may stand for. -/
inductive Kind where
  /-- An expression that does not end in a class object. -/
  | value
  | argument
  | statements
  deriving Repr, DecidableEq

/-- How accesses start. -/
def accessCalls : List String :=
  [AccessPoint.central, .taskServices].flatMap fun point =>
    (Constant.all : List LookupKind).map fun kind => point.expression ++ "." ++ getter kind ++ "("

/-- How calls start that are called on nothing but known names. -/
def knownCalls : List (String × Feature) :=
  [("super(", .plain), ("builder.threadMode(", .plain), (".priority(", .plain),
    (".dependsOn(", .plain), (".doLast(", .callback),
    ("registry.registerProviderService(", .registration),
    ("registry.registerRoutes(", .registration),
    ("registry.registerTaskOutputService(", .registration), ("tasks.register(", .registration),
    ("task.getOutputs().output(", .publication)]

/-- The methods of holders that are given something. -/
def helperCalls : List String := [".to(", ".singletonProvider(", ".routesBean("]

/-- The members of holders that are values. -/
def helperValues : List String :=
  [".emptyAttributesArray()", ".emptyAnyArray()", ".emptyArrayProvider()",
    ".stubLauncherProvider()"]
    ++ (Constant.all : List ThreadMode).map ("." ++ Constant.name ·)
    ++ (Constant.all : List BootstrapMode).map ("." ++ Constant.name ·)

/-- The lambdas that have a block, up to the block. -/
def lambdas : List String := ["(builder) ->", "(task) ->"]

/-- The statements that are always the same. -/
def knownStatements : List String := ["action.execute(task);", "return null;"]

/-- All texts of known code that phrases are made of, group by group. -/
def phraseTexts : List (List String) :=
  [helperCalls, helperValues, accessCalls, knownCalls.map Prod.fst, lambdas, knownStatements,
    ["", "return "], [";", "();"]]

theorem call_mem_texts {text : String} {feature : Feature} (h : (text, feature) ∈ knownCalls) :
    text ∈ knownCalls.map Prod.fst :=
  List.mem_map_of_mem h

/-- No such text has a class object or a method in it. -/
theorem reserved_not_in_text {group : List String} (hgroup : group ∈ phraseTexts) {text : String}
    (htext : text ∈ group) {keyword : String} (hkeyword : keyword ∈ ["class", "void"]) :
    (codeTokens text).contains (.word keyword) = false := by
  have htable : ∀ group ∈ phraseTexts, ∀ text ∈ group, ∀ keyword ∈ ["class", "void"],
      (codeTokens text).contains (.word keyword) = false := by decide +kernel
  exact htable group hgroup text htext keyword hkeyword

section

variable (runtime : Runtime ClassName) (excluded : List Feature)

/-- What stands in front of a list of items, and what closes the list. -/
inductive Opening : Outline → String → Prop
  | creation (target : ClassName) : Opening (code "new " ++ named target ++ code "(") ")"
  | array (h : .array ∉ excluded) (target : ClassName) :
      Opening (code "new " ++ named target ++ code "[]\x7b") "\x7d"
  | helper {holder : ClassName} {text : String} (hholder : IsHolder runtime holder)
      (htext : text ∈ helperCalls) : Opening (named holder ++ code text) ")"
  | factory (h : .factory ∉ excluded) (source : ClassName) {name : String}
      (hname : isIdentifier name = true) :
      Opening (code "() -> " ++ named source ++ (code "." ++ word name) ++ code "(") ")"
  | known {text : String} {feature : Feature} (htext : (text, feature) ∈ knownCalls)
      (h : feature ∉ excluded) : Opening (code text) ")"

/-- The type of a variable. -/
inductive TypePhrase : Outline → Prop
  | primitive {keyword : String} (h : keyword ∈ TypeName.primitives) : TypePhrase (word keyword)
  | reference (target : ClassName) : TypePhrase (named target)
  | array (target : ClassName) : TypePhrase (named target ++ code "[]")
  | bounded (target bound : ClassName) :
      TypePhrase (named target ++ code "<? extends " ++ (named bound ++ code ">"))

/-- A part of generated code that is complete in itself. -/
inductive Phrase : Kind → Outline → Prop
  | literal (value : String) : Phrase .value (quoted value)
  | number (i : Int) : Phrase .value (number i)
  | atom {name : String} (h : IsAtom name) : Phrase .value (word name)
  | helper {holder : ClassName} {text : String} (hholder : IsHolder runtime holder)
      (htext : text ∈ helperValues) : Phrase .value (named holder ++ code text)
  | fetch (h : .fetch ∉ excluded) {text : String} (htext : text ∈ accessCalls) (target : ClassName)
      (name : String) :
      Phrase .value
        (code text ++ classOutline target ++ code ", " ++ quoted name ++ code ")")
  /-- An item that ends in a class object must not be followed by the literal that ends the
  list, for the two would look like an access. -/
  | call {opening : Outline} {closing : String} {front rest : List Outline}
      (hopening : Opening runtime excluded opening closing)
      (hfront : ∀ item ∈ front, Phrase .argument item) (hrest : ∀ item ∈ rest, Phrase .value item)
      (hend : closing = "\x7d" ∨ front = [] ∨ ∃ name more, rest = word name :: more) :
      Phrase .value (opening ++ listed (front ++ rest) ++ code closing)
  | callback (h : .callback ∉ excluded) {text : String} (htext : text ∈ lambdas) {body : Outline}
      (hbody : Phrase .statements body) :
      Phrase .value (code text ++ code "\x7b" ++ body ++ code "\x7d")
  | supplier {kind : Kind} (hkind : kind ≠ .statements) {result : Outline}
      (hresult : Phrase kind result) : Phrase kind (code "() -> " ++ result)
  | classObject (target : ClassName) : Phrase .argument (classOutline target)
  | argument {item : Outline} (h : Phrase .value item) : Phrase .argument item
  | known {text : String} (htext : text ∈ knownStatements) : Phrase .statements (code text)
  | evaluation {before : String} (hbefore : before ∈ ["", "return "]) {chain : List Outline}
      (hchain : ∀ item ∈ chain, Phrase .value item) :
      Phrase .statements (code before ++ chain.flatten ++ code ";")
  | declaration {type value : Outline} (htype : TypePhrase type) {name : String}
      (hname : IsLocalName name) (hvalue : Phrase .value value) :
      Phrase .statements (type ++ (word name ++ code "=") ++ value ++ code ";")
  /-- An output is read from the action. -/
  | reading {type : Outline} (htype : TypePhrase type) {name : String} (hname : IsLocalName name)
      {member : String} (hmember : isIdentifier member = true) {ending : String}
      (hending : ending ∈ [";", "();"]) :
      Phrase .statements (type ++ (word name ++ code "=")
        ++ (code "action." ++ word member ++ code ending))
  | nothing : Phrase .statements []
  | both {p q : Outline} (hp : Phrase .statements p) (hq : Phrase .statements q) :
      Phrase .statements (p ++ q)

end

/-- A phrase that may have every feature. -/
abbrev AnyPhrase (runtime : Runtime ClassName) : Kind → Outline → Prop := Phrase runtime []

variable {runtime : Runtime ClassName} {excluded : List Feature}

namespace Phrase

/-- A call whose items are values. -/
theorem call_values {opening : Outline} {closing : String} {items : List Outline}
    (hopening : Opening runtime excluded opening closing)
    (h : ∀ item ∈ items, Phrase runtime excluded .value item) :
    Phrase runtime excluded .value (opening ++ listed items ++ code closing) :=
  .call hopening (List.forall_mem_nil _) h (.inr (.inl rfl))

/-- A call that is given a class object and a name first. -/
theorem call_class {opening : Outline} {closing : String} {rest : List Outline}
    (hopening : Opening runtime excluded opening closing) (target : ClassName) (name : String)
    {middle : String} (hmiddle : IsAtom middle)
    (h : ∀ item ∈ rest, Phrase runtime excluded .value item) :
    Phrase runtime excluded .value
      (opening ++ listed ([classOutline target, quoted name] ++ word middle :: rest)
        ++ code closing) := by
  have hfront : ∀ item ∈ [classOutline target, quoted name],
      Phrase runtime excluded .argument item :=
    List.forall_mem_cons.mpr
      ⟨.classObject target, List.forall_mem_singleton.mpr (.argument (.literal name))⟩
  exact .call hopening hfront (List.forall_mem_cons.mpr ⟨.atom hmiddle, h⟩)
    (.inr (.inr ⟨middle, rest, rfl⟩))

/-- An array with its elements, as a call with brackets and braces of its own. -/
theorem elements {items : List Outline} (harray : .array ∉ excluded) (target : ClassName)
    (h : ∀ item ∈ items, Phrase runtime excluded .argument item) :
    Phrase runtime excluded .value
      (code "new " ++ named target ++ code "[]\x7b" ++ listed items ++ code "\x7d") := by
  have hcall := Phrase.call (.array harray target) h (List.forall_mem_nil _) (.inl rfl)
  rwa [List.append_nil] at hcall

theorem statement {p : Outline} (h : Phrase runtime excluded .value p) :
    Phrase runtime excluded .statements (p ++ code ";") := by
  have hnone : code "" = [] := by decide
  have hall : Phrase runtime excluded .statements (code "" ++ [p].flatten ++ code ";") :=
    .evaluation (by decide) (List.forall_mem_singleton.mpr h)
  simpa [hnone] using hall

theorem flatMap {α : Type} {outline : α → Outline} {items : List α}
    (h : ∀ item ∈ items, Phrase runtime excluded .statements (outline item)) :
    Phrase runtime excluded .statements (items.flatMap outline) :=
  Java.flatMap_closed .nothing .both h

end Phrase

/-! ## Arguments -/

theorem phrase_access (hfetch : .fetch ∉ excluded) (point : AccessPoint) (dependency : Dependency) :
    Phrase runtime excluded .value (accessOutline point dependency) := by
  cases dependency with
  | task name => exact .literal name
  | service needed =>
      refine .fetch hfetch ?_ (classOf needed.className) needed.serviceName
      cases point <;> cases needed.kind <;> decide

theorem phrase_accesses (hfetch : .fetch ∉ excluded) (point : AccessPoint)
    (dependencies : List Dependency) :
    ∀ item ∈ dependencies.map (accessOutline point), Phrase runtime excluded .value item :=
  List.forall_mem_map.mpr fun dependency _ => phrase_access hfetch point dependency

/-- A descriptor is a creation with a class object, a literal and a truth value. The truth value
stands last, so the class object is not at the end. -/
theorem phrase_descriptor (dependency : Dependency) :
    Phrase runtime excluded .value (descriptorOutline runtime dependency) := by
  cases dependency with
  | task name => exact .literal name
  | service needed =>
      have htruth : IsAtom (truth needed.optional) := by
        cases needed.optional <;> exact .inl (by decide)
      have hcodes : code ", " = code ","
          ∧ code (", " ++ truth needed.optional ++ ")")
            = code "," ++ (word (truth needed.optional) ++ code ")") := by
        cases needed.optional <;> decide
      have hcall := Phrase.call_class (.creation runtime.serviceDependency)
        (classOf needed.className) needed.serviceName htruth
        (List.forall_mem_nil (Phrase runtime excluded .value))
      simpa [descriptorOutline, listed, hcodes] using hcall

theorem phrase_descriptors (dependencies : List Dependency) :
    ∀ item ∈ dependencies.map (descriptorOutline runtime), Phrase runtime excluded .value item :=
  List.forall_mem_map.mpr fun dependency _ => phrase_descriptor dependency

theorem phrase_attributes (harray : .array ∉ excluded) (attributes : List Attribute) :
    Phrase runtime excluded .value (attributesOutline runtime attributes) := by
  unfold attributesOutline
  split
  · exact .helper (by simp [IsHolder]) (by decide)
  · refine .elements harray runtime.pair (List.forall_mem_map.mpr fun pair _ => .argument ?_)
    have hcode : code ", " = code "," := by decide
    have hcall : Phrase runtime excluded .value
        (named runtime.tuples ++ code ".to(" ++ listed [quoted pair.name, quoted pair.value]
          ++ code ")") :=
      .call_values (.helper (by simp [IsHolder]) (by decide)) (List.forall_mem_cons.mpr
        ⟨.literal pair.name, List.forall_mem_singleton.mpr (.literal pair.value)⟩)
    simpa [attributeOutline, listed, hcode] using hcall

theorem phrase_threadMode (mode : ThreadMode) :
    Phrase runtime excluded .value (constantOutline runtime.threadMode mode) := by
  refine .helper (by simp [IsHolder]) ?_
  cases mode <;> decide

theorem phrase_bootstrapMode (mode : BootstrapMode) :
    Phrase runtime excluded .value (constantOutline runtime.bootstrapMode mode) := by
  refine .helper (by simp [IsHolder]) ?_
  cases mode <;> decide

/-! ## Services -/

/-- The factory is what opens the call; its parameters are the items. -/
theorem phrase_call (hfetch : .fetch ∉ excluded) (hfactory : .factory ∉ excluded)
    {service : Service}
    (h : ∀ name, service.factory = .staticMethod name → isIdentifier name = true) :
    Phrase runtime excluded .value (callOutline service) := by
  have hitems : ∀ item ∈ service.parameters.map (accessOutline .central),
      Phrase runtime excluded .value item := phrase_accesses hfetch .central service.parameters
  unfold callOutline
  cases hmade : service.factory with
  | constructor =>
      have hcode : code "() -> new " = code "() -> " ++ code "new " := by decide
      have hcall := Phrase.supplier (by decide)
        (.call_values (.creation (classOf service.sourceClass)) hitems)
      simpa [factoryOutline, hcode] using hcall
  | staticMethod name =>
      have hcall := Phrase.call_values
        (.factory hfactory (classOf service.sourceClass) (h name hmade)) hitems
      simpa [factoryOutline] using hcall

/-- A singleton is a helper with the provider as its one item. -/
theorem phrase_provider (singleton : Bool) {call : Outline}
    (h : Phrase runtime excluded .value call) :
    Phrase runtime excluded .value (providerOutline runtime singleton call) := by
  unfold providerOutline
  split
  · have hhelper : Phrase runtime excluded .value
        (named runtime.builtins ++ code ".singletonProvider(" ++ listed [call] ++ code ")") :=
      .call_values (.helper (by simp [IsHolder]) (by decide)) (List.forall_mem_singleton.mpr h)
    simpa [listed] using hhelper
  · exact h

theorem phrase_capture (harray : .array ∉ excluded) (captured : List Dependency) :
    Phrase runtime excluded .value (captureOutline runtime captured) := by
  unfold captureOutline
  split
  · exact .helper (by simp [IsHolder]) (by decide)
  · exact .elements harray objectClass fun item hitem =>
      .argument (phrase_descriptors captured item hitem)

theorem phrase_registerProvider (hregistration : .registration ∉ excluded)
    (serviceName serviceType : String) :
    Phrase runtime excluded .statements (registerProviderOutline serviceName serviceType) := by
  have hopening : Opening runtime excluded (code (registryName ++ ".registerProviderService("))
      ")" := .known (by decide) hregistration
  have hrest : ∀ item ∈ [word "this", word "dep"], Phrase runtime excluded .value item :=
    List.forall_mem_cons.mpr ⟨.atom (.inl (by decide)),
      List.forall_mem_singleton.mpr (.atom (.inl (by decide)))⟩
  have hcall := (Phrase.call_class hopening (classOf serviceType) serviceName
    (.inl (by decide : "p" ∈ _)) hrest).statement
  have hcodes : code ", " = code ","
      ∧ code ", p, this, dep);" = code "," ++ (word "p" ++ (code "," ++ (word "this"
        ++ (code "," ++ (word "dep" ++ (code ")" ++ code ";")))))) := by decide
  simpa [registerProviderOutline, listed, hcodes] using hcall

/-- The variable of the provider of a service. -/
theorem phrase_providerVariable (returnType : ClassName) {value : Outline}
    (h : Phrase runtime excluded .value value) :
    Phrase runtime excluded .statements
      (named runtime.provider ++ code "<? extends " ++ named returnType ++ code "> p = " ++ value
        ++ code ";") := by
  have hcode : code "> p = " = code ">" ++ (word "p" ++ code "=") := by decide
  have hvariable := Phrase.declaration (.bounded runtime.provider returnType)
    (.inl (by decide : "p" ∈ localNames)) h
  simpa [hcode] using hvariable

/-- The variable of what a service captures. -/
theorem phrase_captureVariable (harray : .array ∉ excluded) (captured : List Dependency) :
    Phrase runtime excluded .statements
      (named objectClass ++ code "[] dep = " ++ captureOutline runtime captured ++ code ";") := by
  have hcode : code "[] dep = " = code "[]" ++ (word "dep" ++ code "=") := by decide
  have hcapture : Phrase runtime excluded .value _ := phrase_capture harray captured
  have hvariable := Phrase.declaration (.array objectClass) (.inl (by decide : "dep" ∈ localNames))
    hcapture
  simpa [hcode] using hvariable

/-! ## Routes -/

theorem phrase_rules (harray : .array ∉ excluded) (rules : List String) :
    Phrase runtime excluded .value (rulesOutline rules) :=
  .elements harray stringClass (List.forall_mem_map.mpr fun rule _ => .argument (.literal rule))

theorem phrase_interceptors (harray : .array ∉ excluded) (interceptors : List String) :
    Phrase runtime excluded .value (interceptorOutline runtime interceptors) := by
  unfold interceptorOutline
  split
  · exact .helper (by simp [IsHolder]) (by decide)
  · have hcode : code "() -> new " = code "() -> " ++ code "new " := by decide
    have hclasses : Phrase runtime excluded .value _ := .elements harray classClass
      (List.forall_mem_map.mpr fun name (_ : name ∈ interceptors) => .classObject (classOf name))
    simpa [hcode] using Phrase.supplier (by decide) hclasses

/-- A launcher may be a class object behind an arrow, so it is an argument and not a value. -/
theorem phrase_launcher (launcher : Option String) :
    Phrase runtime excluded .argument (launcherOutline runtime launcher) := by
  have hstub : Phrase runtime excluded .argument
      (named runtime.builtins ++ code ".stubLauncherProvider()") :=
    .argument (.helper (by simp [IsHolder]) (by decide))
  cases launcher with
  | none => exact hstub
  | some name =>
      rw [launcherOutline]
      split
      · exact hstub
      · exact .supplier (by decide) (.classObject (classOf name))

/-- The call that makes routes from what there is to say of them. -/
theorem phrase_bean (harray : .array ∉ excluded) (route : Route) :
    Phrase runtime excluded .value
      (named runtime.builtins ++ code ".routesBean("
        ++ listed [quoted route.name, rulesOutline route.rules, quoted route.routeType,
          attributesOutline runtime route.attributes, interceptorOutline runtime route.interceptors,
          launcherOutline runtime route.launcher,
          code "() -> " ++ classOutline (classOf route.className), code "this"]
        ++ code ")") := by
  have hfront : ∀ item ∈ [quoted route.name, rulesOutline route.rules, quoted route.routeType,
      attributesOutline runtime route.attributes, interceptorOutline runtime route.interceptors,
      launcherOutline runtime route.launcher,
      code "() -> " ++ classOutline (classOf route.className)],
      Phrase runtime excluded .argument item := by
    simp only [List.forall_mem_cons, List.not_mem_nil, false_imp_iff, implies_true, and_true]
    exact ⟨.argument (.literal _), .argument (phrase_rules harray _), .argument (.literal _),
      .argument (phrase_attributes harray _), .argument (phrase_interceptors harray _),
      phrase_launcher _, .supplier (by decide) (.classObject _)⟩
  have hthis : IsAtom "this" := .inl (by decide)
  have hcode : code "this" = word "this" := by decide
  rw [hcode]
  exact .call (.helper (by simp [IsHolder]) (by decide)) hfront
    (List.forall_mem_singleton.mpr (.atom hthis)) (.inr (.inr ⟨"this", [], rfl⟩))

/-- The bean of the route is the one argument of the call that registers it. -/
theorem phrase_route (harray : .array ∉ excluded) (hregistration : .registration ∉ excluded)
    (route : Route) : Phrase runtime excluded .statements (routeOutline runtime route) := by
  have hopening : Opening runtime excluded (code (registryName ++ ".registerRoutes(")) ")" :=
    .known (by decide) hregistration
  have hcall := (Phrase.call_values hopening
    (List.forall_mem_singleton.mpr (phrase_bean harray route))).statement
  have hcode : code "));" = code ")" ++ (code ")" ++ code ";") := by decide
  simpa [routeOutline, listed, hcode] using hcall

/-! ## Tasks -/

theorem phrase_announce (hregistration : .registration ∉ excluded)
    (taskName outputName serviceType : String) :
    Phrase runtime excluded .statements (announceOutline taskName outputName serviceType) := by
  have hopening : Opening runtime excluded
      (code (registryName ++ ".registerTaskOutputService(")) ")" := .known (by decide) hregistration
  have hcall := (Phrase.call_class hopening (classOf serviceType) outputName
    (.inl (by decide : "this" ∈ _)) (List.forall_mem_singleton.mpr (.literal taskName))).statement
  have hcodes : code ", " = code ","
      ∧ code ", this, " = code "," ++ (word "this" ++ code ",")
      ∧ code ");" = code ")" ++ code ";" := by decide
  simpa [announceOutline, listed, hcodes] using hcall

/-- Outputs, and types of each, one statement for each pair. -/
theorem phrase_announceAll (hregistration : .registration ∉ excluded) (task : Task) :
    Phrase runtime excluded .statements (task.outputs.flatMap (announceAllOutline task.name)) :=
  .flatMap fun output _ => .flatMap fun serviceType _ =>
    phrase_announce hregistration task.name output.name serviceType

theorem phrase_publish (hpublication : .publication ∉ excluded) (outputName : String)
    (position : Nat) (serviceType : String) :
    Phrase runtime excluded .statements
      (publishOutline outputName (outputVariable position) serviceType) := by
  have hopening : Opening runtime excluded (code "task.getOutputs().output(") ")" :=
    .known (by decide) hpublication
  have hcall := (Phrase.call_class hopening (classOf serviceType) outputName
    (.inr ⟨position, rfl⟩) (List.forall_mem_nil _)).statement
  have hcodes : code ", " = code "," ∧ code ");" = code ")" ++ code ";" := by decide
  simpa [publishOutline, listed, hcodes] using hcall

/-- A type that is there is written as one name. -/
theorem typePhrase_typeOutline {name : String} (h : NamesType name) :
    TypePhrase (typeOutline name) := by
  obtain ⟨variableType, htype⟩ := h
  have hparse := Outcome.mapError_eq_ok.mp htype
  rw [typeOutline, hparse]
  cases variableType with
  | primitive keyword => exact .primitive (mem_primitives_of_parse hparse)
  | reference target => exact .reference target

/-- The variable that an output is read to. -/
theorem phrase_reading {output : Output} (h : output.WellNamed) (position : Nat) :
    Phrase runtime excluded .statements
      (typeOutline output.returnType
        ++ (code " " ++ word (outputVariable position) ++ code " = "
          ++ (accessorTokens output.accessor).map .token ++ code ";")) := by
  have hreading : ∀ ending ∈ [";", "();"], Phrase runtime excluded .statements _ := fun _ =>
    .reading (typePhrase_typeOutline h.returnType) (.inr ⟨position, rfl⟩) h.accessor
  have hcodes : code " " = [] ∧ code " = " = code "=" ∧ code "();" = code "()" ++ code ";" := by
    decide
  cases haccessor : output.accessor with
  | field name =>
      have htokens : (accessorTokens (.field name)).map .token = code "action." ++ word name :=
        List.map_append
      have hfield := hreading ";" (by decide)
      simpa [haccessor, htokens, Accessor.member, hcodes] using hfield
  | method name =>
      have htokens : (accessorTokens (.method name)).map .token
          = code "action." ++ word name ++ code "()" := by
        rw [accessorTokens, List.map_append, List.map_append]
        rfl
      have hmethod := hreading "();" (by decide)
      simpa [haccessor, htokens, Accessor.member, hcodes] using hmethod

/-- By induction on the outputs, as they are numbered. -/
theorem phrase_publishFrom (hpublication : .publication ∉ excluded) {outputs : List Output}
    (h : ∀ output ∈ outputs, output.WellNamed) (position : Nat) :
    Phrase runtime excluded .statements (publishFromOutline position outputs) := by
  induction outputs generalizing position with
  | nil => exact .nothing
  | cons output rest ih =>
      have hreading : Phrase runtime excluded .statements _ :=
        phrase_reading (h output (List.mem_cons_self ..)) position
      have hpublish : Phrase runtime excluded .statements
          (output.serviceTypes.flatMap (publishOutline output.name (outputVariable position))) :=
        .flatMap fun serviceType _ => phrase_publish hpublication output.name position serviceType
      exact .both (.both hreading hpublish)
        (ih (fun other hother => h other (List.mem_cons_of_mem _ hother)) (position + 1))

theorem phrase_execute (action : ClassName) {parameters : List Outline}
    (h : ∀ item ∈ parameters, Phrase runtime excluded .value item) :
    Phrase runtime excluded .statements (executeOutline action parameters) := by
  have haction := Phrase.declaration (.reference action)
    (.inl (by decide : "action" ∈ localNames)) (.call_values (.creation action) h)
  have hcodes : code " action = new " = word "action" ++ (code "=" ++ code "new ")
      ∧ code ");" = code ")" ++ code ";" := by decide
  have hall := haction.both (.known (by decide : "action.execute(task);" ∈ knownStatements))
  simpa [executeOutline, hcodes] using hall

/-- The statements of the callback, with the return at the end. -/
theorem phrase_action (hfetch : .fetch ∉ excluded) (hpublication : .publication ∉ excluded)
    {task : Task} (h : ∀ output ∈ task.outputs, output.WellNamed) :
    Phrase runtime excluded .statements (actionOutline task) := by
  have hexecute : Phrase runtime excluded .statements _ :=
    phrase_execute (classOf task.className) (phrase_accesses hfetch .taskServices task.parameters)
  exact (hexecute.both (phrase_publishFrom hpublication h 0)).both (.known (by decide))

/-- What a task depends on is set by a call of its own, or not at all. -/
theorem exists_dependsOn {descriptors : List Outline}
    (h : ∀ item ∈ descriptors, Phrase runtime excluded .value item) (hplain : .plain ∉ excluded) :
    ∃ chain : List Outline, (∀ item ∈ chain, Phrase runtime excluded .value item)
      ∧ chain.flatten = dependsOnOutline descriptors := by
  unfold dependsOnOutline
  split
  · exact ⟨[], List.forall_mem_nil _, rfl⟩
  · have hopening : Opening runtime excluded (code ".dependsOn(") ")" := .known (by decide) hplain
    have hcall := Phrase.call_values hopening h
    exact ⟨[_], List.forall_mem_singleton.mpr hcall, List.append_nil _⟩

/-- What the statement that registers a task has in its braces. -/
def optionsOutline (runtime : Runtime ClassName) (task : Task) : Outline :=
  (code "builder.threadMode(" ++ constantOutline runtime.threadMode task.threadMode ++ code ")")
    ++ ((code ".priority(" ++ number task.priority.toInt ++ code ")")
      ++ dependsOnOutline (task.allDependencies.map (descriptorOutline runtime))
      ++ code ".doLast((task) -> \x7b" ++ actionOutline task ++ code "\x7d);")
    ++ code "return null;"

/-- The statements inside the outer callback of a task. They are one chain of calls, with the
inner callback in the last of them. -/
theorem phrase_options (hplain : .plain ∉ excluded) (hcallback : .callback ∉ excluded)
    (hfetch : .fetch ∉ excluded) (hpublication : .publication ∉ excluded) {task : Task}
    (h : ∀ output ∈ task.outputs, output.WellNamed) :
    Phrase runtime excluded .statements (optionsOutline runtime task) := by
  have hdescriptors : ∀ item ∈ task.allDependencies.map (descriptorOutline runtime),
      Phrase runtime excluded .value item := phrase_descriptors task.allDependencies
  obtain ⟨depends, hdepends, heq⟩ := exists_dependsOn hdescriptors hplain
  have hmode : Phrase runtime excluded .value
      (code "builder.threadMode(" ++ listed [constantOutline runtime.threadMode task.threadMode]
        ++ code ")") :=
    .call_values (.known (by decide) hplain) (List.forall_mem_singleton.mpr (phrase_threadMode _))
  have hpriority : Phrase runtime excluded .value
      (code ".priority(" ++ listed [number task.priority.toInt] ++ code ")") :=
    .call_values (.known (by decide) hplain) (List.forall_mem_singleton.mpr (.number _))
  have haction : Phrase runtime excluded .value
      (code "(task) ->" ++ code "\x7b" ++ actionOutline task ++ code "\x7d") :=
    .callback hcallback (by decide) (phrase_action hfetch hpublication h)
  have hlast : Phrase runtime excluded .value
      (code ".doLast("
        ++ listed [code "(task) ->" ++ code "\x7b" ++ actionOutline task ++ code "\x7d"]
        ++ code ")") :=
    .call_values (.known (by decide) hcallback) (List.forall_mem_singleton.mpr haction)
  have hcodes : code "" = []
      ∧ code ".doLast((task) -> \x7b" = code ".doLast(" ++ (code "(task) ->" ++ code "\x7b")
      ∧ code "\x7d);" = code "\x7d" ++ (code ")" ++ code ";") := by decide
  have hchain := List.forall_mem_cons.mpr ⟨hmode, List.forall_mem_cons.mpr ⟨hpriority,
    List.forall_mem_append.mpr ⟨hdepends, List.forall_mem_singleton.mpr hlast⟩⟩⟩
  have hall := (Phrase.evaluation (by decide : "" ∈ _) hchain).both
    (.known (by decide : "return null;" ∈ knownStatements))
  simpa [optionsOutline, listed, heq, hcodes] using hall

/-- The outputs of a task of a module are named as they should be. -/
theorem outputs_wellNamed {module : Module} (h : module.WellNamed) {task : Task}
    (htask : task ∈ module.tasks) : ∀ output ∈ task.outputs, output.WellNamed :=
  (h.tasks task (by simp [Module.hooksAndTasks, htask])).outputs

theorem taskOutline_eq_options (task : Task) :
    taskOutline runtime task = task.outputs.flatMap (announceAllOutline task.name)
      ++ (code (tasksName ++ ".register(") ++ quoted task.name ++ code ", (builder) -> \x7b")
      ++ optionsOutline runtime task ++ code "\x7d);" := rfl

/-- With the features that a task needs; only factories and arrays may be left out. -/
theorem phrase_task (h : excluded ⊆ [.factory, .array]) {task : Task}
    (htask : ∀ output ∈ task.outputs, output.WellNamed) :
    Phrase runtime excluded .statements (taskOutline runtime task) := by
  have hnone : ∀ feature ∉ [Feature.factory, .array], feature ∉ excluded := fun _ hother hmem =>
    hother (h hmem)
  have hregistration := hnone .registration (by decide)
  have hcallback := hnone .callback (by decide)
  have hoptions : Phrase runtime excluded .statements (optionsOutline runtime task) :=
    phrase_options (hnone _ (by decide)) hcallback (hnone _ (by decide)) (hnone _ (by decide)) htask
  have hbuilder := Phrase.callback hcallback (by decide : "(builder) ->" ∈ lambdas) hoptions
  have hopening : Opening runtime excluded (code (tasksName ++ ".register(")) ")" :=
    .known (by decide) hregistration
  have hcall := (Phrase.call_values hopening (List.forall_mem_cons.mpr
    ⟨.literal task.name, List.forall_mem_singleton.mpr hbuilder⟩)).statement
  have hcodes : code ", (builder) -> \x7b" = code "," ++ (code "(builder) ->" ++ code "\x7b")
      ∧ code "\x7d);" = code "\x7d" ++ (code ")" ++ code ";") := by decide
  have hall := (phrase_announceAll hregistration task).both hcall
  simpa [taskOutline_eq_options, listed, hcodes] using hall

/-! ## The class -/

theorem phrase_hook (hook : Option Task) (withParameters : Bool) :
    Phrase runtime excluded .value (hookOutline runtime hook withParameters) := by
  cases hook with
  | none =>
      have hcode : code "null" = word "null" := by decide
      rw [hookOutline, hcode]
      exact .atom (.inl (by decide))
  | some task =>
      refine .call_values (.creation runtime.moduleTaskOptions)
        (List.forall_mem_append.mpr ⟨?_, ?_⟩)
      · simp only [List.forall_mem_cons, List.not_mem_nil, false_imp_iff, implies_true, and_true]
        exact ⟨.literal task.name, .number _, phrase_threadMode _⟩
      · exact phrase_descriptors _

theorem phrase_data (harray : .array ∉ excluded) (module : Module) :
    Phrase runtime excluded .value (dataOutline runtime module) := by
  refine .call_values (.creation runtime.moduleData) ?_
  simp only [List.forall_mem_cons, List.not_mem_nil, false_imp_iff, implies_true, and_true]
  exact ⟨.literal _, phrase_bootstrapMode _, phrase_hook _ _, phrase_hook _ _,
    phrase_attributes harray _⟩

/-- What a constructor does: it hands the description of the module over. -/
theorem phrase_super (hplain : .plain ∉ excluded) (harray : .array ∉ excluded) (module : Module) :
    Phrase runtime excluded .statements
      (code "super(" ++ dataOutline runtime module ++ code ");") := by
  have hopening : Opening runtime excluded (code "super(") ")" := .known (by decide) hplain
  have hcall := (Phrase.call_values hopening
    (List.forall_mem_singleton.mpr (phrase_data harray module))).statement
  have hcode : code ");" = code ")" ++ code ";" := by decide
  simpa [listed, hcode] using hcall

/-- What the method does that makes the activator. -/
theorem phrase_activation (hfetch : .fetch ∉ excluded) (activator : ClassName)
    (parameters : List Dependency) :
    Phrase runtime excluded .statements
      (code "return new " ++ named activator ++ code "("
        ++ listed (parameters.map (accessOutline .central)) ++ code ");") := by
  have hcall : Phrase runtime excluded .value _ :=
    .call_values (.creation activator) (phrase_accesses hfetch .central parameters)
  have hall := Phrase.evaluation (by decide : "return " ∈ _) (List.forall_mem_singleton.mpr hcall)
  have hcodes : code "return new " = code "return " ++ code "new "
      ∧ code ");" = code ")" ++ code ";" := by decide
  simpa [hcodes] using hall

end ModuleContainers.Container
