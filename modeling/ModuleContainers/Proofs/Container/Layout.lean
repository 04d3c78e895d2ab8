import ModuleContainers.Proofs.Container.Class
import ModuleContainers.Proofs.Container.Completeness
import ModuleContainers.Proofs.Java.Layout

/-!
# The layout of container classes

Generated files are tidy: no line ends with blanks, blank lines stand alone and not at the
start, and the file ends with the end of its last line (`container_tidy`). That holds for
every text of the metadata, although such texts get into comments as they are: a text is cut
at its line ends there, and what is kept of a line ends with a character that is not blank.

Emitters are gone along as for their outlines. What is emitted for an expression is
`Inline`: a line may end behind it. Statements are `WholeLines`, or a `Block` where there
may be none. A text that ends with a blank is loose (`loose_text`), and no line may end
behind that.

Values of the metadata come in three ways only: as literals, which have no line ends; as
names, which have been checked; and in comments, which are cut into lines. So what a lemma
takes from the success of its emitter are the names.
-/

namespace ModuleContainers.Container

open ModuleContainers.Java (ClassName Fragment IsLine TypeName commentLines escapeBackslashes
  isIdentifier placeOf placeOf_append placeOf_eq_some placeOf_int placeOf_word)
open ModuleContainers.Java.Fragment (Block Inline Lays WholeLines block_concat block_flatMap
  block_joinBlocks block_lineComments inline_class inline_literal inline_text inline_type
  lays_arguments lays_join leads_text line loose_text text type)
open ModuleContainers.Lexical (isTerminator)
open ModuleContainers.Metadata (Accessor BootstrapMode Dependency Factory Module Output Route
  Service Task ThreadMode)
open ModuleContainers.Text (endOf endOf_append)
open Outcome (bind_eq_ok check_eq_ok forall_of_mapM mapError_eq_ok pure_eq_ok)

variable {runtime : Runtime ClassName} {f : Fragment}

/-! ## Arguments -/

/-- The dot and the method stand in one text with the receiver, so there are as many texts as
points of access and kinds of getters. -/
theorem inline_access {point : AccessPoint} {dependency : Dependency}
    (h : access point dependency = .ok f) : Inline f := by
  cases dependency with
  | task name =>
      obtain rfl := Except.ok.inj h
      exact inline_literal name
  | service needed =>
      obtain ⟨target, -, h⟩ := bind_eq_ok.mp h
      obtain rfl := pure_eq_ok.mp h
      have hcall : Inline (text (point.expression ++ "." ++ getter needed.kind ++ "(")) := by
        refine inline_text _ ?_
        cases point <;> cases needed.kind <;> decide
      have hclass := (hcall.append (inline_class target)).append (loose_text ", " rfl)
      exact (hclass.append (inline_literal _)).append (inline_text ")" rfl)

theorem inline_descriptor {dependency : Dependency} (h : descriptor runtime dependency = .ok f) :
    Inline f := by
  cases dependency with
  | task name =>
      obtain rfl := Except.ok.inj h
      exact inline_literal name
  | service needed =>
      obtain ⟨target, -, h⟩ := bind_eq_ok.mp h
      obtain rfl := pure_eq_ok.mp h
      have hnew := ((loose_text "new " rfl).append (inline_type runtime.serviceDependency)).append
        (inline_text "(" rfl)
      have hclass := (hnew.append (inline_class target)).append (loose_text ", " rfl)
      refine (hclass.append (inline_literal _)).append (inline_text _ ?_)
      cases needed.optional <;> decide

/-- An array with its elements. There may be no elements, so these only have to lead from the
brace on. -/
theorem inline_array {before : String} (hbefore : placeOf before = some .loose)
    (target : ClassName) {items : Fragment} (hitems : Lays .solid .solid items) :
    Inline (text before ++ type target ++ text "[]\x7b" ++ items ++ text "\x7d") := by
  have hopen := ((loose_text before hbefore).append (inline_type target)).append
    (inline_text "[]\x7b" rfl)
  exact (hopen.followed hitems).append (inline_text "\x7d" rfl)

/-- The elements are pairs made in place, each of them an expression. -/
theorem inline_attributeArray (attributes : List Metadata.Attribute) :
    Inline (attributeArray runtime attributes) := by
  unfold attributeArray
  split
  · exact (inline_type _).append (inline_text ".emptyAttributesArray()" rfl)
  · refine inline_array rfl _ (lays_arguments (List.forall_mem_map.mpr fun pair _ => ?_))
    have hname := ((inline_type runtime.tuples).append (inline_text ".to(" rfl)).append
      (inline_literal pair.name)
    exact ((hname.append (loose_text ", " rfl)).append (inline_literal pair.value)).append
      (inline_text ")" rfl)

theorem inline_threadMode (mode : ThreadMode) : Inline (constantOf runtime.threadMode mode) := by
  refine (inline_type _).append (inline_text _ ?_)
  cases mode <;> decide

theorem inline_bootstrapMode (mode : BootstrapMode) :
    Inline (constantOf runtime.bootstrapMode mode) := by
  refine (inline_type _).append (inline_text _ ?_)
  cases mode <;> decide

/-! ## Services -/

/-- The name of the method is checked, so it has no blank to end the line with. -/
theorem inline_factoryCall {source : ClassName} {factory : Factory}
    (h : factoryCall source factory = .ok f) : Inline f := by
  cases factory with
  | constructor =>
      obtain rfl := Except.ok.inj h
      exact (loose_text "() -> new " rfl).append (inline_type source)
  | staticMethod name =>
      obtain ⟨hname, h⟩ := check_eq_ok.mp h
      obtain rfl := pure_eq_ok.mp h
      have hmember : placeOf ("." ++ name) = some .solid :=
        placeOf_append (by decide) (placeOf_word (shape_of_check hname))
      exact ((loose_text "() -> " rfl).append (inline_type source)).append (inline_text _ hmember)

/-- With or without the helper for singletons a provider is an expression. -/
theorem inline_provider (singleton : Bool) (h : Inline f) :
    Inline (provider runtime singleton f) := by
  unfold provider
  split
  · exact (((inline_type _).append (inline_text ".singletonProvider(" rfl)).append h).append
      (inline_text ")" rfl)
  · exact h

theorem inline_captureArray {captured : List Fragment} (h : ∀ f ∈ captured, Inline f) :
    Inline (captureArray runtime captured) := by
  unfold captureArray
  split
  · exact (inline_type _).append (inline_text ".emptyAnyArray()" rfl)
  · exact inline_array rfl _ (lays_arguments h)

theorem wholeLines_registerProvider {serviceName serviceType : String}
    (h : registerProvider serviceName serviceType = .ok f) : WholeLines f := by
  obtain ⟨target, -, h⟩ := bind_eq_ok.mp h
  obtain rfl := pure_eq_ok.mp h
  have hclass := (inline_text (registryName ++ ".registerProviderService(") rfl).append
    (inline_class target)
  exact (((hclass.append (loose_text ", " rfl)).append (inline_literal _)).append
    (inline_text ", p, this, dep);" rfl)).line

/-- The comment of the service may be empty, so it stands before the declaration as a block, and
so do the registrations behind it. -/
theorem wholeLines_serviceBlock {service : Service} (h : serviceBlock runtime service = .ok f) :
    WholeLines f := by
  obtain ⟨returnType, -, h⟩ := bind_eq_ok.mp h
  obtain ⟨source, -, h⟩ := bind_eq_ok.mp h
  obtain ⟨parameters, hparameters, h⟩ := bind_eq_ok.mp h
  obtain ⟨callee, hcallee, h⟩ := bind_eq_ok.mp h
  obtain ⟨captured, hcaptured, h⟩ := bind_eq_ok.mp h
  obtain ⟨registrations, hregistrations, h⟩ := bind_eq_ok.mp h
  obtain rfl := pure_eq_ok.mp h
  have hcall := (((inline_factoryCall hcallee).append (inline_text "(" rfl)).followed
    (lays_arguments (forall_of_mapM inline_access hparameters))).append (inline_text ")" rfl)
  have hprovider : Inline (provider runtime service.singleton _) :=
    inline_provider service.singleton hcall
  have htype := (((inline_type runtime.provider).append (loose_text "<? extends " rfl)).append
    (inline_type returnType)).append (loose_text "> p = " rfl)
  have hdeclaration := ((htype.append hprovider).append (inline_text ";" rfl)).line
  have hcapture : Inline (captureArray runtime captured) :=
    inline_captureArray (forall_of_mapM inline_descriptor hcaptured)
  have hobjects := (inline_type objectClass).append (loose_text "[] dep = " rfl)
  have hdep := ((hobjects.append hcapture).append (inline_text ";" rfl)).line
  have hregister : Block (Fragment.concat registrations) :=
    block_concat (forall_of_mapM (fun h => .inr (wholeLines_registerProvider h)) hregistrations)
  -- What a block follows is a line in any case, so an empty description leaves no trace.
  have hbody := (((block_lineComments service.description).before hdeclaration).append
    hdep).followed hregister.lays
  have hopen := (inline_text "\x7b" rfl).line
  exact (hopen.followed (hbody .ended).indented).append (inline_text "\x7d" rfl).line

/-! ## Routes -/

theorem inline_ruleArray (rules : List String) : Inline (ruleArray rules) :=
  inline_array rfl _ (lays_arguments (List.forall_mem_map.mpr fun rule _ => inline_literal rule))

theorem inline_interceptorProvider {interceptors : List String}
    (h : interceptorProvider runtime interceptors = .ok f) : Inline f := by
  unfold interceptorProvider at h
  split at h
  · obtain rfl := pure_eq_ok.mp h
    exact (inline_type _).append (inline_text ".emptyArrayProvider()" rfl)
  · obtain ⟨targets, -, h⟩ := bind_eq_ok.mp h
    obtain rfl := pure_eq_ok.mp h
    exact inline_array rfl _
      (lays_join (List.forall_mem_map.mpr fun target _ => inline_class target))

theorem inline_launcherProvider {launcher : Option String}
    (h : launcherProvider runtime launcher = .ok f) : Inline f := by
  have hstub := (inline_type runtime.builtins).append (inline_text ".stubLauncherProvider()" rfl)
  cases launcher with
  | none =>
      obtain rfl := pure_eq_ok.mp h
      exact hstub
  | some name =>
      obtain ⟨target, -, h⟩ := bind_eq_ok.mp h
      obtain rfl := pure_eq_ok.mp h
      split
      · exact hstub
      · exact (loose_text "() -> " rfl).append (inline_class target)

/-- All arguments are expressions, which is all that the list of them asks. -/
theorem wholeLines_routeStatement {route : Route} (h : routeStatement runtime route = .ok f) :
    WholeLines f := by
  obtain ⟨target, -, h⟩ := bind_eq_ok.mp h
  obtain ⟨interceptors, hinterceptors, h⟩ := bind_eq_ok.mp h
  obtain ⟨launcher, hlauncher, h⟩ := bind_eq_ok.mp h
  obtain rfl := pure_eq_ok.mp h
  have hbean := ((inline_text (registryName ++ ".registerRoutes(") rfl).append
    (inline_type runtime.builtins)).append (inline_text ".routesBean(" rfl)
  refine (block_lineComments route.description).before
    ((hbean.followed (lays_arguments ?_)).append (inline_text "));" rfl)).line
  simp only [List.forall_mem_cons, List.not_mem_nil, false_imp_iff, implies_true, and_true]
  exact ⟨inline_literal _, inline_ruleArray _, inline_literal _, inline_attributeArray _,
    inline_interceptorProvider hinterceptors, inline_launcherProvider hlauncher,
    (loose_text "() -> " rfl).append (inline_class target), inline_text "this" rfl⟩

/-! ## Tasks -/

theorem wholeLines_announceOutput {taskName outputName serviceType : String}
    (h : announceOutput taskName outputName serviceType = .ok f) : WholeLines f := by
  obtain ⟨target, -, h⟩ := bind_eq_ok.mp h
  obtain rfl := pure_eq_ok.mp h
  have hclass := (inline_text (registryName ++ ".registerTaskOutputService(") rfl).append
    (inline_class target)
  have houtput := (hclass.append (loose_text ", " rfl)).append (inline_literal outputName)
  exact (((houtput.append (loose_text ", this, " rfl)).append (inline_literal taskName)).append
    (inline_text ");" rfl)).line

/-- An output without types is not announced, so there may be no lines. -/
theorem block_announceOutputs {taskName : String} {output : Output}
    (h : announceOutputs taskName output = .ok f) : Block f := by
  obtain ⟨statements, hstatements, h⟩ := bind_eq_ok.mp h
  obtain rfl := pure_eq_ok.mp h
  exact block_concat (forall_of_mapM (fun h => .inr (wholeLines_announceOutput h)) hstatements)

/-- Both kinds of access begin alike with a checked name. -/
theorem isLine_readOutput {accessor : Accessor} {value : String}
    (h : readOutput accessor = .ok value) : IsLine value := by
  have hmember : ∀ {name role : String}, checkMemberName name role = .ok () →
      IsLine ("action." ++ name) := fun hname =>
    (placeOf_eq_some.mp (placeOf_append (by decide) (placeOf_word (shape_of_check hname)))).1
  cases accessor with
  | field name =>
      obtain ⟨hname, h⟩ := check_eq_ok.mp h
      obtain rfl := pure_eq_ok.mp h
      exact hmember hname
  | method name =>
      obtain ⟨hname, h⟩ := check_eq_ok.mp h
      obtain rfl := pure_eq_ok.mp h
      exact (hmember hname).append (by decide)

theorem isLine_outputVariable (position : Nat) : IsLine (outputVariable position) :=
  (placeOf_eq_some.mp (placeOf_word (shape_outputVariable position))).1

theorem wholeLines_publishOutput {outputName serviceType : String} {position : Nat}
    (h : publishOutput outputName (outputVariable position) serviceType = .ok f) :
    WholeLines f := by
  obtain ⟨target, -, h⟩ := bind_eq_ok.mp h
  obtain rfl := pure_eq_ok.mp h
  have hholder : IsLine (", " ++ outputVariable position) :=
    IsLine.append (by decide) (isLine_outputVariable position)
  have hclass := (inline_text "task.getOutputs().output(" rfl).append (inline_class target)
  have houtput := (hclass.append (loose_text ", " rfl)).append (inline_literal outputName)
  exact (houtput.append (inline_text _ (placeOf_append hholder rfl))).line

theorem inline_typeName {name : String} {variableType : TypeName}
    (h : typeNamed name = .ok variableType) : Inline (Fragment.typeName variableType) := by
  cases variableType with
  | reference target => exact inline_type target
  | primitive keyword =>
      have htable : ∀ keyword ∈ TypeName.primitives, placeOf keyword = some .solid := by decide
      have hparse : TypeName.parse name = .ok (.primitive keyword) := mapError_eq_ok.mp h
      exact inline_text _ (htable _ (mem_primitives_of_parse hparse))

/-- The variable is declared in any case; the outputs published from it follow as a block. -/
theorem wholeLines_publishOutputs {output : Output} {position : Nat}
    (h : publishOutputs output position = .ok f) : WholeLines f := by
  obtain ⟨value, hvalue, h⟩ := bind_eq_ok.mp h
  obtain ⟨variableType, htype, h⟩ := bind_eq_ok.mp h
  obtain ⟨statements, hstatements, h⟩ := bind_eq_ok.mp h
  obtain rfl := pure_eq_ok.mp h
  have hassign : IsLine (" " ++ outputVariable position ++ " = " ++ value) :=
    ((IsLine.append (by decide) (isLine_outputVariable position)).append (by decide)).append
      (isLine_readOutput hvalue)
  have hstatement := ((inline_typeName htype).append
    (inline_text _ (placeOf_append hassign (b := ";") rfl))).line
  have hpublish : Block (Fragment.concat statements) :=
    block_concat (forall_of_mapM (fun h => .inr (wholeLines_publishOutput h)) hstatements)
  exact hstatement.followed hpublish.lays

/-- Along the list of outputs, as it is emitted. -/
theorem block_publishFrom {outputs : List Output} {position : Nat}
    (h : publishFrom position outputs = .ok f) : Block f := by
  induction outputs generalizing position f with
  | nil =>
      obtain rfl := Except.ok.inj h
      exact .inl rfl
  | cons output rest ih =>
      obtain ⟨statements, hstatements, h⟩ := bind_eq_ok.mp h
      obtain ⟨more, hmore, h⟩ := bind_eq_ok.mp h
      obtain rfl := pure_eq_ok.mp h
      exact .inr ((wholeLines_publishOutputs hstatements).followed (ih hmore).lays)

theorem wholeLines_executeAction (action : ClassName) {parameters : List Fragment}
    (h : ∀ f ∈ parameters, Inline f) : WholeLines (executeAction action parameters) := by
  have hnew := ((inline_type action).append (loose_text " action = new " rfl)).append
    (inline_type action)
  have hcall := ((hnew.append (inline_text "(" rfl)).followed (lays_arguments h)).append
    (inline_text ");" rfl)
  exact hcall.line.append (inline_text "action.execute(task);" rfl).line

/-- The one optional line of a task. -/
theorem block_dependsOn {descriptors : List Fragment} (h : ∀ f ∈ descriptors, Inline f) :
    Block (dependsOn descriptors) := by
  unfold dependsOn
  split
  · exact .inl rfl
  · exact .inr (((inline_text ".dependsOn(" rfl).followed (lays_arguments h)).append
      (inline_text ")" rfl)).line

/-- The lines of a task from the inside out. Levels are entered and left in pairs
(`Lays.indented`), so each part can be looked at on a level of its own. -/
theorem wholeLines_taskStatements {task : Task} (h : taskStatements runtime task = .ok f) :
    WholeLines f := by
  obtain ⟨action, -, h⟩ := bind_eq_ok.mp h
  obtain ⟨announcements, hannouncements, h⟩ := bind_eq_ok.mp h
  obtain ⟨descriptors, hdescriptors, h⟩ := bind_eq_ok.mp h
  obtain ⟨parameters, hparameters, h⟩ := bind_eq_ok.mp h
  obtain ⟨publications, hpublications, h⟩ := bind_eq_ok.mp h
  obtain rfl := pure_eq_ok.mp h
  have hannounce : Block (Fragment.concat announcements) :=
    block_concat (forall_of_mapM block_announceOutputs hannouncements)
  have hregister := (((inline_text (tasksName ++ ".register(") rfl).append
    (inline_literal task.name)).append (inline_text ", (builder) -> \x7b" rfl)).line
  have hconstant : Inline (constantOf runtime.threadMode task.threadMode) :=
    inline_threadMode task.threadMode
  have hmode := (((inline_text "builder.threadMode(" rfl).append hconstant).append
    (inline_text ")" rfl)).line
  have hnumber : IsLine (".priority(" ++ toString task.priority.toInt) :=
    IsLine.append (by decide) (placeOf_eq_some.mp (placeOf_int task.priority.toInt)).1
  have hpriority := (inline_text _ (placeOf_append hnumber (b := ")") rfl)).line
  have hdepends := block_dependsOn (forall_of_mapM inline_descriptor hdescriptors)
  have hexecute := wholeLines_executeAction action (forall_of_mapM inline_access hparameters)
  have hreturn := (inline_text "return null;" rfl).line
  have hlambda := (inline_text ".doLast((task) -> \x7b" rfl).line
  have hend := (inline_text "\x7d);" rfl).line
  have haction := (hexecute.followed (block_publishFrom hpublications).lays).append hreturn
  have hcalls := (((hpriority.followed hdepends.lays).append hlambda).followed
    (haction .ended).indented).append hend
  have hoptions := (hmode.followed (hcalls .ended).indented.indented).append hreturn
  exact ((hannounce.before hregister).followed (hoptions .ended).indented).append hend

/-! ## Members -/

theorem inline_hookOptions {hook : Option Task} {withParameters : Bool}
    (h : hookOptions runtime hook withParameters = .ok f) : Inline f := by
  cases hook with
  | none =>
      obtain rfl := pure_eq_ok.mp h
      exact inline_text "null" rfl
  | some task =>
      obtain ⟨descriptors, hdescriptors, h⟩ := bind_eq_ok.mp h
      obtain rfl := pure_eq_ok.mp h
      have hopen := ((loose_text "new " rfl).append
        (inline_type runtime.moduleTaskOptions)).append (inline_text "(" rfl)
      refine (hopen.followed (lays_arguments ?_)).append (inline_text ")" rfl)
      simp only [List.cons_append, List.nil_append, List.forall_mem_cons]
      exact ⟨inline_literal _, inline_text _ (placeOf_int _), inline_threadMode _,
        forall_of_mapM inline_descriptor hdescriptors⟩

theorem wholeLines_constructorMember {module : Module} {typeName : String}
    (hname : isIdentifier typeName = true)
    (h : constructorMember runtime module typeName = .ok f) : WholeLines f := by
  obtain ⟨before, hbefore, h⟩ := bind_eq_ok.mp h
  obtain ⟨after, hafter, h⟩ := bind_eq_ok.mp h
  obtain rfl := pure_eq_ok.mp h
  have harguments : ∀ f ∈ [Fragment.literal module.name,
      constantOf runtime.bootstrapMode module.bootstrapMode, before, after,
      attributeArray runtime module.attributes], Inline f := by
    simp only [List.forall_mem_cons, List.not_mem_nil, false_imp_iff, implies_true, and_true]
    exact ⟨inline_literal _, inline_bootstrapMode _, inline_hookOptions hbefore,
      inline_hookOptions hafter, inline_attributeArray _⟩
  have hopen := ((loose_text "new " rfl).append (inline_type runtime.moduleData)).append
    (inline_text "(" rfl)
  have hdata := (hopen.followed (lays_arguments harguments)).append (inline_text ")" rfl)
  have hsuper := (((inline_text "super(" rfl).append hdata).append (inline_text ");" rfl)).line
  have hsignature : IsLine ("public " ++ typeName) :=
    IsLine.append (by decide)
      (placeOf_eq_some.mp (placeOf_word (Java.isIdentifier_shape hname))).1
  have hfirst := (inline_text _ (placeOf_append hsignature (b := "() \x7b") rfl)).line
  exact (hfirst.followed (hsuper .ended).indented).append (inline_text "\x7d" rfl).line

/-- A body without lines is fine: the line before it and the one behind it end by themselves. -/
theorem wholeLines_overridingMethod {signature body : Fragment} (hsignature : Inline signature)
    (hbody : Block body) : WholeLines (overridingMethod signature body) := by
  have hoverride := ((inline_text "@" rfl).append (inline_type overrideAnnotation)).line
  have hopen := (((loose_text "public " rfl).append hsignature).append
    (inline_text " \x7b" rfl)).line
  exact ((hoverride.append hopen).followed hbody.lays.indented).append (inline_text "\x7d" rfl).line

theorem wholeLines_activatorMember {module : Module} {activator : ClassName}
    (h : activatorMember runtime module activator = .ok f) : WholeLines f := by
  obtain ⟨parameters, hparameters, rfl⟩ := activatorMember_eq_ok h
  have hsignature := (((inline_type runtime.moduleActivator).append
    (inline_text " createActivator(" rfl)).append (inline_type runtime.serviceCentral)).append
    (inline_text (" " ++ centralName ++ ")") rfl)
  have hnew := (loose_text "return new " rfl).append (inline_type activator)
  have harguments := lays_arguments (forall_of_mapM inline_access hparameters)
  have hbody := (((hnew.append (inline_text "(" rfl)).followed harguments).append
    (inline_text ");" rfl)).line
  exact wholeLines_overridingMethod hsignature (.inr hbody)

/-- Without services there is no section, and the blank line before the next one goes with
it. -/
theorem block_serviceSection {module : Module} (h : serviceSection runtime module = .ok f) :
    Block f := by
  unfold serviceSection at h
  split at h
  · obtain rfl := pure_eq_ok.mp h
    exact .inl rfl
  · obtain ⟨blocks, hblocks, h⟩ := bind_eq_ok.mp h
    obtain rfl := pure_eq_ok.mp h
    have hcentral := ((inline_type runtime.serviceCentral).append
      (inline_text (" " ++ centralName ++ " = " ++ registryName ++ ".deferred();") rfl)).line
    have hservices : Block (Fragment.concat blocks) :=
      block_concat (forall_of_mapM (fun h => .inr (wholeLines_serviceBlock h)) hblocks)
    exact .inr (hcentral.followed hservices.lays)

/-- Sections are blocks, so an empty one leaves no blank line (`block_joinBlocks`). -/
theorem wholeLines_registerMember {module : Module} (h : registerMember runtime module = .ok f) :
    WholeLines f := by
  obtain ⟨services, hservices, h⟩ := bind_eq_ok.mp h
  obtain ⟨routes, hroutes, h⟩ := bind_eq_ok.mp h
  obtain ⟨tasks, htasks, h⟩ := bind_eq_ok.mp h
  obtain rfl := pure_eq_ok.mp h
  have hfirst := ((inline_text "void onRegister(" rfl).append
    (inline_type runtime.registry)).append (loose_text (" " ++ registryName ++ ", ") rfl)
  have hsignature := (hfirst.append (inline_type runtime.taskContainer)).append
    (inline_text (" " ++ tasksName ++ ")") rfl)
  refine wholeLines_overridingMethod hsignature (block_joinBlocks ?_)
  simp only [List.forall_mem_cons, List.not_mem_nil, false_imp_iff, implies_true, and_true]
  exact ⟨block_serviceSection hservices,
    block_concat (forall_of_mapM (fun h => .inr (wholeLines_routeStatement h)) hroutes),
    block_concat (forall_of_mapM (fun h => .inr (wholeLines_taskStatements h)) htasks)⟩

/-! ## The comment -/

/-- The mark that stands for the end of a comment does not end with a blank either. -/
theorem endOf_escapeCommentEnd {text : List Char} (h : endOf text = some .solid) :
    endOf (escapeCommentEnd text) = some .solid := by
  -- How a text ends is up to what is left of it, as long as something is left.
  have hrest : ∀ (before : List Char) {rest : List Char}, endOf (before ++ rest) = some .solid →
      rest ≠ [] → endOf rest = some .solid := by
    intro before rest h hne
    rwa [endOf, List.getLast?_append_of_ne_nil _ hne] at h
  fun_induction escapeCommentEnd text with
  | case1 rest ih =>
      cases rest with
      | nil => decide
      | cons c more => exact endOf_append _ (ih (hrest ['*', '/'] h (by simp)))
  | case2 c rest hpair ih =>
      cases rest with
      | nil => exact h
      | cons d more => exact endOf_append [c] (ih (hrest [c] h (by simp)))
  | case3 => cases h

/-- What a text ends with may be blank: it is dropped before the escapes, and neither of them
makes a blank. A line of blanks alone becomes a star. -/
theorem wholeLines_javadocLine {text : List Char} (h : ∀ c ∈ text, isTerminator c = false) :
    WholeLines (javadocLine text) := by
  refine Fragment.Leads.line (inline_text _ ?_)
  split
  · decide
  · next hne =>
      have hdropped : Text.dropEnd text ≠ [] := fun hnil => hne (by rw [hnil]; rfl)
      refine placeOf_append (by decide) (placeOf_eq_some.mpr ⟨fun c hc => ?_, ?_⟩)
      · rw [String.toList_ofList] at hc
        rcases mem_escapeCommentEnd hc with hmem | hmark
        · rw [Lexical.mem_escapeBackslashes] at hmem
          exact h c (Text.mem_of_mem_dropEnd hmem)
        · have htable : IsLine "*&#47;" := by decide
          exact htable c hmark
      · rw [String.toList_ofList]
        exact endOf_escapeCommentEnd
          (Fragment.endOf_escapeBackslashes (Java.endOf_dropEnd hdropped))

/-- The comment has its first and its last line even if there is no text. -/
theorem wholeLines_javadoc (banner : String) (module : Module) :
    WholeLines (javadoc banner module) := by
  have hlines :
      Block (((javadocTexts banner module).flatMap commentLines).flatMap javadocLine) := by
    refine block_flatMap fun line hline => .inr (wholeLines_javadocLine ?_)
    obtain ⟨text, -, hmem⟩ := List.mem_flatMap.mp hline
    exact Java.isTerminator_of_mem_commentLines hmem
  exact ((inline_text "/**" rfl).line.followed hlines.lays).append (inline_text " */" rfl).line

/-! ## The class -/

/-- Each member is emitted as lines; that there are some is known for the constructor only. -/
theorem block_members {module : Module} {typeName : String} (hname : isIdentifier typeName = true)
    {fs : List Fragment} (h : members runtime module typeName = .ok fs) : ∀ f ∈ fs, Block f := by
  obtain ⟨constructor, custom, activator, registrations, hconstructor, -, hactivator,
    hregistrations, rfl⟩ := members_eq_ok h
  refine List.forall_mem_append.mpr ⟨List.forall_mem_append.mpr ⟨?_, ?_⟩, ?_⟩
  · simpa using .inr (wholeLines_constructorMember hname hconstructor)
  · exact forall_of_mapM (fun h => .inr (wholeLines_activatorMember h)) hactivator
  · exact forall_of_mapM (fun h => .inr (wholeLines_registerMember h)) hregistrations

/-- The comment, the class line, the members one level deeper and the last brace. -/
theorem wholeLines_unit {banner : String} {module : Module} {file : Java.CompilationUnit}
    (h : unit runtime banner module = .ok file) : WholeLines file.body := by
  obtain ⟨⟨package, typeName⟩, hentrance, h⟩ := bind_eq_ok.mp h
  obtain ⟨fs, hmembers, h⟩ := bind_eq_ok.mp h
  obtain rfl := pure_eq_ok.mp h
  have hname := (entrance_eq_ok hentrance).2
  have hsignature : IsLine ("public class " ++ typeName) :=
    IsLine.append (by decide)
      (placeOf_eq_some.mp (placeOf_word (Java.isIdentifier_shape hname))).1
  have hclass := loose_text _ (placeOf_append hsignature (b := " extends ") rfl)
  have hopen := ((hclass.append (inline_type runtime.moduleContainer)).append
    (inline_text " \x7b" rfl)).line
  have hbody := block_joinBlocks (block_members hname hmembers)
  exact (((wholeLines_javadoc banner module).append hopen).followed hbody.lays.indented).append
    (inline_text "\x7d" rfl).line

/-- The source of an accepted module is tidy. -/
theorem container_tidy {names : Runtime String} {runtime : Runtime ClassName}
    (hresolve : names.resolve = .ok runtime) {module : Module} (hvalid : module.validate = .ok ())
    (banner : String) {indent : String} (hindent : ∀ c ∈ indent.toList, c = ' ' ∨ c = '\t') :
    ∃ file, unit runtime banner module = .ok file ∧ Text.Tidy (file.render indent) := by
  have hruntime := Runtime.wellFormed_of_resolve hresolve
  obtain ⟨file, hfile⟩ := unit_succeeds runtime (Module.wellNamed_of_validate hvalid) banner
  obtain ⟨hpackage, -, -, hbody⟩ := reads_unit hruntime hfile
  exact ⟨file, hfile,
    Java.CompilationUnit.tidy_render hpackage hbody (wholeLines_unit hfile) hindent⟩

/-- The sample with texts that have line ends, and blanks in front of them. -/
def ragged : Module :=
  { Module.sample with
    name := "greeter \r"
    description := "first \t\r\n\u2003\n\nlast\u00a0"
    services := Module.sample.services.map fun service =>
      { service with description := "\n\none \r two \n " }
    routes := Module.sample.routes.map fun route => { route with rules := [" \r\n "] } }

/-- The file is tidy where the texts that are put into it are not. -/
theorem ragged_tidy :
    ∃ runtime, Runtime.standard.resolve = .ok runtime ∧ ragged.validate = .ok ()
      ∧ ∃ file, unit runtime "\r\n banner \t\n\n" ragged = .ok file
        ∧ Text.Tidy (file.render " \t") := by
  obtain ⟨runtime, hresolve⟩ := Runtime.standard_resolves
  have hvalid : ragged.validate = .ok () := by decide +kernel
  exact ⟨runtime, hresolve, hvalid,
    container_tidy hresolve hvalid "\r\n banner \t\n\n" (by simp)⟩

end ModuleContainers.Container
