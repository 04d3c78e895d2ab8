import ModuleContainers.Proofs.Container.Phrases
import ModuleContainers.Proofs.Lexical.Brackets
import ModuleContainers.Proofs.Lexical.Statements

/-!
# Brackets in the outlines of a container class

The brackets of one call, array or block are opened in one piece of code and closed
in another, with other outlines between them. `Moves` says what an outline does to
the brackets that are open, wherever it stands: it finds some of them on top of the
stack and leaves others there. A name and what is in quotes never have a bracket.

So going along an outline keeps track of a few brackets, and what is between two
pieces of code leaves no trace (`Nested`). In the end every phrase is nested.

An argument is more than nested: nothing in it ends a statement, and a comma that is
its own is inside parentheses. So it is one argument wherever it stands (`Enclosed`).
-/

namespace ModuleContainers.Container

open ModuleContainers.Java (ClassName Outline code codeTokens listed named number quoted word)
open ModuleContainers.Lexical (Bracket IsArgument Token brackets brackets_append
  brackets_append_stack nestStep nest_add)
open ModuleContainers.Metadata (Module Service)

/-! ## Outlines and the stack -/

/-- Wherever the outline stands, it replaces the brackets on top of the stack by
others. -/
def Moves (found left : List Bracket) (outline : Outline) : Prop :=
  ∀ spell stack, brackets (found ++ stack) (outline.tokens spell) = some (left ++ stack)

/-- Wherever the outline stands, its brackets are nested and balanced. -/
abbrev Nested (outline : Outline) : Prop := Moves [] [] outline

variable {a b c : List Bracket} {p q : Outline} {runtime : Runtime ClassName}

theorem nested_nil : Nested [] := fun _ _ => rfl

theorem Moves.trans (hp : Moves a b p) (hq : Moves b c q) : Moves a c (p ++ q) := by
  intro spell stack
  rw [Outline.tokens_append, brackets_append, hp]
  exact hq spell stack

theorem Moves.append (hp : Moves a b p) (hq : Nested q) : Moves a b (p ++ q) :=
  hp.trans fun spell stack => hq spell (b ++ stack)

/-- Known code is run through the brackets that are open. -/
theorem moves_code_on (text : String) (h : brackets a (codeTokens text) = some b) :
    Moves a b (code text) := by
  intro spell stack
  rw [Outline.tokens_code]
  exact brackets_append_stack h stack

/-- Code that closes nothing that it has not opened. -/
theorem moves_code (text : String) (h : brackets [] (codeTokens text) = some b) :
    Moves [] b (code text) :=
  moves_code_on text h

theorem Moves.append_code (hp : Moves a b p) (text : String)
    (h : brackets b (codeTokens text) = some c) : Moves a c (p ++ code text) :=
  hp.trans (moves_code_on text h)

/-- A class is spelled without brackets. -/
theorem nested_named (target : ClassName) : Nested (named target) := by
  intro spell stack
  rw [Outline.tokens_named]
  exact (Lexical.balanced_pathTokens _).brackets_eq stack

theorem nested_number (i : Int) : Nested (number i) := by
  intro spell stack
  rw [Outline.tokens_number]
  exact (Lexical.balanced_numberTokens i).brackets_eq stack

theorem nested_quoted (value : String) : Nested (quoted value) := fun _ _ => rfl

theorem nested_word (name : String) : Nested (word name) := fun _ _ => rfl

/-- Commas are no brackets. -/
theorem nested_listed {items : List Outline} (h : ∀ item ∈ items, Nested item) :
    Nested (listed items) :=
  Java.listed_induction nested_nil (moves_code "," rfl) Moves.append h

theorem nested_flatMap {α : Type} {outline : α → Outline} {items : List α}
    (h : ∀ item ∈ items, Nested (outline item)) : Nested (items.flatMap outline) :=
  Java.flatMap_closed nested_nil Moves.append h

theorem nested_flatten {items : List Outline} (h : ∀ item ∈ items, Nested item) :
    Nested items.flatten := by
  rw [← List.flatMap_id]
  exact nested_flatMap h

/-- The tokens of a nested outline are balanced. -/
theorem Moves.balanced (hp : Nested p) (spell : ClassName → String) :
    Lexical.Balanced (p.tokens spell) :=
  hp spell []

/-! ## Phrases -/

variable {excluded : List Feature} {kind : Kind} {closing : String}

theorem nested_class (target : ClassName) : Nested (classOutline target) :=
  (nested_named target).append_code ".class" rfl

/-- What opens a list leaves one bracket open, and that is the one that is closed. -/
theorem Opening.moves (h : Opening runtime excluded p closing) :
    ∃ bracket, Moves [] [bracket] p ∧ Moves [bracket] [] (code closing) := by
  have hround : Moves [.round] [] (code ")") := moves_code_on ")" rfl
  cases h with
  | creation target =>
      exact ⟨.round, ((moves_code "new " rfl).append (nested_named target)).append_code "(" rfl,
        hround⟩
  | array _ target =>
      have hnew := (moves_code "new " rfl).append (nested_named target)
      exact ⟨.curly, hnew.append_code "[]\x7b" rfl, moves_code_on "\x7d" rfl⟩
  | helper _ htext =>
      have htable : ∀ text ∈ helperCalls, brackets [] (codeTokens text) = some [.round] := by decide
      exact ⟨.round, (nested_named _).append_code _ (htable _ htext), hround⟩
  | @factory _ source name _ =>
      have hmember := ((moves_code "() -> " rfl).append (nested_named source)).append
        ((moves_code "." rfl).append (nested_word name))
      exact ⟨.round, hmember.append_code "(" rfl, hround⟩
  | known htext _ =>
      have htable : ∀ call ∈ knownCalls, brackets [] (codeTokens call.1) = some [.round] := by
        decide
      exact ⟨.round, moves_code _ (htable (_, _) htext), hround⟩

theorem TypePhrase.nested (h : TypePhrase p) : Nested p := by
  cases h with
  | primitive h => exact nested_word _
  | reference target => exact nested_named target
  | array target => exact (nested_named target).append_code "[]" rfl
  | bounded target bound =>
      exact ((nested_named target).append_code "<? extends " rfl).append
        ((nested_named bound).append_code ">" rfl)

/-- The brackets of a phrase are its own. -/
theorem Phrase.nested (h : Phrase runtime excluded kind p) : Nested p := by
  induction h with
  | literal value => exact nested_quoted value
  | number i => exact nested_number i
  | atom _ => exact nested_word _
  | helper _ htext =>
      have htable : ∀ text ∈ helperValues, brackets [] (codeTokens text) = some [] := by decide
      exact (nested_named _).append_code _ (htable _ htext)
  | fetch _ htext target name =>
      have htable : ∀ text ∈ accessCalls, brackets [] (codeTokens text) = some [.round] := by decide
      exact ((((moves_code _ (htable _ htext)).append (nested_class target)).append_code ", "
        rfl).append (nested_quoted name)).append_code ")" rfl
  | call hopening _ _ _ hfront hrest =>
      obtain ⟨bracket, hopen, hclose⟩ := hopening.moves
      exact (hopen.append (nested_listed (List.forall_mem_append.mpr ⟨hfront, hrest⟩))).trans hclose
  | callback _ htext _ hbody =>
      have htable : ∀ text ∈ lambdas, brackets [] (codeTokens text) = some [] := by decide
      exact (((moves_code _ (htable _ htext)).append_code "\x7b" rfl).append hbody).append_code
        "\x7d" rfl
  | supplier _ _ hresult => exact (moves_code "() -> " rfl).append hresult
  | classObject target => exact nested_class target
  | argument _ hitem => exact hitem
  | known htext =>
      have htable : ∀ text ∈ knownStatements, brackets [] (codeTokens text) = some [] := by decide
      exact moves_code _ (htable _ htext)
  | evaluation hbefore _ hchain =>
      have htable : ∀ text ∈ ["", "return "], brackets [] (codeTokens text) = some [] := by decide
      exact ((moves_code _ (htable _ hbefore)).append (nested_flatten hchain)).append_code ";" rfl
  | declaration htype _ _ hvalue =>
      exact ((htype.nested.append ((nested_word _).append_code "=" rfl)).append hvalue).append_code
        ";" rfl
  | @reading _ htype _ _ member _ _ hending =>
      have htable : ∀ text ∈ [";", "();"], brackets [] (codeTokens text) = some [] := by decide
      have hmember := ((moves_code "action." rfl).append (nested_word member)).append_code _
        (htable _ hending)
      exact (htype.nested.append ((nested_word _).append_code "=" rfl)).append hmember
  | nothing => exact nested_nil
  | both _ _ hp hq => exact hp.append hq

/-! ## One argument -/

/-- Wherever the outline stands, it leads from one depth of parentheses to the other,
and ends no statement. A comma of its own is at a depth that is counted. -/
def Nests (spell : ClassName → String) (depth depth' : Nat) (p : Outline) : Prop :=
  ∀ base, (p.tokens spell).foldlM nestStep (base + depth) = some (base + depth')

/-- Wherever the outline stands, it is one argument. -/
abbrev Enclosed (spell : ClassName → String) (p : Outline) : Prop := Nests spell 0 0 p

variable {spell : ClassName → String} {depth depth' further : Nat}

theorem Nests.isArgument (h : Enclosed spell p) : IsArgument (p.tokens spell) := h 0

theorem Nests.trans (hp : Nests spell depth depth' p) (hq : Nests spell depth' further q) :
    Nests spell depth further (p ++ q) := by
  intro base
  rw [Outline.tokens_append, List.foldlM_append, hp base]
  exact hq base

theorem Nests.append (hp : Nests spell depth depth' p) (hq : Enclosed spell q) :
    Nests spell depth depth' (p ++ q) :=
  hp.trans fun base => hq (base + depth')

theorem nests_code (text : String) (h : (codeTokens text).foldlM nestStep depth = some depth') :
    Nests spell depth depth' (code text) := by
  intro base
  rw [Outline.tokens_code]
  exact nest_add h base

theorem Nests.append_code (hp : Nests spell depth depth' p) (text : String)
    (h : (codeTokens text).foldlM nestStep depth' = some further) :
    Nests spell depth further (p ++ code text) :=
  hp.trans (nests_code text h)

theorem enclosed_quoted (value : String) : Enclosed spell (quoted value) := fun _ => rfl

theorem enclosed_word (text : String) : Enclosed spell (word text) := fun _ => rfl

theorem enclosed_number (i : Int) : Enclosed spell (number i) := by
  intro base
  rw [Outline.tokens_number]
  cases i <;> rfl

theorem enclosed_named (target : ClassName) : Enclosed spell (named target) := by
  intro base
  have hparts : ∀ parts : List String,
      ((parts.map Token.word).intersperse (.symbol ".")).foldlM nestStep base = some base := by
    intro parts
    induction parts with
    | nil => rfl
    | cons part rest ih =>
        cases rest with
        | nil => rfl
        | cons next more => exact ih
  rw [Outline.tokens_named]
  exact hparts _

theorem enclosed_class (target : ClassName) : Enclosed spell (classOutline target) :=
  (enclosed_named target).append_code ".class" rfl

theorem nests_listed {items : List Outline} (h : ∀ item ∈ items, Enclosed spell item) :
    Nests spell 1 1 (listed items) := by
  have hinside : ∀ item ∈ items, Nests spell 1 1 item := fun item hitem base =>
    h item hitem (base + 1)
  exact Java.listed_induction (fun _ => rfl) (nests_code "," rfl) Nests.trans hinside

theorem TypePhrase.enclosed (h : TypePhrase p) : Enclosed spell p := by
  cases h with
  | primitive h => exact enclosed_word _
  | reference target => exact enclosed_named target
  | array target => exact (enclosed_named target).append_code "[]" rfl
  | bounded target bound =>
      exact ((enclosed_named target).append_code "<? extends " rfl).append
        ((enclosed_named bound).append_code ">" rfl)

theorem Opening.nests (h : Opening runtime [.array, .callback] p closing) :
    Nests spell 0 1 p ∧ closing = ")" := by
  cases h with
  | creation target =>
      exact ⟨((nests_code "new " rfl).append (enclosed_named target)).append_code "(" rfl, rfl⟩
  | array harray _ => exact absurd (by decide) harray
  | helper _ htext =>
      have htable : ∀ text ∈ helperCalls, (codeTokens text).foldlM nestStep 0 = some 1 := by decide
      exact ⟨(enclosed_named _).append_code _ (htable _ htext), rfl⟩
  | @factory _ source name _ =>
      have hlambda : Enclosed spell (code "() -> " ++ named source) :=
        (nests_code "() -> " rfl).append (enclosed_named source)
      have hmember : Enclosed spell (code "." ++ word name) :=
        (nests_code "." rfl).append (enclosed_word name)
      exact ⟨(hlambda.append hmember).append_code "(" rfl, rfl⟩
  | known htext hother =>
      have htable : ∀ call ∈ knownCalls, call.2 ∉ [Feature.array, .callback] →
          (codeTokens call.1).foldlM nestStep 0 = some 1 := by decide
      exact ⟨nests_code _ (htable (_, _) htext hother), rfl⟩

/-- An expression without an array and without a block is one argument. -/
theorem Phrase.enclosed (h : Phrase runtime [.array, .callback] kind p)
    (hkind : kind ≠ .statements) : Enclosed spell p := by
  induction h with
  | literal value => exact enclosed_quoted value
  | number i => exact enclosed_number i
  | atom _ => exact enclosed_word _
  | helper _ htext =>
      have htable : ∀ text ∈ helperValues, (codeTokens text).foldlM nestStep 0 = some 0 := by decide
      exact (enclosed_named _).append_code _ (htable _ htext)
  | fetch _ htext target name =>
      have htable : ∀ text ∈ accessCalls, (codeTokens text).foldlM nestStep 0 = some 1 := by decide
      exact ((((nests_code _ (htable _ htext)).append (enclosed_class target)).append_code ", "
        rfl).append (enclosed_quoted name)).append_code ")" rfl
  | call hopening _ _ _ hfront hrest =>
      obtain ⟨hopen, rfl⟩ := hopening.nests
      have hitems := nests_listed (List.forall_mem_append.mpr
        ⟨fun item hitem => hfront item hitem (by decide),
          fun item hitem => hrest item hitem (by decide)⟩)
      exact (hopen.trans hitems).append_code ")" rfl
  | callback hcallback => exact absurd (by decide) hcallback
  | supplier hresult _ hp => exact (nests_code "() -> " rfl).append (hp hresult)
  | classObject target => exact enclosed_class target
  | argument _ hitem => exact hitem (by decide)
  | known => exact absurd rfl hkind
  | evaluation => exact absurd rfl hkind
  | declaration => exact absurd rfl hkind
  | reading => exact absurd rfl hkind
  | nothing => exact absurd rfl hkind
  | both => exact absurd rfl hkind

/-! ## The registrations -/

theorem nested_service {service : Service} (h : service.WellNamed) :
    Nested (serviceOutline runtime service) := by
  have hcall : AnyPhrase runtime .value (callOutline service) :=
    phrase_call (by decide) (by decide) h.factory
  have hprovider := phrase_providerVariable (classOf service.returnType)
    (phrase_provider service.singleton hcall)
  have hcapture : AnyPhrase runtime .statements _ :=
    phrase_captureVariable (by decide) service.allDependencies
  have hregister : AnyPhrase runtime .statements
      (service.serviceTypes.flatMap (registerProviderOutline service.name)) :=
    .flatMap fun serviceType _ => phrase_registerProvider (by decide) service.name serviceType
  have hbody := ((hprovider.both hcapture).both hregister).nested
  exact ((moves_code "\x7b" rfl).append hbody).append_code "\x7d" rfl

theorem nested_registrations {module : Module} (h : module.WellNamed) :
    Nested (registrationsOutline runtime module) := by
  have hservices : Nested (serviceSectionOutline runtime module) := by
    unfold serviceSectionOutline
    split
    · exact nested_nil
    · have hcentral := (nested_named runtime.serviceCentral).append_code
        (" " ++ centralName ++ " = " ++ registryName ++ ".deferred();") rfl
      exact hcentral.append (nested_flatMap fun service hservice =>
        nested_service (h.services service hservice))
  have hroutes : Nested (module.routes.flatMap (routeOutline runtime)) :=
    nested_flatMap fun route _ =>
      have hroute : AnyPhrase runtime .statements _ := phrase_route (by decide) (by decide) route
      hroute.nested
  have htasks : Nested (module.tasks.flatMap (taskOutline runtime)) :=
    nested_flatMap fun task htask =>
      have htask : AnyPhrase runtime .statements _ :=
        phrase_task (List.nil_subset _) (outputs_wellNamed h htask)
      htask.nested
  exact (hservices.append hroutes).append htasks

end ModuleContainers.Container
